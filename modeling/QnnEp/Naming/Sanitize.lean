import Mathlib.Data.List.DropRight

namespace QnnEp.Sanitize
open List

def safe (c : Char) : Bool :=
  ('0' ≤ c && c ≤ '9') || ('A' ≤ c && c ≤ 'Z') || ('a' ≤ c && c ≤ 'z') ||
    c == '.' || c == '_' || c == '-'

def stripped (c : Char) : Bool := c == '.' || c == '-'

def kReserved : List (List Char) :=
  ["CON","PRN","AUX","NUL","COM1","COM2","COM3","COM4","COM5","COM6","COM7","COM8","COM9",
    "LPT1","LPT2","LPT3","LPT4","LPT5","LPT6","LPT7","LPT8","LPT9"].map String.toList

def stem (result : List Char) : List Char := result.takeWhile (· != '.')

def Reserved (result : List Char) : Prop := (stem result).map Char.toUpper ∈ kReserved

instance (result : List Char) : Decidable (Reserved result) := inferInstanceAs (Decidable (_ ∈ _))

def replaced (graphName : List Char) : List Char := graphName.map fun c => if safe c then c else '_'

def trimmed (graphName : List Char) : List Char :=
  ((replaced graphName).dropWhile stripped).rdropWhile (· == '.')

def sanitizeGraphNameForFilename (graphName : List Char) : List Char :=
  let result := trimmed graphName
  if result = [] then "graph".toList
  else if Reserved result then stem result ++ '_' :: result.drop (stem result).length
  else result

structure SafeFilename (name : List Char) : Prop where
  nonempty : name ≠ []
  chars : ∀ c ∈ name, safe c = true
  head : ∀ c ∈ name.head?, stripped c = false
  last : ∀ c ∈ name.getLast?, c ≠ '.'
  stem : ¬ Reserved name

theorem sanitize_of_safe {name : List Char} (h : SafeFilename name) :
    sanitizeGraphNameForFilename name = name := by
  have hmap : replaced name = name := by
    refine (map_congr_left fun c hc => ?_).trans (map_id name)
    simp [h.chars c hc]
  have hdrop : name.dropWhile stripped = name := by
    cases name with
    | nil => rfl
    | cons c rest => simp [h.head c rfl]
  have hlast : name.rdropWhile (· == '.') = name :=
    rdropWhile_eq_self_iff.mpr fun hne => by simpa using h.last _ (List.getLast?_eq_some_getLast hne)
  have htrimmed : trimmed name = name := by rw [trimmed,hmap,hdrop,hlast]
  rw [sanitizeGraphNameForFilename,htrimmed,if_neg h.nonempty,if_neg h.stem]

section
variable (graphName : List Char)

theorem trimmed_kept : trimmed graphName <+: (replaced graphName).dropWhile stripped :=
  rdropWhile_prefix _ _

theorem trimmed_chars {c : Char} (h : c ∈ trimmed graphName) : safe c = true := by
  have hmem := (dropWhile_sublist _).subset ((trimmed_kept graphName).subset h)
  obtain ⟨d,_,rfl⟩ := mem_map.mp hmem
  split
  next hsafe => exact hsafe
  next => rfl

theorem trimmed_last {c : Char} (h : c ∈ (trimmed graphName).getLast?) : c ≠ '.' := by
  obtain ⟨hne,rfl⟩ := mem_getLast?_eq_getLast h
  exact fun hdot => rdropWhile_last_not _ _ hne (beq_iff_eq.mpr hdot)

theorem trimmed_head {c : Char} (h : c ∈ (trimmed graphName).head?) : stripped c = false := by
  obtain ⟨rest,hrest⟩ := trimmed_kept graphName
  have hfirst : ((replaced graphName).dropWhile stripped).head? = some c := by
    rw [← hrest,List.head?_append,h]
    rfl
  have hnot := List.head?_dropWhile_not stripped (replaced graphName)
  rw [hfirst] at hnot
  exact hnot

end

theorem not_reserved_of_mem {name : List Char} (h : '_' ∈ stem name) : ¬ Reserved name := by
  intro hreserved
  have hmem : '_' ∈ (stem name).map Char.toUpper := mem_map.mpr ⟨'_',h,rfl⟩
  have hfree : ∀ word ∈ kReserved, '_' ∉ word := by decide
  exact hfree _ hreserved hmem

theorem stem_ne_nil {name : List Char} (h : Reserved name) : stem name ≠ [] := by
  intro hempty
  rw [Reserved,hempty] at h
  exact absurd h (by decide)

theorem suffixed_safe {result : List Char} (hchars : ∀ c ∈ result, safe c = true)
    (hhead : ∀ c ∈ result.head?, stripped c = false) (hlast : ∀ c ∈ result.getLast?, c ≠ '.')
    (hreserved : Reserved result) :
    SafeFilename (stem result ++ '_' :: result.drop (stem result).length) := by
  obtain ⟨rest,hsplit⟩ : stem result <+: result := takeWhile_prefix _
  have hrest : result.drop (stem result).length = rest := by
    nth_rewrite 2 [← hsplit]
    exact drop_left
  have hdots : ∀ c ∈ stem result, (c != '.') = true := by
    intro c hc
    have hkept := mem_takeWhile_imp hc
    exact hkept
  obtain ⟨first,more,hstem⟩ := exists_cons_of_ne_nil (stem_ne_nil hreserved)
  rw [hrest]
  refine ⟨by simp,fun c hc => ?_,?_,?_,not_reserved_of_mem ?_⟩
  · rcases mem_append.mp hc with hstem | hc
    · exact hchars c (hsplit ▸ mem_append_left rest hstem)
    · rcases mem_cons.mp hc with rfl | hc
      · rfl
      · exact hchars c (hsplit ▸ mem_append_right _ hc)
  · rw [← hsplit,hstem] at hhead
    rwa [hstem]
  · cases rest with
    | nil => simp
    | cons c rest =>
      rw [← hsplit] at hlast
      simpa using hlast
  · rw [stem,takeWhile_append_of_pos hdots]
    simp

theorem default_safe : SafeFilename "graph".toList := by
  have hhead : "graph".toList.head? = some 'g' := rfl
  have hlast : "graph".toList.getLast? = some 'h' := rfl
  refine ⟨by decide,all_eq_true.mp rfl,fun c hc => ?_,fun c hc => ?_,by decide⟩
  · rw [hhead] at hc
    cases hc
    rfl
  · rw [hlast] at hc
    cases hc
    decide

theorem sanitize_safe (graphName : List Char) : SafeFilename (sanitizeGraphNameForFilename graphName) := by
  unfold sanitizeGraphNameForFilename
  dsimp only
  split
  next => exact default_safe
  next hne =>
    split
    next hreserved =>
      exact suffixed_safe (fun c => trimmed_chars graphName) (fun c => trimmed_head graphName)
        (fun c => trimmed_last graphName) hreserved
    next hfree =>
      exact ⟨hne,fun c => trimmed_chars graphName,fun c => trimmed_head graphName,
        fun c => trimmed_last graphName,hfree⟩

theorem sanitizeGraphNameForFilename_safe (graphName : List Char) :
    SafeFilename (sanitizeGraphNameForFilename graphName) ∧
      sanitizeGraphNameForFilename (sanitizeGraphNameForFilename graphName) =
        sanitizeGraphNameForFilename graphName :=
  ⟨sanitize_safe graphName,sanitize_of_safe (sanitize_safe graphName)⟩

end QnnEp.Sanitize
