import QnnEp.Foundation.Registry
import QnnEp.Foundation.Separated

namespace QnnEp.Context
open List Registry

abbrev Text := List Char

structure NameOverrides where
  entries : List (Text × Text)
  nodup : (entries.map Prod.fst).Nodup
  nonempty : ∀ entry ∈ entries, entry.1 ≠ [] ∧ entry.2 ≠ []

namespace NameOverrides

def empty : NameOverrides := ⟨[],nodup_nil,by simp⟩

def getTensorNameOverride (m : NameOverrides) : Text → Option Text := ofEntries m.entries

def setTensorNameOverride (m : NameOverrides) (internal original : Text) : NameOverrides :=
  if h : internal ≠ [] ∧ original ≠ [] ∧ internal ∉ m.entries.map Prod.fst then
    { entries := m.entries ++ [(internal,original)]
      nodup := by
        rw [map_append]
        exact List.Nodup.append m.nodup (nodup_singleton _) (by simpa using h.2.2)
      nonempty := by
        intro entry hentry
        rcases mem_append.mp hentry with hentry | hentry
        · exact m.nonempty entry hentry
        · obtain rfl := mem_singleton.mp hentry
          exact ⟨h.1,h.2.1⟩ }
  else m

end NameOverrides

def encodePair (entry : Text × Text) : Text := entry.1 ++ '=' :: entry.2

def encodeIoNameOverrides (entries : List (Text × Text)) : Text :=
  entries.foldl (fun encoded entry => encoded ++ entry.1 ++ ['='] ++ entry.2 ++ [';']) []

def ioNameOverridesAttribute (entries : List (Text × Text)) : Option Text :=
  if entries = [] then none else some (encodeIoNameOverrides entries)

def parsePair (pair : Text) : Option (Text × Text) :=
  match pair.dropWhile (· ≠ '=') with
  | [] => none
  | _ :: external =>
    let internal := pair.takeWhile (· ≠ '=')
    if internal ≠ [] ∧ external ≠ [] then some (internal,external) else none

def parseIoNameOverrides (stored : Option Text) : Text → Option Text :=
  (Separated.split ';' (stored.getD [])).foldl
    (fun overrides pair =>
      match parsePair pair with
      | none => overrides
      | some (internal,external) => insertFirst overrides internal external)
    fun _ => none

theorem parseIoNameOverrides_eq (stored : Option Text) :
    parseIoNameOverrides stored =
      ofEntries ((Separated.split ';' (stored.getD [])).filterMap parsePair) := by
  rw [ofEntries,foldl_filterMap]
  unfold parseIoNameOverrides
  congr 1
  funext overrides pair
  cases parsePair pair <;> rfl

theorem encodeIoNameOverrides_eq (entries : List (Text × Text)) :
    encodeIoNameOverrides entries = (entries.map encodePair).flatMap (· ++ [';']) := by
  have hfold : ∀ encoded, entries.foldl
      (fun encoded entry => encoded ++ entry.1 ++ ['='] ++ entry.2 ++ [';']) encoded =
        encoded ++ (entries.map encodePair).flatMap (· ++ [';']) := by
    induction entries with
    | nil => simp
    | cons entry entries ih =>
      intro encoded
      rw [foldl_cons,ih]
      simp [encodePair]
  exact hfold []

theorem parsePair_encodePair {entry : Text × Text} (hne : entry.1 ≠ [] ∧ entry.2 ≠ [])
    (h : '=' ∉ entry.1) : parsePair (encodePair entry) = some entry := by
  have hall : ∀ c ∈ entry.1, (decide (c ≠ '=')) = true := by
    intro c hc
    exact decide_eq_true fun heq => h (heq ▸ hc)
  have hdrop : (encodePair entry).dropWhile (· ≠ '=') = '=' :: entry.2 := by
    rw [encodePair,dropWhile_append_of_pos hall]
    simp
  have htake : (encodePair entry).takeWhile (· ≠ '=') = entry.1 := by
    rw [encodePair,takeWhile_append_of_pos hall]
    simp
  simp only [parsePair,hdrop,htake]
  rw [if_pos hne]

theorem parsePair_clean {pair : Text} {entry : Text × Text} (h : parsePair pair = some entry) :
    '=' ∉ entry.1 ∧ (∀ c ∈ entry.1, c ∈ pair) ∧ ∀ c ∈ entry.2, c ∈ pair := by
  unfold parsePair at h
  split at h
  · cases h
  · next c external hdrop =>
    obtain ⟨_,h⟩ := Option.ite_none_right_eq_some.mp h
    cases h
    refine ⟨?_,?_,?_⟩
    · intro hmem
      have := mem_takeWhile_imp hmem
      simp at this
    · intro d hd
      exact (List.takeWhile_prefix _).subset hd
    · intro d hd
      have hmem : d ∈ pair.dropWhile (· ≠ '=') := by
        rw [hdrop]
        exact mem_cons_of_mem _ hd
      exact (dropWhile_suffix _).subset hmem

structure Separable (entry : Text × Text) : Prop where
  internal_equals : '=' ∉ entry.1
  internal_semicolon : ';' ∉ entry.1
  external_semicolon : ';' ∉ entry.2

theorem ioNameOverridesAttribute_getD (entries : List (Text × Text)) :
    (ioNameOverridesAttribute entries).getD [] = encodeIoNameOverrides entries := by
  unfold ioNameOverridesAttribute
  split
  · next h => rw [h]; rfl
  · rfl

theorem split_encodeIoNameOverrides {entries : List (Text × Text)} (h : ∀ entry ∈ entries, Separable entry) :
    Separated.split ';' (encodeIoNameOverrides entries) = entries.map encodePair := by
  rw [encodeIoNameOverrides_eq]
  refine Separated.split_terminated ?_
  intro pair hpair
  obtain ⟨entry,hentry,rfl⟩ := mem_map.mp hpair
  have hclean := h entry hentry
  simp [encodePair,hclean.internal_semicolon,hclean.external_semicolon]

theorem filterMap_parsePair_encodePair {entries : List (Text × Text)}
    (hne : ∀ entry ∈ entries, entry.1 ≠ [] ∧ entry.2 ≠ []) (h : ∀ entry ∈ entries, Separable entry) :
    (entries.map encodePair).filterMap parsePair = entries := by
  induction entries with
  | nil => rfl
  | cons entry entries ih =>
    have hhead := parsePair_encodePair (hne entry mem_cons_self)
      (h entry mem_cons_self).internal_equals
    have hrest := ih (fun e he => hne e (mem_cons_of_mem _ he))
      fun e he => h e (mem_cons_of_mem _ he)
    rw [map_cons,filterMap_cons_some hhead,hrest]

theorem separable_of_parsed {encoded : Text} {entry : Text × Text}
    (h : entry ∈ (Separated.split ';' encoded).filterMap parsePair) : Separable entry := by
  obtain ⟨pair,hpair,hparse⟩ := mem_filterMap.mp h
  have hfree := Separated.not_mem_of_mem_split hpair
  obtain ⟨hequals,hinternal,hexternal⟩ := parsePair_clean hparse
  exact ⟨hequals,fun hc => hfree (hinternal _ hc),fun hc => hfree (hexternal _ hc)⟩

theorem parseIoNameOverrides_same_iff (m : NameOverrides) :
    parseIoNameOverrides (ioNameOverridesAttribute m.entries) = m.getTensorNameOverride ↔
      ∀ entry ∈ m.entries, Separable entry := by
  rw [parseIoNameOverrides_eq,ioNameOverridesAttribute_getD,NameOverrides.getTensorNameOverride]
  constructor
  · intro heq entry hentry
    have hfound := ofEntries_of_mem m.nodup hentry
    rw [← heq] at hfound
    exact separable_of_parsed (mem_of_ofEntries hfound)
  · intro h
    rw [split_encodeIoNameOverrides h,filterMap_parsePair_encodePair m.nonempty h]

def semicolonName : NameOverrides :=
  NameOverrides.empty.setTensorNameOverride "x_quantized".toList "x;y".toList

theorem parseIoNameOverrides_semicolonName :
    parseIoNameOverrides (ioNameOverridesAttribute semicolonName.entries) ≠
      semicolonName.getTensorNameOverride := by
  intro h
  have hname := congrFun h "x_quantized".toList
  exact absurd hname (by decide)

end QnnEp.Context
