import Mathlib.Data.List.TakeWhile
import Mathlib.Algebra.Order.Ring.Int

namespace QnnEp.Separated
open List
variable {delimiter c : Char} {fields : List (List Char)}

def split (delimiter : Char) (s : List Char) : List (List Char) :=
  (s.splitOn delimiter).filter (· ≠ [])

theorem split_intercalate (hne : fields ≠ []) (hfields : ∀ field ∈ fields, field ≠ [] ∧ delimiter ∉ field) :
    split delimiter ([delimiter].intercalate fields) = fields := by
  unfold split
  rw [splitOn_intercalate delimiter (fun field h => (hfields field h).2) hne]
  refine filter_eq_self.mpr ?_
  intro field h
  simpa using (hfields field h).1

theorem flatMap_terminated (delimiter : Char) (fields : List (List Char)) :
    fields.flatMap (· ++ [delimiter]) = [delimiter].intercalate (fields ++ [[]]) := by
  induction fields with
  | nil => rfl
  | cons field fields ih =>
    cases fields with
    | nil => simp
    | cons next rest =>
      rw [flatMap_cons,ih]
      simp only [cons_append,intercalate_cons_cons,append_assoc]

theorem split_terminated (hfields : ∀ field ∈ fields, field ≠ [] ∧ delimiter ∉ field) :
    split delimiter (fields.flatMap (· ++ [delimiter])) = fields := by
  have hfree : ∀ field ∈ fields ++ [[]], delimiter ∉ field := by
    intro field h
    rcases mem_append.mp h with h | h
    · exact (hfields field h).2
    · simp [mem_singleton.mp h]
  have hkept : fields.filter (· ≠ []) = fields :=
    filter_eq_self.mpr fun field h => by simpa using (hfields field h).1
  rw [split,flatMap_terminated,splitOn_intercalate delimiter hfree (by simp),filter_append,
    hkept]
  simp

theorem not_mem_of_mem_splitOn {s field : List Char} (h : field ∈ s.splitOn delimiter) :
    delimiter ∉ field := by
  rw [splitOn_eq_splitOnP] at h
  induction s generalizing field with
  | nil => simp_all
  | cons c s ih =>
    rw [splitOnP_cons_eq_if_modifyHead] at h
    split at h
    · rcases mem_cons.mp h with rfl | h
      · exact not_mem_nil
      · exact ih h
    · next hc =>
      cases hsplit : s.splitOnP (· == delimiter) with
      | nil => exact absurd hsplit (splitOnP_ne_nil _ _)
      | cons first rest =>
        rw [hsplit] at h ih
        rcases mem_cons.mp h with rfl | h
        · have hfirst := ih mem_cons_self
          have hne : delimiter ≠ c := fun heq => hc (by simp [heq])
          simp [hne,hfirst]
        · exact ih (mem_cons_of_mem _ h)

theorem not_mem_of_mem_split {s field : List Char} (h : field ∈ split delimiter s) : delimiter ∉ field :=
  not_mem_of_mem_splitOn (mem_filter.mp h).1

theorem mem_intercalate (h : c ∈ [delimiter].intercalate fields) :
    c = delimiter ∨ ∃ field ∈ fields, c ∈ field := by
  induction fields with
  | nil => simp at h
  | cons field fields ih =>
    cases fields with
    | nil => exact .inr ⟨field,mem_cons_self,by simpa using h⟩
    | cons next rest =>
      simp only [intercalate_cons_cons,mem_append,mem_singleton] at h
      rcases h with (h | h) | h
      · exact .inr ⟨field,mem_cons_self,h⟩
      · exact .inl h
      · rcases ih h with h | ⟨f,hf,hc⟩
        · exact .inl h
        · exact .inr ⟨f,mem_cons_of_mem _ hf,hc⟩

theorem intercalate_ne_nil {field : List Char} (h : field ≠ []) :
    [delimiter].intercalate (field :: fields) ≠ [] := by
  cases fields <;> simp [h]

section
variable {α : Type} {p : α → Bool} {s : List α}

theorem splitOnP_cons (p : α → Bool) (c : α) (s : List α) :
    ∃ first rest, s.splitOnP p = first :: rest ∧
      (c :: s).splitOnP p = if p c then [] :: first :: rest else (c :: first) :: rest := by
  obtain ⟨first,rest,h⟩ := exists_cons_of_ne_nil (splitOnP_ne_nil p s)
  refine ⟨first,rest,h,?_⟩
  rw [splitOnP_cons_eq_if_modifyHead,h]
  rfl

theorem splitOnP_or (p q : α → Bool) (s : List α) :
    s.splitOnP (fun c => p c || q c) = (s.splitOnP p).flatMap fun field => field.splitOnP q := by
  induction s with
  | nil => simp
  | cons c s ih =>
    obtain ⟨first,rest,hs,hcons⟩ := splitOnP_cons p c s
    obtain ⟨head,tail,hfirst,hinner⟩ := splitOnP_cons q c first
    rw [hs,flatMap_cons,hfirst] at ih
    rw [hcons,splitOnP_cons_eq_if_modifyHead,ih]
    by_cases hp : p c = true
    · simp [hp,hfirst]
    · by_cases hq : q c = true
      · simp [hp,hq,hinner]
      · simp [hp,hq,hinner]

def Closed (p : α → Bool) (s : List α) : Prop :=
  (∀ c ∈ s.getLast?, p c = false) ∧ s.IsChain fun a b => ¬(p a = true ∧ p b = true)

def Spaced (p : α → Bool) (s : List α) : Prop := s ≠ [] ∧ (∀ c ∈ s.head?, p c = false) ∧ Closed p s

theorem closed_cons (c : α) : Closed p (c :: s) ↔ if p c then Spaced p s else Closed p s := by
  cases s with
  | nil => by_cases hp : p c = true <;> simp [Closed,Spaced,hp]
  | cons d s =>
    by_cases hp : p c = true
    · simp only [Closed,Spaced,hp,isChain_cons_cons]
      simp
      exact and_left_comm
    · simp [Closed,hp,isChain_cons_cons]

theorem segments_nonempty (p : α → Bool) (s : List α) :
    ([] ∉ s.splitOnP p ↔ Spaced p s) ∧ ([] ∉ (s.splitOnP p).tail ↔ Closed p s) := by
  induction s with
  | nil => simp [Spaced,Closed]
  | cons c s ih =>
    obtain ⟨first,rest,hs,hcons⟩ := splitOnP_cons p c s
    rw [hs] at ih
    rw [hcons,closed_cons,← ih.1,← ih.2,Spaced,closed_cons,← ih.1,← ih.2]
    by_cases hp : p c = true <;> simp [hp]

theorem intercalate_concat (delimiter : Char) (h : fields ≠ []) (field : List Char) :
    [delimiter].intercalate (fields ++ [field]) = [delimiter].intercalate fields ++ delimiter :: field := by
  induction fields with
  | nil => exact absurd rfl h
  | cons first rest ih =>
    cases rest with
    | nil => simp
    | cons next rest =>
      rw [cons_append,cons_append,intercalate_cons_cons,intercalate_cons_cons,
        ← cons_append,ih (cons_ne_nil _ _)]
      simp only [append_assoc]

theorem splitOn_concat {field : List Char} (h : delimiter ∉ field) (s : List Char) :
    (s ++ delimiter :: field).splitOn delimiter = s.splitOn delimiter ++ [field] := by
  have hne : s.splitOn delimiter ≠ [] := by
    rw [splitOn_eq_splitOnP]
    exact splitOnP_ne_nil _ _
  have hfree : ∀ f ∈ s.splitOn delimiter ++ [field], delimiter ∉ f := by
    intro f hf
    rcases mem_append.mp hf with hf | hf
    · exact not_mem_of_mem_splitOn hf
    · rwa [mem_singleton.mp hf]
  have hjoin := intercalate_concat delimiter hne field
  rw [intercalate_splitOn] at hjoin
  rw [← hjoin,splitOn_intercalate delimiter hfree (by simp)]

theorem getLast?_splitOn {s field : List Char} (hfield : delimiter ∉ field)
    (h : 2 ≤ (s.splitOn delimiter).length) :
    (s.splitOn delimiter).getLast? = some field ↔ delimiter :: field <:+ s := by
  constructor
  · intro hlast
    obtain ⟨fields,hfields⟩ := List.getLast?_eq_some_iff.mp hlast
    have hne : fields ≠ [] := by
      rintro rfl
      simp [hfields] at h
    have hjoin := intercalate_concat delimiter hne field
    rw [← hfields,intercalate_splitOn] at hjoin
    exact ⟨_,hjoin.symm⟩
  · rintro ⟨front,rfl⟩
    rw [splitOn_concat hfield]
    exact List.getLast?_concat

end

def isSpace (c : Char) : Bool := c.toNat ∈ [9,10,11,12,13,32]

def signed : List Char → Bool × List Char
  | [] => (false,[])
  | c :: rest => if c = '-' then (true,rest) else if c = '+' then (false,rest) else (false,c :: rest)

def parseInteger (limit : Nat) (s : List Char) : Option (Int × Nat) :=
  let (negative,digits) := signed (s.dropWhile isSpace)
  let run := digits.takeWhile Char.isDigit
  if run = [] then none
  else
    let magnitude : Int := Nat.ofDigitChars 10 run 0
    let value := if negative then -magnitude else magnitude
    if value < -limit ∨ limit ≤ value then none
    else some (value,s.length - (digits.length - run.length))

def decimal (n : Nat) : List Char := Nat.toDigits 10 n

theorem decimal_ne_nil (n : Nat) : decimal n ≠ [] := Nat.toDigits_ne_nil

theorem isDigit_of_mem_decimal {n : Nat} (h : c ∈ decimal n) : c.isDigit = true :=
  Nat.isDigit_of_mem_toDigits (by decide) (by decide) h

theorem isDigit_range (h : c.isDigit = true) : 48 ≤ c.toNat ∧ c.toNat ≤ 57 := by
  simp only [Char.isDigit,Bool.and_eq_true,decide_eq_true_eq] at h
  exact ⟨UInt32.le_iff_toNat_le.mp h.1,UInt32.le_iff_toNat_le.mp h.2⟩

theorem isSpace_of_isDigit (h : c.isDigit = true) : isSpace c = false := by
  obtain ⟨hlow,_⟩ := isDigit_range h
  simp [isSpace]
  omega

theorem ne_of_isDigit {d : Char} (h : c.isDigit = true) (hd : d.isDigit = false) : c ≠ d := by
  rintro rfl
  rw [h] at hd
  cases hd

theorem signed_of_isDigit {rest : List Char} (h : c.isDigit = true) :
    signed (c :: rest) = (false,c :: rest) := by
  simp [signed,ne_of_isDigit h (by decide : '-'.isDigit = false),
    ne_of_isDigit h (by decide : '+'.isDigit = false)]

theorem parseInteger_decimal {limit n : Nat} (h : n < limit) :
    parseInteger limit (decimal n) = some ((n : Int),(decimal n).length) := by
  have hdigits : ∀ c ∈ decimal n, c.isDigit = true := fun c => isDigit_of_mem_decimal
  have hrun : (decimal n).takeWhile Char.isDigit = decimal n := takeWhile_eq_self_iff.mpr hdigits
  have hbody : signed ((decimal n).dropWhile isSpace) = (false,decimal n) := by
    cases hd : decimal n with
    | nil => exact absurd hd (decimal_ne_nil n)
    | cons c rest =>
      have hc := hdigits c (by simp [hd])
      simp [isSpace_of_isDigit hc,signed_of_isDigit hc]
  have hvalue : Nat.ofDigitChars 10 (decimal n) 0 = n := Nat.ofDigitChars_ten_toDigits
  have hrange : ¬((n : Int) < -(limit : Int) ∨ (limit : Int) ≤ n) := by omega
  simp only [parseInteger,hbody,hrun,hvalue,decimal_ne_nil,if_false,Bool.false_eq_true,hrange,
    Nat.sub_self,Nat.sub_zero]

end QnnEp.Separated
