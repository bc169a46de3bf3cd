import Mathlib.Data.List.Infix

namespace QnnEp.LexicalPath
open List

abbrev Text := List Char

def dot : Text := ['.']

def dotDot : Text := ['.','.']

structure Normal where
  ups : Nat
  names : List Text
  deriving DecidableEq, Repr

namespace Normal

def up (n : Normal) : Normal :=
  if n.names = [] then { n with ups := n.ups + 1 } else { n with names := n.names.dropLast }

def step (n : Normal) (part : Text) : Normal :=
  if part = dot then n
  else if part = dotDot then n.up
  else { n with names := n.names ++ [part] }

def walk (n : Normal) (parts : List Text) : Normal := parts.foldl step n

def ofParts (parts : List Text) : Normal := walk ⟨0,[]⟩ parts

def append (n m : Normal) : Normal :=
  if m.ups ≤ n.names.length then ⟨n.ups,n.names.take (n.names.length - m.ups) ++ m.names⟩
  else ⟨n.ups + (m.ups - n.names.length),m.names⟩

def StaysIn (rooted : Bool) (n m : Normal) : Prop :=
  if m.ups ≤ n.names.length then n.names.drop (n.names.length - m.ups) <+: m.names
  else rooted = true ∧ n.names <+: m.names

section
variable {n m : Normal} {part : Text}

theorem append_up_of_nil (hm : m.names = []) : n.append m.up = (n.append m).up := by
  have hup : m.up = ⟨m.ups + 1,[]⟩ := by simp [up,hm]
  rcases lt_trichotomy m.ups n.names.length with hlt | heq | hgt
  · have hkept : n.names.take (n.names.length - m.ups) ≠ [] := by
      intro h
      have := congrArg List.length h
      simp at this
      omega
    have hdrop : (n.names.take (n.names.length - m.ups)).dropLast =
        n.names.take (n.names.length - (m.ups + 1)) := by
      rw [dropLast_eq_take,length_take,take_take]
      congr 1
      omega
    have hle : m.ups + 1 ≤ n.names.length := hlt
    simp [append,hup,hm,hle,hlt.le,up,hkept,hdrop]
  · simp [append,hup,hm,← heq,up]
  · have hle : ¬m.ups ≤ n.names.length := Nat.not_le.mpr hgt
    have hle' : ¬m.ups + 1 ≤ n.names.length := by omega
    simp [append,hup,hm,hle,hle',up]
    omega

theorem append_up_of_ne_nil (hm : m.names ≠ []) : n.append m.up = (n.append m).up := by
  have hup : m.up = ⟨m.ups,m.names.dropLast⟩ := by simp [up,hm]
  unfold append
  rw [hup]
  split
  · simp [up,hm,dropLast_append_of_ne_nil hm]
  · simp [up,hm]

theorem append_step : n.append (m.step part) = (n.append m).step part := by
  unfold step
  split
  · rfl
  · split
    · by_cases hm : m.names = []
      · exact append_up_of_nil hm
      · exact append_up_of_ne_nil hm
    · unfold append
      split <;> simp

theorem walk_eq_append (n : Normal) (parts : List Text) : n.walk parts = n.append (ofParts parts) := by
  induction parts using List.reverseRecOn with
  | nil => simp [walk,ofParts,append]
  | append_singleton parts part ih =>
    rw [ofParts,walk,walk,foldl_append,foldl_append]
    exact (congrArg (step · part) ih).trans append_step.symm

theorem ups_walk_of_not_mem {parts : List Text} (h : dotDot ∉ parts) : (n.walk parts).ups = n.ups := by
  induction parts generalizing n with
  | nil => rfl
  | cons part parts ih =>
    have hpart : part ≠ dotDot := fun heq => h (heq ▸ mem_cons_self)
    have hups : (n.step part).ups = n.ups := by
      unfold step
      split
      · rfl
      · rfl
    exact (ih fun hmem => h (mem_cons_of_mem _ hmem)).trans hups

theorem staysIn_of_ups_eq_zero (rooted : Bool) (h : m.ups = 0) : StaysIn rooted n m := by
  simp [StaysIn,h]

theorem prefix_take_append {α : Type} (l m : List α) (k : Nat) :
    l <+: l.take k ++ m ↔ l.drop k <+: m := by
  have h : l.take k ++ l.drop k <+: l.take k ++ m ↔ l.drop k <+: m := prefix_append_right_inj _
  rwa [take_append_drop] at h

theorem inside_append_iff (rooted : Bool) :
    (rooted = false → (n.append m).ups = n.ups) ∧ n.names <+: (n.append m).names ↔
      StaysIn rooted n m := by
  unfold append StaysIn
  split
  · exact (and_iff_right fun _ => rfl).trans (prefix_take_append _ _ _)
  · next hgt =>
    cases rooted with
    | true => simp
    | false =>
      simp
      omega

end

end Normal

structure Grammar where
  separators : List Char
  slash_mem : '/' ∈ separators
  rootNameLength : Text → Nat
  absolute : Bool → Bool → Bool

structure Path where
  rootName : Text
  rootDirectory : Bool
  parts : List Text
  deriving DecidableEq, Repr

def Path.normal (p : Path) : Normal :=
  if p.rootDirectory then ⟨0,(Normal.ofParts p.parts).names⟩ else Normal.ofParts p.parts

structure Inside (directory p : Path) : Prop where
  rootName : p.rootName = directory.rootName
  rootDirectory : p.rootDirectory = directory.rootDirectory
  ups : p.normal.ups = directory.normal.ups
  names : directory.normal.names <+: p.normal.names

namespace Grammar
variable (g : Grammar)

def isSeparator (c : Char) : Bool := c ∈ g.separators

def parts (t : Text) : List Text := (t.splitOnP g.isSeparator).filter (· ≠ [])

def rootName (t : Text) : Text := t.take (g.rootNameLength t)

def afterRootName (t : Text) : Text := t.drop (g.rootName t).length

def parse (t : Text) : Path :=
  ⟨g.rootName t,(g.afterRootName t).head?.any g.isSeparator,g.parts (g.afterRootName t)⟩

def isAbsolute (p : Path) : Bool := g.absolute (p.rootName ≠ []) p.rootDirectory

def pathAppend (p q : Path) : Path :=
  if g.isAbsolute q ∨ (q.rootName ≠ [] ∧ q.rootName ≠ p.rootName) then q
  else if q.rootDirectory then ⟨p.rootName,true,q.parts⟩
  else ⟨p.rootName,p.rootDirectory,p.parts ++ q.parts⟩

def relativeStart (t : Text) : Nat :=
  (g.rootName t).length + ((g.afterRootName t).takeWhile g.isSeparator).length

def parentPath (t : Text) : Text :=
  let relative := (t.drop (g.relativeStart t)).reverse
  t.take (g.relativeStart t) ++
    ((relative.dropWhile fun c => ¬g.isSeparator c).dropWhile g.isSeparator).reverse

section
variable {g}

theorem parts_append_slash (s t : Text) : g.parts (s ++ '/' :: t) = g.parts s ++ g.parts t := by
  have hslash : g.isSeparator '/' = true := decide_eq_true g.slash_mem
  rw [parts,splitOnP_append_cons _ _ hslash,filter_append]
  rfl

theorem splitOnP_infix (p : Char → Bool) (t : Text) :
    ∃ first rest, t.splitOnP p = first :: rest ∧ first <+: t ∧ ∀ field ∈ rest, field <:+: t := by
  induction t with
  | nil => exact ⟨[],[],rfl,prefix_rfl,by simp⟩
  | cons c t ih =>
    obtain ⟨first,rest,hsplit,hfirst,hrest⟩ := ih
    rw [splitOnP_cons_eq_if_modifyHead,hsplit]
    split
    · refine ⟨[],first :: rest,rfl,List.nil_prefix,?_⟩
      rintro field (_ | ⟨_,hfield⟩)
      · exact infix_cons hfirst.isInfix
      · exact infix_cons (hrest field hfield)
    · exact ⟨c :: first,rest,rfl,cons_prefix_cons.mpr ⟨rfl,hfirst⟩,
        fun field hfield => infix_cons (hrest field hfield)⟩

theorem infix_of_mem_parts {t part : Text} (h : part ∈ g.parts t) : part <:+: t := by
  obtain ⟨first,rest,hsplit,hfirst,hrest⟩ := splitOnP_infix g.isSeparator t
  have hmem := (mem_filter.mp h).1
  rw [hsplit] at hmem
  rcases mem_cons.mp hmem with rfl | hmem
  · exact hfirst.isInfix
  · exact hrest part hmem

theorem infix_of_mem_parse {t part : Text} (h : part ∈ (g.parse t).parts) : part <:+: t :=
  (infix_of_mem_parts h).trans (drop_suffix _ _).isInfix

end

end Grammar

theorem normal_append (rooted : Bool) (directory parts : List Text) (rootName : Text) :
    (Path.mk rootName rooted (directory ++ parts)).normal.ups = (Path.mk rootName rooted directory).normal.ups ∧
      (Path.mk rootName rooted directory).normal.names <+:
        (Path.mk rootName rooted (directory ++ parts)).normal.names ↔
      Normal.StaysIn rooted (Normal.ofParts directory) (Normal.ofParts parts) := by
  have hwalk : Normal.ofParts (directory ++ parts) =
      (Normal.ofParts directory).append (Normal.ofParts parts) := by
    rw [← Normal.walk_eq_append,Normal.ofParts,Normal.walk,foldl_append]
    rfl
  rw [← Normal.inside_append_iff]
  cases rooted <;> simp [Path.normal,hwalk]

def Grammar.posix : Grammar := ⟨['/'],by decide,fun _ => 0,fun _ hasRootDirectory => hasRootDirectory⟩

end QnnEp.LexicalPath
