import Mathlib.Data.List.Induction
import QnnEp.Foundation.Numbered

namespace QnnEp.UniqueName
open List Numbered
variable {cs : List (String × String)} {c : String × String}

structure UniqueNameGenerator where
  counter : String → Nat

def reset : UniqueNameGenerator := ⟨fun _ => 0⟩

def keyOf (base suffix : String) : String :=
  if suffix.isEmpty then base else base ++ suffix

def new (g : UniqueNameGenerator) (base suffix : String) : String × UniqueNameGenerator :=
  let name := keyOf base suffix
  let count := g.counter name
  let g' : UniqueNameGenerator := ⟨Function.update g.counter name (count+1)⟩
  if count > 0 then (numbered name (count+1),g') else (name,g')

def newForNodeUnit (g : UniqueNameGenerator) (unitName opType : String) (index : Nat)
    (suffix : String) : String × UniqueNameGenerator :=
  if unitName.isEmpty then new g (opType ++ toString index) suffix else new g unitName suffix

def newAll : UniqueNameGenerator → List (String × String) → List String × UniqueNameGenerator
  | g, [] => ([],g)
  | g, c :: cs =>
    let r := new g c.1 c.2
    let rs := newAll r.2 cs
    (r.1 :: rs.1,rs.2)

def names (calls : List (String × String)) : List String := (newAll reset calls).1

def keys (calls : List (String × String)) : List String := calls.map fun c => keyOf c.1 c.2

def NumberedKey (calls : List (String × String)) : Prop :=
  ∃ key n, 2 ≤ n ∧ n ≤ (keys calls).count key ∧ numbered key n ∈ keys calls

@[simp] theorem keyOf_eq (base suffix : String) : keyOf base suffix = base ++ suffix := by
  unfold keyOf
  split
  · simp_all
  · rfl

theorem new_fst (g : UniqueNameGenerator) (base suffix : String) :
    (new g base suffix).1 = if g.counter (base ++ suffix) = 0 then base ++ suffix
      else numbered (base ++ suffix) (g.counter (base ++ suffix)+1) := by
  simp only [new,keyOf_eq]
  by_cases h : g.counter (base ++ suffix) = 0
  · simp [h]
  · simp [h,Nat.pos_of_ne_zero h]

theorem new_counter (g : UniqueNameGenerator) (base suffix : String) :
    (new g base suffix).2.counter =
      Function.update g.counter (base ++ suffix) (g.counter (base ++ suffix)+1) := by
  simp only [new,keyOf_eq]
  split <;> rfl

theorem newAll_append (g : UniqueNameGenerator) (cs ds : List (String × String)) :
    newAll g (cs ++ ds) =
      ((newAll g cs).1 ++ (newAll (newAll g cs).2 ds).1,(newAll (newAll g cs).2 ds).2) := by
  induction cs generalizing g with
  | nil => rfl
  | cons c cs ih => simp only [cons_append,newAll,ih]

theorem newAll_counter (g : UniqueNameGenerator) (cs : List (String × String)) (k : String) :
    (newAll g cs).2.counter k = g.counter k + (keys cs).count k := by
  induction cs generalizing g with
  | nil => simp [newAll,keys]
  | cons c cs ih =>
    simp only [newAll,ih,new_counter]
    by_cases hk : k = c.1 ++ c.2
    · subst hk
      simp [keys]
      omega
    · have hk' : (c.1 ++ c.2 == k) = false := by simpa using Ne.symm hk
      simp [keys,Function.update_of_ne hk,count_cons,hk']

theorem names_snoc (cs : List (String × String)) (c : String × String) :
    names (cs ++ [c]) = names cs ++ [if (keys cs).count (c.1 ++ c.2) = 0 then c.1 ++ c.2
      else numbered (c.1 ++ c.2) ((keys cs).count (c.1 ++ c.2)+1)] := by
  simp [names,newAll_append,newAll,new_fst,newAll_counter,reset]

theorem keys_snoc (cs : List (String × String)) (c : String × String) :
    keys (cs ++ [c]) = keys cs ++ [c.1 ++ c.2] := by
  simp [keys]

theorem count_keys_snoc (cs : List (String × String)) (c : String × String) (k : String) :
    (keys (cs ++ [c])).count k = (keys cs).count k + if c.1 ++ c.2 = k then 1 else 0 := by
  simp [keys_snoc,count_append,count_singleton]

theorem mem_names {x : String} :
    x ∈ names cs ↔ x ∈ keys cs ∨ ∃ k n, 2 ≤ n ∧ n ≤ (keys cs).count k ∧ x = numbered k n := by
  induction cs using List.reverseRecOn with
  | nil => simp [names,newAll,keys]
  | append_singleton cs c ih =>
    simp only [names_snoc,count_keys_snoc,mem_append,ih,mem_singleton]
    rw [keys_snoc,mem_append,mem_singleton]
    by_cases hz : (keys cs).count (c.1 ++ c.2) = 0
    · rw [if_pos hz]
      constructor
      · rintro ((h | ⟨k,n,h2,hn,rfl⟩) | rfl)
        · exact .inl (.inl h)
        · exact .inr ⟨k,n,h2,by omega,rfl⟩
        · exact .inl (.inr rfl)
      · rintro ((h | rfl) | ⟨k,n,h2,hn,rfl⟩)
        · exact .inl (.inl h)
        · exact .inr rfl
        · refine .inl (.inr ⟨k,n,h2,?_,rfl⟩)
          split at hn
          · rename_i hk
            subst hk
            omega
          · omega
    · have hmem : c.1 ++ c.2 ∈ keys cs := count_pos_iff.mp (by omega)
      rw [if_neg hz]
      constructor
      · rintro ((h | ⟨k,n,h2,hn,rfl⟩) | rfl)
        · exact .inl (.inl h)
        · exact .inr ⟨k,n,h2,by omega,rfl⟩
        · exact .inr ⟨c.1 ++ c.2,_,by omega,by simp,rfl⟩
      · rintro ((h | rfl) | ⟨k,n,h2,hn,rfl⟩)
        · exact .inl (.inl h)
        · exact .inl (.inl hmem)
        · rcases Nat.lt_or_ge ((keys cs).count k) n with hlt | hge
          · split at hn
            · rename_i hk
              subst hk
              exact .inr (numbered_inj.mpr ⟨rfl,by omega⟩)
            · omega
          · exact .inl (.inr ⟨k,n,h2,hge,rfl⟩)

theorem NumberedKey.snoc (c : String × String) (h : NumberedKey cs) : NumberedKey (cs ++ [c]) := by
  obtain ⟨k,n,h2,hn,hm⟩ := h
  refine ⟨k,n,h2,?_,?_⟩
  · rw [count_keys_snoc]
    omega
  · rw [keys_snoc]
    exact mem_append_left _ hm

theorem numberedKey_snoc_first (hz : (keys cs).count (c.1 ++ c.2) = 0) :
    NumberedKey (cs ++ [c]) ↔ NumberedKey cs ∨ c.1 ++ c.2 ∈ names cs := by
  constructor
  · rintro ⟨k,n,h2,hn,hm⟩
    rw [count_keys_snoc] at hn
    have hc : n ≤ (keys cs).count k := by
      split at hn
      · rename_i hk
        subst hk
        omega
      · exact hn
    rw [keys_snoc] at hm
    rcases mem_append.mp hm with hm | hm
    · exact .inl ⟨k,n,h2,hc,hm⟩
    · exact .inr (mem_names.mpr (.inr ⟨k,n,h2,hc,(mem_singleton.mp hm).symm⟩))
  · rintro (h | h)
    · exact h.snoc c
    · rcases mem_names.mp h with h | ⟨k,n,h2,hn,he⟩
      · exact absurd h (count_eq_zero.mp hz)
      · refine ⟨k,n,h2,?_,?_⟩
        · rw [count_keys_snoc]
          omega
        · rw [keys_snoc,← he]
          simp

theorem numberedKey_snoc_again (hz : (keys cs).count (c.1 ++ c.2) ≠ 0) :
    NumberedKey (cs ++ [c]) ↔ NumberedKey cs ∨
      numbered (c.1 ++ c.2) ((keys cs).count (c.1 ++ c.2)+1) ∈ names cs := by
  have hmem : c.1 ++ c.2 ∈ keys cs := count_pos_iff.mp (by omega)
  constructor
  · rintro ⟨k,n,h2,hn,hm⟩
    rw [count_keys_snoc] at hn
    rw [keys_snoc] at hm
    have hm' : numbered k n ∈ keys cs := by
      rcases mem_append.mp hm with hm | hm
      · exact hm
      · exact mem_singleton.mp hm ▸ hmem
    rcases Nat.lt_or_ge ((keys cs).count k) n with hlt | hge
    · split at hn
      · rename_i hk
        subst hk
        have he : n = (keys cs).count (c.1 ++ c.2)+1 := by omega
        exact .inr (mem_names.mpr (.inl (he ▸ hm')))
      · omega
    · exact .inl ⟨k,n,h2,hge,hm'⟩
  · rintro (h | h)
    · exact h.snoc c
    · rcases mem_names.mp h with h | ⟨k,n,h2,hn,he⟩
      · refine ⟨c.1 ++ c.2,(keys cs).count (c.1 ++ c.2)+1,by omega,?_,?_⟩
        · simp [count_keys_snoc]
        · rw [keys_snoc]
          exact mem_append_left _ h
      · obtain ⟨rfl,rfl⟩ := numbered_inj.mp he
        omega

theorem names_nodup_iff (calls : List (String × String)) :
    (names calls).Nodup ↔ ¬NumberedKey calls := by
  induction calls using List.reverseRecOn with
  | nil => simp [names,newAll,NumberedKey,keys]
  | append_singleton cs c ih =>
    rw [names_snoc,← concat_eq_append,nodup_concat,ih]
    by_cases hz : (keys cs).count (c.1 ++ c.2) = 0
    · rw [if_pos hz,numberedKey_snoc_first hz,not_or,and_comm]
    · rw [if_neg hz,numberedKey_snoc_again hz,not_or,and_comm]

theorem names_repeat : ¬(names [("a",""),("a",""),("a_2","")]).Nodup := by
  decide

end QnnEp.UniqueName
