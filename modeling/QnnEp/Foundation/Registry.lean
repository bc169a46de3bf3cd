import Mathlib.Data.List.Induction
import Mathlib.Data.List.Nodup
import Mathlib.Data.List.Flatten

namespace QnnEp.Registry

section
variable {κ β : Type} [DecidableEq κ]

def insertFirst (m : κ → Option β) (k : κ) (v : β) : κ → Option β :=
  if (m k).isSome then m else Function.update m k (some v)

def Extends (m m' : κ → Option β) : Prop := ∀ k v, m k = some v → m' k = some v

omit [DecidableEq κ] in
theorem Extends.refl (m : κ → Option β) : Extends m m := fun _ _ h => h

omit [DecidableEq κ] in
theorem Extends.trans {m m' m'' : κ → Option β} (h : Extends m m') (h' : Extends m' m'') :
    Extends m m'' := fun k v hk => h' k v (h k v hk)

theorem insertFirst_of_some {m : κ → Option β} {k : κ} {v w : β} (h : m k = some w) :
    insertFirst m k v = m := by
  simp [insertFirst,h]

theorem insertFirst_of_none {m : κ → Option β} {k : κ} {v : β} (h : m k = none) :
    insertFirst m k v = Function.update m k (some v) := by
  simp [insertFirst,h]

theorem insertFirst_of_ne {m : κ → Option β} {k k' : κ} {v : β} (h : k' ≠ k) :
    insertFirst m k v k' = m k' := by
  unfold insertFirst
  split
  · rfl
  · exact Function.update_of_ne h _ _

theorem insertFirst_extends (m : κ → Option β) (k : κ) (v : β) : Extends m (insertFirst m k v) := by
  intro k' v' h
  unfold insertFirst
  split
  · exact h
  · next hk =>
    have hne : k' ≠ k := by
      rintro rfl
      exact hk (by simp [h])
    rw [Function.update_of_ne hne]
    exact h

theorem insertFirst_self_iff {m : κ → Option β} {k : κ} {v : β} :
    insertFirst m k v k = some v ↔ m k = none ∨ m k = some v := by
  rcases Option.eq_none_or_eq_some (m k) with h | ⟨w,h⟩
  · simp [insertFirst_of_none h,h]
  · simp [insertFirst_of_some h,h]

theorem insertFirst_isSome (m : κ → Option β) (k : κ) (v : β) : (insertFirst m k v k).isSome := by
  rcases Option.eq_none_or_eq_some (m k) with h | ⟨w,h⟩
  · simp [insertFirst_of_none h]
  · simp [insertFirst_of_some h,h]

def ofEntries (entries : List (κ × β)) : κ → Option β :=
  entries.foldl (fun m entry => insertFirst m entry.1 entry.2) fun _ => none

theorem insertFirst_cases {m : κ → Option β} {k k' : κ} {v w : β} (h : insertFirst m k v k' = some w) :
    m k' = some w ∨ k' = k ∧ w = v := by
  unfold insertFirst at h
  split at h
  · exact .inl h
  · by_cases hk : k' = k
    · subst hk
      rw [Function.update_self] at h
      exact .inr ⟨rfl,(Option.some.inj h).symm⟩
    · rw [Function.update_of_ne hk] at h
      exact .inl h

theorem ofEntries_append (entries : List (κ × β)) (k : κ) (v : β) :
    ofEntries (entries ++ [(k,v)]) = insertFirst (ofEntries entries) k v := by
  simp [ofEntries]

theorem mem_of_ofEntries {entries : List (κ × β)} {k : κ} {v : β} (h : ofEntries entries k = some v) :
    (k,v) ∈ entries := by
  induction entries using List.reverseRecOn with
  | nil => cases h
  | append_singleton entries entry ih =>
    rw [ofEntries_append] at h
    rcases insertFirst_cases h with h | ⟨rfl,rfl⟩
    · exact List.mem_append_left _ (ih h)
    · exact List.mem_append_right _ List.mem_cons_self

theorem ofEntries_of_mem {entries : List (κ × β)} (hnodup : (entries.map Prod.fst).Nodup) {k : κ} {v : β}
    (h : (k,v) ∈ entries) : ofEntries entries k = some v := by
  induction entries using List.reverseRecOn with
  | nil => cases h
  | append_singleton entries entry ih =>
    rw [List.map_append,List.nodup_append] at hnodup
    obtain ⟨hnodup,_,hdisjoint⟩ := hnodup
    rw [ofEntries_append]
    rcases List.mem_append.mp h with h | h
    · exact insertFirst_extends _ _ _ k v (ih hnodup h)
    · obtain rfl := List.mem_singleton.mp h
      refine insertFirst_self_iff.mpr (.inl (Option.eq_none_iff_forall_ne_some.mpr ?_))
      intro w hw
      exact hdisjoint k (List.mem_map_of_mem (mem_of_ofEntries hw)) k (by simp) rfl

end

section
variable {κ ι β : Type} [DecidableEq κ] [DecidableEq ι]

def updateAt (m : κ → ι → β) (k : κ) (i : ι) (v : β) : κ → ι → β :=
  Function.update m k (Function.update (m k) i v)

@[simp] theorem updateAt_self (m : κ → ι → β) (k : κ) (i : ι) (v : β) : updateAt m k i v k i = v := by
  simp [updateAt]

theorem updateAt_of_ne {k k' : κ} {i i' : ι} (h : ¬(k' = k ∧ i' = i)) (m : κ → ι → β) (v : β) :
    updateAt m k i v k' i' = m k' i' := by
  unfold updateAt
  by_cases hk : k' = k
  · subst hk
    have hi : i' ≠ i := fun hi => h ⟨rfl,hi⟩
    simp [hi]
  · simp [hk]

theorem updateAt_cases {m : κ → ι → β} {k k' : κ} {i i' : ι} {v w : β}
    (h : updateAt m k i v k' i' = w) :
    (k' = k ∧ i' = i ∧ w = v) ∨ (¬(k' = k ∧ i' = i) ∧ m k' i' = w) := by
  by_cases hsame : k' = k ∧ i' = i
  · obtain ⟨rfl,rfl⟩ := hsame
    exact .inl ⟨rfl,rfl,by simpa using h.symm⟩
  · exact .inr ⟨hsame,by rwa [updateAt_of_ne hsame] at h⟩

end

theorem bind_ok {α β ε : Type} {x : Except ε α} {f : α → Except ε β} {b : β}
    (h : x >>= f = .ok b) : ∃ a, x = .ok a ∧ f a = .ok b := by
  cases x with
  | error e => cases h
  | ok a => exact ⟨a,rfl,h⟩

section
variable {σ α ε : Type} (step : σ → α → Except ε σ)

def Along (P : σ → α → Prop) : σ → List α → Prop
  | _, [] => True
  | s, a :: as => P s a ∧ ∀ t, step s a = .ok t → Along P t as

theorem foldlM_cons_ok {s t : σ} {a : α} {as : List α} (h : (a :: as).foldlM step s = .ok t) :
    ∃ s', step s a = .ok s' ∧ as.foldlM step s' = .ok t := by
  rw [List.foldlM_cons] at h
  exact bind_ok h

theorem along_cons {P : σ → α → Prop} {s s' : σ} {a : α} {as : List α} (h : step s a = .ok s') :
    Along step P s (a :: as) ↔ P s a ∧ Along step P s' as := by
  constructor
  · intro hp
    exact ⟨hp.1,hp.2 s' h⟩
  · intro hp
    refine ⟨hp.1,?_⟩
    intro t ht
    obtain rfl := Except.ok.inj (h.symm.trans ht)
    exact hp.2

theorem along_cons_error {P : σ → α → Prop} {s : σ} {a : α} {as : List α} {e : ε}
    (h : step s a = .error e) : Along step P s (a :: as) ↔ P s a := by
  simp [Along,h]

instance decidableAlong {P : σ → α → Prop} [∀ s a, Decidable (P s a)] :
    (s : σ) → (as : List α) → Decidable (Along step P s as)
  | _, [] => isTrue trivial
  | s, a :: as =>
    match h : step s a with
    | .ok t =>
      have : Decidable (Along step P t as) := decidableAlong t as
      decidable_of_iff _ (along_cons step h).symm
    | .error _ => decidable_of_iff _ (along_cons_error step h).symm

theorem run_relation {R : σ → σ → Prop} (hrefl : ∀ s, R s s)
    (htrans : ∀ s t u, R s t → R t u → R s u) (hstep : ∀ s a t, step s a = .ok t → R s t)
    {as : List α} {s t : σ} (h : as.foldlM step s = .ok t) : R s t := by
  induction as generalizing s with
  | nil =>
    obtain rfl := Except.ok.inj h
    exact hrefl s
  | cons a as ih =>
    obtain ⟨s',hs,hr⟩ := foldlM_cons_ok step h
    exact htrans s s' t (hstep s a s' hs) (ih hr)

theorem run_iff_of_invariant (Inv : σ → Prop) {Q : σ → Prop} {N P : σ → α → Prop}
    (hinv : ∀ s a t, Inv s → N s a → step s a = .ok t → Inv t)
    (hstep : ∀ s a t, Inv s → N s a → step s a = .ok t → (Q t ↔ Q s ∧ P s a)) {as : List α} {s t : σ}
    (hs : Inv s) (hn : Along step N s as) (h : as.foldlM step s = .ok t) :
    Q t ↔ Q s ∧ Along step P s as := by
  induction as generalizing s with
  | nil =>
    obtain rfl := Except.ok.inj h
    exact ⟨fun hq => ⟨hq,trivial⟩,And.left⟩
  | cons a as ih =>
    obtain ⟨s',hs',hr⟩ := foldlM_cons_ok step h
    obtain ⟨hn,hrest⟩ := (along_cons step hs').mp hn
    rw [ih (hinv s a s' hs hn hs') hrest hr,hstep s a s' hs hn hs',along_cons step hs',and_assoc]

end

section
variable {α ν : Type} (outputs : α → List ν)

def produced (xs : List α) : List ν := xs.flatMap outputs

def SingleAssignment (xs : List α) : Prop :=
  xs.Pairwise fun x y => List.Disjoint (outputs x) (outputs y)

instance [DecidableEq ν] (xs : List α) : Decidable (SingleAssignment outputs xs) :=
  inferInstanceAs (Decidable (xs.Pairwise fun x y => ∀ v ∈ outputs x, v ∉ outputs y))

end

end QnnEp.Registry

namespace QnnEp.Status

section
variable {ε α : Type} {p : Prop} [Decidable p]

def returnIf (p : Prop) [Decidable p] (message : ε) : Except ε Unit :=
  if p then .error message else .ok ()

@[simp] theorem returnIf_ok_iff {message : ε} {u : Unit} : returnIf p message = .ok u ↔ ¬p := by
  unfold returnIf
  split
  · next h => simp [h]
  · next h => simp [h]

theorem returnIf_bind_ok {message : ε} {rest : Unit → Except ε α} {a : α} :
    (returnIf p message >>= rest) = .ok a ↔ ¬p ∧ rest () = .ok a := by
  unfold returnIf
  split
  · next h => exact ⟨fun heq => (by cases heq),fun heq => absurd h heq.1⟩
  · next h => exact ⟨fun heq => ⟨h,heq⟩,fun heq => heq.2⟩

theorem guard_bind_some {rest : Unit → Option α} {a : α} :
    ((guard p : Option Unit) >>= rest) = some a ↔ p ∧ rest () = some a := by
  unfold guard
  split
  · next h => exact ⟨fun heq => ⟨h,heq⟩,fun heq => heq.2⟩
  · next h => exact ⟨fun heq => (by cases heq),fun heq => absurd heq.1 h⟩

end

end QnnEp.Status
