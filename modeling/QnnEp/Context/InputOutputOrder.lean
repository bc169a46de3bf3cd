import Mathlib.Data.List.Nodup
import Mathlib.Data.List.Perm.Basic

namespace QnnEp.Context
open List
variable {α : Type} [DecidableEq α]

structure OverrideMap (α : Type) where
  entries : List (α × α)
  nodup : (entries.map Prod.fst).Nodup

def OverrideMap.reversed (overrides : OverrideMap α) : α → Option α :=
  overrides.entries.foldl (fun reversed entry => Function.update reversed entry.2 (some entry.1))
    fun _ => none

section
variable (fusedOrder : List α) (reversed : α → Option α)

def overriddenName (name : α) : Option α := (reversed name).filter fun internal => internal ∈ fusedOrder

def resolveName (name : α) : Option α :=
  match overriddenName fusedOrder reversed name with
  | some internal => some internal
  | none => if name ∈ fusedOrder then some name else none

def resolveNames : List α → Option (List α)
  | [] => some []
  | name :: names => do
    let resolved ← resolveName fusedOrder reversed name
    let rest ← resolveNames names
    return resolved :: rest

def resolveGraphInputOutputOrder (onnxNames : Option (List α)) : List α :=
  match onnxNames with
  | none => fusedOrder
  | some names =>
    match resolveNames fusedOrder reversed names with
    | none => fusedOrder
    | some resolved => resolved ++ fusedOrder.filter fun name => name ∉ resolved

def Clash (names : List α) : Prop :=
  ∃ name ∈ names, ∃ internal ∈ names, internal ≠ name ∧
    overriddenName fusedOrder reversed name = some internal ∧
    overriddenName fusedOrder reversed internal = none

def Unresolvable (names : List α) : Prop :=
  ∃ name ∈ names, overriddenName fusedOrder reversed name = none ∧ name ∉ fusedOrder

end

section
variable {fusedOrder : List α} {reversed : α → Option α} {name internal : α} {names resolved : List α}

theorem mem_of_reversed {overrides : OverrideMap α} (h : overrides.reversed name = some internal) :
    (internal,name) ∈ overrides.entries := by
  have hfold (entries : List (α × α)) (m : α → Option α)
      (h : entries.foldl (fun (reversed : α → Option α) entry =>
        Function.update reversed entry.2 (some entry.1)) m name = some internal) :
      (internal,name) ∈ entries ∨ m name = some internal := by
    induction entries generalizing m with
    | nil => exact .inr h
    | cons entry entries ih =>
      rcases ih _ h with hmem | hupdate
      · exact .inl (mem_cons_of_mem _ hmem)
      · dsimp only at hupdate
        by_cases he : name = entry.2
        · subst he
          rw [Function.update_self] at hupdate
          obtain rfl := Option.some.inj hupdate
          exact .inl mem_cons_self
        · rw [Function.update_of_ne he] at hupdate
          exact .inr hupdate
  exact (hfold overrides.entries _ h).resolve_right fun hnone => by cases hnone

theorem reversed_injective {overrides : OverrideMap α} {other : α}
    (h : overrides.reversed name = some internal) (h' : overrides.reversed other = some internal) :
    name = other := by
  have heq := inj_on_of_nodup_map overrides.nodup (mem_of_reversed h) (mem_of_reversed h') rfl
  exact congrArg Prod.snd heq

theorem overriddenName_eq_some :
    overriddenName fusedOrder reversed name = some internal ↔
      reversed name = some internal ∧ internal ∈ fusedOrder := by
  rw [overriddenName,Option.filter_eq_some_iff,decide_eq_true_eq]

def resolvedName (fusedOrder : List α) (reversed : α → Option α) (name : α) : α :=
  (overriddenName fusedOrder reversed name).getD name

theorem resolveName_of_resolvable (h : ¬(overriddenName fusedOrder reversed name = none ∧ name ∉ fusedOrder)) :
    resolveName fusedOrder reversed name = some (resolvedName fusedOrder reversed name) := by
  unfold resolveName resolvedName
  split
  · next internal hinternal => rw [hinternal,Option.getD_some]
  · next hnone =>
    have hmem : name ∈ fusedOrder := by_contra fun hnot => h ⟨hnone,hnot⟩
    rw [hnone,if_pos hmem,Option.getD_none]

theorem resolveNames_of_resolvable (h : ¬Unresolvable fusedOrder reversed names) :
    resolveNames fusedOrder reversed names = some (names.map (resolvedName fusedOrder reversed)) := by
  induction names with
  | nil => rfl
  | cons name names ih =>
    have hhead : ¬(overriddenName fusedOrder reversed name = none ∧ name ∉ fusedOrder) :=
      fun hname => h ⟨name,mem_cons_self,hname⟩
    have htail : ¬Unresolvable fusedOrder reversed names :=
      fun ⟨other,hother,hname⟩ => h ⟨other,mem_cons_of_mem _ hother,hname⟩
    rw [resolveNames,resolveName_of_resolvable hhead,ih htail]
    rfl

theorem resolveNames_of_unresolvable (h : Unresolvable fusedOrder reversed names) :
    resolveNames fusedOrder reversed names = none := by
  obtain ⟨missing,hmem,hnone,hnot⟩ := h
  have hmissing : resolveName fusedOrder reversed missing = none := by
    rw [resolveName,hnone]
    exact if_neg hnot
  induction names with
  | nil => cases hmem
  | cons name names ih =>
    rw [resolveNames]
    rcases mem_cons.mp hmem with rfl | hmem
    · rw [hmissing]
      rfl
    · rw [ih hmem]
      cases resolveName fusedOrder reversed name <;> rfl

end

section
variable {fusedOrder names resolved : List α} {reversed : α → Option α}

theorem order_perm_iff (hfused : fusedOrder.Nodup) (hsub : ∀ name ∈ resolved, name ∈ fusedOrder) :
    (resolved ++ fusedOrder.filter fun name => name ∉ resolved).Perm fusedOrder ↔ resolved.Nodup := by
  constructor
  · intro hperm
    exact (nodup_append.mp (hperm.nodup_iff.mpr hfused)).1
  · intro hnodup
    refine (perm_ext_iff_of_nodup ?_ hfused).mpr fun name => ?_
    · refine nodup_append.mpr ⟨hnodup,hfused.filter _,fun a ha b hb hab => ?_⟩
      exact of_decide_eq_true (mem_filter.mp hb).2 (hab ▸ ha)
    · by_cases hmem : name ∈ resolved
      · simp [hmem,hsub name hmem]
      · simp [hmem]

theorem resolvedName_injective_iff (overrides : OverrideMap α) :
    (∀ a ∈ names, ∀ b ∈ names, resolvedName fusedOrder overrides.reversed a =
        resolvedName fusedOrder overrides.reversed b → a = b) ↔
      ¬Clash fusedOrder overrides.reversed names := by
  constructor
  · rintro hinj ⟨name,hname,internal,hinternal,hne,hover,hnone⟩
    refine hne (hinj internal hinternal name hname ?_)
    rw [resolvedName,resolvedName,hover,hnone]
    rfl
  · intro hclash a ha b hb heq
    unfold resolvedName at heq
    cases hover : overriddenName fusedOrder overrides.reversed a with
    | none =>
      cases hover' : overriddenName fusedOrder overrides.reversed b with
      | none => simpa [hover,hover'] using heq
      | some internal =>
        obtain rfl : a = internal := by simpa [hover,hover'] using heq
        exact by_contra fun hne => hclash ⟨b,hb,a,ha,hne,hover',hover⟩
    | some internal =>
      cases hover' : overriddenName fusedOrder overrides.reversed b with
      | none =>
        obtain rfl : internal = b := by simpa [hover,hover'] using heq
        exact (by_contra fun hne => hclash ⟨a,ha,internal,hb,hne,hover,hover'⟩).symm
      | some other =>
        obtain rfl : internal = other := by simpa [hover,hover'] using heq
        exact reversed_injective (overriddenName_eq_some.mp hover).1 (overriddenName_eq_some.mp hover').1

theorem resolvedName_mem (h : ¬Unresolvable fusedOrder reversed names) {name : α} (hname : name ∈ names) :
    resolvedName fusedOrder reversed name ∈ fusedOrder := by
  unfold resolvedName
  cases hover : overriddenName fusedOrder reversed name with
  | none => exact by_contra fun hnot => h ⟨name,hname,hover,hnot⟩
  | some internal => exact (overriddenName_eq_some.mp hover).2

theorem resolved_order_perm_iff (overrides : OverrideMap α) (onnxNames : Option (List α))
    (hfused : fusedOrder.Nodup) (hnames : ∀ names, onnxNames = some names → names.Nodup) :
    (resolveGraphInputOutputOrder fusedOrder overrides.reversed onnxNames).Perm fusedOrder ↔
      ∀ names, onnxNames = some names → Unresolvable fusedOrder overrides.reversed names ∨
        ¬Clash fusedOrder overrides.reversed names := by
  cases onnxNames with
  | none =>
    refine ⟨fun _ names hnames => ?_,fun _ => .refl _⟩
    cases hnames
  | some names =>
    have hnodup := hnames names rfl
    simp only [Option.some.injEq,forall_eq']
    unfold resolveGraphInputOutputOrder
    by_cases hres : Unresolvable fusedOrder overrides.reversed names
    · simp only [resolveNames_of_unresolvable hres]
      exact ⟨fun _ => .inl hres,fun _ => .refl _⟩
    · have hsub : ∀ name ∈ names.map (resolvedName fusedOrder overrides.reversed), name ∈ fusedOrder := by
        intro name hname
        obtain ⟨source,hsource,rfl⟩ := mem_map.mp hname
        exact resolvedName_mem hres hsource
      simp only [resolveNames_of_resolvable hres]
      rw [order_perm_iff hfused hsub,nodup_map_iff_inj_on hnodup,resolvedName_injective_iff]
      exact ⟨.inr,fun h => h.resolve_left hres⟩

def swappedOverride : OverrideMap String := ⟨[("f","o")],by decide⟩

theorem resolved_order_perm_renamed :
    (resolveGraphInputOutputOrder ["g","f"] swappedOverride.reversed (some ["o"])).Perm ["g","f"] := by
  refine (resolved_order_perm_iff swappedOverride (some ["o"]) (by decide) (by simp)).mpr ?_
  intro names hnames
  obtain rfl := Option.some.inj hnames
  refine .inr ?_
  rintro ⟨name,hname,internal,hinternal,hne,-⟩
  exact hne ((mem_singleton.mp hinternal).trans (mem_singleton.mp hname).symm)

theorem declared_internal_name_doubled :
    resolveGraphInputOutputOrder ["f","g"] swappedOverride.reversed (some ["o","f"]) = ["f","f","g"] ∧
      ¬(resolveGraphInputOutputOrder ["f","g"] swappedOverride.reversed (some ["o","f"])).Perm
        ["f","g"] := by
  have hresult :
      resolveGraphInputOutputOrder ["f","g"] swappedOverride.reversed (some ["o","f"]) = ["f","f","g"] := by
    decide
  refine ⟨hresult,fun hperm => ?_⟩
  rw [hresult] at hperm
  exact absurd hperm.length_eq (by decide)

end

end QnnEp.Context
