import Mathlib.Data.List.Pairwise
import Mathlib.Data.Set.Finite.Basic
import Mathlib.Tactic.Linarith

namespace QnnEp.Phased
open List
variable {U : Type}
variable {xs b : List U} {inside : U → Bool} {j k i : Nat} {x : U}

def Acyclic {V : Type} (r : V → V → Prop) : Prop := ∀ v, ¬Relation.TransGen r v v

theorem acyclic_of_rank {V : Type} {r : V → V → Prop} (rank : V → Nat)
    (h : ∀ a b, r a b → rank a < rank b) : Acyclic r := by
  intro v hv
  have hlt {a b : V} (hab : Relation.TransGen r a b) : rank a < rank b := by
    induction hab with
    | single hs => exact h _ _ hs
    | tail _ hs ih => exact ih.trans (h _ _ hs)
  exact Nat.lt_irrefl _ (hlt hv)

theorem Acyclic.exists_minimal {V : Type} {r : V → V → Prop} (h : Acyclic r) {xs : List V}
    (hne : xs ≠ []) : ∃ x ∈ xs, ∀ y ∈ xs, ¬r y x := by
  let R : {x // x ∈ xs} → {x // x ∈ xs} → Prop := fun a b => Relation.TransGen r a.1 b.1
  have : IsTrans _ R := ⟨fun _ _ _ hab hbc => Relation.TransGen.trans hab hbc⟩
  have : Std.Irrefl R := ⟨fun a ha => h a.1 ha⟩
  have : Finite {x // x ∈ xs} := finite_toSet xs
  have hwf : WellFounded R := Finite.wellFounded_of_trans_of_irrefl R
  obtain ⟨x,hx⟩ := exists_mem_of_ne_nil xs hne
  obtain ⟨m,_,hm⟩ := hwf.has_min Set.univ ⟨⟨x,hx⟩,trivial⟩
  refine ⟨m.1,m.2,?_⟩
  intro y hy hr
  exact hm ⟨y,hy⟩ trivial (.single hr)

structure PhasedOrder (edge : U → U → Prop) (inside : U → Bool) (order : List (U × Nat)) :
    Prop where
  nodup : (order.map Prod.fst).Nodup
  irrefl : ∀ p ∈ order, ¬edge p.1 p.1
  mono : order.Pairwise fun p q => p.2 ≤ q.2
  forward : order.Pairwise fun p q => ¬edge q.1 p.1
  strict : order.Pairwise fun p q =>
    inside p.1 = true → inside q.1 = false → edge p.1 q.1 → p.2 < q.2

def blockAt (inside : U → Bool) (order : List (U × Nat)) (j : Nat) : List U :=
  (order.filter fun p => inside p.1 && p.2 == j).map Prod.fst

def blocks (inside : U → Bool) (order : List (U × Nat)) (k : Nat) : List (List U) :=
  ((List.range k).map (blockAt inside order)).filter fun b => !b.isEmpty

def TopologicallyOrdered [DecidableEq U] (edge : U → U → Prop) (xs : List U) : Prop :=
  xs.Nodup ∧ ∀ x ∈ xs, ∀ y ∈ xs, edge x y → xs.idxOf x < xs.idxOf y

def vertex [DecidableEq U] (groups : List (List U)) (x : U) : Nat ⊕ U :=
  match groups.findIdx? fun b => decide (x ∈ b) with
  | some i => .inl i
  | none => .inr x

def contracted [DecidableEq U] (edge : U → U → Prop) (groups : List (List U)) :
    Nat ⊕ U → Nat ⊕ U → Prop :=
  fun a b => a ≠ b ∧ ∃ x y, edge x y ∧ vertex groups x = a ∧ vertex groups y = b

theorem mem_blockAt {order : List (U × Nat)} :
    x ∈ blockAt inside order j ↔ (x,j) ∈ order ∧ inside x = true := by
  simp only [blockAt,mem_map,mem_filter,Bool.and_eq_true,beq_iff_eq]
  constructor
  · rintro ⟨⟨y,i⟩,⟨hm,hi,hj⟩,he⟩
    simp only at hi hj he
    subst hj he
    exact ⟨hm,hi⟩
  · rintro ⟨hm,hi⟩
    exact ⟨(x,j),⟨hm,hi,rfl⟩,rfl⟩

theorem mem_blocks {order : List (U × Nat)} :
    b ∈ blocks inside order k ↔ b ≠ [] ∧ ∃ j, j < k ∧ b = blockAt inside order j := by
  simp only [blocks,mem_filter,mem_map,mem_range,Bool.not_eq_true',
    isEmpty_eq_false_iff]
  constructor
  · rintro ⟨⟨j,hj,rfl⟩,hb⟩
    exact ⟨hb,j,hj,rfl⟩
  · rintro ⟨hb,j,hj,rfl⟩
    exact ⟨⟨j,hj,rfl⟩,hb⟩

theorem topologicallyOrdered_of_pairwise [DecidableEq U] {edge : U → U → Prop} (hn : xs.Nodup)
    (hi : ∀ x ∈ xs, ¬edge x x) (hf : xs.Pairwise fun x y => ¬edge y x) : TopologicallyOrdered edge xs := by
  refine ⟨hn,?_⟩
  intro x hx y hy he
  obtain ⟨i,hi',rfl⟩ := mem_iff_getElem.mp hx
  obtain ⟨j,hj',rfl⟩ := mem_iff_getElem.mp hy
  rw [hn.idxOf_getElem,hn.idxOf_getElem]
  rcases Nat.lt_trichotomy i j with h | h | h
  · exact h
  · subst h
    exact absurd he (hi _ hx)
  · exact absurd he (pairwise_iff_getElem.mp hf j i hj' hi' h)

theorem findIdx?_congr {p q : U → Bool} (h : ∀ x ∈ xs, p x = q x) : xs.findIdx? p = xs.findIdx? q := by
  induction xs with
  | nil => rfl
  | cons x xs ih =>
    rw [List.findIdx?_cons,List.findIdx?_cons,h x mem_cons_self,
      ih fun y hy => h y (mem_cons_of_mem _ hy)]

namespace PhasedOrder
variable {edge : U → U → Prop} {inside : U → Bool} {order : List (U × Nat)}

theorem phase_unique (h : PhasedOrder edge inside order) (hi : (x,i) ∈ order) (hj : (x,j) ∈ order) :
    i = j := by
  have he := inj_on_of_nodup_map h.nodup hi hj rfl
  exact congrArg Prod.snd he

theorem nil : PhasedOrder edge inside [] :=
  ⟨.nil,fun _ h => absurd h not_mem_nil,.nil,.nil,.nil⟩

theorem mono_edge {edge' : U → U → Prop} (h : PhasedOrder edge inside order)
    (he : ∀ p ∈ order, ∀ q ∈ order, edge' p.1 q.1 → edge p.1 q.1) :
    PhasedOrder edge' inside order := by
  refine ⟨h.nodup,?_,h.mono,?_,?_⟩
  · intro p hp hpp
    exact h.irrefl p hp (he p hp p hp hpp)
  · refine h.forward.imp_of_mem ?_
    intro p q hp hq hpq hqp
    exact hpq (he q hq p hp hqp)
  · refine h.strict.imp_of_mem ?_
    intro p q hp hq hpq hip hiq hedge
    exact hpq hip hiq (he p hp q hq hedge)

theorem snoc (h : PhasedOrder edge inside order) (hx : x ∉ order.map Prod.fst) (hi : ¬edge x x)
    (hk : ∀ p ∈ order, p.2 ≤ k) (hf : ∀ p ∈ order, ¬edge x p.1)
    (hs : ∀ p ∈ order, inside p.1 = true → inside x = false → edge p.1 x → p.2 < k) :
    PhasedOrder edge inside (order ++ [(x,k)]) := by
  have last {R : U × Nat → U × Nat → Prop} (hR : order.Pairwise R)
      (hl : ∀ p ∈ order, R p (x,k)) : (order ++ [(x,k)]).Pairwise R := by
    refine pairwise_append.mpr ⟨hR,pairwise_singleton _ _,?_⟩
    intro p hp q hq
    rw [mem_singleton.mp hq]
    exact hl p hp
  refine ⟨?_,?_,last h.mono hk,last h.forward hf,last h.strict hs⟩
  · rw [map_append,map_singleton]
    refine nodup_append.mpr ⟨h.nodup,nodup_singleton _,?_⟩
    rintro y hy z hz rfl
    rw [mem_singleton.mp hz] at hy
    exact hx hy
  · intro p hp
    rcases mem_append.mp hp with hp | hp
    · exact h.irrefl p hp
    · rw [mem_singleton.mp hp]
      exact hi

theorem blockAt_nodup (h : PhasedOrder edge inside order) (j : Nat) :
    (blockAt inside order j).Nodup :=
  h.nodup.sublist ((filter_sublist).map Prod.fst)

theorem blockAt_topological [DecidableEq U] (h : PhasedOrder edge inside order) (j : Nat) :
    TopologicallyOrdered edge (blockAt inside order j) := by
  refine topologicallyOrdered_of_pairwise (h.blockAt_nodup j) ?_ ?_
  · intro x hx
    exact h.irrefl (x,j) (mem_blockAt.mp hx).1
  · exact (h.forward.sublist filter_sublist).map Prod.fst (fun _ _ hab => hab)

theorem blockAt_disjoint (h : PhasedOrder edge inside order) (hij : i ≠ j) :
    (blockAt inside order i).Disjoint (blockAt inside order j) := by
  intro x hx hy
  exact hij (h.phase_unique (mem_blockAt.mp hx).1 (mem_blockAt.mp hy).1)

theorem blocks_disjoint (h : PhasedOrder edge inside order) (k : Nat) :
    (blocks inside order k).Pairwise List.Disjoint := by
  refine List.Pairwise.filter _ ?_
  refine pairwise_map.mpr ?_
  exact nodup_range.imp fun hij => h.blockAt_disjoint hij

theorem mem_flatten_blocks (hk : ∀ p ∈ order, p.2 < k) :
    x ∈ (blocks inside order k).flatten ↔ x ∈ order.map Prod.fst ∧ inside x = true := by
  rw [mem_flatten]
  constructor
  · rintro ⟨b,hb,hx⟩
    obtain ⟨_,j,_,rfl⟩ := mem_blocks.mp hb
    obtain ⟨hm,hi⟩ := mem_blockAt.mp hx
    exact ⟨mem_map.mpr ⟨(x,j),hm,rfl⟩,hi⟩
  · rintro ⟨hm,hi⟩
    obtain ⟨⟨y,j⟩,hp,rfl⟩ := mem_map.mp hm
    have hb : y ∈ blockAt inside order j := mem_blockAt.mpr ⟨hp,hi⟩
    exact ⟨_,mem_blocks.mpr ⟨ne_nil_of_mem hb,j,hk _ hp,rfl⟩,hb⟩

section
variable [DecidableEq U]

def pos (order : List (U × Nat)) (x : U) : Nat := (order.map Prod.fst).idxOf x

def phase (order : List (U × Nat)) (x : U) : Nat := ((order[pos order x]?).map Prod.snd).getD 0

theorem pos_phase (h : PhasedOrder edge inside order) (hi : i < order.length) :
    pos order order[i].1 = i ∧ phase order order[i].1 = order[i].2 := by
  have hp : pos order order[i].1 = i := by
    have hi' : i < (order.map Prod.fst).length := by simpa using hi
    have := h.nodup.idxOf_getElem i hi'
    simpa [pos] using this
  refine ⟨hp,?_⟩
  simp [phase,hp,List.getElem?_eq_getElem hi]

theorem phase_of_mem (h : PhasedOrder edge inside order) (hx : (x,j) ∈ order) : phase order x = j := by
  obtain ⟨i,hi,he⟩ := mem_iff_getElem.mp hx
  have := (h.pos_phase hi).2
  rwa [he] at this

theorem mem_phase (h : PhasedOrder edge inside order) (hx : x ∈ order.map Prod.fst) :
    (x,phase order x) ∈ order := by
  obtain ⟨⟨y,j⟩,hp,rfl⟩ := mem_map.mp hx
  rwa [h.phase_of_mem hp]

theorem edge_forward (h : PhasedOrder edge inside order) {y : U} (he : edge x y) (hx : x ∈ order.map Prod.fst)
    (hy : y ∈ order.map Prod.fst) :
    pos order x < pos order y ∧ phase order x ≤ phase order y ∧
      (inside x = true → inside y = false → phase order x < phase order y) := by
  obtain ⟨p,hp,rfl⟩ := mem_map.mp hx
  obtain ⟨q,hq,rfl⟩ := mem_map.mp hy
  obtain ⟨i,hi,rfl⟩ := mem_iff_getElem.mp hp
  obtain ⟨j,hj,rfl⟩ := mem_iff_getElem.mp hq
  rw [(h.pos_phase hi).1,(h.pos_phase hj).1,(h.pos_phase hi).2,(h.pos_phase hj).2]
  have hij : i < j := by
    rcases Nat.lt_trichotomy i j with hlt | heq | hgt
    · exact hlt
    · subst heq
      exact absurd he (h.irrefl _ hp)
    · exact absurd he (pairwise_iff_getElem.mp h.forward j i hj hi hgt)
  exact ⟨hij,pairwise_iff_getElem.mp h.mono i j hi hj hij,
    fun hix hiy => pairwise_iff_getElem.mp h.strict i j hi hj hij hix hiy he⟩

theorem acyclic_of_cover (h : PhasedOrder edge inside order)
    (hc : ∀ x y, edge x y → x ∈ order.map Prod.fst ∧ y ∈ order.map Prod.fst) : Acyclic edge :=
  acyclic_of_rank (pos order) fun x y he => (h.edge_forward he (hc x y he).1 (hc x y he).2).1

theorem vertex_outside (hx : inside x = false) : vertex (blocks inside order k) x = .inr x := by
  have hn : (blocks inside order k).findIdx? (fun b => decide (x ∈ b)) = none := by
    rw [List.findIdx?_eq_none_iff]
    intro b hb
    obtain ⟨_,j,_,rfl⟩ := mem_blocks.mp hb
    have hnot : x ∉ blockAt inside order j := by
      intro hm
      rw [(mem_blockAt.mp hm).2] at hx
      exact Bool.noConfusion hx
    simpa using hnot
  simp [vertex,hn]

theorem mem_block_iff (h : PhasedOrder edge inside order) (hx : x ∈ order.map Prod.fst) (hi : inside x = true)
    (hb : b ∈ blocks inside order k) : x ∈ b ↔ b = blockAt inside order (phase order x) := by
  obtain ⟨_,j,_,rfl⟩ := mem_blocks.mp hb
  constructor
  · intro hxb
    rw [h.phase_of_mem (mem_blockAt.mp hxb).1]
  · intro he
    rw [he]
    exact mem_blockAt.mpr ⟨h.mem_phase hx,hi⟩

theorem vertex_inside (h : PhasedOrder edge inside order) (hk : ∀ p ∈ order, p.2 < k)
    (hx : x ∈ order.map Prod.fst) (hi : inside x = true) :
    ∃ i, vertex (blocks inside order k) x = .inl i ∧
      (blocks inside order k)[i]? = some (blockAt inside order (phase order x)) := by
  cases hf : (blocks inside order k).findIdx? (fun b => decide (x ∈ b)) with
  | none =>
    rw [List.findIdx?_eq_none_iff] at hf
    obtain ⟨b,hb,hxb⟩ := mem_flatten.mp ((mem_flatten_blocks hk).mpr ⟨hx,hi⟩)
    exact absurd hxb (by simpa using hf b hb)
  | some i =>
    obtain ⟨hlt,hxi,_⟩ := List.findIdx?_eq_some_iff_getElem.mp hf
    refine ⟨i,by simp [vertex,hf],?_⟩
    rw [List.getElem?_eq_getElem hlt]
    exact congrArg some ((h.mem_block_iff hx hi (getElem_mem hlt)).mp (by simpa using hxi))

theorem vertex_same_phase (h : PhasedOrder edge inside order) {y : U} (hx : x ∈ order.map Prod.fst)
    (hy : y ∈ order.map Prod.fst) (hix : inside x = true) (hiy : inside y = true)
    (hxy : phase order x = phase order y) (hk : ∀ p ∈ order, p.2 < k) :
    vertex (blocks inside order k) x = vertex (blocks inside order k) y := by
  have hsame : (blocks inside order k).findIdx? (fun b => decide (x ∈ b)) =
      (blocks inside order k).findIdx? (fun b => decide (y ∈ b)) := by
    apply findIdx?_congr
    intro b hb
    rw [decide_eq_decide,h.mem_block_iff hx hix hb,h.mem_block_iff hy hiy hb,hxy]
  obtain ⟨i,hi,_⟩ := h.vertex_inside hk hy hiy
  unfold vertex at hi ⊢
  rw [hsame]
  split at hi
  · rfl
  · cases hi

def rank (groups : List (List U)) (order : List (U × Nat)) : Nat ⊕ U → Nat
  | .inl i => ((groups[i]?.bind List.head?).map (phase order)).getD 0 * (order.length+1) +
      order.length
  | .inr x => phase order x * (order.length+1) + pos order x

theorem rank_inside (h : PhasedOrder edge inside order) (hk : ∀ p ∈ order, p.2 < k)
    (hx : x ∈ order.map Prod.fst) (hi : inside x = true) :
    rank (blocks inside order k) order (vertex (blocks inside order k) x) =
      phase order x * (order.length+1) + order.length := by
  obtain ⟨i,hv,hb⟩ := h.vertex_inside hk hx hi
  have hmem : x ∈ blockAt inside order (phase order x) := mem_blockAt.mpr ⟨h.mem_phase hx,hi⟩
  cases hc : blockAt inside order (phase order x) with
  | nil => rw [hc] at hmem; exact absurd hmem not_mem_nil
  | cons y ys =>
    have hy : y ∈ blockAt inside order (phase order x) := by rw [hc]; exact mem_cons_self
    have hp : phase order y = phase order x := h.phase_of_mem (mem_blockAt.mp hy).1
    simp [rank,hv,hb,hc,hp]

theorem pos_lt (hx : x ∈ order.map Prod.fst) : pos order x < order.length := by
  have := idxOf_lt_length_iff.mpr hx
  simpa [pos] using this

theorem lex_lt {p q a b n : Nat} (hpq : p < q) (ha : a ≤ n) : p * (n+1) + a < q * (n+1) + b := by
  have hm : (p+1) * (n+1) ≤ q * (n+1) := Nat.mul_le_mul_right _ hpq
  rw [Nat.add_mul] at hm
  omega

theorem lex_le {p q a b n : Nat} (hpq : p ≤ q) (hab : a < b) : p * (n+1) + a < q * (n+1) + b := by
  have hm : p * (n+1) ≤ q * (n+1) := Nat.mul_le_mul_right _ hpq
  omega

theorem contracted_rank (h : PhasedOrder edge inside order) (hk : ∀ p ∈ order, p.2 < k)
    (hc : ∀ x y, edge x y → x ∈ order.map Prod.fst ∧ y ∈ order.map Prod.fst) {a b : Nat ⊕ U}
    (hab : contracted edge (blocks inside order k) a b) :
    rank (blocks inside order k) order a < rank (blocks inside order k) order b := by
  obtain ⟨hne,x,y,he,rfl,rfl⟩ := hab
  obtain ⟨hx,hy⟩ := hc x y he
  obtain ⟨hpos,hphase,hstrict⟩ := h.edge_forward he hx hy
  have hpx := pos_lt hx
  have hpy := pos_lt hy
  cases hix : inside x <;> cases hiy : inside y
  · rw [vertex_outside hix,vertex_outside hiy]
    exact lex_le hphase hpos
  · rw [vertex_outside hix,h.rank_inside hk hy hiy]
    exact lex_le hphase hpx
  · rw [h.rank_inside hk hx hix,vertex_outside hiy]
    exact lex_lt (hstrict hix hiy) le_rfl
  · rw [h.rank_inside hk hx hix,h.rank_inside hk hy hiy]
    have hlt : phase order x < phase order y := by
      refine Nat.lt_of_le_of_ne hphase ?_
      intro heq
      exact hne (h.vertex_same_phase hx hy hix hiy heq hk)
    exact lex_lt hlt le_rfl

theorem contracted_acyclic (h : PhasedOrder edge inside order) (hk : ∀ p ∈ order, p.2 < k)
    (hc : ∀ x y, edge x y → x ∈ order.map Prod.fst ∧ y ∈ order.map Prod.fst) :
    Acyclic (contracted edge (blocks inside order k)) :=
  acyclic_of_rank (rank (blocks inside order k) order) fun _ _ hab => h.contracted_rank hk hc hab

end

section
variable {N : Type} {nodeEdge : N → N → Prop} {nodeInside : N → Bool} (members : U → List N)

def expand (order : List (U × Nat)) : List (N × Nat) :=
  order.flatMap fun p => (members p.1).map fun x => (x,p.2)

theorem expand_fst (order : List (U × Nat)) :
    (expand members order).map Prod.fst = (order.map Prod.fst).flatMap members := by
  simp [expand,map_flatMap,flatMap_map,Function.comp_def]

theorem blockAt_expand (order : List (U × Nat)) (j : Nat)
    (hin : ∀ p ∈ order, ∀ x ∈ members p.1, nodeInside x = inside p.1) :
    blockAt nodeInside (expand members order) j = (blockAt inside order j).flatMap members := by
  induction order with
  | nil => rfl
  | cons p order ih =>
    have ht := ih fun q hq => hin q (mem_cons_of_mem _ hq)
    have hcons : expand members (p :: order) =
        (members p.1).map (fun x => (x,p.2)) ++ expand members order := by
      simp [expand]
    have hhead : blockAt nodeInside ((members p.1).map fun x => (x,p.2)) j =
        if inside p.1 && p.2 == j then members p.1 else [] := by
      have hall : ∀ x ∈ members p.1, (nodeInside x && p.2 == j) = (inside p.1 && p.2 == j) := by
        intro x hx
        rw [hin p mem_cons_self x hx]
      unfold blockAt
      rw [filter_map,map_map]
      have hf : (members p.1).filter ((fun q : N × Nat => nodeInside q.1 && q.2 == j) ∘
          fun x => (x,p.2)) = (members p.1).filter fun _ => inside p.1 && p.2 == j :=
        filter_congr hall
      rw [hf]
      cases inside p.1 && p.2 == j <;> simp [Function.comp_def]
    have happ : blockAt nodeInside (expand members (p :: order)) j =
        blockAt nodeInside ((members p.1).map fun x => (x,p.2)) j ++
          blockAt nodeInside (expand members order) j := by
      simp [hcons,blockAt]
    rw [happ,hhead,ht]
    unfold blockAt
    rw [filter_cons]
    split <;> simp

theorem expand_phased (h : PhasedOrder edge inside order)
    (hnd : ((order.map Prod.fst).flatMap members).Nodup)
    (hin : ∀ p ∈ order, ∀ x ∈ members p.1, nodeInside x = inside p.1)
    (hself : ∀ p ∈ order, ∀ x ∈ members p.1, ¬nodeEdge x x)
    (hfwd : ∀ p ∈ order, (members p.1).Pairwise fun x y => ¬nodeEdge y x)
    (hedge : ∀ p ∈ order, ∀ q ∈ order, p.1 ≠ q.1 → ∀ x ∈ members p.1, ∀ y ∈ members q.1,
      nodeEdge x y → edge p.1 q.1) :
    PhasedOrder nodeEdge nodeInside (expand members order) := by
  have hdist : order.Pairwise fun p q => p.1 ≠ q.1 := pairwise_map.mp h.nodup
  have hmem {z : N × Nat} {p : U × Nat} (hz : z ∈ (members p.1).map fun x => (x,p.2)) :
      z.1 ∈ members p.1 ∧ z.2 = p.2 := by
    obtain ⟨x,hx,rfl⟩ := mem_map.mp hz
    exact ⟨hx,rfl⟩
  have lift {R : U × Nat → U × Nat → Prop} {S : N × Nat → N × Nat → Prop}
      (hR : order.Pairwise R)
      (hw : ∀ p ∈ order, (members p.1).Pairwise fun x y => S (x,p.2) (y,p.2))
      (hb : ∀ p ∈ order, ∀ q ∈ order, p.1 ≠ q.1 → R p q → ∀ x ∈ members p.1,
        ∀ y ∈ members q.1, S (x,p.2) (y,q.2)) : (expand members order).Pairwise S := by
    unfold expand
    refine pairwise_flatMap.mpr ⟨?_,?_⟩
    · intro p hp
      exact pairwise_map.mpr (hw p hp)
    · refine (List.Pairwise.and hdist hR).imp_of_mem ?_
      intro p q hp hq hpq z hz w hw'
      obtain ⟨hz1,hz2⟩ := hmem hz
      obtain ⟨hw1,hw2⟩ := hmem hw'
      have := hb p hp q hq hpq.1 hpq.2 z.1 hz1 w.1 hw1
      rwa [← hz2,← hw2] at this
  refine ⟨by rwa [expand_fst],?_,?_,?_,?_⟩
  · intro z hz
    obtain ⟨p,hp,hzp⟩ := mem_flatMap.mp hz
    exact hself p hp z.1 (hmem hzp).1
  · refine lift h.mono ?_ ?_
    · intro p _
      exact pairwise_of_forall fun _ _ => Nat.le_refl _
    · intro p _ q _ _ hpq _ _ _ _
      exact hpq
  · refine lift h.forward hfwd ?_
    intro p hp q hq hne hpq x hx y hy hyx
    exact hpq (hedge q hq p hp hne.symm y hy x hx hyx)
  · refine lift h.strict ?_ ?_
    · intro p hp
      refine (hfwd p hp).imp_of_mem ?_
      intro x y hx hy _ hix hiy
      rw [hin p hp x hx] at hix
      rw [hin p hp y hy,hix] at hiy
      cases hiy
    · intro p hp q hq hne hpq x hx y hy hix hiy hxy
      rw [hin p hp x hx] at hix
      rw [hin q hq y hy] at hiy
      exact hpq hix hiy (hedge p hp q hq hne x hx y hy hxy)

end
end PhasedOrder
end QnnEp.Phased
