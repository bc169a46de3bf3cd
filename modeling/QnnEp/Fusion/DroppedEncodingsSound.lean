import QnnEp.Fusion.DroppedEncodings

namespace QnnEp.DroppedEncodings
open List NodeGroup Ort Qdq Rounding Status
variable {p : OrtNodeUnit → Prop} {n dq q : NodeId} {u : OrtNodeUnit}

section
variable {g : QdqGraph Binary32} {u : OrtNodeUnit}

theorem foldl_addSingleNode_units {ns : List NodeId} {s : List OrtNodeUnit × QdqGraph.NodeUnitMap}
    (hsingle : ∀ n, p (QdqGraph.singleNode n)) (hlist : ∀ u ∈ s.1, p u) (hmap : ∀ n u, s.2 n = some u → p u) :
    (∀ u ∈ (ns.foldl QdqGraph.addSingleNode s).1, p u) ∧
      ∀ n u, (ns.foldl QdqGraph.addSingleNode s).2 n = some u → p u := by
  induction ns generalizing s with
  | nil => exact ⟨hlist,hmap⟩
  | cons n ns ih =>
    rw [foldl_cons]
    unfold QdqGraph.addSingleNode
    split
    · exact ih hlist hmap
    · refine ih ?_ ?_
      · intro u hu
        rcases mem_append.mp hu with hu | hu
        · exact hlist u hu
        · rw [mem_singleton.mp hu]
          exact hsingle n
      · intro k u hu
        change Function.update s.2 n (some (QdqGraph.singleNode n)) k = some u at hu
        by_cases hk : k = n
        · subst hk
          rw [Function.update_self] at hu
          rw [← Option.some.inj hu]
          exact hsingle k
        · rw [Function.update_of_ne hk] at hu
          exact hmap k u hu

theorem foldl_addSelection_mem {ss : List OrtNodeUnit} {m : QdqGraph.NodeUnitMap} (hss : ∀ s ∈ ss, p s)
    (hm : ∀ n u, m n = some u → p u) : ∀ n u, ss.foldl QdqGraph.addSelection m n = some u → p u := by
  induction ss generalizing m with
  | nil => exact hm
  | cons s ss ih =>
    refine ih (fun t ht => hss t (mem_cons_of_mem s ht)) ?_
    intro n u hu
    rw [QdqGraph.addSelection_apply] at hu
    split at hu
    · rw [← Option.some.inj hu]
      exact hss s mem_cons_self
    · exact hm n u hu

structure Formed (g : QdqGraph Binary32) (u : OrtNodeUnit) : Prop where
  grouped : u.unitType = .QDQGroup → g.selectNode u.targetNode = some u
  single : u.unitType = .SingleNode → u.dqNodes = [] ∧ u.qNodes = []

theorem selectNode_target (h : g.selectNode n = some u) : u.targetNode = n ∧ u.unitType = .QDQGroup := by
  unfold QdqGraph.selectNode at h
  split at h
  · cases h
  · obtain ⟨⟨versions,selector⟩,_,h⟩ := Option.bind_eq_some_iff.mp h
    dsimp only at h
    split at h
    · cases h
    · unfold QdqGraph.getOrtQDQSelection at h
      dsimp only at h
      split at h
      · cases h
      · cases h
        exact ⟨rfl,rfl⟩

theorem formed_of_select (h : g.selectNode n = some u) : Formed g u := by
  obtain ⟨htarget,hgroup⟩ := selectNode_target h
  refine ⟨fun _ => htarget.symm ▸ h,fun hsingle => ?_⟩
  rw [hgroup] at hsingle
  cases hsingle

theorem formed_units : (∀ u ∈ g.getAllOrtNodeUnits.1, Formed g u) ∧
    ∀ n u, g.getAllOrtNodeUnits.2 n = some u → Formed g u := by
  have hselected : ∀ u ∈ g.getOrtQDQSelections, Formed g u := by
    intro u hu
    obtain ⟨n,_,hn⟩ := mem_filterMap.mp hu
    exact formed_of_select hn
  refine foldl_addSingleNode_units (fun n => ⟨fun h => (by cases h),fun _ => ⟨rfl,rfl⟩⟩) hselected ?_
  exact foldl_addSelection_mem hselected fun _ _ h => (by cases h)

theorem findSelector_transpose : findSelector "Transpose" = some ([],.dropQDQ true) := by decide

theorem findSelector_reshape : findSelector "Reshape" = some ([],.dropQDQ true) := by decide

def Moves (g : QdqGraph Binary32) (u : OrtNodeUnit) : Prop :=
  g.operatorType u.targetNode = "Transpose" ∨ g.operatorType u.targetNode = "Reshape"

theorem selection_of_moves (hmoves : Moves g u) (h : g.selectNode u.targetNode = some u) :
    g.getOrtQDQSelection u.targetNode (.dropQDQ true) = some u := by
  have hselector : findSelector (g.operatorType u.targetNode) = some ([],.dropQDQ true) := by
    rcases hmoves with hop | hop
    · rw [hop,findSelector_transpose]
    · rw [hop,findSelector_reshape]
  unfold QdqGraph.selectNode at h
  split at h
  · cases h
  · rw [hselector] at h
    exact h

theorem pair_of_moves (hmoves : Moves g u) (h : g.selectNode u.targetNode = some u) :
    ∃ dq q, u.dqNodes = [dq] ∧ u.qNodes.head? = some q ∧ g.isQDQPairSupported q dq = true := by
  have hselection := selection_of_moves hmoves h
  unfold QdqGraph.getOrtQDQSelection at hselection
  dsimp only at hselection
  split at hselection
  · cases hselection
  · next hcheck =>
    rw [Bool.not_eq_true,Bool.not_eq_false'] at hcheck
    obtain ⟨dq,q,hdq,hq,hpair⟩ := QdqGraph.check_dropsPair (.dropQDQ true) hcheck
    have hu := Option.some.inj hselection
    exact ⟨dq,q,hu ▸ hdq,hu ▸ hq,hpair⟩

end

section
variable {g : QdqGraph Binary32} {run : g.NamedRuntime} {a b c : NodeId}

theorem SameParams.refl (a : NodeId) : SameParams g run a a :=
  ⟨rfl,fun _ => ⟨rfl,rfl⟩,fun _ _ => rfl,fun _ _ => rfl⟩

theorem SameParams.symm (h : SameParams g run a b) : SameParams g run b a := by
  refine ⟨h.sizes.symm,fun hsize => ?_,fun k hk => ?_,fun k hk => ?_⟩
  · obtain ⟨haxis,hblock⟩ := h.layout (h.sizes ▸ hsize)
    exact ⟨haxis.symm,hblock.symm⟩
  · exact (h.scales k (h.sizes ▸ hk)).symm
  · exact (h.zeroPoints k (h.sizes ▸ hk)).symm

theorem SameParams.trans (h : SameParams g run a b) (h' : SameParams g run b c) : SameParams g run a c := by
  refine ⟨h'.sizes.trans h.sizes,fun hsize => ?_,fun k hk => ?_,fun k hk => ?_⟩
  · obtain ⟨haxis,hblock⟩ := h.layout hsize
    obtain ⟨haxis',hblock'⟩ := h'.layout (h.sizes.symm ▸ hsize)
    exact ⟨haxis.trans haxis',hblock.trans hblock'⟩
  · exact (h'.scales k hk).trans (h.scales k (h'.sizes ▸ hk))
  · exact (h'.zeroPoints k hk).trans (h.zeroPoints k (h'.sizes ▸ hk))

theorem SameParams.sameEncoding (h : SameParams g run a b) : g.SameEncoding run a b :=
  .of_equal h.sizes h.scales h.zeroPoints

theorem SameParams.of_sameEncoding (h : g.SameEncoding run a b) (hlayout : SameLayout g run a b) :
    SameParams g run a b := ⟨h.sizes,hlayout,h.scales,h.zeroPoints⟩

theorem chainTransparent_iff {units : List OrtNodeUnit} : ChainTransparent g run units ↔
    ∀ a ∈ units.flatMap quantizers, ∀ b ∈ units.flatMap quantizers, SameParams g run a b := by
  constructor
  · intro h a ha b hb
    exact .of_sameEncoding (h.encodings a ha b hb) (h.layouts a ha b hb)
  · intro h
    exact ⟨fun a ha b hb => (h a ha b hb).sameEncoding,fun a ha b hb => (h a ha b hb).layout⟩

end

section
variable {g : QdqGraph Binary32} {run : g.NamedRuntime} {units : List OrtNodeUnit}

theorem unitEqual_iff (hdq : u.dqNodes = [dq]) (hq : u.qNodes.head? = some q)
    (hpair : g.isQDQPairSupported q dq = true) : UnitEqual g run u ↔ SameParams g run dq q := by
  have hsame : g.SameEncoding run dq q ↔ g.UnreadEqual run u dq q := by
    refine QdqGraph.sameEncoding_iff fun _ => hpair
  have hdqs (d : NodeId) : d ∈ u.dqNodes ↔ d = dq := by rw [hdq,mem_singleton]
  have hqs (p : NodeId) : p ∈ u.qNodes.head? ↔ p = q := by
    rw [hq,Option.mem_some_iff,eq_comm]
  constructor
  · intro h
    have hunread := h.unread dq ((hdqs dq).mpr rfl) q ((hqs q).mpr rfl)
    exact .of_sameEncoding (hsame.mpr hunread) (h.layout dq ((hdqs dq).mpr rfl) q ((hqs q).mpr rfl))
  · intro h
    refine ⟨fun d hd p hp => ?_,fun d hd p hp => ?_⟩
    · rw [(hdqs d).mp hd,(hqs p).mp hp]
      exact hsame.mp h.sameEncoding
    · rw [(hdqs d).mp hd,(hqs p).mp hp]
      exact h.layout

theorem quantizers_single (hu : Formed g u) (hsingle : isQdq u = false) : quantizers u = [] := by
  have htype : u.unitType = .SingleNode := by
    cases hcase : u.unitType with
    | SingleNode => rfl
    | QDQGroup =>
      rw [isQdq,hcase] at hsingle
      cases hsingle
  obtain ⟨hdqs,hqs⟩ := hu.single htype
  rw [quantizers,hdqs,hqs]
  rfl

theorem quantizers_filter (hformed : ∀ u ∈ units, Formed g u) :
    (units.filter isQdq).flatMap quantizers = units.flatMap quantizers := by
  induction units with
  | nil => rfl
  | cons u units ih =>
    have hrest := ih fun v hv => hformed v (mem_cons_of_mem u hv)
    cases hcase : isQdq u with
    | true => rw [filter_cons_of_pos hcase,flatMap_cons,flatMap_cons,hrest]
    | false =>
      rw [filter_cons_of_neg (by rw [hcase]; decide),flatMap_cons,
        quantizers_single (hformed u mem_cons_self) hcase,nil_append,hrest]

def Groups (g : QdqGraph Binary32) (units : List OrtNodeUnit) : Prop :=
  ∀ u ∈ units, ∃ dq q, u.dqNodes = [dq] ∧ u.qNodes.head? = some q ∧ g.isQDQPairSupported q dq = true

theorem groups_filter (hformed : ∀ u ∈ units, Formed g u) (hmoves : ∀ u ∈ units, Moves g u) :
    Groups g (units.filter isQdq) := by
  intro u hu
  obtain ⟨hu,hqdq⟩ := mem_filter.mp hu
  exact pair_of_moves (hmoves u hu) ((hformed u hu).grouped (eq_of_beq hqdq))

theorem head_sameParams (hgroups : Groups g (u :: units)) (hdq : u.dqNodes = [dq])
    (hwithin : ∀ v ∈ u :: units, UnitEqual g run v) (hbetween : (u :: units).IsChain (EdgeEqual g run)) :
    ∀ a ∈ (u :: units).flatMap quantizers, SameParams g run dq a := by
  induction units generalizing u dq with
  | nil =>
    obtain ⟨dq',q,hdq',hq,hpair⟩ := hgroups u mem_cons_self
    obtain rfl : dq = dq' := List.cons.inj (hdq.symm.trans hdq') |>.1
    have hunit := (unitEqual_iff hdq hq hpair).mp (hwithin u mem_cons_self)
    intro a ha
    rw [flatMap_cons,flatMap_nil,append_nil,quantizers,hdq,hq] at ha
    rcases mem_cons.mp ha with rfl | ha
    · exact .refl a
    · rw [mem_singleton.mp ha]
      exact hunit
  | cons v units ih =>
    obtain ⟨dq',q,hdq',hq,hpair⟩ := hgroups u mem_cons_self
    obtain rfl : dq = dq' := List.cons.inj (hdq.symm.trans hdq') |>.1
    have hunit := (unitEqual_iff hdq hq hpair).mp (hwithin u mem_cons_self)
    obtain ⟨hedge,hrest⟩ := isChain_cons_cons.mp hbetween
    obtain ⟨next,_,hnext,_,_⟩ := hgroups v (mem_cons_of_mem u mem_cons_self)
    have hstep : SameParams g run q next :=
      hedge q (by rw [hq]; rfl) next (by rw [hnext]; exact mem_cons_self)
    have htail := ih (fun w hw => hgroups w (mem_cons_of_mem u hw)) hnext
      (fun w hw => hwithin w (mem_cons_of_mem u hw)) hrest
    intro a ha
    rw [flatMap_cons,quantizers,hdq,hq] at ha
    rcases mem_append.mp ha with ha | ha
    · rcases mem_cons.mp ha with rfl | ha
      · exact .refl a
      · rw [mem_singleton.mp ha]
        exact hunit
    · exact (hunit.trans hstep).trans (htail a ha)

theorem sameParams_of_shared (hgroups : Groups g units) (hwithin : ∀ v ∈ units, UnitEqual g run v)
    (hbetween : units.IsChain (EdgeEqual g run)) :
    ∀ a ∈ units.flatMap quantizers, ∀ b ∈ units.flatMap quantizers, SameParams g run a b := by
  cases units with
  | nil => exact fun a ha => absurd ha not_mem_nil
  | cons u units =>
    obtain ⟨dq,_,hdq,_,_⟩ := hgroups u mem_cons_self
    have hall := head_sameParams hgroups hdq hwithin hbetween
    exact fun a ha b hb => (hall a ha).symm.trans (hall b hb)

theorem mem_quantizers_dq (hu : u ∈ units) (h : dq ∈ u.dqNodes) : dq ∈ units.flatMap quantizers :=
  mem_flatMap.mpr ⟨u,hu,mem_append_left _ h⟩

theorem mem_quantizers_q (hu : u ∈ units) (h : q ∈ u.qNodes.head?) : q ∈ units.flatMap quantizers :=
  mem_flatMap.mpr ⟨u,hu,mem_append_right _ (Option.mem_toList.mpr h)⟩

theorem isChain_of_mem {R : OrtNodeUnit → OrtNodeUnit → Prop} {us : List OrtNodeUnit}
    (h : ∀ u ∈ us, ∀ v ∈ us, R u v) : us.IsChain R := by
  induction us with
  | nil => exact .nil
  | cons u us ih =>
    have hrest := ih fun v hv w hw => h v (mem_cons_of_mem u hv) w (mem_cons_of_mem u hw)
    cases us with
    | nil => exact .singleton u
    | cons v us =>
      exact isChain_cons_cons.mpr
        ⟨h u mem_cons_self v (mem_cons_of_mem u mem_cons_self),hrest⟩

theorem chainTransparent_shared (hformed : ∀ u ∈ units, Formed g u) (hmoves : ∀ u ∈ units, Moves g u) :
    ChainTransparent g run units ↔ ParamsShared g run units := by
  rw [chainTransparent_iff]
  constructor
  · intro h
    refine ⟨fun u hu => ⟨fun dq hdq q hq => ?_,fun dq hdq q hq => ?_⟩,isChain_of_mem ?_⟩
    · have hsame := h dq (mem_quantizers_dq hu hdq) q (mem_quantizers_q hu hq)
      exact ⟨fun _ => hsame.sizes,fun _ c hc _ => hsame.scales c hc,hsame.zeroPoints⟩
    · exact (h dq (mem_quantizers_dq hu hdq) q (mem_quantizers_q hu hq)).layout
    · intro u hu v hv q hq dq hdq
      exact h q (mem_quantizers_q (mem_of_mem_filter hu) hq) dq
        (mem_quantizers_dq (mem_of_mem_filter hv) hdq)
  · intro h
    rw [← quantizers_filter hformed]
    exact sameParams_of_shared (groups_filter hformed hmoves)
      (fun v hv => h.within v (mem_of_mem_filter hv)) h.between

end

section
variable {m : MoveGraph} {units : List OrtNodeUnit}

theorem child_formed {parent : OrtNodeUnit} {op : String}
    (h : m.env.getChildNodeUnitAllowQdq parent op = some u) : Formed m.graph u := by
  obtain ⟨v,_,h⟩ := Option.bind_eq_some_iff.mp h
  split at h
  · cases h
  · obtain ⟨potential,_,h⟩ := Option.bind_eq_some_iff.mp h
    obtain ⟨child,_,h⟩ := Option.bind_eq_some_iff.mp h
    split at h
    · exact formed_units.2 child u (Option.filter_eq_some_iff.mp h).1
    · cases h

theorem head_formed {reshape1 : OrtNodeUnit} (h : m.headOf reshape1 = some u) : Formed m.graph u := by
  obtain ⟨h,_⟩ := Option.filter_eq_some_iff.mp h
  obtain ⟨v,_,h⟩ := Option.bind_eq_some_iff.mp h
  have hproducer := FusionEnv.getParentOfInput_spec h
  obtain ⟨parent,_,h⟩ := Option.bind_eq_some_iff.mp hproducer
  split at h
  · cases h
  · exact formed_units.2 parent u (Option.filter_eq_some_iff.mp h).1

theorem accepts_formed (h : m.Accepts units) : ∀ u ∈ units, Formed m.graph u := by
  cases h with
  | transposeReshapeTranspose hstart h =>
    unfold MoveGraph.fuseTransposeReshapeTranspose at h
    obtain ⟨_,h⟩ := guard_bind_some.mp h
    obtain ⟨reshape,hreshape,h⟩ := Option.bind_eq_some_iff.mp h
    obtain ⟨transpose2,htranspose,h⟩ := Option.bind_eq_some_iff.mp h
    obtain ⟨_,_,h⟩ := Option.bind_eq_some_iff.mp h
    obtain ⟨_,h⟩ := guard_bind_some.mp h
    obtain ⟨_,_,h⟩ := Option.bind_eq_some_iff.mp h
    obtain rfl := Option.some.inj h
    intro u hu
    simp only [mem_cons,not_mem_nil,or_false] at hu
    rcases hu with rfl | rfl | rfl
    · exact formed_units.1 u hstart
    · exact child_formed hreshape
    · exact child_formed htranspose
  | spaceToDepth hstart h =>
    unfold MoveGraph.fuseSpaceToDepth at h
    obtain ⟨_,h⟩ := guard_bind_some.mp h
    obtain ⟨transpose,htranspose,h⟩ := Option.bind_eq_some_iff.mp h
    obtain ⟨reshape2,hreshape,h⟩ := Option.bind_eq_some_iff.mp h
    obtain ⟨_,_,h⟩ := Option.bind_eq_some_iff.mp h
    obtain rfl := Option.some.inj h
    intro u hu
    simp only [mem_append,mem_cons,not_mem_nil,or_false,Option.mem_toList,
      Option.filter_eq_some_iff] at hu
    rcases hu with (⟨hhead,_⟩ | rfl | rfl | rfl) | ⟨htail,_⟩
    · exact head_formed hhead
    · exact formed_units.1 u hstart
    · exact child_formed htranspose
    · exact child_formed hreshape
    · exact child_formed htail

theorem dropped_encodings_shared_iff (run : m.graph.NamedRuntime) (h : m.Accepts units)
    (hmoves : ∀ u ∈ units, Moves m.graph u) :
    ChainTransparent m.graph run units ↔ ParamsShared m.graph run units :=
  chainTransparent_shared (accepts_formed h) hmoves

end

def moveRows (zeroPoint : ValueId) : List QdqRow := [
  ⟨⟨0,[some 0,some 1,some 2],[some 3]⟩,"DequantizeLinear"⟩,
  ⟨⟨1,[some 3],[some 4]⟩,"Transpose"⟩,
  ⟨⟨2,[some 4,some 1,some 2],[some 5]⟩,"QuantizeLinear"⟩,
  ⟨⟨3,[some 5,some 1,some zeroPoint],[some 6]⟩,"DequantizeLinear"⟩,
  ⟨⟨4,[some 6,some 12],[some 7]⟩,"Reshape"⟩,
  ⟨⟨5,[some 7,some 1,some zeroPoint],[some 8]⟩,"QuantizeLinear"⟩,
  ⟨⟨6,[some 8,some 1,some 2],[some 9]⟩,"DequantizeLinear"⟩,
  ⟨⟨7,[some 9],[some 10]⟩,"Transpose"⟩,
  ⟨⟨8,[some 10,some 1,some 2],[some 11]⟩,"QuantizeLinear"⟩]

def moveValue (v : ValueId) : ValueInfo where
  name := ["input","scale","zero_point","real0","real1","byte1","real2","real3","byte3","real4","real5",
    "output","target_shape","shifted_zero_point"].getD v "absent"
  elemType := if v ∈ [0,2,5,8,11,13] then some .uint8 else if v = 12 then some .int64 else some .float
  shape := some (if v ∈ [1,2,13] then [] else if v = 12 then [1] else if v ≤ 6 then [2,3] else [6])
  isGraphOutput := v == 11
  isConstantInitializer := v ∈ [1,2,12,13]

def moveInitializer (name : String) : Option (Initializer Binary32) :=
  if name = "scale" then some ⟨.float,0,.ofInt 1,.ofInt 1,1⟩
  else if name = "zero_point" then some ⟨.uint8,0,.ofInt 0,.ofInt 0,0⟩
  else if name = "shifted_zero_point" then some ⟨.uint8,0,.ofInt 0,.ofInt 0,10⟩
  else if name = "target_shape" then some ⟨.int64,1,.ofInt 0,.ofInt 0,6⟩
  else none

def movePerm (n : NodeId) : Option (List Int) := if n = 1 then some [0,1] else if n = 7 then some [0] else none

def moveGraph (zeroPoint : ValueId) : MoveGraph where
  graph := { (QdqGraph.ofRows (moveRows zeroPoint)).mapFloat Binary32.ofInt with
    value := moveValue, constantInitializer := moveInitializer }
  claimed _ := none
  perm := movePerm
  isCpuBackend := false
  isPostLayoutTransform := true
  tensorStatus _ := .ok ()

def moveUnits : List OrtNodeUnit :=
  [⟨.QDQGroup,1,[0],[2],none,none⟩,⟨.QDQGroup,4,[3],[5],none,none⟩,⟨.QDQGroup,7,[6],[8],none,none⟩]

theorem moveValue_constant {v : ValueId} (h : (moveValue v).isConstantInitializer = true) :
    v = 1 ∨ v = 2 ∨ v = 12 ∨ v = 13 := by
  simpa [moveValue] using h

theorem moveInitializer_saturation {name : String} {stored : Initializer Binary32} {r : Int × Int}
    (h : moveInitializer name = some stored) (hr : saturation stored.elemType = some r) : r = (0,255) := by
  unfold moveInitializer at h
  split_ifs at h <;> cases h <;> first | exact (Option.some.inj hr).symm | cases hr

def moveRun (zeroPoint : ValueId) : (moveGraph zeroPoint).graph.NamedRuntime where
  size _ := 1
  floats _ _ := 1
  ints v _ := if v = 13 then 10 else if v = 12 then 6 else if v = 1 then 1 else 0
  floats_constant := by
    intro v x hx
    rcases moveValue_constant (QdqGraph.constantFloat_constant hx) with rfl | rfl | rfl | rfl
    · have hone : (Binary32.ofInt 1).toRat? = some x := hx
      rw [Binary32.ofInt_of_lt (by norm_num)] at hone
      simpa [Binary32.toRat?] using hone
    · cases hx
    · cases hx
    · cases hx
  ints_constant := by
    intro v x hx
    rcases moveValue_constant (QdqGraph.constantInt_constant hx) with rfl | rfl | rfl | rfl
    all_goals exact Option.some.inj hx
  ints_typed := by
    intro v stored r hstored hr c
    rw [moveInitializer_saturation hstored hr]
    dsimp only
    split_ifs <;> decide
  named := fun _ _ _ => ⟨rfl,rfl⟩

theorem moveGraph_accepts {zeroPoint : ValueId} (h : zeroPoint = 2 ∨ zeroPoint = 13) :
    (moveGraph zeroPoint).Accepts moveUnits := by
  have hstart : (⟨.QDQGroup,1,[0],[2],none,none⟩ : OrtNodeUnit) ∈
      (moveGraph zeroPoint).graph.getAllOrtNodeUnits.1 := by
    rcases h with rfl | rfl
    · decide
    · decide
  refine .transposeReshapeTranspose hstart ?_
  rcases h with rfl | rfl
  · decide
  · decide

theorem moveUnits_moves (zeroPoint : ValueId) : ∀ u ∈ moveUnits, Moves (moveGraph zeroPoint).graph u := by
  intro u hu
  simp only [moveUnits,mem_cons,not_mem_nil,or_false] at hu
  rcases hu with rfl | rfl | rfl
  · exact .inl rfl
  · exact .inr rfl
  · exact .inl rfl

theorem moveGraph_params {a b : NodeId} (ha : a ∈ moveUnits.flatMap quantizers)
    (hb : b ∈ moveUnits.flatMap quantizers) : SameParams (moveGraph 2).graph (moveRun 2) a b := by
  have hquantizers : moveUnits.flatMap quantizers = [0,2,3,5,6,8] := rfl
  have hzero : ∀ n ∈ [0,2,3,5,6,8], (moveGraph 2).graph.zeroPointAt (moveRun 2) n = fun _ => 0 := by
    intro n hn
    simp only [mem_cons,not_mem_nil,or_false] at hn
    rcases hn with rfl | rfl | rfl | rfl | rfl | rfl <;> rfl
  rw [hquantizers] at ha hb
  exact ⟨rfl,fun h => absurd rfl h,fun _ _ => rfl,fun c _ => by rw [hzero a ha,hzero b hb]⟩

theorem dropped_encodings_same_zero_point :
    (moveGraph 2).Accepts moveUnits ∧ ParamsShared (moveGraph 2).graph (moveRun 2) moveUnits :=
  ⟨moveGraph_accepts (.inl rfl),
    (dropped_encodings_shared_iff (moveRun 2) (moveGraph_accepts (.inl rfl)) (moveUnits_moves 2)).mp
      (chainTransparent_iff.mpr fun _ ha _ hb => moveGraph_params ha hb)⟩

theorem dropped_zero_point_shifts :
    (moveGraph 13).Accepts moveUnits ∧ ¬ChainTransparent (moveGraph 13).graph (moveRun 13) moveUnits := by
  refine ⟨moveGraph_accepts (.inr rfl),?_⟩
  intro h
  have hzero := (h.encodings 0 (by decide) 3 (by decide)).zeroPoints 0 (by decide)
  revert hzero
  decide

end QnnEp.DroppedEncodings
