import QnnEp.Foundation.Blocks
import QnnEp.Foundation.Movement
import QnnEp.Foundation.Reading
import QnnEp.NodeGroup.Order

namespace QnnEp.NodeGroup
open Ort

def require (b : Bool) : Option Unit := if b then some () else none

@[simp] theorem require_eq_some {b : Bool} {x : Unit} : require b = some x ↔ b = true := by
  cases b <;> simp [require]

def output0 (env : FusionEnv) (u : OrtNodeUnit) : Option ValueId := (env.outputs u).head?.join

def isStandalone (env : FusionEnv) (op : String) (u : OrtNodeUnit) : Bool :=
  env.unitOpType u == op && u.unitType == .SingleNode

end QnnEp.NodeGroup

namespace QnnEp.ReshapeEinsumReshape
open NodeGroup Ort Partition Status Tensors

def kReshapeEinsumReshapeInputRank : Nat := 6

def kEinsumPerm6 : List Nat := [0,5,1,3,2,4]

structure ReshapeEinsumReshapeShapes where
  blockSize : List Nat
  reshapeInput : List Nat
  depthToSpaceOutput : List Nat
  postReshapeOutput : List Nat
  deriving DecidableEq, Repr

def mul32 (a b : Nat) : Nat := a * b % 2 ^ 32

def deriveReshapeEinsumReshapeShapes : List Nat → Option ReshapeEinsumReshapeShapes
  | [n,h,w,bh,bw,c] => some
    { blockSize := [bh,bw]
      reshapeInput := [n,h,w,mul32 (mul32 bh bw) c]
      depthToSpaceOutput := [n,mul32 h bh,mul32 w bw,c]
      postReshapeOutput := [n,c,mul32 h bh,mul32 w bw] }
  | _ => none

def splitArrow : List Char → Option (List Char × List Char)
  | [] => none
  | '-' :: '>' :: rest => some ([],rest)
  | c :: rest => (splitArrow rest).map fun p => (c :: p.1,p.2)

def isEquationEqualToTranspose (equation : List Char) (expectedRank : Nat) : Option (List Nat) := do
  let (lhs,rhs) ← splitArrow (equation.filter (· != ' '))
  require (!lhs.isEmpty && !rhs.isEmpty)
  require (!lhs.contains ',')
  require (lhs.length == expectedRank && rhs.length == expectedRank)
  require (decide rhs.Nodup)
  rhs.mapM fun c => lhs.idxOf? c

inductive SpaceNode where
  | reshape (output : List Nat)
  | depthToSpace (mode : DepthMode) (blockSize output : List Nat)
  | transpose (perm output : List Nat)
  deriving DecidableEq, Repr

def SpaceNode.output : SpaceNode → List Nat
  | .reshape output | .depthToSpace _ _ output | .transpose _ output => output

def createOrValidateOnQnn (preReshapeOutputShape postReshapeOutputShape : List Nat) :
    Option (List SpaceNode) := do
  let derivedShapes ← deriveReshapeEinsumReshapeShapes preReshapeOutputShape
  return [.reshape derivedShapes.reshapeInput,
    .depthToSpace .dcr derivedShapes.blockSize derivedShapes.depthToSpaceOutput,
    .transpose [0,3,1,2] postReshapeOutputShape]

def validateNodes (validateQnnNode : List Nat → SpaceNode → Bool) : List Nat → List SpaceNode → Bool
  | _, [] => true
  | input, node :: rest => validateQnnNode input node && validateNodes validateQnnNode node.output rest

section
variable (equation : NodeId → List Char) (validateQnnNode : List Nat → SpaceNode → Bool)

def tryFusion (env : FusionEnv) (einsum : OrtNodeUnit) : Option FusedNodeGroup := do
  require (isStandalone env "Einsum" einsum)
  require ((env.inputs einsum).length == 1)
  let perm ← isEquationEqualToTranspose (equation einsum.targetNode) kReshapeEinsumReshapeInputRank
  let input ← (env.inputs einsum).head?.join
  let preReshape ← env.getParentOfInputByName einsum input
  require (env.unitOpType preReshape == "Reshape")
  let preReshapeOutputShape ← (output0 env preReshape).bind env.shape
  let derivedShapes ← deriveReshapeEinsumReshapeShapes preReshapeOutputShape
  let output ← output0 env einsum
  let postReshape ← env.getOnlyChildOfOutput einsum output
  require (env.unitOpType postReshape == "Reshape")
  let postReshapeOutputShape ← (output0 env postReshape).bind env.shape
  require (perm == kEinsumPerm6 && postReshapeOutputShape == derivedShapes.postReshapeOutput)
  let inputShape ← (env.inputs preReshape).head?.join.bind env.shape
  let nodes ← createOrValidateOnQnn preReshapeOutputShape postReshapeOutputShape
  require (validateNodes validateQnnNode inputShape nodes)
  some ⟨[preReshape,einsum,postReshape],einsum⟩

end

def SpaceNode.WellFormed (input : List Nat) : SpaceNode → Prop
  | .reshape output => output.prod = input.prod
  | .depthToSpace _ blockSize output =>
    let bh := blockSize.getD 0 0
    let bw := blockSize.getD 1 0
    input.length = 4 ∧ 0 < bh ∧ 0 < bw ∧ bh * bw ∣ input.getD 3 0 ∧
      output = [input.getD 0 0,input.getD 1 0 * bh,input.getD 2 0 * bw,input.getD 3 0 / (bh * bw)]
  | .transpose perm output => perm.Perm (List.range input.length) ∧ output = gather perm input

instance (input : List Nat) : (node : SpaceNode) → Decidable (node.WellFormed input)
  | .reshape _ => inferInstanceAs (Decidable (_ = _))
  | .depthToSpace _ _ _ => inferInstanceAs (Decidable (_ ∧ _ ∧ _ ∧ _ ∧ _))
  | .transpose _ _ => inferInstanceAs (Decidable (_ ∧ _))

-- What the backend's op validation is documented to refuse: an op whose shapes do not fit it.
structure RefusesIllFormed (validateQnnNode : List Nat → SpaceNode → Bool) : Prop where
  wellFormed : ∀ input node, validateQnnNode input node = true → node.WellFormed input

def SpaceNode.run (node : SpaceNode) (t : Tensor ℚ) : Option (Tensor ℚ) := do
  guard (node.WellFormed t.shape)
  match node with
  | .reshape output => return t.reshape output
  | .depthToSpace mode blockSize _ =>
    return Tensors.depthToSpace mode (blockSize.getD 0 0) (blockSize.getD 1 0) t
  | .transpose perm _ => return t.transpose perm

def runNodes (nodes : List SpaceNode) (t : Tensor ℚ) : Option (Tensor ℚ) :=
  nodes.foldlM (fun u node => node.run u) t

def einsumOf (equation : List Char) (t : Tensor ℚ) : Option (Tensor ℚ) :=
  (splitArrow (equation.filter (· != ' '))).map fun terms => einsumTerm terms.1 terms.2 t

structure ReshapeHolds (values : ValueId → Tensor ℚ) (input output : ValueId) : Prop where
  value : values output = (values input).reshape (values output).shape
  count : (values output).shape.prod = (values input).shape.prod

structure ChainHolds (env : FusionEnv) (values : ValueId → Tensor ℚ) (equation : List Char)
    (preReshape einsum postReshape : OrtNodeUnit) (input : ValueId) (output : ValueId) : Prop where
  shapes : ∀ v dims, env.shape v = some dims → dims = (values v).shape
  postOutput : output0 env postReshape = some output
  chain : ∃ middle permuted, output0 env preReshape = some middle ∧ output0 env einsum = some permuted ∧
    ReshapeHolds values input middle ∧ einsumOf equation (values middle) = some (values permuted) ∧
    ReshapeHolds values permuted output

def emittedNodes (env : FusionEnv) (group : FusedNodeGroup) : Option (List SpaceNode) :=
  match group.nodeUnits with
  | [preReshape,_,postReshape] => do
    let preReshapeOutputShape ← (output0 env preReshape).bind env.shape
    let postReshapeOutputShape ← (output0 env postReshape).bind env.shape
    createOrValidateOnQnn preReshapeOutputShape postReshapeOutputShape
  | _ => none

section
variable {equation : List Char} {perm : List Nat} {t : Tensor ℚ}

theorem mapM_idxOf {lhs rhs : List Char} (h : rhs.mapM (fun c => lhs.idxOf? c) = some perm) :
    (∀ c ∈ rhs, c ∈ lhs) ∧ perm = rhs.map lhs.idxOf := by
  have hfound := Reading.mapM_some_forall₂ h
  clear h
  induction hfound with
  | nil => exact ⟨fun _ hc => absurd hc List.not_mem_nil,rfl⟩
  | @cons c k rhs perm hc _ ih =>
    have hmem : c ∈ lhs := List.isSome_idxOf?.mp (by rw [hc]; rfl)
    have hidx : k = lhs.idxOf c := by
      rw [List.idxOf_eq_getD_idxOf?,hc]
      rfl
    refine ⟨fun c' hc' => ?_,by rw [List.map_cons,hidx,ih.2]⟩
    rcases List.mem_cons.mp hc' with rfl | hc'
    · exact hmem
    · exact ih.1 c' hc'

theorem einsumOf_same_transpose {u : Tensor ℚ} (h : isEquationEqualToTranspose equation 6 = some perm)
    (ht : t.shape.length = 6) (hperm : perm.Perm (List.range 6)) (hu : einsumOf equation t = some u) :
    u.Same (t.transpose perm) := by
  unfold isEquationEqualToTranspose at h
  obtain ⟨⟨lhs,rhs⟩,hsplit,h⟩ := Option.bind_eq_some_iff.mp h
  obtain ⟨_,_,h⟩ := Option.bind_eq_some_iff.mp h
  obtain ⟨_,_,h⟩ := Option.bind_eq_some_iff.mp h
  obtain ⟨_,hlengths,h⟩ := Option.bind_eq_some_iff.mp h
  obtain ⟨_,hnodup,h⟩ := Option.bind_eq_some_iff.mp h
  obtain ⟨hmem,rfl⟩ := mapM_idxOf h
  have hlengths := require_eq_some.mp hlengths
  rw [Bool.and_eq_true,beq_iff_eq,beq_iff_eq] at hlengths
  rw [einsumOf,hsplit] at hu
  obtain rfl := Option.some.inj hu
  exact einsumTerm_same_transpose (of_decide_eq_true (require_eq_some.mp hnodup))
    (hlengths.2.trans hlengths.1.symm) hmem (ht.trans hlengths.1.symm) (ht.symm ▸ hperm)

end

section
variable {n h w bh bw c : Nat} {x : Tensor ℚ} {out : List Nat}

def WordSized (h w bh bw c : Nat) : Prop :=
  0 < bh ∧ 0 < bw ∧ bh * bw * c < 2 ^ 32 ∧ h * bh < 2 ^ 32 ∧ w * bw < 2 ^ 32

theorem mul32_eq_iff {a b : Nat} : mul32 a b = a * b ↔ a * b < 2 ^ 32 := by
  rw [mul32]
  exact ⟨fun heq => heq ▸ Nat.mod_lt _ (by decide),Nat.mod_eq_of_lt⟩

theorem depth32_eq (a b c : Nat) : mul32 (mul32 a b) c = a * b * c % 2 ^ 32 := by
  rw [mul32,mul32,Nat.mod_mul_mod]

def emitted (n h w bh bw c : Nat) (out : List Nat) : List SpaceNode :=
  [.reshape [n,h,w,mul32 (mul32 bh bw) c],.depthToSpace .dcr [bh,bw] [n,mul32 h bh,mul32 w bw,c],
    .transpose [0,3,1,2] out]

theorem runNodes_cons {node : SpaceNode} {nodes : List SpaceNode} {y : Tensor ℚ}
    (hnode : node.run x = some y) : runNodes (node :: nodes) x = runNodes nodes y := by
  rw [runNodes,List.foldlM_cons,hnode]
  rfl

theorem wordSized_of_wellFormed
    (hformed : (SpaceNode.depthToSpace .dcr [bh,bw] [n,mul32 h bh,mul32 w bw,c]).WellFormed
      [n,h,w,mul32 (mul32 bh bw) c]) : WordSized h w bh bw c := by
  obtain ⟨_,hbh,hbw,hdvd,hshape⟩ := hformed
  have hbh : 0 < bh := hbh
  have hbw : 0 < bw := hbw
  have hdvd : bh * bw ∣ mul32 (mul32 bh bw) c := hdvd
  have hshape : [n,mul32 h bh,mul32 w bw,c] = [n,h * bh,w * bw,mul32 (mul32 bh bw) c / (bh * bw)] := hshape
  simp only [List.cons.injEq,and_true,true_and] at hshape
  obtain ⟨hheight,hwidth,hchannels⟩ := hshape
  have hexact : mul32 (mul32 bh bw) c = bh * bw * c := by
    conv_rhs => rw [hchannels]
    exact (Nat.mul_div_cancel' hdvd).symm
  refine ⟨hbh,hbw,?_,mul32_eq_iff.mp hheight,mul32_eq_iff.mp hwidth⟩
  rw [← hexact,depth32_eq]
  exact Nat.mod_lt _ (by decide)

theorem run_of_wordSized (hword : WordSized h w bh bw c) (hx : x.shape.prod = [n,h,w,bh,bw,c].prod) :
    runNodes (emitted n h w bh bw c [n,c,h * bh,w * bw]) x =
      some ((depthToSpace .dcr bh bw (x.reshape [n,h,w,bh * bw * c])).transpose [0,3,1,2]) := by
  obtain ⟨hbh,hbw,hdepth,hheight,hwidth⟩ := hword
  have hpos := Nat.mul_pos hbh hbw
  have hexact : mul32 (mul32 bh bw) c = bh * bw * c := by rw [depth32_eq,Nat.mod_eq_of_lt hdepth]
  have hcount : [n,h,w,bh * bw * c].prod = x.shape.prod := by
    rw [hx]
    simp only [List.prod_cons,List.prod_nil]
    ring
  have hshape := depthToSpace_shape (t := x.reshape [n,h,w,bh * bw * c]) .dcr hpos rfl
  have hreshape : (SpaceNode.reshape [n,h,w,bh * bw * c]).run x = some (x.reshape [n,h,w,bh * bw * c]) :=
    guard_bind_some.mpr ⟨hcount,rfl⟩
  have hdepth : (SpaceNode.depthToSpace .dcr [bh,bw] [n,h * bh,w * bw,c]).run
      (x.reshape [n,h,w,bh * bw * c]) =
        some (depthToSpace .dcr bh bw (x.reshape [n,h,w,bh * bw * c])) := by
    refine guard_bind_some.mpr ⟨⟨rfl,hbh,hbw,Nat.dvd_mul_right _ c,?_⟩,rfl⟩
    change [n,h * bh,w * bw,c] = [n,h * bh,w * bw,bh * bw * c / (bh * bw)]
    rw [Nat.mul_div_cancel_left c hpos]
  have htranspose : (SpaceNode.transpose [0,3,1,2] [n,c,h * bh,w * bw]).run
      (depthToSpace .dcr bh bw (x.reshape [n,h,w,bh * bw * c])) =
        some ((depthToSpace .dcr bh bw (x.reshape [n,h,w,bh * bw * c])).transpose [0,3,1,2]) := by
    refine guard_bind_some.mpr ⟨?_,rfl⟩
    rw [hshape]
    exact ⟨layout_perm,rfl⟩
  rw [emitted,hexact,mul32_eq_iff.mpr hheight,mul32_eq_iff.mpr hwidth,runNodes_cons hreshape,
    runNodes_cons hdepth,runNodes_cons htranspose]
  rfl

end

section
variable {equation : NodeId → List Char} {validateQnnNode : List Nat → SpaceNode → Bool}
  {env : FusionEnv} {einsum preReshape postReshape : OrtNodeUnit} {group : FusedNodeGroup}
  {values : ValueId → Tensor ℚ} {input output : ValueId}

theorem tryFusion_inv (h : tryFusion equation validateQnnNode env einsum = some group) :
    isEquationEqualToTranspose (equation einsum.targetNode) 6 = some kEinsumPerm6 ∧
    ∃ preReshape postReshape n h w bh bw c inputShape,
      group = ⟨[preReshape,einsum,postReshape],einsum⟩ ∧
      (output0 env preReshape).bind env.shape = some [n,h,w,bh,bw,c] ∧
      (output0 env postReshape).bind env.shape = some [n,c,mul32 h bh,mul32 w bw] ∧
      (env.inputs preReshape).head?.join.bind env.shape = some inputShape ∧
      validateNodes validateQnnNode inputShape
        (emitted n h w bh bw c [n,c,mul32 h bh,mul32 w bw]) = true := by
  simp only [tryFusion,Option.bind_eq_bind,Option.bind_eq_some_iff] at h
  obtain ⟨_,_,_,_,perm,hperm,_,_,pre,_,_,_,shape,hshape,derived,hderived,_,_,post,_,_,_,
    postShape,hpostShape,_,hcheck,inputShape,hinput,nodes,hnodes,_,hvalid,h⟩ := h
  obtain ⟨hperm6,hpost⟩ := Bool.and_eq_true_iff.mp (require_eq_some.mp hcheck)
  obtain rfl := beq_iff_eq.mp hperm6
  obtain rfl := beq_iff_eq.mp hpost
  unfold deriveReshapeEinsumReshapeShapes at hderived
  split at hderived
  · obtain rfl := Option.some.inj hderived
    obtain rfl := Option.some.inj hnodes
    exact ⟨hperm,pre,post,_,_,_,_,_,_,inputShape,(Option.some.inj h).symm,
      Option.bind_eq_some_iff.mpr hshape,Option.bind_eq_some_iff.mpr hpostShape,
      Option.bind_eq_some_iff.mpr hinput,require_eq_some.mp hvalid⟩
  · cases hderived

theorem chain_same {n h w bh bw c : Nat} {x middle permuted : Tensor ℚ} {equation : List Char}
    (hperm : isEquationEqualToTranspose equation 6 = some kEinsumPerm6)
    (hmiddle : middle = x.reshape [n,h,w,bh,bw,c]) (hcount : [n,h,w,bh,bw,c].prod = x.shape.prod)
    (heinsum : einsumOf equation middle = some permuted) (hbh : 0 < bh) (hbw : 0 < bw) :
    ((depthToSpace .dcr bh bw (x.reshape [n,h,w,bh * bw * c])).transpose [0,3,1,2]).Same
      (permuted.reshape [n,c,h * bh,w * bw]) := by
  have hflat : [n,h,w,bh,bw,c].prod = [n,h,w,bh * bw * c].prod := by
    simp only [List.prod_cons,List.prod_nil]
    ring
  have hout : [n,c,h * bh,w * bw].prod = (gather unblockPerm [n,h,w,bh,bw,c]).prod := by
    change _ = [n,c,h,bh,w,bw].prod
    simp only [List.prod_cons,List.prod_nil]
    ring
  have hsplit : ((x.reshape [n,h,w,bh * bw * c]).reshape [n,h,w,bh,bw,c]).Same middle :=
    hmiddle ▸ reshape_reshape (hflat ▸ hcount) _ hflat
  have hrank : middle.shape.length = 6 := by rw [hmiddle]; rfl
  have heinsum := einsumOf_same_transpose hperm hrank unblockPerm_perm heinsum
  have hmoved : (((x.reshape [n,h,w,bh * bw * c]).reshape [n,h,w,bh,bw,c]).transpose unblockPerm).Same
      permuted :=
    (hsplit.transpose (hrank.symm ▸ unblockPerm_perm)).trans heinsum.symm
  have hpermuted : permuted.shape = gather unblockPerm [n,h,w,bh,bw,c] := by
    rw [heinsum.1,hmiddle]
    rfl
  exact (nhwc_unblocks rfl hbh hbw).symm.trans (hmoved.reshape (hpermuted ▸ hout))

theorem depth_to_space_computes (hqnn : RefusesIllFormed validateQnnNode)
    (hfused : tryFusion equation validateQnnNode env einsum = some group)
    (hunits : group.nodeUnits = [preReshape,einsum,postReshape])
    (hholds : ChainHolds env values (equation einsum.targetNode) preReshape einsum postReshape input output) :
    ∃ nodes y, emittedNodes env group = some nodes ∧ runNodes nodes (values input) = some y ∧
      y.Same (values output) := by
  obtain ⟨hperm,pre,post,n,h,w,bh,bw,c,inputShape,rfl,hdims,hpost,_,hvalid⟩ := tryFusion_inv hfused
  obtain ⟨rfl,_,rfl,_⟩ : pre = preReshape ∧ einsum = einsum ∧ post = postReshape ∧ True := by
    simpa using hunits
  simp only [emitted,validateNodes,SpaceNode.output,Bool.and_eq_true] at hvalid
  have hword := wordSized_of_wellFormed (hqnn.wellFormed _ _ hvalid.2.1)
  obtain ⟨middle,permuted,hmiddle,hpermuted,hfirst,heinsum,hlast⟩ := hholds.chain
  have hmiddleShape : (values middle).shape = [n,h,w,bh,bw,c] := by
    rw [hmiddle,Option.bind_some] at hdims
    exact (hholds.shapes middle _ hdims).symm
  have houtShape : (values output).shape = [n,c,mul32 h bh,mul32 w bw] := by
    rw [hholds.postOutput,Option.bind_some] at hpost
    exact (hholds.shapes output _ hpost).symm
  have hcount : [n,h,w,bh,bw,c].prod = (values input).shape.prod := hmiddleShape ▸ hfirst.count
  have hemitted : emittedNodes env ⟨[pre,einsum,post],einsum⟩ =
      some (emitted n h w bh bw c [n,c,mul32 h bh,mul32 w bw]) := by
    rw [emittedNodes]
    simp only [hdims,hpost]
    rfl
  rw [mul32_eq_iff.mpr hword.2.2.2.1,mul32_eq_iff.mpr hword.2.2.2.2] at houtShape hemitted
  refine ⟨_,_,hemitted,run_of_wordSized hword hcount.symm,?_⟩
  have hvalue := hlast.value
  rw [houtShape] at hvalue
  rw [hvalue]
  exact chain_same hperm (hmiddleShape ▸ hfirst.value) hcount heinsum hword.1 hword.2.1

end

def depthToSpaceRows : List NodeRow :=
  [⟨0,[some 10],[some 11]⟩,⟨1,[some 11],[some 12]⟩,⟨2,[some 12],[some 13]⟩]

def blockEquation : List Char := ['n','h','w','p','q','c','-','>','n','c','h','p','w','q']

def sampleShapes : List (List Nat) := [[1,2,3,20],[1,2,3,2,2,5],[1,5,2,2,3,2],[1,5,4,6]]

def sampleEnv : FusionEnv where
  graph := .ofRows depthToSpaceRows
  opType n := ["Reshape","Einsum","Reshape"].getD n ""
  isGraphOutput v := v == 13
  shape v := sampleShapes[v - 10]?
  nodeUnitMap := unitMap (depthToSpaceRows.map fun row => singleUnit row.node)
  claimed _ := none

def sampleValues (v : ValueId) : Tensor ℚ :=
  let x : Tensor ℚ := Tensor.ofFlat [1,2,3,20] fun i => i
  let blocked := x.reshape [1,2,3,2,2,5]
  let permuted := einsumTerm ['n','h','w','p','q','c'] ['n','c','h','p','w','q'] blocked
  [x,blocked,permuted,permuted.reshape [1,5,4,6]].getD (v - 10) x

theorem sample_holds : ChainHolds sampleEnv sampleValues blockEquation (singleUnit 0) (singleUnit 1)
    (singleUnit 2) 10 13 := by
  refine ⟨fun v dims hdims => ?_,rfl,11,12,rfl,rfl,⟨rfl,by decide⟩,rfl,⟨rfl,by decide⟩⟩
  change sampleShapes[v - 10]? = some dims at hdims
  unfold sampleValues
  generalize v - 10 = k at hdims
  rcases k with _ | _ | _ | _ | k
  · exact (Option.some.inj hdims).symm
  · exact (Option.some.inj hdims).symm
  · exact (Option.some.inj hdims).symm
  · exact (Option.some.inj hdims).symm
  · cases hdims

theorem depth_to_space_computes_blocks :
    ∃ nodes y, emittedNodes sampleEnv ⟨[singleUnit 0,singleUnit 1,singleUnit 2],singleUnit 1⟩ = some nodes ∧
      runNodes nodes (sampleValues 10) = some y ∧ y.Same (sampleValues 13) := by
  have hfused : tryFusion (fun _ => blockEquation) (fun input node => decide (node.WellFormed input))
      sampleEnv (singleUnit 1) =
        some ⟨[singleUnit 0,singleUnit 1,singleUnit 2],singleUnit 1⟩ := by decide
  exact depth_to_space_computes ⟨fun _ _ => of_decide_eq_true⟩ hfused rfl sample_holds

end QnnEp.ReshapeEinsumReshape
