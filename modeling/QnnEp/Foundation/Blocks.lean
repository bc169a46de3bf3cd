import QnnEp.Foundation.Regrouping

namespace QnnEp.Tensors
open List
open Scatter (index_lt)

section
variable {R : Type} {x : Tensor R} {dims perm out idx source target : List Nat}

theorem moved_entry (hperm : perm.Perm (List.range dims.length)) (hidx : InBounds dims idx)
    (hsource : InBounds x.shape source) (hin : ravel x.shape source = ravel dims idx)
    (hout : ravel out target = ravel (gather perm dims) (gather perm idx)) :
    (((x.reshape dims).transpose perm).reshape out).get target = x.get source := by
  have hmoved : InBounds ((x.reshape dims).transpose perm).shape (gather perm idx) :=
    inBounds_gather hperm hidx
  have htransposed : ((x.reshape dims).transpose perm).get (gather perm idx) = (x.reshape dims).get idx :=
    Tensor.transpose_get_gather hperm hidx.length_eq
  rw [Tensor.reshape_get hmoved hout,htransposed,Tensor.reshape_get hsource hin.symm]

theorem same_of_empty {s t : Tensor R} (hshape : s.shape = t.shape) (hempty : t.shape.prod = 0) : s.Same t :=
  ⟨hshape,fun _ hidx => absurd hidx (not_inBounds_of_zero (prod_eq_zero_iff.mp hempty))⟩

end

section

def interleave (groups size c : Nat) : Nat := c % groups * (size / groups) + c / groups

variable {groups width c : Nat}

theorem interleave_eq (h : c < groups * width) :
    interleave groups (groups * width) c = c % groups * width + c / groups := by
  rw [interleave,Nat.mul_div_cancel_left _ (Nat.pos_of_lt_mul_right h)]

theorem interleave_lt (h : c < groups * width) :
    interleave groups (groups * width) c < groups * width := by
  have hgroup : c % groups < groups := Nat.mod_lt c (Nat.pos_of_lt_mul_right h)
  have hmember : c / groups < width := Nat.div_lt_of_lt_mul h
  rw [interleave_eq h]
  exact Scatter.index_lt hgroup hmember

theorem swap_perm (n : Nat) : (0 :: 2 :: 1 :: List.range' 3 n).Perm (List.range (n + 3)) := by
  have hrange : List.range (n + 3) = 0 :: 1 :: 2 :: List.range' 3 n := by
    rw [range_eq_range']
    rfl
  rw [hrange]
  exact (List.Perm.swap 1 2 _).cons 0

theorem gather_swap (a b d : Nat) (xs : List Nat) :
    gather (0 :: 2 :: 1 :: List.range' 3 xs.length) (a :: b :: d :: xs) = a :: d :: b :: xs := by
  have hrest : gather (List.range' 3 xs.length) (a :: b :: d :: xs) = xs := by
    rw [gather_range' (by simp only [length_cons]; omega)]
    exact take_length
  have hcons : gather (0 :: 2 :: 1 :: List.range' 3 xs.length) (a :: b :: d :: xs) =
      a :: d :: b :: gather (List.range' 3 xs.length) (a :: b :: d :: xs) := rfl
  rw [hcons,hrest]

variable {R : Type} {x : Tensor R} {n : Nat} {rest : List Nat}

theorem swapped_groups (hx : x.shape = n :: groups * width :: rest) :
    (((x.reshape (n :: groups :: width :: rest)).transpose
      (0 :: 2 :: 1 :: List.range' 3 rest.length)).reshape (n :: groups * width :: rest)).Same
        (axisGather (interleave groups (groups * width)) 1 x) := by
  refine ⟨hx.symm,fun idx hidx => ?_⟩
  change InBounds x.shape idx at hidx
  rw [hx] at hidx
  obtain _ | @⟨i,_,is,_,hi,htail⟩ := hidx
  obtain _ | @⟨c,_,is,_,hc,his⟩ := htail
  have hgroup : c % groups < groups := Nat.mod_lt c (Nat.pos_of_lt_mul_right hc)
  have hmember : c / groups < width := Nat.div_lt_of_lt_mul hc
  have hsource : InBounds x.shape (i :: interleave groups (groups * width) c :: is) :=
    hx ▸ .cons hi (.cons (interleave_lt hc) his)
  change _ = x.get (i :: interleave groups (groups * width) c :: is)
  refine moved_entry (swap_perm rest.length) (.cons hi (.cons hgroup (.cons hmember his))) hsource ?_ ?_
  · rw [hx,interleave_eq hc]
    simp only [ravel,prod_cons]
    ring
  · rw [gather_swap,← his.length_eq,gather_swap]
    have hsplit : c = c / groups * groups + c % groups := by
      rw [Nat.mul_comm,Nat.div_add_mod]
    simp only [ravel,prod_cons]
    conv_lhs => rw [hsplit]
    ring

theorem swapped_last_groups {h w : Nat} (hx : x.shape = [n,h,w,groups * width]) :
    ((((x.reshape [n,h,w,groups,width]).transpose [0,4,3,1,2]).reshape
      [n,groups * width,h,w]).transpose [0,2,3,1]).Same
        (axisGather (interleave groups (groups * width)) 3 x) := by
  have hperm : [0,2,3,1].Perm (List.range 4) := by decide
  have hmiddle : [0,4,3,1,2].Perm (List.range 5) := by decide
  refine (Tensor.same_transpose hperm hx fun idx hidx => ?_).symm
  obtain ⟨i,c,a,b,rfl,hi,hc,ha,hb⟩ := inBounds_four hidx
  have hgroup : c % groups < groups := Nat.mod_lt c (Nat.pos_of_lt_mul_right hc)
  have hmember : c / groups < width := Nat.div_lt_of_lt_mul hc
  have hsource : InBounds x.shape [i,a,b,interleave groups (groups * width) c] :=
    hx ▸ .cons hi (.cons ha (.cons hb (.cons (interleave_lt hc) .nil)))
  have hidx : InBounds [n,h,w,groups,width] [i,a,b,c % groups,c / groups] :=
    .cons hi (.cons ha (.cons hb (.cons hgroup (.cons hmember .nil))))
  refine (moved_entry hmiddle hidx hsource ?_ ?_).symm
  · rw [hx,interleave_eq hc]
    simp only [ravel,prod_cons,prod_nil]
    ring
  · change _ = ravel [n,width,groups,h,w] [i,c / groups,c % groups,a,b]
    have hsplit : c = c / groups * groups + c % groups := by
      rw [Nat.mul_comm,Nat.div_add_mod]
    simp only [ravel,prod_cons,prod_nil]
    conv_lhs => rw [hsplit]
    ring

end

inductive DepthMode where
  | dcr
  | crd
  deriving DecidableEq, Repr

section

def depthChannel : DepthMode → Nat → Nat → Nat → Nat → Nat → Nat → Nat
  | .dcr, channels, _, bw, i, j, c => (i * bw + j) * channels + c
  | .crd, _, bh, bw, i, j, c => (c * bh + i) * bw + j

def blockRow : DepthMode → Nat → Nat → Nat → Nat → Nat
  | .dcr, channels, _, bw, d => d / channels / bw
  | .crd, _, bh, bw, d => d / bw % bh

def blockColumn : DepthMode → Nat → Nat → Nat → Nat → Nat
  | .dcr, channels, _, bw, d => d / channels % bw
  | .crd, _, _, bw, d => d % bw

def blockChannel : DepthMode → Nat → Nat → Nat → Nat → Nat
  | .dcr, channels, _, _, d => d % channels
  | .crd, _, bh, bw, d => d / bw / bh

variable {mode : DepthMode} {channels bh bw d : Nat}

structure InBlock (mode : DepthMode) (channels bh bw d : Nat) : Prop where
  row : blockRow mode channels bh bw d < bh
  column : blockColumn mode channels bh bw d < bw
  channel : blockChannel mode channels bh bw d < channels
  address : depthChannel mode channels bh bw (blockRow mode channels bh bw d)
    (blockColumn mode channels bh bw d) (blockChannel mode channels bh bw d) = d

theorem inBlock (h : d < channels * bh * bw) : InBlock mode channels bh bw d := by
  have hne : channels * bh * bw ≠ 0 := Nat.ne_of_gt (Nat.lt_of_le_of_lt (Nat.zero_le d) h)
  have hbw : 0 < bw := Nat.pos_of_ne_zero (right_ne_zero_of_mul hne)
  have hbh : 0 < bh := Nat.pos_of_ne_zero (right_ne_zero_of_mul (left_ne_zero_of_mul hne))
  have hchannels : 0 < channels := Nat.pos_of_ne_zero (left_ne_zero_of_mul (left_ne_zero_of_mul hne))
  cases mode with
  | dcr =>
    refine ⟨?_,Nat.mod_lt _ hbw,Nat.mod_lt _ hchannels,?_⟩
    · refine Nat.div_lt_of_lt_mul (Nat.div_lt_of_lt_mul ?_)
      rwa [Nat.mul_comm bw bh,← Nat.mul_assoc]
    · change (d / channels / bw * bw + d / channels % bw) * channels + d % channels = d
      rw [Nat.div_add_mod',Nat.div_add_mod']
  | crd =>
    refine ⟨Nat.mod_lt _ hbh,Nat.mod_lt _ hbw,?_,?_⟩
    · refine Nat.div_lt_of_lt_mul (Nat.div_lt_of_lt_mul ?_)
      rwa [Nat.mul_comm bh channels,Nat.mul_comm bw]
    · change (d / bw / bh * bh + d / bw % bh) * bw + d % bw = d
      rw [Nat.div_add_mod',Nat.div_add_mod']

end

section
variable {R : Type}

def spaceToDepth (mode : DepthMode) (bh bw : Nat) (t : Tensor R) : Tensor R where
  shape := [t.shape.getD 0 0,t.shape.getD 1 0 / bh,t.shape.getD 2 0 / bw,t.shape.getD 3 0 * bh * bw]
  get idx :=
    let d := idx.getD 3 0
    let channels := t.shape.getD 3 0
    t.get [idx.getD 0 0,idx.getD 1 0 * bh + blockRow mode channels bh bw d,
      idx.getD 2 0 * bw + blockColumn mode channels bh bw d,blockChannel mode channels bh bw d]

variable {s t : Tensor R} {mode : DepthMode} {n h w c bh bw : Nat}

theorem block_lt {a i b size : Nat} (ha : a < size / b) (hi : i < b) : a * b + i < size :=
  (index_lt ha hi).trans_le (Nat.div_mul_le_self size b)

theorem spaceToDepth_shape (mode : DepthMode) (bh bw : Nat) (ht : t.shape = [n,h,w,c]) :
    (spaceToDepth mode bh bw t).shape = [n,h / bh,w / bw,c * bh * bw] := by
  rw [spaceToDepth,ht]
  rfl

theorem spaceToDepth_get (ht : t.shape = [n,h,w,c]) (ni a b d : Nat) :
    (spaceToDepth mode bh bw t).get [ni,a,b,d] =
      t.get [ni,a * bh + blockRow mode c bh bw d,b * bw + blockColumn mode c bh bw d,
        blockChannel mode c bh bw d] := by
  rw [spaceToDepth,ht]
  rfl

theorem Tensor.Same.spaceToDepth (hsame : s.Same t) (mode : DepthMode) (bh bw : Nat)
    (ht : t.shape = [n,h,w,c]) :
    (spaceToDepth mode bh bw s).Same (spaceToDepth mode bh bw t) := by
  have hs : s.shape = [n,h,w,c] := hsame.1.trans ht
  refine ⟨(spaceToDepth_shape mode bh bw hs).trans (spaceToDepth_shape mode bh bw ht).symm,fun idx hidx => ?_⟩
  rw [spaceToDepth_shape mode bh bw ht] at hidx
  obtain ⟨ni,a,b,d,rfl,hni,ha,hb,hd⟩ := inBounds_four hidx
  have hin : InBlock mode c bh bw d := inBlock hd
  rw [spaceToDepth_get hs,spaceToDepth_get ht]
  refine hsame.2 _ (ht ▸ ?_)
  exact .cons hni (.cons (block_lt ha hin.row) (.cons (block_lt hb hin.column) (.cons hin.channel .nil)))

def depthToSpace (mode : DepthMode) (bh bw : Nat) (t : Tensor R) : Tensor R where
  shape := [t.shape.getD 0 0,t.shape.getD 1 0 * bh,t.shape.getD 2 0 * bw,t.shape.getD 3 0 / (bh * bw)]
  get idx := t.get [idx.getD 0 0,idx.getD 1 0 / bh,idx.getD 2 0 / bw,
    depthChannel mode (t.shape.getD 3 0 / (bh * bw)) bh bw (idx.getD 1 0 % bh) (idx.getD 2 0 % bw)
      (idx.getD 3 0)]

theorem depthToSpace_shape (mode : DepthMode) (hpos : 0 < bh * bw) (ht : t.shape = [n,h,w,bh * bw * c]) :
    (depthToSpace mode bh bw t).shape = [n,h * bh,w * bw,c] := by
  rw [depthToSpace,ht]
  change [n,h * bh,w * bw,bh * bw * c / (bh * bw)] = _
  rw [Nat.mul_div_cancel_left c hpos]

theorem depthToSpace_get (mode : DepthMode) (hpos : 0 < bh * bw) (ht : t.shape = [n,h,w,bh * bw * c])
    (i a b k : Nat) : (depthToSpace mode bh bw t).get [i,a,b,k] =
      t.get [i,a / bh,b / bw,depthChannel mode c bh bw (a % bh) (b % bw) k] := by
  rw [depthToSpace,ht]
  change t.get [i,a / bh,b / bw,depthChannel mode (bh * bw * c / (bh * bw)) bh bw (a % bh) (b % bw) k] = _
  rw [Nat.mul_div_cancel_left c hpos]

end

section

def depthDims : DepthMode → Nat → Nat → Nat → Nat → Nat → Nat → List Nat
  | .dcr, n, i, j, c, a, b => [n,i,j,c,a,b]
  | .crd, n, i, j, c, a, b => [n,c,i,j,a,b]

theorem ravel_depth (mode : DepthMode) (n c h bh w bw ni ci a i b j : Nat) :
    ravel [n,c * bh * bw,h,w] [ni,depthChannel mode c bh bw i j ci,a,b] =
      ravel (depthDims mode n bh bw c h w) (depthDims mode ni i j ci a b) := by
  cases mode with
  | dcr | crd =>
    simp only [ravel,depthDims,depthChannel,prod_cons,prod_nil]
    ring

def nchwDepthPerm : DepthMode → List Nat
  | .dcr => [0,3,5,1,2,4]
  | .crd => [0,1,3,5,2,4]

def nhwcDepthPerm : DepthMode → List Nat
  | .dcr => [0,2,4,5,1,3]
  | .crd => [0,5,2,4,1,3]

theorem nchwDepthPerm_perm (mode : DepthMode) : (nchwDepthPerm mode).Perm (List.range 6) := by
  cases mode <;> decide

theorem nhwcDepthPerm_perm (mode : DepthMode) : (nhwcDepthPerm mode).Perm (List.range 6) := by
  cases mode <;> decide

theorem gather_nchwDepthPerm (mode : DepthMode) (n c h bh w bw : Nat) :
    gather (nchwDepthPerm mode) [n,c,h,bh,w,bw] = depthDims mode n bh bw c h w := by
  cases mode <;> rfl

theorem gather_nhwcDepthPerm (mode : DepthMode) (n c h bh w bw : Nat) :
    gather (nhwcDepthPerm mode) [n,h,bh,w,bw,c] = depthDims mode n bh bw c h w := by
  cases mode <;> rfl

theorem layout_perm : [0,3,1,2].Perm (List.range 4) := by decide

theorem layout_perm' : [0,2,3,1].Perm (List.range 4) := by decide

variable {R : Type} {x : Tensor R} {n h w c bh bw : Nat}

theorem same_spaceToDepth (mode : DepthMode) {y : Tensor R} (hx : x.shape = [n,h * bh,w * bw,c])
    (hy : y.shape = [n,c * bh * bw,h,w]) (hbh : 0 < bh) (hbw : 0 < bw)
    (hentry : ∀ {i a b d : Nat}, i < n → a < h → b < w → InBlock mode c bh bw d →
      y.get [i,d,a,b] = x.get [i,a * bh + blockRow mode c bh bw d,b * bw + blockColumn mode c bh bw d,
        blockChannel mode c bh bw d]) :
    y.Same ((spaceToDepth mode bh bw x).transpose [0,3,1,2]) := by
  have hshape : (spaceToDepth mode bh bw x).shape = [n,h,w,c * bh * bw] := by
    rw [spaceToDepth_shape mode bh bw hx,Nat.mul_div_cancel _ hbh,Nat.mul_div_cancel _ hbw]
  refine Tensor.same_transpose (hshape.symm ▸ layout_perm) (hshape.symm ▸ hy) fun idx hidx => ?_
  rw [hshape] at hidx
  obtain ⟨i,a,b,d,rfl,hi,ha,hb,hd⟩ := inBounds_four hidx
  rw [spaceToDepth_get hx]
  exact hentry hi ha hb (inBlock hd)

theorem nhwc_blocks (mode : DepthMode) (hx : x.shape = [n,h * bh,w * bw,c]) (hbh : 0 < bh) (hbw : 0 < bw) :
    (((x.reshape [n,h,bh,w,bw,c]).transpose (nhwcDepthPerm mode)).reshape [n,c * bh * bw,h,w]).Same
      ((spaceToDepth mode bh bw x).transpose [0,3,1,2]) := by
  refine same_spaceToDepth mode hx rfl hbh hbw fun {i a b d} hi ha hb hin => ?_
  have hsplit : InBounds [n,h,bh,w,bw,c] [i,a,blockRow mode c bh bw d,b,blockColumn mode c bh bw d,
      blockChannel mode c bh bw d] :=
    .cons hi (.cons ha (.cons hin.row (.cons hb (.cons hin.column (.cons hin.channel .nil)))))
  have hsource : InBounds x.shape [i,a * bh + blockRow mode c bh bw d,
      b * bw + blockColumn mode c bh bw d,blockChannel mode c bh bw d] := by
    rw [hx]
    exact .cons hi (.cons (index_lt ha hin.row) (.cons (index_lt hb hin.column) (.cons hin.channel .nil)))
  refine moved_entry (nhwcDepthPerm_perm mode) hsplit hsource ?_ ?_
  · rw [hx]
    simp only [ravel,prod_cons,prod_nil]
    ring
  · rw [gather_nhwcDepthPerm,gather_nhwcDepthPerm,← ravel_depth,hin.address]

theorem nchw_blocks (mode : DepthMode) (hx : x.shape = [n,c,h * bh,w * bw]) (hbh : 0 < bh) (hbw : 0 < bw) :
    (((x.reshape [n,c,h,bh,w,bw]).transpose (nchwDepthPerm mode)).reshape [n,c * bh * bw,h,w]).Same
      ((spaceToDepth mode bh bw (x.transpose [0,2,3,1])).transpose [0,3,1,2]) := by
  have hnhwc : (x.transpose [0,2,3,1]).shape = [n,h * bh,w * bw,c] := by
    change gather [0,2,3,1] x.shape = _
    rw [hx]
    rfl
  refine same_spaceToDepth mode hnhwc rfl hbh hbw fun {i a b d} hi ha hb hin => ?_
  have hsplit : InBounds [n,c,h,bh,w,bw] [i,blockChannel mode c bh bw d,a,blockRow mode c bh bw d,b,
      blockColumn mode c bh bw d] :=
    .cons hi (.cons hin.channel (.cons ha (.cons hin.row (.cons hb (.cons hin.column .nil)))))
  have hsource : InBounds x.shape [i,blockChannel mode c bh bw d,a * bh + blockRow mode c bh bw d,
      b * bw + blockColumn mode c bh bw d] := by
    rw [hx]
    exact .cons hi (.cons hin.channel (.cons (index_lt ha hin.row) (.cons (index_lt hb hin.column) .nil)))
  have hperm : [0,2,3,1].Perm (List.range x.shape.length) := by
    rw [hx]
    exact layout_perm'
  have hmoved := Tensor.transpose_get_gather hperm hsource.length_eq
  refine Eq.trans ?_ hmoved.symm
  refine moved_entry (nchwDepthPerm_perm mode) hsplit hsource ?_ ?_
  · rw [hx]
    simp only [ravel,prod_cons,prod_nil]
    ring
  · rw [gather_nchwDepthPerm,gather_nchwDepthPerm,← ravel_depth,hin.address]

def unblockPerm : List Nat := [0,5,1,3,2,4]

theorem unblockPerm_perm : unblockPerm.Perm (List.range 6) := by decide

theorem dcr_address_lt {p q k : Nat} (hp : p < bh) (hq : q < bw) (hk : k < c) :
    depthChannel .dcr c bh bw p q k < bh * bw * c :=
  index_lt (index_lt hp hq) hk

theorem nhwc_unblocks (hx : x.shape = [n,h,w,bh * bw * c]) (hbh : 0 < bh) (hbw : 0 < bw) :
    (((x.reshape [n,h,w,bh,bw,c]).transpose unblockPerm).reshape [n,c,h * bh,w * bw]).Same
      ((depthToSpace .dcr bh bw x).transpose [0,3,1,2]) := by
  have hpos := Nat.mul_pos hbh hbw
  have hshape := depthToSpace_shape .dcr hpos hx
  refine Tensor.same_transpose (hshape.symm ▸ layout_perm) (hshape.symm ▸ rfl) fun idx hidx => ?_
  rw [hshape] at hidx
  obtain ⟨i,a,b,k,rfl,hi,ha,hb,hk⟩ := inBounds_four hidx
  have hrow : a / bh < h := (Nat.div_lt_iff_lt_mul hbh).mpr ha
  have hcolumn : b / bw < w := (Nat.div_lt_iff_lt_mul hbw).mpr hb
  have hp := Nat.mod_lt a hbh
  have hq := Nat.mod_lt b hbw
  have hsplit : InBounds [n,h,w,bh,bw,c] [i,a / bh,b / bw,a % bh,b % bw,k] :=
    .cons hi (.cons hrow (.cons hcolumn (.cons hp (.cons hq (.cons hk .nil)))))
  have hsource : InBounds x.shape [i,a / bh,b / bw,depthChannel .dcr c bh bw (a % bh) (b % bw) k] := by
    rw [hx]
    exact .cons hi (.cons hrow (.cons hcolumn (.cons (dcr_address_lt hp hq hk) .nil)))
  rw [depthToSpace_get .dcr hpos hx]
  refine moved_entry unblockPerm_perm hsplit hsource ?_ ?_
  · rw [hx]
    simp only [ravel,depthChannel,prod_cons,prod_nil]
    ring
  · change ravel [n,c,h * bh,w * bw] [i,k,a,b] =
      ravel [n,c,h,bh,w,bw] [i,k,a / bh,a % bh,b / bw,b % bw]
    simp only [ravel,prod_cons,prod_nil]
    have hra := Nat.div_add_mod' a bh
    have hrb := Nat.div_add_mod' b bw
    generalize a / bh = a₁ at hra
    generalize a % bh = a₂ at hra
    generalize b / bw = b₁ at hrb
    generalize b % bw = b₂ at hrb
    rw [← hra,← hrb]
    ring

end

end QnnEp.Tensors
