import QnnEp.Foundation.Scatter
import QnnEp.Foundation.Tensor

namespace QnnEp.Buffers
open List
open Tensors (unravel)

def word : List (BitVec 8) → Nat
  | [] => 0
  | b :: bs => b.toNat + 256 * word bs

def bytesOf : Nat → Nat → List (BitVec 8)
  | 0, _ => []
  | width + 1, n => BitVec.ofNat 8 n :: bytesOf width (n / 256)

theorem length_bytesOf (width n : Nat) : (bytesOf width n).length = width := by
  induction width generalizing n with
  | zero => rfl
  | succ width ih => exact congrArg (· + 1) (ih (n / 256))

theorem word_lt (bytes : List (BitVec 8)) : word bytes < 256 ^ bytes.length := by
  induction bytes with
  | nil => decide
  | cons b bs ih =>
    have hb : b.toNat < 256 := b.isLt
    rw [word,length_cons,Nat.pow_succ]
    omega

theorem bytesOf_word (bytes : List (BitVec 8)) : bytesOf bytes.length (word bytes) = bytes := by
  induction bytes with
  | nil => rfl
  | cons b bs ih =>
    have hb : b.toNat < 256 := b.isLt
    have hlow : BitVec.ofNat 8 (b.toNat + 256 * word bs) = b := by
      apply BitVec.eq_of_toNat_eq
      rw [BitVec.toNat_ofNat]
      omega
    have hrest : (b.toNat + 256 * word bs) / 256 = word bs := by omega
    rw [word,length_cons,bytesOf,hlow,hrest,ih]

theorem word_bytesOf {width n : Nat} (h : n < 256 ^ width) : word (bytesOf width n) = n := by
  induction width generalizing n with
  | zero =>
    rw [Nat.pow_zero] at h
    rw [bytesOf,word]
    omega
  | succ width ih =>
    rw [Nat.pow_succ] at h
    rw [bytesOf,word,ih (by omega),BitVec.toNat_ofNat]
    omega

structure WordType where
  width : Nat
  signed : Bool
  pos : 0 < width

namespace WordType
variable (t : WordType)

def read (bytes : List (BitVec 8)) : Int :=
  if t.signed then (word bytes : Int).bmod (256 ^ t.width) else word bytes

def write (n : Int) : List (BitVec 8) := bytesOf t.width (n % (256 ^ t.width : Nat)).toNat

def lowest : Int := if t.signed then -(256 ^ t.width / 2 : Nat) else 0

def highest : Int := if t.signed then (256 ^ t.width / 2 : Nat) - 1 else (256 ^ t.width : Nat) - 1

variable {t}

theorem modulus_pos : 0 < 256 ^ t.width := Nat.pow_pos (by decide)

theorem length_write (n : Int) : (t.write n).length = t.width := length_bytesOf _ _

theorem write_read {bytes : List (BitVec 8)} (h : bytes.length = t.width) : t.write (t.read bytes) = bytes := by
  have hlt : word bytes < 256 ^ t.width := h ▸ word_lt bytes
  have hmod : (t.read bytes % (256 ^ t.width : Nat)).toNat = word bytes := by
    have hself : (word bytes : Int) % (256 ^ t.width : Nat) = word bytes :=
      Int.emod_eq_of_lt (by omega) (by exact_mod_cast hlt)
    unfold read
    split
    · rw [Int.bmod_emod,hself,Int.toNat_natCast]
    · rw [hself,Int.toNat_natCast]
  rw [write,hmod,← h]
  exact bytesOf_word bytes

theorem modulus_even : 256 ^ t.width % 2 = 0 :=
  Nat.mod_eq_zero_of_dvd (dvd_pow (by decide : 2 ∣ 256) t.pos.ne')

theorem lowest_le_highest : t.lowest ≤ t.highest := by
  have heven := t.modulus_even
  have hpos := t.modulus_pos
  unfold lowest highest
  split <;> omega

theorem read_range {bytes : List (BitVec 8)} (h : bytes.length = t.width) :
    t.lowest ≤ t.read bytes ∧ t.read bytes ≤ t.highest := by
  have hlt : word bytes < 256 ^ t.width := h ▸ word_lt bytes
  have heven := t.modulus_even
  have hpos := t.modulus_pos
  unfold lowest highest read
  generalize 256 ^ t.width = m at *
  split
  · have hlow := Int.le_bmod (x := word bytes) hpos
    have hhigh := Int.bmod_lt (x := word bytes) hpos
    omega
  · omega

theorem read_write {n : Int} (hlow : t.lowest ≤ n) (hhigh : n ≤ t.highest) : t.read (t.write n) = n := by
  have heven := t.modulus_even
  have hpos := t.modulus_pos
  have hword : word (t.write n) = (n % (256 ^ t.width : Nat)).toNat := by
    refine word_bytesOf ?_
    have := Int.emod_lt_of_pos n (by exact_mod_cast hpos : (0 : Int) < (256 ^ t.width : Nat))
    omega
  have hnonneg := Int.emod_nonneg n (by exact_mod_cast hpos.ne' : ((256 ^ t.width : Nat) : Int) ≠ 0)
  unfold read lowest highest at *
  rw [hword,Int.toNat_of_nonneg hnonneg]
  split
  · next hsigned =>
    rw [if_pos hsigned] at hlow hhigh
    rw [Int.emod_bmod]
    exact Int.bmod_eq_of_le (by omega) (by omega)
  · next hsigned =>
    rw [if_neg hsigned] at hlow hhigh
    exact Int.emod_eq_of_lt hlow (by omega)

def elements (t : WordType) : Nat → List (BitVec 8) → List Int
  | 0, _ => []
  | n + 1, bytes => t.read (bytes.take t.width) :: elements t n (bytes.drop t.width)

theorem length_elements (n : Nat) (bytes : List (BitVec 8)) : (t.elements n bytes).length = n := by
  induction n generalizing bytes with
  | zero => rfl
  | succ n ih => exact congrArg (· + 1) (ih _)

theorem flatMap_write_elements {n : Nat} {bytes : List (BitVec 8)} (h : bytes.length = n * t.width) :
    (t.elements n bytes).flatMap t.write = bytes := by
  induction n generalizing bytes with
  | zero =>
    rw [Nat.zero_mul] at h
    exact (length_eq_zero_iff.mp h).symm
  | succ n ih =>
    rw [Nat.succ_mul] at h
    have htake : (bytes.take t.width).length = t.width := by
      rw [length_take]
      omega
    rw [elements,flatMap_cons,write_read htake,ih (by rw [length_drop]; omega),
      take_append_drop]

theorem elements_flatMap_write {ns : List Int}
    (h : ∀ n ∈ ns, t.lowest ≤ n ∧ n ≤ t.highest) : t.elements ns.length (ns.flatMap t.write) = ns := by
  induction ns with
  | nil => rfl
  | cons n ns ih =>
    obtain ⟨⟨hlow,hhigh⟩,hns⟩ := forall_mem_cons.mp h
    rw [flatMap_cons,length_cons,elements,take_left' (length_write n),
      drop_left' (length_write n),read_write hlow hhigh,ih hns]

theorem elements_range {n : Nat} {bytes : List (BitVec 8)} (h : bytes.length = n * t.width) :
    ∀ x ∈ t.elements n bytes, t.lowest ≤ x ∧ x ≤ t.highest := by
  induction n generalizing bytes with
  | zero => exact fun _ hx => absurd hx not_mem_nil
  | succ n ih =>
    rw [Nat.succ_mul] at h
    rw [elements,forall_mem_cons]
    exact ⟨read_range (by rw [length_take]; omega),ih (by rw [length_drop]; omega)⟩

end WordType

section
variable {α β : Type} {f : Nat → α → β} {g : Nat → β → α} {blockSize : Nat}

def channelwise (f : Nat → α → β) (blockSize : Nat) : List Nat → List α → List β
  | [], _ => []
  | c :: cs, xs => (xs.take blockSize).map (f c) ++ channelwise f blockSize cs (xs.drop blockSize)

theorem span_lengths {c : Nat} {cs : List Nat} {xs : List α} (h : α → β)
    (hxs : xs.length = (c :: cs).length * blockSize) :
    ((xs.take blockSize).map h).length = blockSize ∧ (xs.drop blockSize).length = cs.length * blockSize := by
  rw [length_cons,Nat.succ_mul] at hxs
  rw [length_map,length_take,length_drop]
  omega

theorem length_channelwise {cs : List Nat} {xs : List α} (h : xs.length = cs.length * blockSize) :
    (channelwise f blockSize cs xs).length = xs.length := by
  induction cs generalizing xs with
  | nil =>
    rw [length_nil,Nat.zero_mul] at h
    rw [h]
    rfl
  | cons c cs ih =>
    obtain ⟨hblock,hdrop⟩ := span_lengths (f c) h
    rw [channelwise,length_append,hblock,ih hdrop,hdrop,h,length_cons,Nat.succ_mul,Nat.add_comm]

theorem forall_mem_channelwise {p : β → Prop} (h : ∀ c x, p (f c x)) (cs : List Nat) (xs : List α) :
    ∀ y ∈ channelwise f blockSize cs xs, p y := by
  induction cs generalizing xs with
  | nil => exact fun _ hy => absurd hy not_mem_nil
  | cons c cs ih =>
    rw [channelwise,forall_mem_append]
    exact ⟨forall_mem_map.mpr fun x _ => h c x,ih _⟩

theorem channelwise_getElem? {cs : List Nat} {xs : List α} (h : xs.length = cs.length * blockSize) {e : Nat}
    (he : e < xs.length) :
    (channelwise f blockSize cs xs)[e]? = xs[e]?.map (f (cs.getD (e / blockSize) 0)) := by
  induction cs generalizing xs e with
  | nil =>
    rw [length_nil,Nat.zero_mul] at h
    omega
  | cons c cs ih =>
    obtain ⟨hblock,hdrop⟩ := span_lengths (f c) h
    rw [channelwise]
    by_cases hfirst : e < blockSize
    · rw [List.getElem?_append_left (by omega),Nat.div_eq_of_lt hfirst,List.getElem?_map,
        List.getElem?_take_of_lt hfirst]
      rfl
    · have hpos : 0 < blockSize := Nat.pos_of_ne_zero fun hzero => by
        rw [hzero,Nat.mul_zero] at h
        omega
      obtain ⟨k,rfl⟩ := Nat.exists_eq_add_of_le (not_lt.mp hfirst)
      rw [List.getElem?_append_right (by omega),hblock,Nat.add_sub_cancel_left,
        ih hdrop (by rw [length_drop]; omega),List.getElem?_drop,Nat.add_div_left _ hpos]
      rfl

theorem channelwise_inverse {cs : List Nat} {xs : List α} (h : xs.length = cs.length * blockSize)
    (hfg : ∀ c ∈ cs, ∀ x ∈ xs, g c (f c x) = x) :
    channelwise g blockSize cs (channelwise f blockSize cs xs) = xs := by
  induction cs generalizing xs with
  | nil =>
    rw [length_nil,Nat.zero_mul] at h
    exact (length_eq_zero_iff.mp h).symm
  | cons c cs ih =>
    obtain ⟨hblock,hdrop⟩ := span_lengths (f c) h
    obtain ⟨hhead,htail⟩ := forall_mem_cons.mp hfg
    have hself : ∀ x ∈ xs.take blockSize, g c (f c x) = x := fun x hx => hhead x (mem_of_mem_take hx)
    have hmap : ((xs.take blockSize).map (f c)).map (g c) = xs.take blockSize := by
      rw [map_map]
      exact (map_congr_left hself).trans (map_id' _)
    rw [channelwise,channelwise,take_left' hblock,drop_left' hblock,hmap,
      ih hdrop fun c hc x hx => htail c hc x (mem_of_mem_drop hx),take_append_drop]

def channelOrder (blockCount channels : Nat) : List Nat :=
  (List.range blockCount).flatMap fun _ => List.range channels

theorem length_channelOrder (blockCount channels : Nat) :
    (channelOrder blockCount channels).length = blockCount * channels := by
  rw [channelOrder,Scatter.length_flatMap fun _ => length_range,length_range]

theorem mem_channelOrder {blockCount channels c : Nat} (h : c ∈ channelOrder blockCount channels) : c < channels := by
  obtain ⟨_,_,hc⟩ := mem_flatMap.mp h
  exact mem_range.mp hc

theorem channelOrder_getD {blockCount channels k : Nat} (h : k < blockCount * channels) :
    (channelOrder blockCount channels).getD k 0 = k % channels := by
  have hpos : 0 < channels := Nat.pos_of_ne_zero fun hzero => by
    rw [hzero,Nat.mul_zero] at h
    omega
  have hmod := Nat.mod_lt k hpos
  have hrow : k / channels < blockCount := Nat.div_lt_of_lt_mul (by rwa [Nat.mul_comm] at h)
  have hread := Scatter.getD_flatMap (f := fun _ : Nat => List.range channels) (fun _ => length_range)
    (List.range blockCount) 0 0 (by rwa [length_range]) hmod
  rw [Nat.mul_comm,Nat.div_add_mod] at hread
  rw [channelOrder,hread,getD_eq_getElem _ _ (by rwa [length_range]),getElem_range]

theorem prod_split {shape : List Nat} {axis : Nat} (h : axis < shape.length) :
    shape.prod = (shape.take axis).prod * shape.getD axis 0 * (shape.drop (axis + 1)).prod := by
  have hsplit := prod_take_mul_prod_drop shape axis
  rw [drop_eq_getElem_cons h,prod_cons] at hsplit
  rw [← hsplit,getD_eq_getElem _ _ h,Nat.mul_assoc]

theorem unravel_getD {shape : List Nat} {axis e : Nat} (haxis : axis < shape.length) (he : e < shape.prod) :
    (unravel shape e).getD axis 0 = e / (shape.drop (axis + 1)).prod % shape.getD axis 0 := by
  induction shape generalizing axis e with
  | nil => cases haxis
  | cons d ds ih =>
    rw [prod_cons] at he
    have hpos : 0 < ds.prod := Nat.pos_of_ne_zero fun hzero => by
      rw [hzero,Nat.mul_zero] at he
      omega
    cases axis with
    | zero =>
      have hrow : e / ds.prod < d := Nat.div_lt_of_lt_mul (by rwa [Nat.mul_comm] at he)
      exact (Nat.mod_eq_of_lt hrow).symm
    | succ axis =>
      have haxis := Nat.lt_of_succ_lt_succ haxis
      have hsplit : ds.prod = (ds.drop (axis + 1)).prod * (ds.getD axis 0 * (ds.take axis).prod) := by
        rw [prod_split haxis]
        ring
      rw [unravel,getD_cons_succ,ih haxis (Nat.mod_lt _ hpos),drop_succ_cons,getD_cons_succ]
      rw [hsplit,Nat.mod_mul_right_div_self,Nat.mod_mod_of_dvd _ (Nat.dvd_mul_right _ _)]

end

end QnnEp.Buffers
