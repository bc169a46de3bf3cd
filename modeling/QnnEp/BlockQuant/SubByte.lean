import Mathlib.Data.List.GetD
import Mathlib.Algebra.Order.Ring.Int
import QnnEp.Foundation.Registry

namespace QnnEp.BlockQuant

abbrev Byte := BitVec 8

variable {bits i : Nat} {us : List Byte}

inductive BQType where
  | int2
  | uint2
  | int4
  | uint4
  | int8
  | uint8
  deriving DecidableEq, Repr

def getBQBitwidth : BQType → Nat
  | .int2 => 2
  | .uint2 => 2
  | .int4 => 4
  | .uint4 => 4
  | .int8 => 8
  | .uint8 => 8

def isUnsignedBQType : BQType → Bool
  | .uint2 => true
  | .uint4 => true
  | .uint8 => true
  | _ => false

def elemsPerByte (type : BQType) : Nat := 8 / getBQBitwidth type

def packedSize (type : BQType) (numElems : Nat) : Nat :=
  (numElems + (elemsPerByte type - 1)) / elemsPerByte type

structure Initializer (type : BQType) where
  shape : List Nat
  bytes : List Byte
  sized : bytes.length = packedSize type shape.prod

def lowMask (bits : Nat) : Byte := BitVec.ofNat 8 (2 ^ bits - 1)

def signExtendLowerBits (bits : Nat) (b : Byte) : Byte :=
  ((b.setWidth 32 <<< (32 - bits)).sshiftRight (32 - bits)).setWidth 8

def getElem (signed : Bool) (bits : Nat) (packed : Byte) (index : Nat) : Byte :=
  let val := (packed >>> (bits * index)) &&& lowMask bits
  if signed then signExtendLowerBits bits val else val

def unpack (signed : Bool) (bits numElems : Nat) (src : List Byte) : Option (List Byte) :=
  let perByte := 8 / bits
  if (numElems + (perByte - 1)) / perByte = src.length then
    some ((List.range numElems).map fun i =>
      getElem signed bits (src.getD (i / perByte) 0) (i % perByte))
  else none

def unpackToInt8 (signed : Bool) (bits : Nat) (packedType : String) (numElems : Nat)
    (dataBytes : List Byte) : Except String (List Byte) :=
  match unpack signed bits numElems dataBytes with
  | some dst => .ok (if signed then dst.map (· &&& lowMask bits) else dst)
  | none => .error ("Failed to unpack Tensor<" ++ packedType ++ "> for QNN")

def unpackInitializerData {type : BQType} (init : Initializer type) : Except String (List Byte) :=
  match type with
  | .int4 => unpackToInt8 true 4 "Int4x2" init.shape.prod init.bytes
  | .uint4 => unpackToInt8 false 4 "UInt4x2" init.shape.prod init.bytes
  | .int2 => unpackToInt8 true 2 "Int2x4" init.shape.prod init.bytes
  | .uint2 => unpackToInt8 false 2 "UInt2x4" init.shape.prod init.bytes
  | .int8 => .ok init.bytes
  | .uint8 => .ok init.bytes

def transformUnsignedToSignedFixedPoint (quantData : List Byte) (bits : Nat) :
    Except String (List Byte) :=
  match bits with
  | 2 => .ok (quantData.map (· ^^^ 0b10101010#8))
  | 4 => .ok (quantData.map (· ^^^ 0b10001000#8))
  | 8 => .ok (quantData.map (· ^^^ 0b10000000#8))
  | _ => .error "Unsupported bits to transform data from unsigned to signed."

def toSignedDomain (type : BQType) (unpacked : List Byte) : Except String (List Byte) :=
  if isUnsignedBQType type then
    transformUnsignedToSignedFixedPoint unpacked (getBQBitwidth type)
  else .ok unpacked

def zeroPointOffset (type : BQType) (b : Byte) : Int :=
  match type with
  | .int2 => -(signExtendLowerBits 2 b).toInt
  | .int4 => -(signExtendLowerBits 4 b).toInt
  | .int8 => -b.toInt
  | .uint4 => -(b.toNat : Int)
  | .uint2 => -(b.toNat : Int)
  | .uint8 => -(b.toNat : Int)

def unpackZeroPoints {type : BQType} (init : Initializer type) : Except String (List Int) := do
  let initializerBytes ← unpackInitializerData init
  pure (initializerBytes.map (zeroPointOffset type))

def signExtendUnpackedSubByteData (type : BQType) (bytes : List Byte) : List Byte :=
  match type with
  | .int4 => bytes.map fun byte => signExtendLowerBits 4 (byte &&& lowMask 4)
  | .int2 => bytes.map fun byte => signExtendLowerBits 2 (byte &&& lowMask 2)
  | _ => bytes

def byteValue (type : BQType) (b : Byte) : Int := if isUnsignedBQType type then b.toNat else b.toInt

def field (type : BQType) (bytes : List Byte) (i : Nat) : BitVec (getBQBitwidth type) :=
  (bytes.getD (i / elemsPerByte type) 0).extractLsb' (getBQBitwidth type * (i % elemsPerByte type)) _

def Initializer.element {type : BQType} (init : Initializer type) (i : Nat) : Int :=
  if isUnsignedBQType type then (field type init.bytes i).toNat else (field type init.bytes i).toInt

def lowBits (bits : Nat) (b : Byte) : Int := (b.setWidth bits).toInt

def unsignedBias (type : BQType) : Int :=
  if isUnsignedBQType type then 2 ^ (getBQBitwidth type - 1) else 0

def maskedElem (signed : Bool) (bits : Nat) (packed : Byte) (index : Nat) : Byte :=
  if signed then getElem true bits packed index &&& lowMask bits else getElem false bits packed index

theorem setWidth_four : ∀ b : Byte, (b.setWidth 4).setWidth 8 = b &&& lowMask 4 := by
  decide +kernel

theorem setWidth_two : ∀ b : Byte, (b.setWidth 2).setWidth 8 = b &&& lowMask 2 := by
  decide +kernel

theorem signExtend_mask_four :
    ∀ b : Byte, signExtendLowerBits 4 (b &&& lowMask 4) &&& lowMask 4 = b &&& lowMask 4 := by
  decide +kernel

theorem signExtend_mask_two :
    ∀ b : Byte, signExtendLowerBits 2 (b &&& lowMask 2) &&& lowMask 2 = b &&& lowMask 2 := by
  decide +kernel

theorem extract_eq_shift (b : Byte) (start len : Nat) :
    b.extractLsb' start len = (b >>> start).setWidth len := by
  apply BitVec.eq_of_toNat_eq
  simp

theorem maskedElem_four (signed : Bool) (packed : Byte) (index : Nat) :
    maskedElem signed 4 packed index = (packed.extractLsb' (4 * index) 4).setWidth 8 := by
  rw [extract_eq_shift,setWidth_four]
  cases signed with
  | false => simp [maskedElem,getElem]
  | true => simp [maskedElem,getElem,signExtend_mask_four]

theorem maskedElem_two (signed : Bool) (packed : Byte) (index : Nat) :
    maskedElem signed 2 packed index = (packed.extractLsb' (2 * index) 2).setWidth 8 := by
  rw [extract_eq_shift,setWidth_two]
  cases signed with
  | false => simp [maskedElem,getElem]
  | true => simp [maskedElem,getElem,signExtend_mask_two]

theorem lowBits_flip_two :
    ∀ f : BitVec 2, lowBits 2 (f.setWidth 8 ^^^ 0b10101010#8) = f.toNat - 2 := by
  decide +kernel

theorem lowBits_flip_four :
    ∀ f : BitVec 4, lowBits 4 (f.setWidth 8 ^^^ 0b10001000#8) = f.toNat - 8 := by
  decide +kernel

theorem lowBits_flip_eight :
    ∀ f : BitVec 8, lowBits 8 (f.setWidth 8 ^^^ 0b10000000#8) = f.toNat - 128 := by
  decide +kernel

theorem lowBits_setWidth (h : bits ≤ 8) (f : BitVec bits) : lowBits bits (f.setWidth 8) = f.toInt := by
  rw [lowBits,BitVec.setWidth_setWidth_of_le f h,BitVec.setWidth_eq]

theorem signExtend_two : ∀ f : BitVec 2, (signExtendLowerBits 2 (f.setWidth 8)).toInt = f.toInt := by
  decide +kernel

theorem signExtend_four : ∀ f : BitVec 4, (signExtendLowerBits 4 (f.setWidth 8)).toInt = f.toInt := by
  decide +kernel

theorem getBQBitwidth_le (type : BQType) : getBQBitwidth type ≤ 8 := by
  cases type <;> decide

theorem toNat_setWidth_byte (h : bits ≤ 8) (f : BitVec bits) : (f.setWidth 8).toNat = f.toNat := by
  rw [BitVec.toNat_setWidth]
  exact Nat.mod_eq_of_lt (Nat.lt_of_lt_of_le f.isLt (Nat.pow_le_pow_right (by decide) h))

section
variable {type : BQType} (init : Initializer type)

theorem getD_map_range {α : Type} (f : Nat → α) (d : α) {n : Nat} (h : i < n) :
    ((List.range n).map f).getD i d = f i := by
  simp [h]

theorem unpackToInt8_eq (signed : Bool) (bits : Nat) (packedType : String) {numElems : Nat}
    {bytes : List Byte} (h : bytes.length = (numElems + (8 / bits - 1)) / (8 / bits)) :
    unpackToInt8 signed bits packedType numElems bytes = .ok ((List.range numElems).map fun i =>
      maskedElem signed bits (bytes.getD (i / (8 / bits)) 0) (i % (8 / bits))) := by
  cases signed <;> simp [unpackToInt8,unpack,h,maskedElem,Function.comp_def]

structure Unpacks (us : List Byte) : Prop where
  length : us.length = init.shape.prod
  element : ∀ i < init.shape.prod, us.getD i 0 = (field type init.bytes i).setWidth 8

theorem unpacks_map {f : Nat → Byte}
    (h : ∀ i, f i = (field type init.bytes i).setWidth 8) :
    Unpacks init ((List.range init.shape.prod).map f) := by
  refine ⟨by simp,?_⟩
  intro i hi
  rw [getD_map_range f 0 hi,h]

theorem unpacks_bytes (htype : getBQBitwidth type = 8) : Unpacks init init.bytes := by
  have hper : elemsPerByte type = 1 := by simp [elemsPerByte,htype]
  refine ⟨?_,?_⟩
  · simpa [packedSize,hper] using init.sized
  · intro i _
    apply BitVec.eq_of_toNat_eq
    rw [toNat_setWidth_byte (getBQBitwidth_le type)]
    simp only [field,hper,htype,Nat.div_one,Nat.mod_one,Nat.mul_zero]
    rw [extract_eq_shift]
    simp only [htype,BitVec.ushiftRight_zero,BitVec.toNat_setWidth]
    exact (Nat.mod_eq_of_lt (BitVec.isLt _)).symm

theorem unpackInitializerData_unpacks :
    ∃ us, unpackInitializerData init = .ok us ∧ Unpacks init us := by
  cases type with
  | int2 =>
    exact ⟨_,unpackToInt8_eq true 2 "Int2x4" init.sized,unpacks_map init fun i => maskedElem_two ..⟩
  | uint2 =>
    exact ⟨_,unpackToInt8_eq false 2 "UInt2x4" init.sized,unpacks_map init fun i => maskedElem_two ..⟩
  | int4 =>
    exact ⟨_,unpackToInt8_eq true 4 "Int4x2" init.sized,unpacks_map init fun i => maskedElem_four ..⟩
  | uint4 =>
    exact ⟨_,unpackToInt8_eq false 4 "UInt4x2" init.sized,unpacks_map init fun i => maskedElem_four ..⟩
  | int8 | uint8 => exact ⟨_,rfl,unpacks_bytes init rfl⟩

theorem getD_map {α β : Type} (f : α → β) (xs : List α) (h : i < xs.length) (a : α) (b : β) :
    (xs.map f).getD i b = f (xs.getD i a) := by
  simp [h]

variable {init}

theorem toSignedDomain_lowBits (h : Unpacks init us) :
    ∃ signed, toSignedDomain type us = .ok signed ∧ signed.length = init.shape.prod ∧
      ∀ i < init.shape.prod,
        lowBits (getBQBitwidth type) (signed.getD i 0) = init.element i - unsignedBias type := by
  cases hu : isUnsignedBQType type with
  | false =>
    refine ⟨us,by simp [toSignedDomain,hu],h.length,?_⟩
    intro i hi
    rw [h.element i hi,lowBits_setWidth (getBQBitwidth_le type)]
    simp [Initializer.element,unsignedBias,hu]
  | true =>
    have hflip (flip : Byte)
        (hf : ∀ f : BitVec (getBQBitwidth type), lowBits (getBQBitwidth type) (f.setWidth 8 ^^^ flip) =
          f.toNat - unsignedBias type) (i : Nat) (hi : i < init.shape.prod) :
        lowBits (getBQBitwidth type) ((us.map (· ^^^ flip)).getD i 0) =
          init.element i - unsignedBias type := by
      rw [getD_map (· ^^^ flip) us (h.length ▸ hi) 0,h.element i hi,hf]
      simp [Initializer.element,hu]
    cases type with
    | uint2 => exact ⟨_,rfl,by simp [h.length],hflip _ lowBits_flip_two⟩
    | uint4 => exact ⟨_,rfl,by simp [h.length],hflip _ lowBits_flip_four⟩
    | uint8 => exact ⟨_,rfl,by simp [h.length],hflip _ lowBits_flip_eight⟩
    | int2 | int4 | int8 => cases hu

theorem zeroPointOffset_field (f : BitVec (getBQBitwidth type)) :
    zeroPointOffset type (f.setWidth 8) =
      -(if isUnsignedBQType type then (f.toNat : Int) else f.toInt) := by
  cases type with
  | int2 => exact congrArg Neg.neg (signExtend_two f)
  | int4 => exact congrArg Neg.neg (signExtend_four f)
  | int8 => exact congrArg (fun b : BitVec 8 => -b.toInt) (BitVec.setWidth_eq f)
  | uint2 => simp [zeroPointOffset,isUnsignedBQType,toNat_setWidth_byte (getBQBitwidth_le .uint2)]
  | uint4 => simp [zeroPointOffset,isUnsignedBQType,toNat_setWidth_byte (getBQBitwidth_le .uint4)]
  | uint8 => simp [zeroPointOffset,isUnsignedBQType,toNat_setWidth_byte (getBQBitwidth_le .uint8)]

variable (init)

theorem unpackZeroPoints_neg :
    ∃ zps, unpackZeroPoints init = .ok zps ∧ zps.length = init.shape.prod ∧
      ∀ i < init.shape.prod, zps.getD i 0 = -init.element i := by
  obtain ⟨us,hus,h⟩ := unpackInitializerData_unpacks init
  refine ⟨us.map (zeroPointOffset type),?_,by simp [h.length],?_⟩
  · simp only [unpackZeroPoints,hus]
    rfl
  · intro i hi
    rw [getD_map _ us (h.length ▸ hi) 0,h.element i hi,zeroPointOffset_field]
    rfl

end

section
variable {type : BQType}

theorem signExtend_masked_four (hbits : bits = 4) (f : BitVec bits) :
    (signExtendLowerBits 4 (f.setWidth 8 &&& lowMask 4)).toInt = f.toInt := by
  subst hbits
  rw [← setWidth_four,BitVec.setWidth_setWidth_of_le f (by decide),BitVec.setWidth_eq,signExtend_four]

theorem signExtend_masked_two (hbits : bits = 2) (f : BitVec bits) :
    (signExtendLowerBits 2 (f.setWidth 8 &&& lowMask 2)).toInt = f.toInt := by
  subst hbits
  rw [← setWidth_two,BitVec.setWidth_setWidth_of_le f (by decide),BitVec.setWidth_eq,signExtend_two]

theorem length_signExtend (bytes : List Byte) :
    (signExtendUnpackedSubByteData type bytes).length = bytes.length := by
  cases type <;> simp [signExtendUnpackedSubByteData]

theorem signExtend_idempotent (bytes : List Byte) :
    signExtendUnpackedSubByteData type (signExtendUnpackedSubByteData type bytes) =
      signExtendUnpackedSubByteData type bytes := by
  cases type with
  | int4 => simp [signExtendUnpackedSubByteData,signExtend_mask_four]
  | int2 => simp [signExtendUnpackedSubByteData,signExtend_mask_two]
  | uint4 | uint2 | int8 | uint8 => rfl

theorem byteValue_field (f : BitVec (getBQBitwidth type))
    (h : isUnsignedBQType type = true ∨ getBQBitwidth type = 8) :
    byteValue type (f.setWidth 8) = if isUnsignedBQType type then (f.toNat : Int) else f.toInt := by
  cases type with
  | uint2 => simp [byteValue,isUnsignedBQType,toNat_setWidth_byte (getBQBitwidth_le .uint2)]
  | uint4 => simp [byteValue,isUnsignedBQType,toNat_setWidth_byte (getBQBitwidth_le .uint4)]
  | uint8 => simp [byteValue,isUnsignedBQType,toNat_setWidth_byte (getBQBitwidth_le .uint8)]
  | int8 => exact congrArg (fun b : BitVec 8 => b.toInt) (BitVec.setWidth_eq f)
  | int2 | int4 => simp [isUnsignedBQType,getBQBitwidth] at h

theorem signExtend_element {init : Initializer type} (h : Unpacks init us) (hi : i < init.shape.prod) :
    byteValue type ((signExtendUnpackedSubByteData type us).getD i 0) = init.element i := by
  have hlt : i < us.length := h.length ▸ hi
  have helement := h.element i hi
  cases type with
  | int4 =>
    rw [signExtendUnpackedSubByteData,getD_map _ us hlt 0,helement]
    simpa only [byteValue,Initializer.element,isUnsignedBQType,Bool.false_eq_true,if_false] using
      signExtend_masked_four (rfl : getBQBitwidth .int4 = 4) (field .int4 init.bytes i)
  | int2 =>
    rw [signExtendUnpackedSubByteData,getD_map _ us hlt 0,helement]
    simpa only [byteValue,Initializer.element,isUnsignedBQType,Bool.false_eq_true,if_false] using
      signExtend_masked_two (rfl : getBQBitwidth .int2 = 2) (field .int2 init.bytes i)
  | uint4 | uint2 => exact (congrArg (byteValue _) helement).trans (byteValue_field _ (.inl rfl))
  | int8 => exact (congrArg (byteValue _) helement).trans (byteValue_field _ (.inr rfl))
  | uint8 => exact (congrArg (byteValue _) helement).trans (byteValue_field _ (.inl rfl))

theorem signExtend_unpacked_elements (type : BQType) (init : Initializer type) :
    ∃ unpacked, unpackInitializerData init = .ok unpacked ∧
      (signExtendUnpackedSubByteData type unpacked).length = init.shape.prod ∧
      (∀ i < init.shape.prod,
        byteValue type ((signExtendUnpackedSubByteData type unpacked).getD i 0) = init.element i) ∧
      signExtendUnpackedSubByteData type (signExtendUnpackedSubByteData type unpacked) =
        signExtendUnpackedSubByteData type unpacked := by
  obtain ⟨us,hus,h⟩ := unpackInitializerData_unpacks init
  exact ⟨us,hus,(length_signExtend us).trans h.length,fun i hi => signExtend_element h hi,
    signExtend_idempotent us⟩

end

end QnnEp.BlockQuant
