import Mathlib.Data.List.Pairwise
import Mathlib.Algebra.Order.Ring.Int
import QnnEp.Foundation.Registry

namespace QnnEp.SharedMemory
open List

structure TrackedRecord where
  baseAddress : Nat
  sizeInBytes : Nat
  allocator : Nat
  deriving DecidableEq, Repr

structure AllocationTracker where
  records : List TrackedRecord
  sorted : records.Pairwise (·.baseAddress < ·.baseAddress)

variable {records : List TrackedRecord} {r : TrackedRecord} {t : AllocationTracker}

namespace AllocationTracker

def empty : AllocationTracker := ⟨[],List.Pairwise.nil⟩

theorem sorted_insert (r : TrackedRecord) (hs : records.Pairwise (·.baseAddress < ·.baseAddress))
    (hnew : ∀ x ∈ records, x.baseAddress ≠ r.baseAddress) :
    (records.takeWhile (·.baseAddress < r.baseAddress) ++
      r :: records.dropWhile (·.baseAddress < r.baseAddress)).Pairwise
        (·.baseAddress < ·.baseAddress) := by
  induction records with
  | nil => simp
  | cons x xs ih =>
    obtain ⟨hx,hxs⟩ := pairwise_cons.mp hs
    have hxr := hnew x mem_cons_self
    have ih := ih hxs fun y hy => hnew y (mem_cons_of_mem x hy)
    by_cases hlt : x.baseAddress < r.baseAddress
    · simp only [takeWhile_cons,dropWhile_cons,hlt,decide_true,if_true,cons_append]
      refine pairwise_cons.mpr ⟨?_,ih⟩
      intro y hy
      rcases mem_append.mp hy with hy | hy
      · exact hx y (takeWhile_subset _ hy)
      · rcases mem_cons.mp hy with rfl | hy
        · exact hlt
        · exact hx y (dropWhile_subset _ hy)
    · simp only [takeWhile_cons,dropWhile_cons,hlt,decide_false,Bool.false_eq_true,if_false,
        nil_append]
      refine pairwise_cons.mpr ⟨?_,hs⟩
      intro y hy
      have hrx : r.baseAddress < x.baseAddress := by omega
      rcases mem_cons.mp hy with rfl | hy
      · exact hrx
      · exact Nat.lt_trans hrx (hx y hy)

def registerAllocation (t : AllocationTracker) (r : TrackedRecord) : Bool × AllocationTracker :=
  if hnew : ∀ x ∈ t.records, x.baseAddress ≠ r.baseAddress then
    (true,⟨_,sorted_insert r t.sorted hnew⟩)
  else (false,t)

def unregisterAllocation (t : AllocationTracker) (baseAddress : Nat) : Bool × AllocationTracker :=
  (t.records.any (·.baseAddress = baseAddress),
    ⟨t.records.filter (·.baseAddress ≠ baseAddress),t.sorted.filter _⟩)

def lookUp (t : AllocationTracker) (addressWithinAllocation : Nat) : Option TrackedRecord :=
  match (t.records.takeWhile (·.baseAddress ≤ addressWithinAllocation)).getLast? with
  | none => none
  | some record =>
    if record.baseAddress + record.sizeInBytes ≤ addressWithinAllocation then none else some record

theorem takeWhile_eq_filter (a : Nat) (hs : records.Pairwise (·.baseAddress < ·.baseAddress)) :
    records.takeWhile (·.baseAddress ≤ a) = records.filter (·.baseAddress ≤ a) := by
  induction records with
  | nil => rfl
  | cons x xs ih =>
    obtain ⟨hx,hxs⟩ := pairwise_cons.mp hs
    by_cases hle : x.baseAddress ≤ a
    · simp [hle,ih hxs]
    · have hnone : xs.filter (·.baseAddress ≤ a) = [] := by
        refine filter_eq_nil_iff.mpr ?_
        intro y hy
        have := hx y hy
        simp
        omega
      simp [hle,hnone]

theorem getLast?_sorted (hs : records.Pairwise (·.baseAddress < ·.baseAddress)) :
    records.getLast? = some r ↔
      r ∈ records ∧ ∀ x ∈ records, x.baseAddress ≤ r.baseAddress := by
  constructor
  · intro h
    obtain ⟨before,rfl⟩ := List.getLast?_eq_some_iff.mp h
    obtain ⟨_,_,hlast⟩ := pairwise_append.mp hs
    refine ⟨by simp,?_⟩
    intro x hx
    rcases mem_append.mp hx with hx | hx
    · exact Nat.le_of_lt (hlast x hx r mem_cons_self)
    · exact Nat.le_of_eq (congrArg _ (mem_singleton.mp hx))
  · rintro ⟨hmem,hmax⟩
    obtain ⟨before,after,rfl⟩ := append_of_mem hmem
    cases after with
    | nil => simp
    | cons y ys =>
      obtain ⟨_,htail,_⟩ := pairwise_append.mp hs
      have hlt := (pairwise_cons.mp htail).1 y mem_cons_self
      have hle := hmax y (by simp)
      omega

theorem lookUp_eq_some_iff {a : Nat} :
    t.lookUp a = some r ↔ r ∈ t.records ∧ r.baseAddress ≤ a ∧ a < r.baseAddress + r.sizeInBytes ∧
      ∀ x ∈ t.records, x.baseAddress ≤ a → x.baseAddress ≤ r.baseAddress := by
  have hfloor : ∀ x, (t.records.takeWhile (·.baseAddress ≤ a)).getLast? = some x ↔
      x ∈ t.records ∧ x.baseAddress ≤ a ∧
        ∀ y ∈ t.records, y.baseAddress ≤ a → y.baseAddress ≤ x.baseAddress := by
    intro x
    rw [takeWhile_eq_filter a t.sorted,getLast?_sorted (t.sorted.filter _)]
    simp [and_assoc]
  unfold lookUp
  cases hlast : (t.records.takeWhile (·.baseAddress ≤ a)).getLast? with
  | none =>
    refine iff_of_false (by simp) ?_
    rintro ⟨hmem,hle,_,hmax⟩
    have := (hfloor r).mpr ⟨hmem,hle,hmax⟩
    simp [hlast] at this
  | some x =>
    obtain ⟨hmem,hle,hmax⟩ := (hfloor x).mp hlast
    constructor
    · intro h
      simp only at h
      split at h
      · cases h
      · cases h
        exact ⟨hmem,hle,by omega,hmax⟩
    · rintro ⟨hr,hra,hsize,hrmax⟩
      have heq : some x = some r := hlast.symm.trans ((hfloor r).mpr ⟨hr,hra,hrmax⟩)
      cases heq
      simp only
      rw [if_neg (by omega)]

theorem registerAllocation_records {t' : AllocationTracker} (h : t.registerAllocation r = (true,t'))
    (x : TrackedRecord) : x ∈ t'.records ↔ x = r ∨ x ∈ t.records := by
  unfold registerAllocation at h
  split at h
  · cases h
    have hsplit : x ∈ t.records ↔ x ∈ t.records.takeWhile (·.baseAddress < r.baseAddress) ∨
        x ∈ t.records.dropWhile (·.baseAddress < r.baseAddress) := by
      rw [← mem_append,takeWhile_append_dropWhile]
    rw [hsplit,mem_append,mem_cons,or_left_comm]
  · cases h

theorem unregisterAllocation_records (t : AllocationTracker) (a : Nat) (x : TrackedRecord) :
    x ∈ (t.unregisterAllocation a).2.records ↔ x ∈ t.records ∧ x.baseAddress ≠ a := by
  simp [unregisterAllocation]

end AllocationTracker

structure SharedMemoryInfo where
  fd : Int
  offset : Nat
  totalSize : Nat
  block : Nat
  deriving DecidableEq, Repr

structure AllocationRecord (κ : Type) where
  sharedMemoryInfo : SharedMemoryInfo
  cleanUpFns : List κ

structure Allocators (κ : Type) where
  allocations : Nat → Nat → Option (AllocationRecord κ)
  tracker : AllocationTracker
  allocated : Nat
  freed : List Nat

structure RpcMem where
  library : Except String Unit
  alloc : Nat
  toFd : Int

namespace Allocators
variable {κ : Type}

def empty : Allocators κ := ⟨fun _ _ => none,AllocationTracker.empty,0,[]⟩

def allocationAlignment : Nat := 64

def setRecord (s : Allocators κ) (allocator : Nat) (address : Nat)
    (record : Option (AllocationRecord κ)) : Allocators κ :=
  { s with allocations := Registry.updateAt s.allocations allocator address record }

def rpcmemAlloc (s : Allocators κ) : Allocators κ := { s with allocated := s.allocated + 1 }

def rpcmemFree (s : Allocators κ) (block : Nat) : Allocators κ := { s with freed := block :: s.freed }

def storeAllocation (s : Allocators κ) (allocator : Nat) (address : Nat) (size : Nat)
    (info : SharedMemoryInfo) : Except String Nat × Allocators κ :=
  match s.allocations allocator address with
  | some _ => (.error "Allocation record already exists for address.",s.rpcmemFree info.block)
  | none =>
    let s := s.setRecord allocator address (some ⟨info,[]⟩)
    match s.tracker.registerAllocation ⟨address,size,allocator⟩ with
    | (false,_) =>
      (.error "Attempted to register allocation but it is already tracked for address.",
        s.rpcmemFree info.block)
    | (true,tracker) => (.ok address,{ s with tracker := tracker })

def allocImpl (s : Allocators κ) (allocator : Nat) (requestedSize : Nat) (rpcmem : RpcMem) :
    Except String Nat × Allocators κ :=
  match rpcmem.library with
  | .error e => (.error ("Unable to load RPCMEM for QnnHtpShared allocator: " ++ e),s)
  | .ok () =>
    if 2 ^ 31 ≤ requestedSize then (.error "Integer overflow",s)
    else if rpcmem.alloc = 0 then
      (.error "rpcmem_alloc() failed to allocate and returned nullptr.",s)
    else
      let block := s.allocated
      let s := s.rpcmemAlloc
      if rpcmem.alloc % allocationAlignment ≠ 0 then
        (.error "Shared memory address does not have required alignment (64 bytes).",
          s.rpcmemFree block)
      else if rpcmem.toFd = -1 then
        (.error "rpcmem_to_fd() returned invalid file descriptor.",s.rpcmemFree block)
      else s.storeAllocation allocator rpcmem.alloc requestedSize ⟨rpcmem.toFd,0,requestedSize,block⟩

def freeImpl (s : Allocators κ) (allocator : Nat) (allocationAddress : Nat) :
    Except String (List κ) × Allocators κ :=
  if allocationAddress = 0 then (.ok [],s)
  else
    match s.allocations allocator allocationAddress with
    | none => (.error "Failed to get allocation info for address.",s)
    | some record =>
      let s := s.setRecord allocator allocationAddress none
      let s := { s with tracker := (s.tracker.unregisterAllocation allocationAddress).2 }
      (.ok record.cleanUpFns,s.rpcmemFree record.sharedMemoryInfo.block)

def allocationOf (s : Allocators κ) (addressWithinAllocation : Nat) :
    Except String (TrackedRecord × AllocationRecord κ) :=
  match s.tracker.lookUp addressWithinAllocation with
  | none => .error "Failed to look up tracked allocation."
  | some tracked =>
    match s.allocations tracked.allocator tracked.baseAddress with
    | none => .error "Failed to get allocation info for address."
    | some record => .ok (tracked,record)

def getAllocationSharedMemoryInfo (s : Allocators κ) (addressWithinAllocation : Nat) :
    Except String SharedMemoryInfo := do
  let (tracked,record) ← s.allocationOf addressWithinAllocation
  let info := record.sharedMemoryInfo
  pure { info with offset := info.offset + (addressWithinAllocation - tracked.baseAddress) }

def addAllocationCleanUp (s : Allocators κ) (addressWithinAllocation : Nat)
    (allocationCleanUp : κ) : Except String (Allocators κ) := do
  let (tracked,record) ← s.allocationOf addressWithinAllocation
  pure (s.setRecord tracked.allocator tracked.baseAddress
    (some { record with cleanUpFns := record.cleanUpFns ++ [allocationCleanUp] }))

end Allocators

end QnnEp.SharedMemory
