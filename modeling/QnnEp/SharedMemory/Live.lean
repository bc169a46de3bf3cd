import QnnEp.SharedMemory.Allocator

namespace QnnEp.SharedMemory.Allocators
open Registry
variable {κ : Type}
variable {block allocator : Nat} {info : SharedMemoryInfo} {cleanUp : κ}

structure Sound (s : Allocators κ) : Prop where
  issued : ∀ allocator address record, s.allocations allocator address = some record →
    record.sharedMemoryInfo.block < s.allocated
  distinct : ∀ allocator address record allocator' address' record',
    s.allocations allocator address = some record →
    s.allocations allocator' address' = some record' →
    record.sharedMemoryInfo.block = record'.sharedMemoryInfo.block →
      allocator = allocator' ∧ address = address'
  freed : ∀ block ∈ s.freed, block < s.allocated
  tracked : ∀ t ∈ s.tracker.records, ∃ record,
    s.allocations t.allocator t.baseAddress = some record ∧
      record.sharedMemoryInfo.block ∉ s.freed

def Holds (s : Allocators κ) (block : Nat) (cleanUp : κ) : Prop :=
  block ∉ s.freed ∧ ∃ allocator address record,
    s.allocations allocator address = some record ∧ record.sharedMemoryInfo.block = block ∧
      cleanUp ∈ record.cleanUpFns

variable {s : Allocators κ}

theorem empty_sound : (empty : Allocators κ).Sound where
  issued := by simp [empty]
  distinct := by simp [empty]
  freed := by simp [empty]
  tracked := by simp [empty,AllocationTracker.empty]

namespace Sound

theorem rpcmemAlloc (h : s.Sound) : s.rpcmemAlloc.Sound where
  issued := fun a b r hr => Nat.lt_succ_of_lt (h.issued a b r hr)
  distinct := h.distinct
  freed := fun block hb => Nat.lt_succ_of_lt (h.freed block hb)
  tracked := h.tracked

theorem rpcmemFree (h : s.Sound) (hissued : block < s.allocated)
    (huntracked : ∀ t ∈ s.tracker.records, ∀ record,
      s.allocations t.allocator t.baseAddress = some record →
        record.sharedMemoryInfo.block ≠ block) :
    (s.rpcmemFree block).Sound where
  issued := h.issued
  distinct := h.distinct
  freed := by
    intro b hb
    rcases List.mem_cons.mp hb with rfl | hb
    · exact hissued
    · exact h.freed b hb
  tracked := by
    intro t ht
    obtain ⟨record,hrecord,hfreed⟩ := h.tracked t ht
    refine ⟨record,hrecord,?_⟩
    simp only [Allocators.rpcmemFree,List.mem_cons,not_or]
    exact ⟨huntracked t ht record hrecord,hfreed⟩

theorem setRecord_new (h : s.Sound) {address : Nat} (hslot : s.allocations allocator address = none)
    (hissued : info.block < s.allocated)
    (hfresh : ∀ a b record, s.allocations a b = some record → record.sharedMemoryInfo.block ≠ info.block) :
    (s.setRecord allocator address (some ⟨info,[]⟩)).Sound where
  issued := by
    intro a b r hr
    rcases updateAt_cases hr with ⟨_,_,hr⟩ | ⟨_,hr⟩
    · cases hr
      exact hissued
    · exact h.issued a b r hr
  distinct := by
    intro a b r a' b' r' hr hr' heq
    rcases updateAt_cases hr with ⟨ha,hb,hr⟩ | ⟨_,hr⟩
    · cases hr
      rcases updateAt_cases hr' with ⟨ha',hb',_⟩ | ⟨_,hr'⟩
      · exact ⟨ha.trans ha'.symm,hb.trans hb'.symm⟩
      · exact absurd heq.symm (hfresh a' b' r' hr')
    · rcases updateAt_cases hr' with ⟨_,_,hr'⟩ | ⟨_,hr'⟩
      · cases hr'
        exact absurd heq (hfresh a b r hr)
      · exact h.distinct a b r a' b' r' hr hr' heq
  freed := h.freed
  tracked := by
    intro t ht
    obtain ⟨record,hrecord,hfreed⟩ := h.tracked t ht
    refine ⟨record,(updateAt_of_ne ?_ ..).trans hrecord,hfreed⟩
    rintro ⟨ha,hb⟩
    rw [ha,hb,hslot] at hrecord
    cases hrecord

end Sound

theorem Holds.setRecord (h : s.Holds block cleanUp) {address : Nat} {record : Option (AllocationRecord κ)}
    (hslot : ∀ old, s.allocations allocator address = some old → old.sharedMemoryInfo.block ≠ block) :
    (s.setRecord allocator address record).Holds block cleanUp := by
  obtain ⟨hfreed,a,b,r,hr,hblock,hmem⟩ := h
  refine ⟨hfreed,a,b,r,(updateAt_of_ne ?_ ..).trans hr,hblock,hmem⟩
  rintro ⟨rfl,rfl⟩
  exact hslot r hr hblock

theorem Holds.rpcmemFree {freed : Nat} (h : s.Holds block cleanUp) (hne : block ≠ freed) :
    (s.rpcmemFree freed).Holds block cleanUp := by
  obtain ⟨hfreed,hrecord⟩ := h
  refine ⟨?_,hrecord⟩
  simpa [Allocators.rpcmemFree] using ⟨hne,hfreed⟩

theorem Holds.ne {block' : Nat} (h : s.Holds block cleanUp)
    (hfresh : ∀ a b record, s.allocations a b = some record → record.sharedMemoryInfo.block ≠ block') :
    block ≠ block' := by
  obtain ⟨_,a,b,r,hr,rfl,_⟩ := h
  exact hfresh a b r hr

section
variable {allocator address size : Nat} {info : SharedMemoryInfo}

theorem storeAllocation_kept (h : s.Sound) (hissued : info.block < s.allocated)
    (hunfreed : info.block ∉ s.freed)
    (hfresh : ∀ a b record, s.allocations a b = some record →
      record.sharedMemoryInfo.block ≠ info.block) :
    (s.storeAllocation allocator address size info).2.Sound ∧ ∀ block cleanUp,
      s.Holds block cleanUp → (s.storeAllocation allocator address size info).2.Holds block cleanUp := by
  unfold storeAllocation
  cases hslot : s.allocations allocator address with
  | some old =>
    exact ⟨h.rpcmemFree hissued fun t _ record hr => hfresh _ _ record hr,
      fun block cleanUp hh => hh.rpcmemFree (hh.ne hfresh)⟩
  | none =>
    have hnew := h.setRecord_new hslot hissued hfresh
    have hkeep : ∀ block cleanUp, s.Holds block cleanUp →
        (s.setRecord allocator address (some ⟨info,[]⟩)).Holds block cleanUp :=
      fun block cleanUp hh => hh.setRecord (by simp [hslot])
    rcases hreg : (s.setRecord allocator address (some ⟨info,[]⟩)).tracker.registerAllocation
      ⟨address,size,allocator⟩ with ⟨_ | _,tracker⟩
    · simp only [hreg]
      refine ⟨hnew.rpcmemFree hissued ?_,fun block cleanUp hh => (hkeep _ _ hh).rpcmemFree (hh.ne hfresh)⟩
      intro t ht record hrecord
      obtain ⟨old,hold,_⟩ := h.tracked t ht
      rcases updateAt_cases hrecord with ⟨ha,hb,_⟩ | ⟨_,hrecord⟩
      · rw [ha,hb,hslot] at hold
        cases hold
      · exact hfresh _ _ record hrecord
    · simp only [hreg]
      refine ⟨⟨hnew.issued,hnew.distinct,hnew.freed,?_⟩,hkeep⟩
      intro t ht
      rcases (AllocationTracker.registerAllocation_records hreg t).mp ht with rfl | ht
      · exact ⟨_,updateAt_self ..,hunfreed⟩
      · exact hnew.tracked t ht

end

theorem allocImpl_kept (h : s.Sound) (allocator requestedSize : Nat) (rpcmem : RpcMem) :
    (s.allocImpl allocator requestedSize rpcmem).2.Sound ∧ ∀ block cleanUp,
      s.Holds block cleanUp → (s.allocImpl allocator requestedSize rpcmem).2.Holds block cleanUp := by
  have hfresh : ∀ a b record, s.rpcmemAlloc.allocations a b = some record →
      record.sharedMemoryInfo.block ≠ s.allocated :=
    fun a b record hr => Nat.ne_of_lt (h.issued a b record hr)
  have hissued : s.allocated < s.rpcmemAlloc.allocated := Nat.lt_succ_self _
  have habandoned : (s.rpcmemAlloc.rpcmemFree s.allocated).Sound ∧ ∀ block cleanUp,
      s.Holds block cleanUp → (s.rpcmemAlloc.rpcmemFree s.allocated).Holds block cleanUp :=
    ⟨h.rpcmemAlloc.rpcmemFree hissued fun t _ record hr => hfresh _ _ record hr,
      fun block cleanUp hh => Holds.rpcmemFree (s := s.rpcmemAlloc) hh (hh.ne hfresh)⟩
  unfold allocImpl
  cases rpcmem.library with
  | error e => exact ⟨h,fun _ _ hh => hh⟩
  | ok _ =>
    simp only
    split
    · exact ⟨h,fun _ _ hh => hh⟩
    split
    · exact ⟨h,fun _ _ hh => hh⟩
    split
    · exact habandoned
    split
    · exact habandoned
    · exact storeAllocation_kept h.rpcmemAlloc hissued
        (fun hf => Nat.lt_irrefl _ (h.freed _ hf)) hfresh

theorem freeImpl_kept (h : s.Sound) (allocator address : Nat) :
    (s.freeImpl allocator address).2.Sound ∧ ∀ block cleanUp, s.Holds block cleanUp →
      (s.freeImpl allocator address).2.Holds block cleanUp ∨
        ∃ cleanUps, (s.freeImpl allocator address).1 = .ok cleanUps ∧ cleanUp ∈ cleanUps := by
  unfold freeImpl
  split
  · exact ⟨h,fun _ _ hh => .inl hh⟩
  cases hslot : s.allocations allocator address with
  | none => exact ⟨h,fun _ _ hh => .inl hh⟩
  | some record =>
    simp only
    have hrecords : ∀ a b r, (s.setRecord allocator address none).allocations a b = some r →
        s.allocations a b = some r ∧ r.sharedMemoryInfo.block ≠ record.sharedMemoryInfo.block := by
      intro a b r hr
      rcases updateAt_cases hr with ⟨_,_,hr⟩ | ⟨hne,hr⟩
      · cases hr
      · refine ⟨hr,?_⟩
        intro heq
        exact hne (h.distinct a b r allocator address record hr hslot heq)
    refine ⟨⟨?_,?_,?_,?_⟩,?_⟩
    · exact fun a b r hr => h.issued a b r (hrecords a b r hr).1
    · exact fun a b r a' b' r' hr hr' =>
        h.distinct a b r a' b' r' (hrecords a b r hr).1 (hrecords a' b' r' hr').1
    · intro block hb
      rcases List.mem_cons.mp hb with rfl | hb
      · exact h.issued allocator address record hslot
      · exact h.freed block hb
    · intro t ht
      obtain ⟨ht,hne⟩ := (AllocationTracker.unregisterAllocation_records ..).mp ht
      obtain ⟨r,hr,hfreed⟩ := h.tracked t ht
      have hkept : (s.setRecord allocator address none).allocations t.allocator t.baseAddress = some r :=
        (updateAt_of_ne (fun hsame => hne hsame.2) ..).trans hr
      refine ⟨r,hkept,?_⟩
      simpa [Allocators.rpcmemFree] using ⟨(hrecords _ _ r hkept).2,hfreed⟩
    · intro block cleanUp hh
      by_cases hblock : block = record.sharedMemoryInfo.block
      · refine .inr ⟨record.cleanUpFns,rfl,?_⟩
        obtain ⟨_,a,b,r,hr,hrblock,hmem⟩ := hh
        obtain ⟨rfl,rfl⟩ := h.distinct a b r allocator address record hr hslot (hrblock.trans hblock)
        rw [hslot] at hr
        cases hr
        exact hmem
      · refine .inl ?_
        have hheld : (s.setRecord allocator address none).Holds block cleanUp := by
          refine hh.setRecord ?_
          intro old hold heq
          rw [hslot] at hold
          cases hold
          exact hblock heq.symm
        exact Holds.rpcmemFree (s := { s.setRecord allocator address none with
          tracker := (s.tracker.unregisterAllocation address).2 }) hheld hblock

theorem setRecord_blocks {address : Nat} {old new : AllocationRecord κ}
    (hslot : s.allocations allocator address = some old) (hinfo : new.sharedMemoryInfo = old.sharedMemoryInfo)
    {a b : Nat} {r : AllocationRecord κ}
    (hr : (s.setRecord allocator address (some new)).allocations a b = some r) :
    ∃ r', s.allocations a b = some r' ∧ r.sharedMemoryInfo = r'.sharedMemoryInfo := by
  rcases updateAt_cases hr with ⟨rfl,rfl,heq⟩ | ⟨_,hr⟩
  · cases heq
    exact ⟨old,hslot,hinfo⟩
  · exact ⟨r,hr,rfl⟩

theorem Sound.setRecord_same (h : s.Sound) {allocator address : Nat} {old new : AllocationRecord κ}
    (hslot : s.allocations allocator address = some old)
    (hinfo : new.sharedMemoryInfo = old.sharedMemoryInfo) :
    (s.setRecord allocator address (some new)).Sound where
  issued := by
    intro a b r hr
    obtain ⟨r',hr',heq⟩ := setRecord_blocks hslot hinfo hr
    rw [heq]
    exact h.issued a b r' hr'
  distinct := by
    intro a b r a' b' r' hr hr' hblock
    obtain ⟨q,hq,heq⟩ := setRecord_blocks hslot hinfo hr
    obtain ⟨q',hq',heq'⟩ := setRecord_blocks hslot hinfo hr'
    rw [heq,heq'] at hblock
    exact h.distinct a b q a' b' q' hq hq' hblock
  freed := h.freed
  tracked := by
    intro t ht
    obtain ⟨r,hr,hfreed⟩ := h.tracked t ht
    by_cases hsame : t.allocator = allocator ∧ t.baseAddress = address
    · rw [hsame.1,hsame.2,hslot] at hr
      cases hr
      refine ⟨new,?_,by rwa [hinfo]⟩
      rw [hsame.1,hsame.2]
      exact updateAt_self ..
    · exact ⟨r,(updateAt_of_ne hsame ..).trans hr,hfreed⟩

theorem Holds.setRecord_same (h : s.Holds block cleanUp) {address : Nat} {old new : AllocationRecord κ}
    (hslot : s.allocations allocator address = some old) (hinfo : new.sharedMemoryInfo = old.sharedMemoryInfo)
    (hfns : old.cleanUpFns ⊆ new.cleanUpFns) :
    (s.setRecord allocator address (some new)).Holds block cleanUp := by
  obtain ⟨hfreed,a,b,r,hr,hblock,hmem⟩ := h
  by_cases hsame : a = allocator ∧ b = address
  · obtain ⟨rfl,rfl⟩ := hsame
    rw [hslot] at hr
    cases hr
    exact ⟨hfreed,a,b,new,updateAt_self ..,by rw [hinfo,hblock],hfns hmem⟩
  · exact ⟨hfreed,a,b,r,(updateAt_of_ne hsame ..).trans hr,hblock,hmem⟩

theorem allocationOf_ok {address : Nat} {tracked : TrackedRecord} {record : AllocationRecord κ}
    (h : s.allocationOf address = .ok (tracked,record)) :
    s.tracker.lookUp address = some tracked ∧
      s.allocations tracked.allocator tracked.baseAddress = some record := by
  unfold allocationOf at h
  split at h
  · cases h
  · next hlook =>
    split at h
    · cases h
    · next hrecord =>
      cases h
      exact ⟨hlook,hrecord⟩

theorem addAllocationCleanUp_kept (h : s.Sound) {address : Nat}
    (hinfo : s.getAllocationSharedMemoryInfo address = .ok info) (cleanUp : κ) :
    ∃ s', s.addAllocationCleanUp address cleanUp = .ok s' ∧ s'.Sound ∧ s'.Holds info.block cleanUp ∧
      ∀ block c, s.Holds block c → s'.Holds block c := by
  obtain ⟨⟨tracked,record⟩,hof,hinfo⟩ := bind_ok hinfo
  obtain ⟨hlook,hslot⟩ := allocationOf_ok hof
  cases hinfo
  have hmem := (AllocationTracker.lookUp_eq_some_iff.mp hlook).1
  obtain ⟨r,hr,hfreed⟩ := h.tracked tracked hmem
  rw [hslot] at hr
  cases hr
  let extended : AllocationRecord κ := { record with cleanUpFns := record.cleanUpFns ++ [cleanUp] }
  refine ⟨s.setRecord tracked.allocator tracked.baseAddress (some extended),?_,
    h.setRecord_same hslot rfl,?_,fun _ _ hh => hh.setRecord_same hslot rfl ?_⟩
  · simp only [addAllocationCleanUp,hof]
    rfl
  · exact ⟨hfreed,_,_,extended,updateAt_self ..,rfl,by simp [extended]⟩
  · exact fun _ hm => List.mem_append_left _ hm

end QnnEp.SharedMemory.Allocators
