import QnnEp.Foundation.Machine
import QnnEp.SharedMemory.Live

namespace QnnEp.SharedMemory
open Registry

inductive QnnAllocatorType where
  | none
  | htpShared
  | dx12Shared
  deriving DecidableEq, Repr

structure MemHandle where
  raw : Nat
  context : Nat
  memory : SharedMemoryInfo
  deriving DecidableEq, Repr

structure MemHandleRecord where
  registeredTensorDataSize : Nat
  memHandle : MemHandle
  deriving DecidableEq, Repr

structure CleanUp where
  memoryAddress : Nat
  context : Nat
  deriving DecidableEq, Repr

structure ContextMemHandleManager where
  context : Nat
  allocatorType : QnnAllocatorType
  memHandles : Nat → Option MemHandleRecord

variable {m : ContextMemHandleManager} {manager : Nat} {allocators : Allocators CleanUp}
  {memRegister : Except String Nat} {memHandle : MemHandle}

namespace ContextMemHandleManager

def emplace (m : ContextMemHandleManager) (memoryAddress : Nat) (record : MemHandleRecord) :
    ContextMemHandleManager :=
  { m with memHandles := Function.update m.memHandles memoryAddress (some record) }

theorem emplace_self (m : ContextMemHandleManager) (a : Nat) (record : MemHandleRecord) :
    (m.emplace a record).memHandles a = some record := Function.update_self ..

theorem emplace_of_ne (m : ContextMemHandleManager) {a a' : Nat} (h : a' ≠ a)
    (record : MemHandleRecord) : (m.emplace a record).memHandles a' = m.memHandles a' :=
  Function.update_of_ne h ..

def getOrRegister (m : ContextMemHandleManager) (allocators : Allocators CleanUp)
    (memoryAddress tensorDataSize : Nat) (memRegister : Except String Nat) :
    Except String (MemHandle × Bool × ContextMemHandleManager) :=
  match m.memHandles memoryAddress with
  | some record =>
    if tensorDataSize ≤ record.registeredTensorDataSize then .ok (record.memHandle,false,m)
    else .error ("Actual tensor data size (" ++ toString tensorDataSize ++
      ") is larger than registered tensor data size (" ++
      toString record.registeredTensorDataSize ++ ").")
  | none =>
    if m.allocatorType = .htpShared then do
      let sharedMemoryInfo ← allocators.getAllocationSharedMemoryInfo memoryAddress
      match memRegister with
      | .error e => .error ("qnn_interface.memRegister() failed: " ++ e)
      | .ok rawMemHandle =>
        let memHandle := ⟨rawMemHandle,m.context,sharedMemoryInfo⟩
        pure (memHandle,true,m.emplace memoryAddress ⟨tensorDataSize,memHandle⟩)
    else .error "No HTP or DX12 allocation found for shared memory address."

def unregister (m : ContextMemHandleManager) (memoryAddress : Nat) :
    Except String ContextMemHandleManager :=
  match m.memHandles memoryAddress with
  | none => .error "No mem handle found for address."
  | some _ => .ok { m with memHandles := Function.update m.memHandles memoryAddress none }

end ContextMemHandleManager

structure System where
  allocators : Allocators CleanUp
  contextMap : Nat → Nat → Option ContextMemHandleManager
  created : Nat

structure MemHandleRequest where
  manager : Nat
  contextHandle : Nat
  memoryAddress : Nat
  tensorDataSize : Nat
  memRegister : Except String Nat

namespace System

def start : System := ⟨Allocators.empty,fun _ _ => none,0⟩

def setContext (s : System) (manager contextHandle : Nat) (m : Option ContextMemHandleManager) :
    System :=
  { s with contextMap := updateAt s.contextMap manager contextHandle m }

def alloc (s : System) (allocator requestedSize : Nat) (rpcmem : RpcMem) :
    Except String Nat × System :=
  let (address,allocators) := s.allocators.allocImpl allocator requestedSize rpcmem
  (address,{ s with allocators := allocators })

def unregisterMemHandle (s : System) (c : CleanUp) : System :=
  { s with
    contextMap := fun manager contextHandle => (s.contextMap manager contextHandle).map fun m =>
      if m.context = c.context then (m.unregister c.memoryAddress).toOption.getD m else m }

def free (s : System) (allocator allocationAddress : Nat) : Except String Unit × System :=
  match s.allocators.freeImpl allocator allocationAddress with
  | (.error e,allocators) => (.error e,{ s with allocators := allocators })
  | (.ok cleanUpFns,allocators) =>
    (.ok (),cleanUpFns.foldl unregisterMemHandle { s with allocators := allocators })

section
variable (allocatorType : Nat → QnnAllocatorType)

def addQnnContextHandle (s : System) (manager rawContextHandle : Nat) : Except String Unit × System :=
  match s.contextMap manager rawContextHandle with
  | some _ => (.error "QNN context was already added.",s)
  | none =>
    (.ok (),{ s.setContext manager rawContextHandle
        (some ⟨s.created,allocatorType manager,fun _ => none⟩) with created := s.created + 1 })

def releaseSpecificContextHandle (s : System) (manager oldContext : Nat) : System :=
  s.setContext manager oldContext none

def releaseContext (s : System) (manager : Nat) : System :=
  { s with contextMap := Function.update s.contextMap manager fun _ => none }

def getOrRegisterContextMemHandle (s : System) (r : MemHandleRequest) :
    Except String MemHandle × System :=
  match s.contextMap r.manager r.contextHandle with
  | none => (.error "QNN context not found.",s)
  | some m =>
    match m.getOrRegister s.allocators r.memoryAddress r.tensorDataSize r.memRegister with
    | .error e => (.error e,s)
    | .ok (memHandle,false,_) => (.ok memHandle,s)
    | .ok (memHandle,true,m) =>
      let s := s.setContext r.manager r.contextHandle (some m)
      if allocatorType r.manager = .htpShared then
        match s.allocators.addAllocationCleanUp r.memoryAddress ⟨r.memoryAddress,m.context⟩ with
        | .error e => (.error e,s)
        | .ok allocators => (.ok memHandle,{ s with allocators := allocators })
      else (.error "Cannot add allocation clean up function for unsupported backend.",s)

end

end System

inductive Event where
  | alloc (allocator requestedSize : Nat) (rpcmem : RpcMem)
  | free (allocator allocationAddress : Nat)
  | addContext (manager rawContextHandle : Nat)
  | releaseSpecificContext (manager oldContext : Nat)
  | releaseContext (manager : Nat)
  | getOrRegister (request : MemHandleRequest)

def step (allocatorType : Nat → QnnAllocatorType) (s : System) : Event → System
  | .alloc allocator requestedSize rpcmem => (s.alloc allocator requestedSize rpcmem).2
  | .free allocator allocationAddress => (s.free allocator allocationAddress).2
  | .addContext manager rawContextHandle =>
    (s.addQnnContextHandle allocatorType manager rawContextHandle).2
  | .releaseSpecificContext manager oldContext => s.releaseSpecificContextHandle manager oldContext
  | .releaseContext manager => s.releaseContext manager
  | .getOrRegister request => (s.getOrRegisterContextMemHandle allocatorType request).2

structure Current (allocatorType : Nat → QnnAllocatorType) (s : System) : Prop where
  allocators : s.allocators.Sound
  types : ∀ manager handle m, s.contextMap manager handle = some m →
    m.allocatorType = allocatorType manager
  created : ∀ manager handle m, s.contextMap manager handle = some m → m.context < s.created
  distinct : ∀ manager handle m manager' handle' m', s.contextMap manager handle = some m →
    s.contextMap manager' handle' = some m' → m.context = m'.context →
      manager = manager' ∧ handle = handle'
  handles : ∀ manager handle m address record, s.contextMap manager handle = some m →
    m.memHandles address = some record → record.memHandle.context = m.context ∧
      s.allocators.Holds record.memHandle.memory.block ⟨address,m.context⟩

structure Within (m m' : ContextMemHandleManager) : Prop where
  context : m.context = m'.context
  allocatorType : m.allocatorType = m'.allocatorType
  memHandles : ∀ address record, m.memHandles address = some record →
    m'.memHandles address = some record

theorem Within.refl (m : ContextMemHandleManager) : Within m m := ⟨rfl,rfl,fun _ _ h => h⟩

theorem Within.trans {m' m'' : ContextMemHandleManager} (h : Within m m') (h' : Within m' m'') :
    Within m m'' :=
  ⟨h.context.trans h'.context,h.allocatorType.trans h'.allocatorType,
    fun a r hr => h'.memHandles a r (h.memHandles a r hr)⟩

section
variable {allocatorType : Nat → QnnAllocatorType} {s s' : System}

theorem start_current : Current allocatorType System.start where
  allocators := Allocators.empty_sound
  types := by simp [System.start]
  created := by simp [System.start]
  distinct := by simp [System.start]
  handles := by simp [System.start]

theorem Current.shrink (h : Current allocatorType s) (hsound : s'.allocators.Sound)
    (hcreated : s'.created = s.created)
    (hcontexts : ∀ manager handle m, s'.contextMap manager handle = some m →
      ∃ m', s.contextMap manager handle = some m' ∧ Within m m')
    (hheld : ∀ manager handle m address record, s'.contextMap manager handle = some m →
      m.memHandles address = some record →
      s.allocators.Holds record.memHandle.memory.block ⟨address,m.context⟩ →
        s'.allocators.Holds record.memHandle.memory.block ⟨address,m.context⟩) :
    Current allocatorType s' where
  allocators := hsound
  types := by
    intro manager handle m hm
    obtain ⟨m',hm',hw⟩ := hcontexts manager handle m hm
    exact hw.allocatorType.trans (h.types manager handle m' hm')
  created := by
    intro manager handle m hm
    obtain ⟨m',hm',hw⟩ := hcontexts manager handle m hm
    rw [hw.context,hcreated]
    exact h.created manager handle m' hm'
  distinct := by
    intro manager handle m manager' handle' n hm hn heq
    obtain ⟨m',hm',hw⟩ := hcontexts manager handle m hm
    obtain ⟨n',hn',hw'⟩ := hcontexts manager' handle' n hn
    exact h.distinct _ _ m' _ _ n' hm' hn' (hw.context.symm.trans (heq.trans hw'.context))
  handles := by
    intro manager handle m address record hm hr
    obtain ⟨m',hm',hw⟩ := hcontexts manager handle m hm
    obtain ⟨hcontext,hholds⟩ := h.handles _ _ m' address record hm' (hw.memHandles address record hr)
    refine ⟨hcontext.trans hw.context.symm,hheld _ _ m address record hm hr ?_⟩
    rwa [hw.context]

theorem Current.alloc (h : Current allocatorType s) (allocator requestedSize : Nat) (rpcmem : RpcMem) :
    Current allocatorType (s.alloc allocator requestedSize rpcmem).2 := by
  obtain ⟨hsound,hkept⟩ := Allocators.allocImpl_kept h.allocators allocator requestedSize rpcmem
  exact h.shrink hsound rfl (fun _ _ m hm => ⟨m,hm,Within.refl m⟩)
    fun _ _ _ _ _ _ _ hh => hkept _ _ hh

theorem unregister_within (m : ContextMemHandleManager) (address : Nat) :
    Within ((m.unregister address).toOption.getD m) m ∧
      ((m.unregister address).toOption.getD m).memHandles address = none := by
  unfold ContextMemHandleManager.unregister
  cases hm : m.memHandles address with
  | none => exact ⟨Within.refl m,hm⟩
  | some record =>
    refine ⟨⟨rfl,rfl,?_⟩,Function.update_self ..⟩
    intro a r hr
    by_cases ha : a = address
    · subst ha
      simp [Except.toOption] at hr
    · simpa [Except.toOption,ha] using hr

theorem unregisterMemHandle_within {c : CleanUp} {handle : Nat}
    (h : (s.unregisterMemHandle c).contextMap manager handle = some m) :
    (∃ m', s.contextMap manager handle = some m' ∧ Within m m') ∧
      (m.context = c.context → m.memHandles c.memoryAddress = none) := by
  obtain ⟨m',hm',rfl⟩ := Option.map_eq_some_iff.mp h
  obtain ⟨hw,hnone⟩ := unregister_within m' c.memoryAddress
  by_cases hc : m'.context = c.context
  · rw [if_pos hc]
    exact ⟨⟨m',hm',hw⟩,fun _ => hnone⟩
  · rw [if_neg hc]
    exact ⟨⟨m',hm',Within.refl m'⟩,fun h => absurd h hc⟩

theorem cleanUps_within (cleanUps : List CleanUp) {handle : Nat}
    (h : (cleanUps.foldl System.unregisterMemHandle s).contextMap manager handle = some m) :
    (∃ m', s.contextMap manager handle = some m' ∧ Within m m') ∧
      ∀ address, ⟨address,m.context⟩ ∈ cleanUps → m.memHandles address = none := by
  induction cleanUps generalizing s with
  | nil => exact ⟨⟨m,h,Within.refl m⟩,by simp⟩
  | cons c cleanUps ih =>
    obtain ⟨⟨m',hm',hw⟩,hnone⟩ := ih h
    obtain ⟨⟨m'',hm'',hw'⟩,hc⟩ := unregisterMemHandle_within hm'
    refine ⟨⟨m'',hm'',hw.trans hw'⟩,?_⟩
    intro address hmem
    rcases List.mem_cons.mp hmem with rfl | hmem
    · have hgone := hc hw.context.symm
      cases hr : m.memHandles address with
      | none => rfl
      | some record =>
        rw [hw.memHandles address record hr] at hgone
        cases hgone
    · exact hnone address hmem

theorem cleanUps_allocators (cleanUps : List CleanUp) :
    (cleanUps.foldl System.unregisterMemHandle s).allocators = s.allocators ∧
      (cleanUps.foldl System.unregisterMemHandle s).created = s.created := by
  induction cleanUps generalizing s with
  | nil => exact ⟨rfl,rfl⟩
  | cons c cleanUps ih => exact ih

theorem Current.free (h : Current allocatorType s) (allocator allocationAddress : Nat) :
    Current allocatorType (s.free allocator allocationAddress).2 := by
  obtain ⟨hsound,hkept⟩ := Allocators.freeImpl_kept h.allocators allocator allocationAddress
  unfold System.free
  rcases hfree : s.allocators.freeImpl allocator allocationAddress with ⟨e | cleanUps,allocators⟩
  · rw [hfree] at hsound hkept
    refine h.shrink hsound rfl (fun _ _ m hm => ⟨m,hm,Within.refl m⟩) ?_
    intro _ _ m address record _ _ hholds
    rcases hkept _ _ hholds with hheld | ⟨cleanUps,hok,_⟩
    · exact hheld
    · cases hok
  · rw [hfree] at hsound hkept
    obtain ⟨hallocators,hcreated⟩ :=
      cleanUps_allocators (s := { s with allocators := allocators }) cleanUps
    refine h.shrink (by rwa [hallocators]) hcreated (fun _ _ m hm => (cleanUps_within cleanUps hm).1) ?_
    intro _ _ m address record hm hr hholds
    rw [hallocators]
    rcases hkept _ _ hholds with hheld | ⟨_,hok,hmem⟩
    · exact hheld
    · cases hok
      rw [(cleanUps_within cleanUps hm).2 address hmem] at hr
      cases hr

theorem Current.addQnnContextHandle (h : Current allocatorType s) (manager rawContextHandle : Nat) :
    Current allocatorType (s.addQnnContextHandle allocatorType manager rawContextHandle).2 := by
  unfold System.addQnnContextHandle
  cases hslot : s.contextMap manager rawContextHandle with
  | some m => exact h
  | none =>
    refine ⟨h.allocators,?_,?_,?_,?_⟩
    · intro a b m hm
      rcases updateAt_cases hm with ⟨rfl,_,hm⟩ | ⟨_,hm⟩
      · cases hm
        rfl
      · exact h.types a b m hm
    · intro a b m hm
      rcases updateAt_cases hm with ⟨_,_,hm⟩ | ⟨_,hm⟩
      · cases hm
        exact Nat.lt_succ_self _
      · exact Nat.lt_succ_of_lt (h.created a b m hm)
    · intro a b m a' b' m' hm hm' heq
      rcases updateAt_cases hm with ⟨ha,hb,hm⟩ | ⟨_,hm⟩
      · cases hm
        rcases updateAt_cases hm' with ⟨ha',hb',_⟩ | ⟨_,hm'⟩
        · exact ⟨ha.trans ha'.symm,hb.trans hb'.symm⟩
        · exact absurd heq.symm (Nat.ne_of_lt (h.created a' b' m' hm'))
      · rcases updateAt_cases hm' with ⟨_,_,hm'⟩ | ⟨_,hm'⟩
        · cases hm'
          exact absurd heq (Nat.ne_of_lt (h.created a b m hm))
        · exact h.distinct a b m a' b' m' hm hm' heq
    · intro a b m address record hm hr
      rcases updateAt_cases hm with ⟨_,_,hm⟩ | ⟨_,hm⟩
      · cases hm
        cases hr
      · exact h.handles a b m address record hm hr

theorem Current.release (h : Current allocatorType s) {contextMap : Nat → Nat → Option ContextMemHandleManager}
    (hsub : ∀ manager handle m, contextMap manager handle = some m →
      s.contextMap manager handle = some m) :
    Current allocatorType { s with contextMap := contextMap } :=
  h.shrink h.allocators rfl (fun a b m hm => ⟨m,hsub a b m hm,Within.refl m⟩)
    fun _ _ _ _ _ _ _ hh => hh

theorem Current.releaseSpecificContextHandle (h : Current allocatorType s) (manager oldContext : Nat) :
    Current allocatorType (s.releaseSpecificContextHandle manager oldContext) := by
  refine h.release ?_
  intro a b m hm
  rcases updateAt_cases hm with ⟨_,_,hm⟩ | ⟨_,hm⟩
  · cases hm
  · exact hm

theorem Current.releaseContext (h : Current allocatorType s) (manager : Nat) :
    Current allocatorType (s.releaseContext manager) := by
  refine h.release ?_
  intro a b m hm
  by_cases ha : a = manager
  · subst ha
    simp at hm
  · rwa [Function.update_of_ne ha] at hm

theorem getOrRegister_found {m' : ContextMemHandleManager} {address size : Nat}
    (h : m.getOrRegister allocators address size memRegister = .ok (memHandle,false,m')) :
    ∃ record, m.memHandles address = some record ∧ record.memHandle = memHandle := by
  unfold ContextMemHandleManager.getOrRegister at h
  split at h
  · next record hrecord =>
    split at h
    · cases h
      exact ⟨record,hrecord,rfl⟩
    · cases h
  · split at h
    · obtain ⟨info,_,h⟩ := bind_ok h
      split at h <;> cases h
    · cases h

theorem getOrRegister_registered {m' : ContextMemHandleManager} {address size : Nat}
    (h : m.getOrRegister allocators address size memRegister = .ok (memHandle,true,m')) :
    m.allocatorType = .htpShared ∧ memHandle.context = m.context ∧
      allocators.getAllocationSharedMemoryInfo address = .ok memHandle.memory ∧
      m' = m.emplace address ⟨size,memHandle⟩ := by
  unfold ContextMemHandleManager.getOrRegister at h
  split at h
  · split at h <;> cases h
  · split at h
    · next htype =>
      obtain ⟨info,hinfo,h⟩ := bind_ok h
      split at h
      · cases h
      · cases h
        exact ⟨htype,rfl,hinfo,rfl⟩
    · cases h

theorem Current.register (h : Current allocatorType s) {contextHandle address size : Nat}
    (hm : s.contextMap manager contextHandle = some m) (hcontext : memHandle.context = m.context)
    (hsound : allocators.Sound) (hholds : allocators.Holds memHandle.memory.block ⟨address,m.context⟩)
    (hkept : ∀ block cleanUp, s.allocators.Holds block cleanUp → allocators.Holds block cleanUp) :
    Current allocatorType { s.setContext manager contextHandle
      (some (m.emplace address ⟨size,memHandle⟩)) with allocators := allocators } := by
  have hslots : ∀ a b m', updateAt s.contextMap manager contextHandle
      (some (m.emplace address ⟨size,memHandle⟩)) a b = some m' → ∃ n,
        s.contextMap a b = some n ∧ m'.context = n.context ∧ m'.allocatorType = n.allocatorType := by
    intro a b m' hm'
    rcases updateAt_cases hm' with ⟨rfl,rfl,heq⟩ | ⟨_,hm'⟩
    · cases heq
      exact ⟨m,hm,rfl,rfl⟩
    · exact ⟨m',hm',rfl,rfl⟩
  refine ⟨hsound,?_,?_,?_,?_⟩
  · intro a b m' hm'
    obtain ⟨n,hn,_,htype⟩ := hslots a b m' hm'
    exact htype.trans (h.types a b n hn)
  · intro a b m' hm'
    obtain ⟨n,hn,hctx,_⟩ := hslots a b m' hm'
    rw [hctx]
    exact h.created a b n hn
  · intro a b m' a' b' m'' hm' hm'' heq
    obtain ⟨n,hn,hctx,_⟩ := hslots a b m' hm'
    obtain ⟨n',hn',hctx',_⟩ := hslots a' b' m'' hm''
    exact h.distinct a b n a' b' n' hn hn' (hctx.symm.trans (heq.trans hctx'))
  · intro a b m' address' record hm' hr
    rcases updateAt_cases hm' with ⟨rfl,rfl,heq⟩ | ⟨_,hm'⟩
    · cases heq
      by_cases ha : address' = address
      · subst ha
        rw [ContextMemHandleManager.emplace_self] at hr
        cases hr
        exact ⟨hcontext,hholds⟩
      · rw [ContextMemHandleManager.emplace_of_ne m ha] at hr
        obtain ⟨hctx,hheld⟩ := h.handles a b m address' record hm hr
        exact ⟨hctx,hkept _ _ hheld⟩
    · obtain ⟨hctx,hheld⟩ := h.handles a b m' address' record hm' hr
      exact ⟨hctx,hkept _ _ hheld⟩

theorem Current.getOrRegisterContextMemHandle (h : Current allocatorType s) (r : MemHandleRequest) :
    Current allocatorType (s.getOrRegisterContextMemHandle allocatorType r).2 ∧
      ∀ memHandle, (s.getOrRegisterContextMemHandle allocatorType r).1 = .ok memHandle →
        ∃ m record, (s.getOrRegisterContextMemHandle allocatorType r).2.contextMap r.manager
            r.contextHandle = some m ∧
          m.memHandles r.memoryAddress = some record ∧ record.memHandle = memHandle := by
  unfold System.getOrRegisterContextMemHandle
  cases hm : s.contextMap r.manager r.contextHandle with
  | none => exact ⟨h,by simp⟩
  | some m =>
    simp only
    rcases hget : m.getOrRegister s.allocators r.memoryAddress r.tensorDataSize r.memRegister with
      e | ⟨memHandle,_ | _,m'⟩
    · exact ⟨h,by simp⟩
    · obtain ⟨record,hrecord,rfl⟩ := getOrRegister_found hget
      refine ⟨h,?_⟩
      rintro _ ⟨⟩
      exact ⟨m,record,hm,hrecord,rfl⟩
    · obtain ⟨htype,hcontext,hinfo,rfl⟩ := getOrRegister_registered hget
      obtain ⟨allocators,hadd,hsound,hholds,hkept⟩ :=
        Allocators.addAllocationCleanUp_kept h.allocators hinfo ⟨r.memoryAddress,m.context⟩
      have hmanager : allocatorType r.manager = .htpShared := (h.types _ _ m hm).symm.trans htype
      have hadd' : (s.setContext r.manager r.contextHandle
          (some (m.emplace r.memoryAddress ⟨r.tensorDataSize,memHandle⟩))).allocators.addAllocationCleanUp
          r.memoryAddress ⟨r.memoryAddress,(m.emplace r.memoryAddress
            ⟨r.tensorDataSize,memHandle⟩).context⟩ = .ok allocators := hadd
      simp only [hmanager,if_true,hadd']
      refine ⟨h.register hm hcontext hsound hholds hkept,?_⟩
      rintro _ ⟨⟩
      exact ⟨_,_,updateAt_self ..,Function.update_self ..,rfl⟩

theorem Current.step (h : Current allocatorType s) (e : Event) :
    Current allocatorType (step allocatorType s e) := by
  cases e with
  | alloc allocator requestedSize rpcmem => exact h.alloc allocator requestedSize rpcmem
  | free allocator allocationAddress => exact h.free allocator allocationAddress
  | addContext manager rawContextHandle => exact h.addQnnContextHandle manager rawContextHandle
  | releaseSpecificContext manager oldContext =>
    exact h.releaseSpecificContextHandle manager oldContext
  | releaseContext manager => exact h.releaseContext manager
  | getOrRegister request => exact (h.getOrRegisterContextMemHandle request).1

theorem run_current (allocatorType : Nat → QnnAllocatorType) (events : List Event) :
    Current allocatorType (Machine.run (step allocatorType) System.start events) :=
  Machine.run_invariant (Current allocatorType) (fun _ e h => h.step e) start_current events

structure ForLiveMemory (s : System) (r : MemHandleRequest) (memHandle : MemHandle) : Prop where
  unfreed : memHandle.memory.block ∉ s.allocators.freed
  context : ∃ m, s.contextMap r.manager r.contextHandle = some m ∧ m.context = memHandle.context
  unique : ∀ manager contextHandle m, s.contextMap manager contextHandle = some m →
    m.context = memHandle.context → manager = r.manager ∧ contextHandle = r.contextHandle

theorem getOrRegisterContextMemHandle_live (allocatorType : Nat → QnnAllocatorType)
    (events : List Event) (r : MemHandleRequest) (memHandle : MemHandle) (s' : System)
    (h : (Machine.run (step allocatorType) System.start events).getOrRegisterContextMemHandle
      allocatorType r = (.ok memHandle,s')) : ForLiveMemory s' r memHandle := by
  obtain ⟨hcurrent,hfound⟩ := (run_current allocatorType events).getOrRegisterContextMemHandle r
  rw [h] at hcurrent hfound
  obtain ⟨m,record,hm,hrecord,rfl⟩ := hfound memHandle rfl
  obtain ⟨hcontext,hholds⟩ := hcurrent.handles _ _ m _ record hm hrecord
  exact ⟨hholds.1,⟨m,hm,hcontext.symm⟩,
    fun a b m' hm' heq => hcurrent.distinct a b m' _ _ m hm' hm (heq.trans hcontext)⟩

end

def reusedAddress : List Event :=
  [.addContext 0 1,.alloc 0 128 ⟨.ok (),64,5⟩,.getOrRegister ⟨0,1,96,16,.ok 7⟩,.free 0 64,
    .alloc 0 128 ⟨.ok (),64,6⟩,.getOrRegister ⟨0,1,96,16,.ok 8⟩]

theorem getOrRegisterContextMemHandle_reusedAddress :
    ∃ s', (Machine.run (step fun _ => .htpShared) System.start reusedAddress).getOrRegisterContextMemHandle
        (fun _ => .htpShared) ⟨0,1,96,16,.ok 9⟩ = (.ok ⟨8,0,⟨6,32,128,1⟩⟩,s') ∧
      ForLiveMemory s' ⟨0,1,96,16,.ok 9⟩ ⟨8,0,⟨6,32,128,1⟩⟩ :=
  ⟨_,rfl,getOrRegisterContextMemHandle_live (fun _ => .htpShared) reusedAddress _ _ _ rfl⟩

end QnnEp.SharedMemory
