import QnnEp.Foundation.Machine
import QnnEp.Power.Staged

namespace QnnEp.Power

namespace PowerConfig

def pollingTime? : PowerConfig → Option Nat
  | .rpcPollingTime value => some value
  | .rpcControlLatency _ | .dcvsV3 _ => none

def controlLatency? : PowerConfig → Option Nat
  | .rpcControlLatency value => some value
  | .rpcPollingTime _ | .dcvsV3 _ => none

def lastVote (option : PowerConfig → Option Nat) (initial : Nat) (configs : List PowerConfig) : Nat :=
  configs.foldl (fun value config => (option config).getD value) initial

section
variable {option : PowerConfig → Option Nat} {initial : Nat}

theorem lastVote_append (configs more : List PowerConfig) :
    lastVote option initial (configs ++ more) = lastVote option (lastVote option initial configs) more :=
  List.foldl_append

end

end PowerConfig

inductive Payload where
  | mode (perfMode : HtpPerformanceMode)
  | custom (powerConfig : PowerConfig)
  deriving DecidableEq, Repr

def Payload.config (clientId : Nat) : Payload → Except Failure PowerConfig
  | .mode perfMode => setHtpPerformancePowerConfig clientId perfMode
  | .custom powerConfig => .ok powerConfig

def Payload.vote? (option : PowerConfig → Option Nat) : Payload → Option Nat
  | .mode _ => none
  | .custom powerConfig => option powerConfig

structure PowerRequest where
  clientId : Nat
  rpcPollingTime : Nat
  rpcControlLatency : Nat
  payload : Payload
  infrastructure : Infrastructure
  deriving DecidableEq, Repr

namespace PowerRequest

def staging (r : PowerRequest) : Staging Unit :=
  match r.payload with
  | .mode perfMode =>
    PowerConfigs.setHtpPowerConfigs ⟨r.clientId,perfMode,r.rpcPollingTime,r.rpcControlLatency⟩
      r.infrastructure
  | .custom powerConfig =>
    PowerConfigs.setHtpPowerCustomConfigs r.clientId powerConfig r.rpcPollingTime
      r.rpcControlLatency r.infrastructure

end PowerRequest

structure Request extends PowerRequest where
  accepted : infrastructure ≠ .perf false

namespace PowerConfigs
open PowerConfig

def request (s : PowerConfigs) (r : PowerRequest) : PowerConfigs := (r.staging.run.run s).2

def perform (s : PowerConfigs) (r : Request) : PowerConfigs := s.request r.toPowerRequest

def Succeeds (s : PowerConfigs) (r : Request) : Prop := (r.staging.run.run s).1 = .ok ()

def voted (s : PowerConfigs) (clientId : Nat) : List PowerConfig :=
  (s.calls.filter fun call => call.powerConfigId = clientId ∧ call.accepted).flatMap (·.powerConfigs)

def votedPollingTime (s : PowerConfigs) (clientId : Nat) : Nat :=
  lastVote pollingTime? kDisableRpcPolling (s.voted clientId)

def votedControlLatency (s : PowerConfigs) (clientId : Nat) : Nat :=
  lastVote controlLatency? kDisableRpcControlLatency (s.voted clientId)

structure Honoured (s : PowerConfigs) (r : Request) : Prop where
  rpcPollingTime : s.votedPollingTime r.clientId = r.rpcPollingTime
  rpcControlLatency : s.votedControlLatency r.clientId = r.rpcControlLatency

def HonoursRequest (s : PowerConfigs) (r : Request) : Prop :=
  s.Succeeds r → (s.perform r).Honoured r

def outstanding (s : PowerConfigs) (clientId : Nat) : List PowerConfig :=
  s.voted clientId ++ s.powerConfigs

structure Admits (s : PowerConfigs) (r : Request) : Prop where
  qnnInterface : s.qnnInterface = true
  rpcPollingTime : r.rpcPollingTime ≤ kMaxRpcPolling
  rpcPollingTimeSet : s.rpcPollingTimeSet = false
  rpcControlLatencySet : s.rpcControlLatencySet = false
  perfMode : ∀ perfMode, r.payload = .mode perfMode →
    s.htpPerformanceModeSet = false ∧ perfMode ≠ .htpDefault
  infrastructure : r.infrastructure = .perf true

def Reaches (option : PowerConfig → Option Nat) (initial lastSet requested : Nat)
    (outstanding : List PowerConfig) (payload : Payload) : Prop :=
  match payload.vote? option with
  | some value => value = requested
  | none => requested = lastSet → lastVote option initial outstanding = requested

structure Unsuppressed (s : PowerConfigs) (r : Request) : Prop where
  rpcPollingTime : Reaches pollingTime? kDisableRpcPolling s.lastSetRpcPollingTime r.rpcPollingTime
    (s.outstanding r.clientId) r.payload
  rpcControlLatency : Reaches controlLatency? kDisableRpcControlLatency s.lastSetRpcControlLatency
    r.rpcControlLatency (s.outstanding r.clientId) r.payload

def staged (s : PowerConfigs) (r : PowerRequest) : PowerConfigs :=
  (s.stagePollingTime r.rpcPollingTime).stageControlLatency r.rpcControlLatency

section
variable {s s' : PowerConfigs} {r : Request}

def completed (s : PowerConfigs) (r : Request) (config : PowerConfig) : PowerConfigs :=
  ((s.staged r.toPowerRequest).stageConfig config).dispatch r.clientId true

theorem stageConfig_ne_nil (s : PowerConfigs) (config : PowerConfig) :
    (s.stageConfig config).powerConfigs ≠ [] := by
  simp [stageConfig]

theorem setPowerConfig_staged_ok_iff {config : PowerConfig} :
    (setPowerConfig r.clientId r.infrastructure).run.run (s.stageConfig config) = (.ok (),s') ↔
      r.infrastructure = .perf true ∧ s' = (s.stageConfig config).dispatch r.clientId true := by
  rw [setPowerConfig_ok_iff (stageConfig_ne_nil s config)]
  constructor
  · rintro ⟨accepted,hinfra,rfl⟩
    cases accepted with
    | false => exact absurd hinfra r.accepted
    | true => exact ⟨hinfra,rfl⟩
  · rintro ⟨hinfra,rfl⟩
    exact ⟨true,hinfra,rfl⟩

theorem staging_ok_iff :
    r.staging.run.run s = (.ok (),s') ↔
      s.Admits r ∧ ∃ config, r.payload.config r.clientId = .ok config ∧ s' = s.completed r config := by
  constructor
  · intro h
    cases hpayload : r.payload with
    | mode perfMode =>
      simp only [PowerRequest.staging,hpayload,setHtpPowerConfigs,run_seq_ok_iff,requireInterface_ok_iff,
        addRpcPollingTime_ok_iff,addRpcControlLatency_ok_iff,addHtpPerformanceMode_ok_iff] at h
      obtain ⟨_,⟨hq,rfl⟩,_,⟨hmax,hpolling,rfl⟩,_,⟨hlatency,rfl⟩,_,⟨hmode,config,hconfig,rfl⟩,h⟩ := h
      obtain ⟨hinfra,rfl⟩ := setPowerConfig_staged_ok_iff.mp h
      refine ⟨⟨hq,hmax,hpolling,by simpa using hlatency,?_,hinfra⟩,config,hconfig,rfl⟩
      intro other hother
      obtain rfl := Payload.mode.inj (hpayload.symm.trans hother)
      exact ⟨by simpa using hmode,setHtpPerformancePowerConfig_ok_iff.mp ⟨config,hconfig⟩⟩
    | custom powerConfig =>
      simp only [PowerRequest.staging,hpayload,setHtpPowerCustomConfigs,run_seq_ok_iff,
        requireInterface_ok_iff,addRpcPollingTime_ok_iff,addRpcControlLatency_ok_iff,
        addHtpPerformanceConfig_ok_iff] at h
      obtain ⟨_,⟨hq,rfl⟩,_,⟨hmax,hpolling,rfl⟩,_,⟨hlatency,rfl⟩,_,rfl,h⟩ := h
      obtain ⟨hinfra,rfl⟩ := setPowerConfig_staged_ok_iff.mp h
      refine ⟨⟨hq,hmax,hpolling,by simpa using hlatency,?_,hinfra⟩,powerConfig,rfl,rfl⟩
      intro other hother
      cases hpayload.symm.trans hother
  · rintro ⟨hadmits,config,hconfig,rfl⟩
    have hsent : (setPowerConfig r.clientId r.infrastructure).run.run
        ((s.staged r.toPowerRequest).stageConfig config) = (.ok (),s.completed r config) :=
      setPowerConfig_staged_ok_iff.mpr ⟨hadmits.infrastructure,rfl⟩
    have hlatency := hadmits.rpcControlLatencySet
    cases hpayload : r.payload with
    | mode perfMode =>
      simp only [PowerRequest.staging,hpayload,setHtpPowerConfigs,run_seq_ok_iff,requireInterface_ok_iff,
        addRpcPollingTime_ok_iff,addRpcControlLatency_ok_iff,addHtpPerformanceMode_ok_iff]
      rw [hpayload] at hconfig
      have hmode := (hadmits.perfMode perfMode hpayload).1
      exact ⟨_,⟨hadmits.qnnInterface,rfl⟩,_,⟨hadmits.rpcPollingTime,hadmits.rpcPollingTimeSet,rfl⟩,_,
        ⟨by simpa using hlatency,rfl⟩,_,⟨by simpa using hmode,config,hconfig,rfl⟩,hsent⟩
    | custom powerConfig =>
      simp only [PowerRequest.staging,hpayload,setHtpPowerCustomConfigs,run_seq_ok_iff,
        requireInterface_ok_iff,addRpcPollingTime_ok_iff,addRpcControlLatency_ok_iff,
        addHtpPerformanceConfig_ok_iff]
      rw [hpayload] at hconfig
      obtain rfl : powerConfig = config := Except.ok.inj hconfig
      exact ⟨_,⟨hadmits.qnnInterface,rfl⟩,_,⟨hadmits.rpcPollingTime,hadmits.rpcPollingTimeSet,rfl⟩,_,
        ⟨by simpa using hlatency,rfl⟩,_,rfl,hsent⟩

theorem admits_config (h : s.Admits r) : ∃ config, r.payload.config r.clientId = .ok config := by
  cases hpayload : r.payload with
  | mode perfMode => exact setHtpPerformancePowerConfig_ok_iff.mpr (h.perfMode perfMode hpayload).2
  | custom powerConfig => exact ⟨powerConfig,rfl⟩

theorem succeeds_iff_admits : s.Succeeds r ↔ s.Admits r := by
  constructor
  · intro h
    exact (staging_ok_iff.mp (Prod.ext h rfl)).1
  · intro h
    obtain ⟨config,hconfig⟩ := admits_config h
    exact congrArg Prod.fst (staging_ok_iff.mpr ⟨h,config,hconfig,rfl⟩)

theorem perform_of_admits (h : s.Admits r) {config : PowerConfig}
    (hconfig : r.payload.config r.clientId = .ok config) : s.perform r = s.completed r config :=
  congrArg Prod.snd (staging_ok_iff.mpr ⟨h,config,hconfig,rfl⟩)

end

section
variable (s : PowerConfigs) (r : Request) {config : PowerConfig}

theorem voted_dispatch (clientId : Nat) :
    (s.dispatch clientId true).voted clientId = s.outstanding clientId := by
  simp [voted,outstanding,dispatch]

theorem outstanding_stagePollingTime (clientId v : Nat) :
    (s.stagePollingTime v).outstanding clientId =
      s.outstanding clientId ++ if v = s.lastSetRpcPollingTime then [] else [.rpcPollingTime v] := by
  unfold stagePollingTime
  split <;> simp [outstanding,voted]

theorem outstanding_stageControlLatency (clientId v : Nat) :
    (s.stageControlLatency v).outstanding clientId =
      s.outstanding clientId ++ if v = s.lastSetRpcControlLatency then [] else [.rpcControlLatency v] := by
  unfold stageControlLatency
  split <;> simp [outstanding,voted]

theorem outstanding_stageConfig (clientId : Nat) (config : PowerConfig) :
    (s.stageConfig config).outstanding clientId = s.outstanding clientId ++ [config] := by
  simp [outstanding,voted,stageConfig]

theorem voted_completed : (s.completed r config).voted r.clientId =
    s.outstanding r.clientId ++
      (if r.rpcPollingTime = s.lastSetRpcPollingTime then []
        else [PowerConfig.rpcPollingTime r.rpcPollingTime]) ++
      (if r.rpcControlLatency = s.lastSetRpcControlLatency then []
        else [PowerConfig.rpcControlLatency r.rpcControlLatency]) ++ [config] := by
  rw [completed,voted_dispatch,outstanding_stageConfig,staged,outstanding_stageControlLatency,
    outstanding_stagePollingTime,stagePollingTime_lastSetRpcControlLatency]

theorem votedPollingTime_completed : (s.completed r config).votedPollingTime r.clientId =
    (pollingTime? config).getD (if r.rpcPollingTime = s.lastSetRpcPollingTime then
      lastVote pollingTime? kDisableRpcPolling (s.outstanding r.clientId) else r.rpcPollingTime) := by
  rw [votedPollingTime,voted_completed,lastVote_append,lastVote_append,lastVote_append]
  split <;> split <;> rfl

theorem votedControlLatency_completed : (s.completed r config).votedControlLatency r.clientId =
    (controlLatency? config).getD (if r.rpcControlLatency = s.lastSetRpcControlLatency then
      lastVote controlLatency? kDisableRpcControlLatency (s.outstanding r.clientId)
      else r.rpcControlLatency) := by
  rw [votedControlLatency,voted_completed,lastVote_append,lastVote_append,lastVote_append]
  split <;> split <;> rfl

end

section
variable {s : PowerConfigs} {r : Request}

theorem vote_of_config (option : PowerConfig → Option Nat) {payload : Payload} {clientId : Nat}
    {config : PowerConfig} (hoption : ∀ dcvs, option (.dcvsV3 dcvs) = none)
    (h : payload.config clientId = .ok config) : option config = payload.vote? option := by
  cases payload with
  | mode perfMode =>
    obtain ⟨dcvs,rfl⟩ := setHtpPerformancePowerConfig_dcvsV3 h
    exact hoption dcvs
  | custom powerConfig => rw [← Except.ok.inj h,Payload.vote?]

theorem reaches_iff {option : PowerConfig → Option Nat} {initial lastSet requested : Nat}
    {outstanding : List PowerConfig} {payload : Payload} :
    Reaches option initial lastSet requested outstanding payload ↔
      (payload.vote? option).getD (if requested = lastSet then lastVote option initial outstanding
        else requested) = requested := by
  unfold Reaches
  cases payload.vote? option with
  | some value => rfl
  | none => by_cases h : requested = lastSet <;> simp [h]

theorem honoursRequest_iff :
    s.HonoursRequest r ↔ (s.Admits r → s.Unsuppressed r) := by
  refine imp_congr_ctx succeeds_iff_admits fun hadmits => ?_
  obtain ⟨config,hconfig⟩ := admits_config hadmits
  have hpolling := vote_of_config pollingTime? (fun _ => rfl) hconfig
  have hlatency := vote_of_config controlLatency? (fun _ => rfl) hconfig
  have hvotes : (s.perform r).Honoured r ↔
      (s.completed r config).votedPollingTime r.clientId = r.rpcPollingTime ∧
        (s.completed r config).votedControlLatency r.clientId = r.rpcControlLatency := by
    rw [perform_of_admits hadmits hconfig]
    exact ⟨fun h => ⟨h.1,h.2⟩,fun h => ⟨h.1,h.2⟩⟩
  rw [hvotes,votedPollingTime_completed,votedControlLatency_completed,hpolling,hlatency,← reaches_iff,
    ← reaches_iff]
  exact ⟨fun h => ⟨h.1,h.2⟩,fun h => ⟨h.1,h.2⟩⟩

theorem lastVotes_requested_iff (qnnInterface : Bool) (requests : List Request) :
    Machine.Each perform HonoursRequest (new qnnInterface) requests ↔
      Machine.Each perform (fun s r => s.Admits r → s.Unsuppressed r) (new qnnInterface) requests :=
  Machine.each_congr (fun _ => True) (fun _ _ _ => trivial) (fun _ _ _ => honoursRequest_iff) trivial
    requests

def burstRequest (clientId : Nat) : Request :=
  ⟨⟨clientId,kMaxRpcPolling,kSleepLowLatency,.mode .htpBurst,.perf true⟩,by simp⟩

theorem lastVotes_sharedValueSuppressed :
    ¬Machine.Each perform HonoursRequest (new true) [burstRequest 1,burstRequest 2] := by
  rintro ⟨_,hsecond,_⟩
  have hvoted := (hsecond rfl).rpcPollingTime
  exact absurd hvoted (by decide)

end

end PowerConfigs

namespace PowerRequest

def finish (r : PowerRequest) : Staging Unit :=
  match r.payload with
  | .mode perfMode => do
    PowerConfigs.addHtpPerformanceMode perfMode r.clientId
    PowerConfigs.setPowerConfig r.clientId r.infrastructure
  | .custom powerConfig => do
    PowerConfigs.addHtpPerformanceConfig powerConfig
    PowerConfigs.setPowerConfig r.clientId r.infrastructure

theorem staging_eq (r : PowerRequest) : r.staging = (do
    PowerConfigs.requireInterface
    PowerConfigs.addRpcPollingTime r.rpcPollingTime
    PowerConfigs.addRpcControlLatency r.rpcControlLatency
    r.finish) := by
  unfold staging finish
  cases r.payload <;> rfl

def own (r : PowerRequest) (config : PowerConfig) : List PowerConfig :=
  [.rpcPollingTime r.rpcPollingTime,.rpcControlLatency r.rpcControlLatency,config]

end PowerRequest

namespace PowerConfigs

structure Ready (s : PowerConfigs) (r : PowerRequest) : Prop where
  qnnInterface : s.qnnInterface = true
  rpcPollingTime : r.rpcPollingTime ≤ kMaxRpcPolling

structure LeavesNothing (s : PowerConfigs) (r : PowerRequest) : Prop where
  failed : (r.staging.run.run s).1 ≠ .ok () → (s.request r).Clear
  valid : ∀ config accepted, s.Ready r → r.payload.config r.clientId = .ok config →
    r.infrastructure = .perf accepted →
    (r.staging.run.run s).1 = .ok () ∧
      ∃ sent : List PowerConfig, sent.Sublist (r.own config) ∧
        (s.request r).calls = s.calls ++ [⟨r.clientId,sent,accepted⟩]

structure Unchanged (s : PowerConfigs) (r : PowerRequest) : Prop where
  rpcPollingTime : r.rpcPollingTime = s.lastSetRpcPollingTime
  rpcControlLatency : r.rpcControlLatency = s.lastSetRpcControlLatency

def FailsEarly (s : PowerConfigs) (r : PowerRequest) : Prop :=
  s.Ready r → match r.payload.config r.clientId, r.infrastructure with
    | .error _, _ => s.Unchanged r
    | .ok _, .perf _ => True
    | .ok _, _ => False

section
variable {s t : PowerConfigs} {r : PowerRequest} {x : Staging Unit} {f : Unit → Staging Unit}

theorem run_bind_of_ok (h : x.run.run s = (.ok (),t)) : (x >>= f).run.run s = (f ()).run.run t := by
  rw [ExceptT.run_bind,StateT.run_bind,h]
  rfl

theorem run_bind_of_error {e : Failure} (h : x.run.run s = (.error e,t)) :
    (x >>= f).run.run s = (.error e,t) := by
  rw [ExceptT.run_bind,StateT.run_bind,h]
  rfl

theorem setPowerConfig_stageConfig (config : PowerConfig) (clientId : Nat)
    (infrastructure : Infrastructure) :
    (∃ accepted, infrastructure = .perf accepted ∧
        (setPowerConfig clientId infrastructure).run.run (s.stageConfig config) =
          (.ok (),(s.stageConfig config).dispatch clientId accepted)) ∨
      (∀ accepted, infrastructure ≠ .perf accepted) ∧
        ∃ e, (setPowerConfig clientId infrastructure).run.run (s.stageConfig config) =
          (.error e,s.stageConfig config) := by
  have hget : (get : Staging PowerConfigs).run.run (s.stageConfig config) =
      (.ok (s.stageConfig config),s.stageConfig config) := rfl
  cases infrastructure with
  | perf accepted =>
    exact .inl ⟨accepted,rfl,(setPowerConfig_ok_iff (stageConfig_ne_nil s config)).mpr ⟨accepted,rfl,rfl⟩⟩
  | unavailable | otherType infraType =>
    refine .inr ⟨fun _ h => Infrastructure.noConfusion h,?_⟩
    rw [setPowerConfig,ExceptT.run_bind,StateT.run_bind,hget]
    dsimp only [bind,pure]
    rw [if_neg (stageConfig_ne_nil s config)]
    exact ⟨_,rfl⟩

theorem run_finish_of_error {e : Failure} (hmode : s.htpPerformanceModeSet = false)
    (hconfig : r.payload.config r.clientId = .error e) : r.finish.run.run s = (.error e,s) := by
  unfold PowerRequest.finish
  cases hpayload : r.payload with
  | custom powerConfig =>
    rw [hpayload] at hconfig
    cases hconfig
  | mode perfMode =>
    rw [hpayload] at hconfig
    refine run_bind_of_error ?_
    change ((ite _ _ _ : Staging Unit).run.run s) = _
    rw [if_neg (by simp [hmode]),show setHtpPerformancePowerConfig r.clientId perfMode = .error e from hconfig]
    rfl

theorem run_finish_of_ok {config : PowerConfig} (hmode : s.htpPerformanceModeSet = false)
    (hconfig : r.payload.config r.clientId = .ok config) :
    r.finish.run.run s = (setPowerConfig r.clientId r.infrastructure).run.run (s.stageConfig config) := by
  unfold PowerRequest.finish
  cases hpayload : r.payload with
  | custom powerConfig =>
    rw [hpayload] at hconfig
    cases hconfig
    exact run_bind_of_ok (addHtpPerformanceConfig_ok_iff.mpr rfl)
  | mode perfMode =>
    rw [hpayload] at hconfig
    exact run_bind_of_ok (addHtpPerformanceMode_ok_iff.mpr ⟨hmode,config,hconfig,rfl⟩)

theorem requireInterface_error (hq : s.qnnInterface = false) :
    ∃ e, requireInterface.run.run s = (.error e,s) := by
  change ∃ e, ((ite _ _ _ : Staging Unit).run.run s) = (.error e,s)
  rw [if_neg (by simp [hq])]
  exact ⟨_,rfl⟩

theorem addRpcPollingTime_error {rpcPollingTime : Nat} (hmax : kMaxRpcPolling < rpcPollingTime) :
    ∃ e, (addRpcPollingTime rpcPollingTime).run.run s = (.error e,s) := by
  change ∃ e, ((ite _ _ _ : Staging Unit).run.run s) = (.error e,s)
  rw [if_pos hmax]
  exact ⟨_,rfl⟩

theorem run_of_not_ready (h : ¬ s.Ready r) : ∃ e, r.staging.run.run s = (.error e,s) := by
  rw [r.staging_eq]
  cases hq : s.qnnInterface with
  | false =>
    obtain ⟨e,he⟩ := requireInterface_error hq
    exact ⟨e,run_bind_of_error he⟩
  | true =>
    obtain ⟨e,he⟩ := addRpcPollingTime_error (s := s) (Nat.lt_of_not_le fun hle => h ⟨hq,hle⟩)
    rw [run_bind_of_ok (requireInterface_ok_iff.mpr ⟨hq,rfl⟩)]
    exact ⟨e,run_bind_of_error he⟩

theorem run_of_ready (hclear : s.Clear) (h : s.Ready r) :
    r.staging.run.run s = r.finish.run.run (s.staged r) := by
  rw [r.staging_eq,run_bind_of_ok (requireInterface_ok_iff.mpr ⟨h.qnnInterface,rfl⟩),
    run_bind_of_ok (addRpcPollingTime_ok_iff.mpr ⟨h.rpcPollingTime,hclear.rpcPollingTimeSet,rfl⟩)]
  exact run_bind_of_ok (addRpcControlLatency_ok_iff.mpr
    ⟨(stagePollingTime_rpcControlLatencySet s _).trans hclear.rpcControlLatencySet,rfl⟩)

theorem staged_htpPerformanceModeSet (hclear : s.Clear) :
    (s.staged r).htpPerformanceModeSet = false := by
  rw [staged,stageControlLatency_htpPerformanceModeSet,stagePollingTime_htpPerformanceModeSet]
  exact hclear.htpPerformanceModeSet

theorem staged_powerConfigs (hclear : s.Clear) : (s.staged r).powerConfigs =
    (if r.rpcPollingTime = s.lastSetRpcPollingTime then []
      else [PowerConfig.rpcPollingTime r.rpcPollingTime]) ++
    (if r.rpcControlLatency = s.lastSetRpcControlLatency then []
      else [PowerConfig.rpcControlLatency r.rpcControlLatency]) := by
  rw [staged,stageControlLatency,stagePollingTime_lastSetRpcControlLatency]
  unfold stagePollingTime
  split <;> split <;> simp [hclear.powerConfigs]

theorem staged_clear_iff (hclear : s.Clear) : (s.staged r).Clear ↔ s.Unchanged r := by
  constructor
  · intro h
    have hnone := h.powerConfigs
    rw [staged_powerConfigs hclear,List.append_eq_nil_iff] at hnone
    exact ⟨by simpa using hnone.1,by simpa using hnone.2⟩
  · rintro ⟨hpolling,hlatency⟩
    have hsame : s.staged r = s := by
      rw [staged,stagePollingTime,if_pos hpolling,stageControlLatency,if_pos hlatency]
    rwa [hsame]

theorem staged_sublist_own (hclear : s.Clear) (config : PowerConfig) :
    ((s.staged r).stageConfig config).powerConfigs.Sublist (r.own config) := by
  change ((s.staged r).powerConfigs ++ [config]).Sublist _
  rw [staged_powerConfigs hclear]
  unfold PowerRequest.own
  split <;> split <;> simp

theorem staged_calls (s : PowerConfigs) (r : PowerRequest) : (s.staged r).calls = s.calls := by
  unfold staged stageControlLatency stagePollingTime
  split <;> split <;> rfl

end

section
variable {s : PowerConfigs} {r : PowerRequest}

theorem failsEarly_of_perf {config : PowerConfig} {accepted : Bool}
    (hconfig : r.payload.config r.clientId = .ok config) (hperf : r.infrastructure = .perf accepted) :
    s.FailsEarly r := by
  intro _
  rw [hconfig,hperf]
  trivial

theorem leavesNothing_of_sent {config : PowerConfig} {accepted : Bool} (hclear : s.Clear)
    (hconfig : r.payload.config r.clientId = .ok config) (hperf : r.infrastructure = .perf accepted)
    (hrun : r.staging.run.run s =
      (.ok (),((s.staged r).stageConfig config).dispatch r.clientId accepted)) :
    s.LeavesNothing r where
  failed hfailed := absurd (congrArg Prod.fst hrun) hfailed
  valid other answer _ hother hanswer := by
    obtain rfl := Except.ok.inj (hconfig.symm.trans hother)
    obtain rfl := Infrastructure.perf.inj (hperf.symm.trans hanswer)
    refine ⟨congrArg Prod.fst hrun,_,staged_sublist_own hclear config,?_⟩
    rw [request,hrun]
    exact congrArg (· ++ _) (staged_calls s r)

theorem leavesNothing_iff (hclear : s.Clear) : s.LeavesNothing r ↔ s.FailsEarly r := by
  by_cases hready : s.Ready r
  · have hmode := staged_htpPerformanceModeSet (r := r) hclear
    have hfirst := run_of_ready hclear hready
    cases hconfig : r.payload.config r.clientId with
    | error e =>
      have hrun := hfirst.trans (run_finish_of_error hmode hconfig)
      have hkept : s.FailsEarly r ↔ (s.staged r).Clear := by
        rw [staged_clear_iff hclear,FailsEarly,hconfig]
        exact ⟨fun h => h hready,fun h _ => h⟩
      rw [hkept]
      constructor
      · intro h
        have hpending := h.failed (by simp [hrun])
        rwa [request,hrun] at hpending
      · intro h
        refine ⟨fun _ => ?_,fun _ _ _ hok => ?_⟩
        · rwa [request,hrun]
        · rw [hconfig] at hok
          cases hok
    | ok config =>
      have hnext := hfirst.trans (run_finish_of_ok hmode hconfig)
      rcases setPowerConfig_stageConfig (s := s.staged r) config r.clientId r.infrastructure with
        ⟨accepted,hperf,hsent⟩ | ⟨hother,e,hlost⟩
      · exact iff_of_true (leavesNothing_of_sent hclear hconfig hperf (hnext.trans hsent))
          (failsEarly_of_perf hconfig hperf)
      · have hrun := hnext.trans hlost
        refine iff_of_false (fun h => ?_) fun h => ?_
        · have hpending := h.failed (by simp [hrun])
          rw [request,hrun] at hpending
          exact List.append_ne_nil_of_right_ne_nil _ (List.cons_ne_nil config []) hpending.powerConfigs
        · have hfails := h hready
          rw [hconfig] at hfails
          cases hinfra : r.infrastructure with
          | perf accepted => exact hother accepted hinfra
          | unavailable | otherType infraType =>
            rw [hinfra] at hfails
            exact hfails
  · obtain ⟨e,hrun⟩ := run_of_not_ready hready
    refine iff_of_true ⟨fun _ => ?_,fun _ _ h => absurd h hready⟩ fun h => absurd h hready
    rw [request,hrun]
    exact hclear

theorem request_clear (h : s.LeavesNothing r) : (s.request r).Clear := by
  by_cases hok : (r.staging.run.run s).1 = .ok ()
  · have hrun : r.staging.run.run s = (.ok (),s.request r) := Prod.ext hok rfl
    unfold PowerRequest.staging at hrun
    cases hpayload : r.payload with
    | mode perfMode => exact setHtpPowerConfigs_clear (by rw [hpayload] at hrun; exact hrun)
    | custom powerConfig => exact setHtpPowerCustomConfigs_clear (by rw [hpayload] at hrun; exact hrun)
  · exact h.failed hok

theorem new_clear (qnnInterface : Bool) : (new qnnInterface).Clear := ⟨rfl,rfl,rfl,rfl⟩

theorem requests_leave_nothing_iff (qnnInterface : Bool) (requests : List PowerRequest) :
    Machine.Each request LeavesNothing (new qnnInterface) requests ↔
      Machine.Each request FailsEarly (new qnnInterface) requests :=
  Machine.each_congr_of_kept Clear (fun _ _ _ h => request_clear h) (fun _ _ hs => leavesNothing_iff hs)
    (new_clear qnnInterface) requests

end

def invalidMode : PowerRequest := ⟨1,100,0,.mode .htpDefault,.perf true⟩

def burstMode : PowerRequest := ⟨1,100,0,.mode .htpBurst,.perf true⟩

theorem invalid_mode_blocks_next_request :
    ¬ Machine.Each request LeavesNothing (new true) [invalidMode,burstMode] ∧
      (burstMode.staging.run.run ((new true).request invalidMode)).1 =
        .error (.status "There is already a pending RPC polling time config") := by
  refine ⟨fun h => ?_,by decide⟩
  have hpending := h.1.failed (by decide)
  exact absurd hpending.powerConfigs (by decide)

end PowerConfigs

end QnnEp.Power
