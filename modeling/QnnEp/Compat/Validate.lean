import QnnEp.Compat.Info

namespace QnnEp.Compat
open List

inductive CompiledModelCompatibility where
  | notApplicable
  | supportedOptimal
  | supportedPreferRecompilation
  | unsupported
  deriving DecidableEq, Repr

namespace CompiledModelCompatibility

def rank : CompiledModelCompatibility → Nat
  | notApplicable => 0
  | supportedOptimal => 1
  | supportedPreferRecompilation => 2
  | unsupported => 3

theorem rank_injective {v w : CompiledModelCompatibility} (h : v.rank = w.rank) : v = w := by
  cases v <;> cases w <;> first | rfl | cases h

theorem rank_le (v : CompiledModelCompatibility) : v.rank ≤ unsupported.rank := by
  cases v <;> decide

end CompiledModelCompatibility

open CompiledModelCompatibility

def QnnVersion.atMost (v w : QnnVersion) : Bool :=
  if v.major ≠ w.major then v.major ≤ w.major else v.minor ≤ w.minor

def kHtpV6xAndV7xBreakageArch : UInt32 := 73

def entryCompatibility (runtimeHtpArch runtimeVtcmMb : UInt32) (entry : UInt32 × UInt32) :
    CompiledModelCompatibility :=
  let (cacheHtpArch,cacheVtcmMb) := entry
  if (cacheHtpArch ≠ 0 ∧ cacheHtpArch < kHtpV6xAndV7xBreakageArch ∧
        runtimeHtpArch ≥ kHtpV6xAndV7xBreakageArch) ∨
      cacheHtpArch > runtimeHtpArch ∨ cacheVtcmMb > runtimeVtcmMb then unsupported
  else if cacheHtpArch = runtimeHtpArch ∧ cacheVtcmMb = runtimeVtcmMb then supportedOptimal
  else supportedPreferRecompilation

def CompatibilityInfoV2.entries (info : CompatibilityInfoV2) : List (UInt32 × UInt32) :=
  info.htpArchs.zipIdx.map fun (arch,idx) =>
    (arch,if info.vtcmMbs.length > 0 then info.vtcmMbs.getD idx 0 else kVtcmMbUnset)

def keepSmaller {α : Type} (verdict : α → CompiledModelCompatibility) (best : CompiledModelCompatibility)
    (entry : α) : CompiledModelCompatibility :=
  if (verdict entry).rank < best.rank then verdict entry else best

def validateHtpCompatibility (cache runtime : CompatibilityInfoV2) : CompiledModelCompatibility :=
  cache.entries.foldl
    (keepSmaller (entryCompatibility (runtime.htpArchs.headD 0) (runtime.vtcmMbs.headD 0))) unsupported

def validateCompatibilityWithCallback (cache runtime : CompatibilityInfoV2)
    (validate : CompatibilityInfoV2 → CompatibilityInfoV2 → CompiledModelCompatibility) :
    CompiledModelCompatibility :=
  if cache.backendId ≠ runtime.backendId then unsupported
  else
    match cache.isHtpUsrDrv, runtime.isHtpUsrDrv with
    | false, false =>
      if cache.backendApiVersion.atMost runtime.backendApiVersion then validate cache runtime
      else unsupported
    | false, true =>
      if cache.sdkVersion.atMost runtime.sdkVersion then validate cache runtime else unsupported
    | true, false => unsupported
    | true, true =>
      if cache.sdkVersion.atMost runtime.sdkVersion then validate cache runtime else unsupported

def validateCompatibilityInfoV2 (info runtime : CompatibilityInfoV2) :
    Except String CompiledModelCompatibility :=
  if info.vtcmMbs.length > 0 ∧ info.vtcmMbs.length ≠ info.htpArchs.length then
    .error "Unequal size of `htp_archs` and `vtcm_mbs` in the given compatibility info."
  else .ok (validateCompatibilityWithCallback info runtime validateHtpCompatibility)

section
variable {α : Type} {verdict : α → CompiledModelCompatibility} {es : List α}
  {best : CompiledModelCompatibility}

structure Least (verdict : α → CompiledModelCompatibility) (es : List α)
    (start best : CompiledModelCompatibility) : Prop where
  bound : best.rank ≤ start.rank
  each : ∀ e ∈ es, best.rank ≤ (verdict e).rank
  attained : best = start ∨ ∃ e ∈ es, best = verdict e

theorem keepSmaller_least (start : CompiledModelCompatibility) (es : List α) :
    Least verdict es start (es.foldl (keepSmaller verdict) start) := by
  induction es generalizing start with
  | nil => exact ⟨Nat.le_refl _,fun _ he => absurd he not_mem_nil,.inl rfl⟩
  | cons e es ih =>
    have h := ih (keepSmaller verdict start e)
    have hstep : (keepSmaller verdict start e).rank ≤ start.rank ∧
        (keepSmaller verdict start e).rank ≤ (verdict e).rank := by
      unfold keepSmaller
      split <;> omega
    refine ⟨Nat.le_trans h.bound hstep.1,fun e' he' => ?_,?_⟩
    · rcases mem_cons.mp he' with rfl | he'
      · exact Nat.le_trans h.bound hstep.2
      · exact h.each e' he'
    · rcases h.attained with hstart | ⟨e',he',hverdict⟩
      · rw [foldl_cons,hstart]
        unfold keepSmaller
        split
        · exact .inr ⟨e,mem_cons_self,rfl⟩
        · exact .inl rfl
      · exact .inr ⟨e',mem_cons_of_mem _ he',hverdict⟩

theorem Least.mono {es' : List α} {best' : CompiledModelCompatibility}
    (h : Least verdict es unsupported best) (h' : Least verdict es' unsupported best')
    (hsub : ∀ e ∈ es', e ∈ es) : best.rank ≤ best'.rank := by
  rcases h'.attained with rfl | ⟨e,he,rfl⟩
  · exact h.bound
  · exact h.each e (hsub e he)

end

section
variable {base runtime : CompatibilityInfoV2} {es es' : List (UInt32 × UInt32)}

def withEntries (base : CompatibilityInfoV2) (es : List (UInt32 × UInt32)) : CompatibilityInfoV2 :=
  { base with htpArchs := es.map Prod.fst, vtcmMbs := es.map Prod.snd }

def gateOpen (cache runtime : CompatibilityInfoV2) : Bool :=
  cache.backendId == runtime.backendId &&
    match cache.isHtpUsrDrv, runtime.isHtpUsrDrv with
    | false, false => cache.backendApiVersion.atMost runtime.backendApiVersion
    | true, false => false
    | _, true => cache.sdkVersion.atMost runtime.sdkVersion

def gatedCompatibility (base runtime : CompatibilityInfoV2) (entry : UInt32 × UInt32) :
    CompiledModelCompatibility :=
  if gateOpen base runtime then
    entryCompatibility (runtime.htpArchs.headD 0) (runtime.vtcmMbs.headD 0) entry
  else unsupported

def verdict (base runtime : CompatibilityInfoV2) (es : List (UInt32 × UInt32)) :
    CompiledModelCompatibility :=
  es.foldl (keepSmaller (gatedCompatibility base runtime)) unsupported

theorem foldl_unsupported (es : List (UInt32 × UInt32)) :
    es.foldl (keepSmaller fun _ => unsupported) unsupported = unsupported := by
  induction es with
  | nil => rfl
  | cons e es ih => exact ih

theorem withCallback_eq (cache runtime : CompatibilityInfoV2) :
    validateCompatibilityWithCallback cache runtime validateHtpCompatibility =
      verdict cache runtime cache.entries := by
  have hgate : validateCompatibilityWithCallback cache runtime validateHtpCompatibility =
      if gateOpen cache runtime then validateHtpCompatibility cache runtime else unsupported := by
    unfold validateCompatibilityWithCallback gateOpen
    by_cases hid : cache.backendId = runtime.backendId
    · cases cache.isHtpUsrDrv <;> cases runtime.isHtpUsrDrv <;> simp [hid]
    · simp [hid]
  unfold verdict gatedCompatibility
  rw [hgate]
  split
  · rfl
  · exact (foldl_unsupported _).symm

theorem entries_withEntries (base : CompatibilityInfoV2) (es : List (UInt32 × UInt32)) :
    (withEntries base es).entries = es := by
  refine ext_getElem (by simp [CompatibilityInfoV2.entries,withEntries]) fun i hi hi' => ?_
  have hpos : 0 < es.length := by omega
  simp [CompatibilityInfoV2.entries,withEntries,hi',hpos]

theorem validate_withEntries (base runtime : CompatibilityInfoV2) (es : List (UInt32 × UInt32)) :
    validateCompatibilityInfoV2 (withEntries base es) runtime = .ok (verdict base runtime es) := by
  unfold validateCompatibilityInfoV2
  rw [if_neg (by simp [withEntries]),withCallback_eq,entries_withEntries]
  rfl

theorem validate_unset (base runtime : CompatibilityInfoV2) (archs : List UInt32) :
    validateCompatibilityInfoV2 { base with htpArchs := archs, vtcmMbs := [] } runtime =
      .ok (verdict base runtime (archs.map fun arch => (arch,kVtcmMbUnset))) := by
  have hentries : CompatibilityInfoV2.entries { base with htpArchs := archs, vtcmMbs := [] } =
      archs.map fun arch => (arch,kVtcmMbUnset) := by
    refine ext_getElem (by simp [CompatibilityInfoV2.entries]) fun i hi hi' => ?_
    simp [CompatibilityInfoV2.entries]
  unfold validateCompatibilityInfoV2
  rw [if_neg (by simp),withCallback_eq,hentries]
  rfl

theorem verdict_least (base runtime : CompatibilityInfoV2) (es : List (UInt32 × UInt32)) :
    Least (gatedCompatibility base runtime) es unsupported (verdict base runtime es) :=
  keepSmaller_least unsupported es

theorem verdict_mono (h : ∀ e ∈ es', e ∈ es) :
    (verdict base runtime es).rank ≤ (verdict base runtime es').rank :=
  (verdict_least base runtime es).mono (verdict_least base runtime es') h

theorem verdict_perm (h : es.Perm es') : verdict base runtime es = verdict base runtime es' :=
  rank_injective (Nat.le_antisymm (verdict_mono fun _ => h.mem_iff.mpr) (verdict_mono fun _ => h.mem_iff.mp))

theorem verdict_attained (hne : es ≠ []) :
    ∃ e ∈ es, verdict base runtime es = verdict base runtime [e] := by
  have hle {e : UInt32 × UInt32} (he : e ∈ es) :
      (verdict base runtime es).rank ≤ (verdict base runtime [e]).rank :=
    verdict_mono fun _ h => mem_singleton.mp h ▸ he
  rcases (verdict_least base runtime es).attained with hworst | ⟨e,he,hbest⟩
  · obtain ⟨e,he⟩ := exists_mem_of_ne_nil es hne
    refine ⟨e,he,rank_injective (Nat.le_antisymm (hle he) ?_)⟩
    rw [hworst]
    exact rank_le _
  · refine ⟨e,he,rank_injective (Nat.le_antisymm (hle he) ?_)⟩
    rw [hbest]
    exact (verdict_least base runtime [e]).each e (mem_singleton_self e)

theorem atMost_trans {u v w : QnnVersion} (huv : u.atMost v = true) (hvw : v.atMost w = true) :
    u.atMost w = true := by
  simp only [QnnVersion.atMost,← UInt32.toNat_inj,ne_eq,ite_not,Bool.ite_eq_true_distrib,
    decide_eq_true_eq,UInt32.le_iff_toNat_le] at *
  split at huv <;> split at hvw <;> split <;> omega

theorem gateOpen_grows {sdkVersion backendApiVersion : QnnVersion}
    (hsdk : runtime.sdkVersion.atMost sdkVersion = true)
    (hapi : runtime.backendApiVersion.atMost backendApiVersion = true)
    (h : gateOpen base runtime = true) :
    gateOpen base
      { runtime with sdkVersion := sdkVersion, backendApiVersion := backendApiVersion } = true := by
  simp only [gateOpen,Bool.and_eq_true] at h ⊢
  refine ⟨h.1,?_⟩
  have hversion := h.2
  cases hcache : base.isHtpUsrDrv <;> cases hrun : runtime.isHtpUsrDrv <;>
    simp only [hcache,hrun] at hversion ⊢
  · exact atMost_trans hversion hapi
  · exact atMost_trans hversion hsdk
  · cases hversion
  · exact atMost_trans hversion hsdk

theorem verdict_grows {sdkVersion backendApiVersion : QnnVersion}
    (hsdk : runtime.sdkVersion.atMost sdkVersion = true)
    (hapi : runtime.backendApiVersion.atMost backendApiVersion = true) :
    (verdict base { runtime with sdkVersion := sdkVersion, backendApiVersion := backendApiVersion } es).rank ≤
      (verdict base runtime es).rank := by
  by_cases hopen : gateOpen base runtime = true
  · unfold verdict gatedCompatibility
    simp only [hopen,gateOpen_grows hsdk hapi hopen]
    exact Nat.le_refl _
  · have hclosed : verdict base runtime es = unsupported := by
      unfold verdict gatedCompatibility
      simp only [hopen]
      exact foldl_unsupported es
    rw [hclosed]
    exact rank_le _

end

theorem validateCompatibilityInfoV2_laws (base runtime : CompatibilityInfoV2)
    (es : List (UInt32 × UInt32)) (hne : es ≠ []) :
    (∀ es' runtime',
        validateCompatibilityInfoV2 (withEntries base es') runtime' = .ok (verdict base runtime' es')) ∧
      (∀ archs runtime',
        validateCompatibilityInfoV2 { base with htpArchs := archs, vtcmMbs := [] } runtime' =
          .ok (verdict base runtime' (archs.map fun arch => (arch,kVtcmMbUnset)))) ∧
      (∀ es', es.Perm es' → verdict base runtime es = verdict base runtime es') ∧
      ((∃ e ∈ es, verdict base runtime es = verdict base runtime [e]) ∧
        ∀ e ∈ es, (verdict base runtime es).rank ≤ (verdict base runtime [e]).rank) ∧
      (∀ e front back, es = front ++ back →
        (verdict base runtime (front ++ e :: back)).rank ≤ (verdict base runtime es).rank) ∧
      ∀ sdkVersion backendApiVersion, runtime.sdkVersion.atMost sdkVersion = true →
        runtime.backendApiVersion.atMost backendApiVersion = true →
        (verdict base
          { runtime with sdkVersion := sdkVersion, backendApiVersion := backendApiVersion } es).rank ≤
          (verdict base runtime es).rank := by
  refine ⟨fun es' runtime' => validate_withEntries base runtime' es',
    fun archs runtime' => validate_unset base runtime' archs,fun es' => verdict_perm,
    ⟨verdict_attained hne,fun e he => ?_⟩,?_,fun sdkVersion backendApiVersion => verdict_grows⟩
  · exact verdict_mono fun _ h => mem_singleton.mp h ▸ he
  · rintro e front back rfl
    refine verdict_mono fun e' he' => ?_
    rcases mem_append.mp he' with he' | he'
    · exact mem_append_left _ he'
    · exact mem_append_right _ (mem_cons_of_mem _ he')

theorem validateCompatibilityInfoV2_laws_pair :
    ∃ e ∈ [((69 : UInt32),(4 : UInt32)),(75,8)],
      verdict emptyInfoV2 { emptyInfoV2 with htpArchs := [75], vtcmMbs := [8] } [(69,4),(75,8)] =
        verdict emptyInfoV2 { emptyInfoV2 with htpArchs := [75], vtcmMbs := [8] } [e] :=
  (validateCompatibilityInfoV2_laws emptyInfoV2 { emptyInfoV2 with htpArchs := [75], vtcmMbs := [8] }
    [(69,4),(75,8)] (by decide)).2.2.2.1.1

end QnnEp.Compat
