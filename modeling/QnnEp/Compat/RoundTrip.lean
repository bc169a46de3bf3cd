import QnnEp.Compat.Info
import QnnEp.Foundation.Registry

namespace QnnEp.Compat
open List
variable {s : Text} {info : CompatibilityInfo}

def fieldCount : CompatibilityInfo → Nat
  | .v1 _ => 6
  | .v2 _ => 8

structure Strict (count : Nat) (s : Text) : Prop where
  count : (s.splitOn ':').length = count
  nonempty : ∀ field ∈ s.splitOn ':', field ≠ []
  commas : ∀ field ∈ s.splitOn ':', [] ∉ field.splitOn ','
  dots : ∀ field ∈ s.splitOn ':', [] ∉ field.splitOn '.'
  flag : (s.splitOn ':').getLast? = some ['0'] ∨ (s.splitOn ':').getLast? = some ['1']

structure Tidy (s : Text) : Prop where
  commas : Separated.Spaced (fun c => c == ':' || c == ',') s
  dots : Separated.Spaced (fun c => c == ':' || c == '.') s
  flag : [':','0'] <:+ s ∨ [':','1'] <:+ s

theorem length_split_v1 {v1 : CompatibilityInfoV1} (h : deserializeCompatibilityInfoV1 s = .ok v1) :
    (Separated.split ':' s).length = 6 := by
  unfold deserializeCompatibilityInfoV1 at h
  split at h
  · next hsplit => rw [hsplit]; rfl
  · cases h

theorem length_split_v2 {v2 : CompatibilityInfoV2} (h : deserializeCompatibilityInfoV2 s = .ok v2) :
    (Separated.split ':' s).length = 8 := by
  unfold deserializeCompatibilityInfoV2 at h
  split at h
  · next hsplit => rw [hsplit]; rfl
  · cases h

theorem length_split (h : deserializeCompatibilityInfo s = .ok info) :
    (Separated.split ':' s).length = fieldCount info := by
  unfold deserializeCompatibilityInfo at h
  split at h
  · cases h
  · simp only at h
    split at h
    · cases hv1 : deserializeCompatibilityInfoV1 s with
      | error message => simp [hv1] at h
      | ok v1 =>
        rw [hv1] at h
        obtain rfl := Except.ok.inj h
        exact length_split_v1 hv1
    · split at h
      · cases hv2 : deserializeCompatibilityInfoV2 s with
        | error message => simp [hv2] at h
        | ok v2 =>
          rw [hv2] at h
          obtain rfl := Except.ok.inj h
          exact length_split_v2 hv2
      · cases h

theorem split_eq_splitOn (h : ∀ field ∈ s.splitOn ':', field ≠ []) :
    Separated.split ':' s = s.splitOn ':' :=
  filter_eq_self.mpr fun field hfield => decide_eq_true (h field hfield)

theorem spaced_iff (delimiter : Char) :
    Separated.Spaced (fun c => c == ':' || c == delimiter) s ↔
      ∀ field ∈ s.splitOn ':', [] ∉ field.splitOn delimiter := by
  rw [← (Separated.segments_nonempty _ s).1,Separated.splitOnP_or,mem_flatMap]
  simp only [splitOn_eq_splitOnP,not_exists,not_and]

theorem nonempty_of_spaced {delimiter : Char}
    (h : ∀ field ∈ s.splitOn ':', [] ∉ field.splitOn delimiter) : ∀ field ∈ s.splitOn ':', field ≠ [] := by
  rintro field hfield rfl
  exact h [] hfield (by simp)

theorem two_le_fieldCount (info : CompatibilityInfo) : 2 ≤ fieldCount info := by
  cases info with
  | v1 _ => exact (by decide : 2 ≤ 6)
  | v2 _ => exact (by decide : 2 ≤ 8)

theorem accepted_strict_iff (s : Text) (info : CompatibilityInfo)
    (h : deserializeCompatibilityInfo s = .ok info) : Strict (fieldCount info) s ↔ Tidy s := by
  have hcount (hnonempty : ∀ field ∈ s.splitOn ':', field ≠ []) :
      (s.splitOn ':').length = fieldCount info := by
    rw [← split_eq_splitOn hnonempty,length_split h]
  have hflag (hnonempty : ∀ field ∈ s.splitOn ':', field ≠ []) (flag : Char) (hne : ':' ∉ [flag]) :
      (s.splitOn ':').getLast? = some [flag] ↔ [':',flag] <:+ s := by
    refine Separated.getLast?_splitOn hne ?_
    rw [hcount hnonempty]
    exact two_le_fieldCount info
  constructor
  · intro hstrict
    refine ⟨(spaced_iff ',').mpr hstrict.commas,(spaced_iff '.').mpr hstrict.dots,?_⟩
    rw [← hflag hstrict.nonempty '0' (by decide),← hflag hstrict.nonempty '1' (by decide)]
    exact hstrict.flag
  · intro htidy
    have hcommas := (spaced_iff ',').mp htidy.commas
    have hnonempty := nonempty_of_spaced hcommas
    refine ⟨hcount hnonempty,hnonempty,hcommas,(spaced_iff '.').mp htidy.dots,?_⟩
    rw [hflag hnonempty '0' (by decide),hflag hnonempty '1' (by decide)]
    exact htidy.flag

theorem accepted_strict_sample :
    Strict 8 "v2:6:2.40.0:5.30.0:73,75:60,61:0,0:1".toList ↔
      Tidy "v2:6:2.40.0:5.30.0:73,75:60,61:0,0:1".toList :=
  accepted_strict_iff _ (.v2 ⟨6,⟨2,40,0⟩,⟨5,30,0⟩,[73,75],[60,61],[0,0],true⟩) (by decide)

theorem accepted_with_empty_fields :
    deserializeCompatibilityInfo ":6::2..40.0:5.30.0:1.0.0:73:yes:".toList =
        .ok (.v1 ⟨6,⟨2,40,0⟩,⟨5,30,0⟩,⟨1,0,0⟩,73,false⟩) ∧
      ¬Strict 6 ":6::2..40.0:5.30.0:1.0.0:73:yes:".toList := by
  refine ⟨by decide,fun hstrict => absurd hstrict.count (by decide)⟩

theorem serializeNumber_ne_nil (n : UInt32) : serializeNumber n ≠ [] := Separated.decimal_ne_nil _

theorem serializeNumber_not_mem {n : UInt32} {c : Char} (hc : c.isDigit = false) :
    c ∉ serializeNumber n := by
  intro h
  exact Separated.ne_of_isDigit (Separated.isDigit_of_mem_decimal h) hc rfl

theorem deserializeString_serializeNumber (n : UInt32) :
    deserializeString (serializeNumber n) = .ok n := by
  have hn : n.toNat < 2 ^ 32 := n.toNat_lt
  have hhead : ((serializeNumber n).head?.all fun c => !c.isDigit) = false := by
    cases hd : serializeNumber n with
    | nil => exact absurd hd (serializeNumber_ne_nil n)
    | cons c rest =>
      have hc : c ∈ serializeNumber n := by simp [hd]
      simpa using Separated.isDigit_of_mem_decimal hc
  have hparse : Separated.parseInteger (2 ^ 63) (serializeNumber n) =
      some ((n.toNat : Int),(serializeNumber n).length) := Separated.parseInteger_decimal (by omega)
  have hrange : ¬((serializeNumber n).length ≠ (serializeNumber n).length ∨ (n.toNat : Int) < 0 ∨
      (2 ^ 32 - 1 : Int) < n.toNat) := by omega
  simp only [deserializeString,hhead,Bool.false_eq_true,if_false,hparse,hrange,Int.toNat_natCast,
    UInt32.ofNat_toNat]

theorem serializeVersion_eq (v : QnnVersion) : serializeVersion v =
    ['.'].intercalate [serializeNumber v.major,serializeNumber v.minor,serializeNumber v.patch] := by
  simp [serializeVersion,intercalate_cons_cons]

theorem serializeArray_eq (arr : List UInt32) :
    serializeArray arr = [','].intercalate (arr.map serializeNumber) := by
  cases arr with
  | nil => rfl
  | cons n rest =>
    simp only [serializeArray]
    induction rest generalizing n with
    | nil => simp
    | cons m rest ih =>
      rw [map_cons,map_cons,intercalate_cons_cons,← map_cons,← ih m]
      simp

theorem deserializeVersion_serializeVersion (v : QnnVersion) :
    deserializeVersion (serializeVersion v) = .ok v := by
  have hsplit : Separated.split '.' (serializeVersion v) =
      [serializeNumber v.major,serializeNumber v.minor,serializeNumber v.patch] := by
    rw [serializeVersion_eq]
    refine Separated.split_intercalate (by simp) ?_
    have hfield : ∀ n : UInt32, serializeNumber n ≠ [] ∧ '.' ∉ serializeNumber n :=
      fun n => ⟨serializeNumber_ne_nil n,serializeNumber_not_mem (by decide)⟩
    simp [hfield]
  simp only [deserializeVersion,hsplit,deserializeString_serializeNumber]
  rfl

theorem mapM_deserializeString (arr : List UInt32) :
    (arr.map serializeNumber).mapM deserializeString = .ok arr := by
  induction arr with
  | nil => rfl
  | cons n rest ih =>
    rw [map_cons,mapM_cons,deserializeString_serializeNumber,ih]
    rfl

theorem deserializeArray_serializeArray {arr : List UInt32} (h : arr ≠ []) :
    deserializeArray (serializeArray arr) = .ok arr := by
  have hsplit : Separated.split ',' (serializeArray arr) = arr.map serializeNumber := by
    rw [serializeArray_eq]
    refine Separated.split_intercalate (by simpa using h) ?_
    intro field hfield
    obtain ⟨n,_,rfl⟩ := mem_map.mp hfield
    exact ⟨serializeNumber_ne_nil n,serializeNumber_not_mem (by decide)⟩
  rw [deserializeArray,hsplit,mapM_deserializeString]

theorem serializeVersion_field {v : QnnVersion} : serializeVersion v ≠ [] ∧ ':' ∉ serializeVersion v := by
  rw [serializeVersion_eq]
  refine ⟨Separated.intercalate_ne_nil (serializeNumber_ne_nil _),?_⟩
  intro h
  rcases Separated.mem_intercalate h with h | ⟨field,hfield,h⟩
  · cases h
  · simp only [mem_cons,not_mem_nil,or_false] at hfield
    rcases hfield with rfl | rfl | rfl <;> exact serializeNumber_not_mem (by decide) h

theorem serializeArray_field {arr : List UInt32} (harr : arr ≠ []) :
    serializeArray arr ≠ [] ∧ ':' ∉ serializeArray arr := by
  rw [serializeArray_eq]
  constructor
  · cases arr with
    | nil => exact absurd rfl harr
    | cons n rest => exact Separated.intercalate_ne_nil (serializeNumber_ne_nil n)
  · intro h
    rcases Separated.mem_intercalate h with h | ⟨field,hfield,h⟩
    · cases h
    · obtain ⟨n,_,rfl⟩ := mem_map.mp hfield
      exact serializeNumber_not_mem (by decide) h

theorem serializeFlag_field (flag : Bool) : serializeFlag flag ≠ [] ∧ ':' ∉ serializeFlag flag := by
  cases flag <;> decide

theorem serializeFlag_eq_one (flag : Bool) : decide (serializeFlag flag = ['1']) = flag := by
  cases flag <;> decide

section
variable {info : CompatibilityInfoV2} {s : Text}

def fieldsV2 (info : CompatibilityInfoV2) : List Text :=
  [['v','2'],serializeNumber info.backendId,serializeVersion info.sdkVersion,
    serializeVersion info.backendApiVersion,serializeArray info.htpArchs,
    serializeArray info.socModels,serializeArray info.vtcmMbs,serializeFlag info.isHtpUsrDrv]

theorem serializeCompatibilityInfoV2_ok (h : serializeCompatibilityInfoV2 info = .ok s) :
    s = [':'].intercalate (fieldsV2 info) ∧ info.htpArchs ≠ [] ∧ info.socModels ≠ [] ∧
      info.vtcmMbs ≠ [] := by
  unfold serializeCompatibilityInfoV2 at h
  split at h
  · cases h
  · next hset =>
    cases h
    simp only [not_or] at hset
    refine ⟨?_,hset.2.2⟩
    simp [fieldsV2,intercalate_cons_cons]

theorem split_fieldsV2 (harchs : info.htpArchs ≠ []) (hsocs : info.socModels ≠ [])
    (hvtcms : info.vtcmMbs ≠ []) :
    Separated.split ':' ([':'].intercalate (fieldsV2 info)) = fieldsV2 info := by
  refine Separated.split_intercalate (by simp [fieldsV2]) ?_
  have hnumber : serializeNumber info.backendId ≠ [] ∧ ':' ∉ serializeNumber info.backendId :=
    ⟨serializeNumber_ne_nil _,serializeNumber_not_mem (by decide)⟩
  simp only [fieldsV2,forall_mem_cons]
  exact ⟨by decide,hnumber,serializeVersion_field,serializeVersion_field,serializeArray_field harchs,
    serializeArray_field hsocs,serializeArray_field hvtcms,serializeFlag_field _,by simp⟩

theorem deserializeCompatibilityInfo_v2 (h : serializeCompatibilityInfoV2 info = .ok s) :
    deserializeCompatibilityInfo s =
      if info.htpArchs.length = info.socModels.length ∧ info.htpArchs.length = info.vtcmMbs.length then
        .ok (.v2 info)
      else .error "Unrecognized compatibility info format: unequal size in relative fields." := by
  obtain ⟨rfl,harchs,hsocs,hvtcms⟩ := serializeCompatibilityInfoV2_ok h
  have hstart : ∃ rest, [':'].intercalate (fieldsV2 info) = ['v','2',':'] ++ rest :=
    ⟨_,by rw [fieldsV2,intercalate_cons_cons]; rfl⟩
  have hslice : ':' ∈ [':'].intercalate (fieldsV2 info) ∧
      ([':'].intercalate (fieldsV2 info)).takeWhile (· ≠ ':') = ['v','2'] := by
    obtain ⟨rest,hrest⟩ := hstart
    rw [hrest]
    simp
  have hv2 : deserializeCompatibilityInfoV2 ([':'].intercalate (fieldsV2 info)) =
      if info.htpArchs.length = info.socModels.length ∧ info.htpArchs.length = info.vtcmMbs.length then
        .ok info
      else .error "Unrecognized compatibility info format: unequal size in relative fields." := by
    rw [deserializeCompatibilityInfoV2,split_fieldsV2 harchs hsocs hvtcms]
    simp only [fieldsV2,deserializeString_serializeNumber,deserializeVersion_serializeVersion,
      deserializeArray_serializeArray harchs,deserializeArray_serializeArray hsocs,
      deserializeArray_serializeArray hvtcms,serializeFlag_eq_one]
    rfl
  rw [deserializeCompatibilityInfo,if_neg (by simp [hslice.1]),hslice.2,hv2]
  simp only [List.head?_cons,ne_eq,not_true_eq_false,if_false,if_true]
  split <;> rfl

end

section
variable {manager : QnnBackendManager} {caller info : CompatibilityInfo} {s : Text}

structure FilledFrom (manager : QnnBackendManager) (caller info : CompatibilityInfoV2) : Prop where
  htpArchs : info.htpArchs = if caller.htpArchs = [] then [manager.htpArch] else caller.htpArchs
  socModels : info.socModels = if caller.socModels = [] then [manager.socModel] else caller.socModels
  socSize : caller.socModels ≠ [] → caller.socModels.length = info.htpArchs.length
  vtcmSize : info.vtcmMbs.length = info.htpArchs.length

theorem fillList_ok {given default filled : List UInt32} {size : Nat} {message : String}
    (h : fillList given default size message = .ok filled) :
    filled = (if given = [] then default else given) ∧ (given ≠ [] → given.length = size) := by
  unfold fillList at h
  split at h
  · next hnil =>
    cases h
    simp [hnil]
  · next hset =>
    split at h
    · cases h
    · next hsize =>
      cases h
      exact ⟨(if_neg hset).symm,fun _ => not_not.mp hsize⟩

theorem getCompatibilityInfo_ok (h : getCompatibilityInfo manager caller = .ok info) :
    ∃ c i, caller = .v2 c ∧ info = .v2 i ∧ FilledFrom manager c i := by
  cases caller with
  | v1 c => cases h
  | v2 c =>
    simp only [getCompatibilityInfo] at h
    obtain ⟨socModels,hsocs,h⟩ := Registry.bind_ok h
    obtain ⟨vtcmMbs,hvtcms,h⟩ := Registry.bind_ok h
    obtain ⟨⟨sdkVersion,isHtpUsrDrv⟩,_,h⟩ := Registry.bind_ok h
    cases h
    obtain ⟨rfl,hsocSize⟩ := fillList_ok hsocs
    obtain ⟨rfl,hvtcmSize⟩ := fillList_ok hvtcms
    refine ⟨c,_,rfl,rfl,rfl,rfl,hsocSize,?_⟩
    by_cases hnil : c.vtcmMbs = []
    · simp [hnil]
    · simpa [hnil] using hvtcmSize hnil

def SocModelsCover : CompatibilityInfo → Prop
  | .v1 _ => True
  | .v2 info => info.socModels ≠ [] ∨ info.htpArchs.length ≤ 1

theorem FilledFrom.sizes_iff {c i : CompatibilityInfoV2} (h : FilledFrom manager c i) :
    (i.htpArchs.length = i.socModels.length ∧ i.htpArchs.length = i.vtcmMbs.length) ↔
      SocModelsCover (.v2 c) := by
  rw [h.vtcmSize,and_iff_left rfl,h.socModels]
  by_cases hsoc : c.socModels = []
  · have harchs : i.htpArchs.length = 1 ↔ c.htpArchs.length ≤ 1 := by
      rw [h.htpArchs]
      by_cases harch : c.htpArchs = []
      · simp [harch]
      · have := length_pos_iff.mpr harch
        simp only [harch,if_false]
        omega
    simpa [hsoc,SocModelsCover] using harchs
  · simpa [hsoc,SocModelsCover] using (h.socSize hsoc).symm

theorem deserializeCompatibilityInfo_same_iff (manager : QnnBackendManager)
    (caller info : CompatibilityInfo) (s : Text)
    (hget : getCompatibilityInfo manager caller = .ok info)
    (hserialize : serializeCompatibilityInfo info = .ok s) :
    deserializeCompatibilityInfo s = .ok info ↔ SocModelsCover caller := by
  obtain ⟨c,i,rfl,rfl,hfilled⟩ := getCompatibilityInfo_ok hget
  rw [deserializeCompatibilityInfo_v2 hserialize,← hfilled.sizes_iff]
  split
  · next hsizes => exact iff_of_true rfl hsizes
  · next hsizes => exact iff_of_false (by simp) hsizes

end

def hostManager : QnnBackendManager where
  backendId := 6
  backendApiVersion := ⟨5,30,0⟩
  htpArch := 73
  socModel := 60
  configureHostMode := true
  sdkBuildVersion := "v2.40.0.251030".toList
  isHtpUsrDrvEnabled _ := .ok false
  htpUsrDrvVersion := .init

def callerInfo (htpArchs socModels vtcmMbs : List UInt32) : CompatibilityInfo :=
  .v2 { emptyInfoV2 with htpArchs := htpArchs, socModels := socModels, vtcmMbs := vtcmMbs }

def filledInfo (htpArchs socModels vtcmMbs : List UInt32) : CompatibilityInfo :=
  .v2 ⟨6,⟨2,40,0⟩,⟨5,30,0⟩,htpArchs,socModels,vtcmMbs,false⟩

theorem deserializeCompatibilityInfo_same_default :
    getCompatibilityInfo hostManager (callerInfo [] [] []) = .ok (filledInfo [73] [60] [0]) ∧
    serializeCompatibilityInfo (filledInfo [73] [60] [0]) =
      .ok "v2:6:2.40.0:5.30.0:73:60:0:0".toList ∧
    (deserializeCompatibilityInfo "v2:6:2.40.0:5.30.0:73:60:0:0".toList =
      .ok (filledInfo [73] [60] [0]) ↔ SocModelsCover (callerInfo [] [] [])) :=
  ⟨by decide,by decide,deserializeCompatibilityInfo_same_iff hostManager (callerInfo [] [] []) _ _
    (by decide) (by decide)⟩

theorem deserializeCompatibilityInfo_twoArchs :
    getCompatibilityInfo hostManager (callerInfo [73,75] [] []) =
      .ok (filledInfo [73,75] [60] [0,0]) ∧
    serializeCompatibilityInfo (filledInfo [73,75] [60] [0,0]) =
      .ok "v2:6:2.40.0:5.30.0:73,75:60:0,0:0".toList ∧
    deserializeCompatibilityInfo "v2:6:2.40.0:5.30.0:73,75:60:0,0:0".toList =
      .error "Unrecognized compatibility info format: unequal size in relative fields." :=
  ⟨by decide,by decide,by decide⟩

end QnnEp.Compat
