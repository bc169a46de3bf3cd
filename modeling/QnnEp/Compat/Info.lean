import QnnEp.Foundation.Separated

namespace QnnEp.Compat

abbrev Text := List Char

structure QnnVersion where
  major : UInt32
  minor : UInt32
  patch : UInt32
  deriving DecidableEq, Repr

namespace QnnVersion

def init : QnnVersion := ⟨0,0,0⟩

def same (v w : QnnVersion) : Bool := v.major = w.major ∧ v.minor = w.minor

end QnnVersion

structure CompatibilityInfoV1 where
  backendId : UInt32
  sdkVersion : QnnVersion
  backendApiVersion : QnnVersion
  contextBlobVersion : QnnVersion
  htpArch : UInt32
  isHtpUsrDrv : Bool
  deriving DecidableEq, Repr

structure CompatibilityInfoV2 where
  backendId : UInt32
  sdkVersion : QnnVersion
  backendApiVersion : QnnVersion
  htpArchs : List UInt32
  socModels : List UInt32
  vtcmMbs : List UInt32
  isHtpUsrDrv : Bool
  deriving DecidableEq, Repr

inductive CompatibilityInfo where
  | v1 (info : CompatibilityInfoV1)
  | v2 (info : CompatibilityInfoV2)
  deriving DecidableEq, Repr

def emptyInfoV1 : CompatibilityInfoV1 := ⟨0,.init,.init,.init,0,false⟩

def emptyInfoV2 : CompatibilityInfoV2 := ⟨0,.init,.init,[],[],[],false⟩

def serializeNumber (n : UInt32) : Text := Separated.decimal n.toNat

def serializeVersion (version : QnnVersion) : Text :=
  serializeNumber version.major ++ ['.'] ++ serializeNumber version.minor ++ ['.'] ++
    serializeNumber version.patch

def serializeArray : List UInt32 → Text
  | [] => []
  | n :: rest => serializeNumber n ++ rest.flatMap fun m => [','] ++ serializeNumber m

def serializeFlag (flag : Bool) : Text := if flag then ['1'] else ['0']

def serializeCompatibilityInfoV1 (info : CompatibilityInfoV1) : Except String Text :=
  if info.sdkVersion.same emptyInfoV1.sdkVersion ∨
      info.backendApiVersion.same emptyInfoV1.backendApiVersion ∨
      info.htpArch = emptyInfoV1.htpArch then
    .error "No compatibility info to be serialized."
  else .ok (serializeNumber info.backendId ++ [':'] ++
    serializeVersion info.sdkVersion ++ [':'] ++
    serializeVersion info.backendApiVersion ++ [':'] ++
    serializeVersion info.contextBlobVersion ++ [':'] ++
    serializeNumber info.htpArch ++ [':'] ++
    serializeFlag info.isHtpUsrDrv)

def serializeCompatibilityInfoV2 (info : CompatibilityInfoV2) : Except String Text :=
  if info.sdkVersion.same emptyInfoV2.sdkVersion ∨
      info.backendApiVersion.same emptyInfoV2.backendApiVersion ∨
      info.htpArchs = emptyInfoV2.htpArchs ∨
      info.socModels = emptyInfoV2.socModels ∨
      info.vtcmMbs = emptyInfoV2.vtcmMbs then
    .error "No compatibility info to be serialized."
  else .ok (['v','2',':'] ++
    serializeNumber info.backendId ++ [':'] ++
    serializeVersion info.sdkVersion ++ [':'] ++
    serializeVersion info.backendApiVersion ++ [':'] ++
    serializeArray info.htpArchs ++ [':'] ++
    serializeArray info.socModels ++ [':'] ++
    serializeArray info.vtcmMbs ++ [':'] ++
    serializeFlag info.isHtpUsrDrv)

def serializeCompatibilityInfo : CompatibilityInfo → Except String Text
  | .v1 info => serializeCompatibilityInfoV1 info
  | .v2 info => serializeCompatibilityInfoV2 info

def malformedNumber : String :=
  "Unrecognized compatibility info format: malformed numeric value."

def deserializeString (str : Text) : Except String UInt32 :=
  if str.head?.all fun c => !c.isDigit then .error malformedNumber
  else
    match Separated.parseInteger (2 ^ 63) str with
    | none => .error malformedNumber
    | some (parsed,pos) =>
      if pos ≠ str.length ∨ parsed < 0 ∨ (2 ^ 32 - 1 : Int) < parsed then .error malformedNumber
      else .ok (UInt32.ofNat parsed.toNat)

def deserializeArray (str : Text) : Except String (List UInt32) :=
  (Separated.split ',' str).mapM deserializeString

def deserializeVersion (str : Text) : Except String QnnVersion :=
  match Separated.split '.' str with
  | [major,minor,patch] => do
    let major ← deserializeString major
    let minor ← deserializeString minor
    let patch ← deserializeString patch
    pure ⟨major,minor,patch⟩
  | _ => .error "Unrecognized compatibility info format: malformed version."

def deserializeCompatibilityInfoV1 (infoString : Text) : Except String CompatibilityInfoV1 :=
  match Separated.split ':' infoString with
  | [backendId,sdkVersion,backendApiVersion,contextBlobVersion,htpArch,isHtpUsrDrv] => do
    let backendId ← deserializeString backendId
    let sdkVersion ← deserializeVersion sdkVersion
    let backendApiVersion ← deserializeVersion backendApiVersion
    let contextBlobVersion ← deserializeVersion contextBlobVersion
    let htpArch ← deserializeString htpArch
    pure ⟨backendId,sdkVersion,backendApiVersion,contextBlobVersion,htpArch,isHtpUsrDrv = ['1']⟩
  | _ => .error "Unrecognized compatibility info format: not enough fields."

def deserializeCompatibilityInfoV2 (infoString : Text) : Except String CompatibilityInfoV2 :=
  match Separated.split ':' infoString with
  | [_,backendId,sdkVersion,backendApiVersion,htpArchs,socModels,vtcmMbs,isHtpUsrDrv] => do
    let backendId ← deserializeString backendId
    let sdkVersion ← deserializeVersion sdkVersion
    let backendApiVersion ← deserializeVersion backendApiVersion
    let htpArchs ← deserializeArray htpArchs
    let socModels ← deserializeArray socModels
    let vtcmMbs ← deserializeArray vtcmMbs
    if htpArchs.length = socModels.length ∧ htpArchs.length = vtcmMbs.length then
      pure ⟨backendId,sdkVersion,backendApiVersion,htpArchs,socModels,vtcmMbs,isHtpUsrDrv = ['1']⟩
    else throw "Unrecognized compatibility info format: unequal size in relative fields."
  | _ => .error "Unrecognized compatibility info format: not enough fields."

def deserializeCompatibilityInfo (infoString : Text) : Except String CompatibilityInfo :=
  if ':' ∉ infoString then .error "Unrecognized compatibility info format."
  else
    let firstSlice := infoString.takeWhile (· ≠ ':')
    if firstSlice.head? ≠ some 'v' then
      CompatibilityInfo.v1 <$> deserializeCompatibilityInfoV1 infoString
    else if firstSlice = ['v','2'] then
      CompatibilityInfo.v2 <$> deserializeCompatibilityInfoV2 infoString
    else .error ("Unrecognized compatibility info version: " ++ String.ofList firstSlice)

structure QnnBackendManager where
  backendId : UInt32
  backendApiVersion : QnnVersion
  htpArch : UInt32
  socModel : UInt32
  configureHostMode : Bool
  sdkBuildVersion : Text
  isHtpUsrDrvEnabled : UInt32 → Except String Bool
  htpUsrDrvVersion : QnnVersion

def kVtcmMbUnset : UInt32 := 0

def stoi (str : Text) : Except String UInt32 :=
  match Separated.parseInteger (2 ^ 31) str with
  | none => .error "stoi"
  | some (value,_) => .ok (UInt32.ofNat (value % 2 ^ 32).toNat)

def getHtpUsrDrvInfo (manager : QnnBackendManager) (htpArch : UInt32) :
    Except String (QnnVersion × Bool) := do
  let isHtpUsrDrv ←
    if manager.configureHostMode then pure false else manager.isHtpUsrDrvEnabled htpArch
  if isHtpUsrDrv then
    let sdkVersion := manager.htpUsrDrvVersion
    if sdkVersion.major = 0 ∧ sdkVersion.minor = 0 ∧ sdkVersion.patch = 0 then
      throw "Failed to get HtpUsrDrv file version."
    pure (sdkVersion,true)
  else
    match Separated.split '.' manager.sdkBuildVersion with
    | [major,minor,patch,_] =>
      if major.take 1 ≠ ['v'] then
        throw "Expected SDK version in vMajor.Minor.Patch.BuildId format."
      let major ← stoi (major.drop 1)
      let minor ← stoi minor
      let patch ← stoi patch
      pure (⟨major,minor,patch⟩,false)
    | _ => throw "Expected SDK version in vMajor.Minor.Patch.BuildId format."

def fillList (given default : List UInt32) (size : Nat) (message : String) :
    Except String (List UInt32) :=
  if given = [] then .ok default
  else if given.length ≠ size then .error message
  else .ok given

def getCompatibilityInfo (manager : QnnBackendManager) :
    CompatibilityInfo → Except String CompatibilityInfo
  | .v1 _ => .error "Support getting V2 compatibility info only."
  | .v2 info => do
    let htpArchs := if info.htpArchs = [] then [manager.htpArch] else info.htpArchs
    let socModels ← fillList info.socModels [manager.socModel] htpArchs.length
      "Unequal size of `htp_archs` and `soc_models` in the given compatibility info."
    let vtcmMbs ← fillList info.vtcmMbs (List.replicate htpArchs.length kVtcmMbUnset) htpArchs.length
      "Unequal size of `htp_archs` and `vtcm_mbs` in the given compatibility info."
    let (sdkVersion,isHtpUsrDrv) ← getHtpUsrDrvInfo manager (htpArchs.headD 0)
    pure (.v2 ⟨manager.backendId,sdkVersion,manager.backendApiVersion,htpArchs,socModels,vtcmMbs,
      isHtpUsrDrv⟩)

end QnnEp.Compat
