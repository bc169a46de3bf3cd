import QnnEp.Foundation.Registry
import QnnEp.Foundation.Separated

namespace QnnEp.Options
open List

structure SocTable where
  mapSocModelFromSocName : List Char → Nat
  mapHtpArchFromSocModel : Nat → Nat

structure ElementParser (α : Type) where
  parseElement : List Char → α
  defaultValue : α

def tryParseInteger (limit : Nat) (value : List Char) : Option Nat :=
  if value ≠ [] ∧ value.all Char.isDigit then
    let parsed := Nat.ofDigitChars 10 value 0
    if parsed < limit then some parsed else none
  else none

def parseSocModel (table : SocTable) : ElementParser Nat where
  parseElement socModel :=
    if table.mapSocModelFromSocName socModel ≠ 0 then table.mapSocModelFromSocName socModel
    else (tryParseInteger (2 ^ 32) socModel).getD 0
  defaultValue := 0

def parseHtpArchitecture : ElementParser Nat where
  parseElement htpArch :=
    ([68,69,73,75,79,81].find? fun arch => Separated.decimal arch = htpArch).getD 0
  defaultValue := 0

def parseVtcmSize (vtcmSizeInMb : Int) : ElementParser Int where
  parseElement vtcmMb :=
    match tryParseInteger (2 ^ 31) vtcmMb with
    | some parsed => if parsed = 0 then vtcmSizeInMb else parsed
    | none => vtcmSizeInMb
  defaultValue := vtcmSizeInMb

structure PerSoc (σ α ν : Type) where
  socModelPerSoc : List σ
  htpArchPerSoc : List α
  vtcmSizeInMbPerSoc : List ν
  deriving DecidableEq

variable {σ α ν : Type}

def splitString (option : List Char) : List (List Char) := Separated.split ',' option

def splitValues (p : ElementParser σ) (option : List Char) : List σ :=
  if option = [] then [] else (splitString option).map p.parseElement

def alignSocModelAndHtpArch (unknown : σ) (noArch : α) (socModels : List σ) (htpArchs : List α) :
    Except String (List σ × List α) :=
  if socModels.isEmpty then .ok (List.replicate htpArchs.length unknown,htpArchs)
  else
    let htpArchs := if htpArchs.isEmpty then List.replicate socModels.length noArch else htpArchs
    if htpArchs.length ≠ socModels.length then
      .error "Expecting soc_model and htp_arch having equal number of values in multi-SoC EP context."
    else .ok (socModels,htpArchs)

def parsePerSocOption (optionName : String) (p : ElementParser ν) (numSocs : Nat) (option : List Char) :
    Except String (List ν) :=
  if option = [] then .ok (List.replicate numSocs p.defaultValue)
  else
    match (splitString option).map p.parseElement with
    | [value] => .ok (List.replicate numSocs value)
    | values =>
      if values.length ≠ numSocs then
        .error ("Expecting " ++ optionName ++ " having equal number of values with htp_arch/soc_model.")
      else .ok values

def parsePerSoc (p : ElementParser σ) (q : ElementParser α) (r : ElementParser ν)
    (socModel htpArch vtcmMb : List Char) : Except String (PerSoc σ α ν) := do
  let (socModels,htpArchs) ← alignSocModelAndHtpArch p.defaultValue q.defaultValue
    (splitValues p socModel) (splitValues q htpArch)
  let vtcmSizes ← parsePerSocOption "vtcm_mb" r socModels.length vtcmMb
  return ⟨socModels,htpArchs,vtcmSizes⟩

def givenPerSoc (table : SocTable) (vtcmSizeInMb : Int) (socModel htpArch vtcmMb : List Char) :
    Except String (PerSoc Nat Nat Int) :=
  parsePerSoc (parseSocModel table) parseHtpArchitecture (parseVtcmSize vtcmSizeInMb) socModel htpArch
    vtcmMb

def matchSocModelAndHtpArch (table : SocTable) (socModel htpArch : Nat) : Nat :=
  let mappedHtpArch := table.mapHtpArchFromSocModel socModel
  if mappedHtpArch = 0 then htpArch
  else if htpArch = 0 then mappedHtpArch
  else if htpArch ≠ mappedHtpArch then mappedHtpArch
  else htpArch

def parsePerSocHtpConfigs (table : SocTable) (vtcmSizeInMb : Int) (socModel htpArch vtcmMb : List Char) :
    Except String (Option (PerSoc Nat Nat Int)) :=
  if ',' ∉ socModel ∧ ',' ∉ htpArch then .ok none
  else
    (givenPerSoc table vtcmSizeInMb socModel htpArch vtcmMb).map fun perSoc => some { perSoc with
      htpArchPerSoc := List.zipWith (matchSocModelAndHtpArch table) perSoc.socModelPerSoc
        perSoc.htpArchPerSoc }

def source : ElementParser (Option (List Char)) := ⟨some,none⟩

def ElementParser.read (p : ElementParser σ) : Option (List Char) → σ
  | some text => p.parseElement text
  | none => p.defaultValue

abbrev Sources := PerSoc (Option (List Char)) (Option (List Char)) (Option (List Char))

def Sources.read (p : ElementParser σ) (q : ElementParser α) (r : ElementParser ν) (sources : Sources) :
    PerSoc σ α ν :=
  ⟨sources.socModelPerSoc.map p.read,sources.htpArchPerSoc.map q.read,
    sources.vtcmSizeInMbPerSoc.map r.read⟩

section
variable (p : ElementParser σ) (q : ElementParser α) (r : ElementParser ν)

theorem splitValues_read (option : List Char) :
    splitValues p option = (splitValues source option).map p.read := by
  unfold splitValues
  split
  · rfl
  · rw [map_map]
    rfl

theorem alignSocModelAndHtpArch_read (socModels htpArchs : List (Option (List Char))) :
    alignSocModelAndHtpArch p.defaultValue q.defaultValue (socModels.map p.read) (htpArchs.map q.read) =
      (alignSocModelAndHtpArch source.defaultValue source.defaultValue socModels htpArchs).map
        fun lists => (lists.1.map p.read,lists.2.map q.read) := by
  cases socModels with
  | nil => simp [alignSocModelAndHtpArch,Except.map,source,ElementParser.read]
  | cons socModel socModels =>
    cases htpArchs with
    | nil => simp [alignSocModelAndHtpArch,Except.map,source,ElementParser.read]
    | cons htpArch htpArchs =>
      by_cases hlength : htpArchs.length = socModels.length <;>
        simp [alignSocModelAndHtpArch,Except.map,hlength]

theorem parsePerSocOption_read (optionName : String) (numSocs : Nat) (option : List Char) :
    parsePerSocOption optionName r numSocs option =
      (parsePerSocOption optionName source numSocs option).map (List.map r.read) := by
  unfold parsePerSocOption
  split
  · simp [Except.map,source,ElementParser.read]
  · cases splitString option with
    | nil => by_cases hlength : 0 = numSocs <;> simp [Except.map,hlength]
    | cons first rest =>
      cases rest with
      | nil => simp [Except.map,source,ElementParser.read]
      | cons next rest =>
        by_cases hlength : rest.length + 1 + 1 = numSocs <;>
          simp [Except.map,source,ElementParser.read,hlength]

theorem parsePerSoc_read (socModel htpArch vtcmMb : List Char) :
    parsePerSoc p q r socModel htpArch vtcmMb =
      (parsePerSoc source source source socModel htpArch vtcmMb).map (Sources.read p q r) := by
  unfold parsePerSoc
  rw [splitValues_read p,splitValues_read q,alignSocModelAndHtpArch_read]
  cases alignSocModelAndHtpArch source.defaultValue source.defaultValue (splitValues source socModel)
    (splitValues source htpArch) with
  | error message => rfl
  | ok lists =>
    obtain ⟨socModels,htpArchs⟩ := lists
    change (parsePerSocOption "vtcm_mb" r (socModels.map p.read).length vtcmMb >>= _) =
      Except.map _ (parsePerSocOption "vtcm_mb" source socModels.length vtcmMb >>= _)
    rw [length_map,parsePerSocOption_read]
    cases parsePerSocOption "vtcm_mb" source socModels.length vtcmMb <;> rfl

end

def positions (option : List Char) : List (List Char) := option.splitOn ','

def numPositions (socModel htpArch : List Char) : Nat :=
  if socModel = [] then (positions htpArch).length else (positions socModel).length

structure FromPositions (n : Nat) (option : List Char) (entries : List (Option (List Char))) : Prop where
  length : entries.length = n
  entry : ∀ (i : Nat) (text : List Char), entries[i]? = some (some text) →
    (positions option)[i]? = some text ∨ positions option = [text]

structure Positional (socModel htpArch vtcmMb : List Char) (sources : Sources) : Prop where
  count : socModel ≠ [] → htpArch ≠ [] → (positions socModel).length = (positions htpArch).length
  vtcmCount : vtcmMb = [] ∨ (positions vtcmMb).length = 1 ∨
    (positions vtcmMb).length = numPositions socModel htpArch
  socModels : FromPositions (numPositions socModel htpArch) socModel sources.socModelPerSoc
  htpArchs : FromPositions (numPositions socModel htpArch) htpArch sources.htpArchPerSoc
  vtcmSizes : FromPositions (numPositions socModel htpArch) vtcmMb sources.vtcmSizeInMbPerSoc

def Filled (option : List Char) : Prop := [] ∉ positions option

def LeftBlank (option other : List Char) : Prop :=
  (∀ text ∈ positions option, text = []) ∧
    (option = [] ∨ (positions option).length = (positions other).length)

structure Dense (socModel htpArch vtcmMb : List Char) : Prop where
  options : Filled socModel ∧ Filled htpArch ∨ Filled socModel ∧ LeftBlank htpArch socModel ∨
    Filled htpArch ∧ LeftBlank socModel htpArch
  vtcmMb : vtcmMb = [] ∨ Filled vtcmMb

section
variable {option : List Char}

theorem splitString_eq_positions (h : Filled option) : splitString option = positions option :=
  filter_eq_self.mpr fun text htext => by
    simpa using fun hempty : text = [] => h (hempty ▸ htext)

theorem filled_iff : Filled option ↔ (splitString option).length = (positions option).length := by
  constructor
  · intro h
    rw [splitString_eq_positions h]
  · intro h hempty
    have hall := length_filter_eq_length_iff.mp h [] hempty
    simp at hall

theorem splitString_length_le (option : List Char) :
    (splitString option).length ≤ (positions option).length :=
  length_filter_le _ _

theorem blank_iff : (∀ text ∈ positions option, text = []) ↔ (splitString option).length = 0 := by
  rw [length_eq_zero_iff,splitString,Separated.split,filter_eq_nil_iff]
  simp [positions]

theorem positions_ne_nil (option : List Char) : positions option ≠ [] := by
  rw [positions,splitOn_eq_splitOnP]
  exact splitOnP_ne_nil _ _

theorem two_le_positions (h : ',' ∈ option) : 2 ≤ (positions option).length := by
  by_contra hless
  have hpos := length_pos_iff.mpr (positions_ne_nil option)
  obtain ⟨text,htext⟩ := length_eq_one_iff.mp (by omega : (positions option).length = 1)
  have hfree : ',' ∉ text :=
    Separated.not_mem_of_mem_splitOn (show text ∈ positions option by simp [htext])
  have hjoin : [','].intercalate (positions option) = option := intercalate_splitOn ','
  rw [htext,intercalate_singleton] at hjoin
  exact hfree (hjoin ▸ h)

end

structure Accepted (socModel htpArch vtcmMb : List Char) (sources : Sources) : Prop where
  aligned : splitString socModel ≠ [] → splitString htpArch ≠ [] →
    (splitString socModel).length = (splitString htpArch).length
  socModels : sources.socModelPerSoc = if splitString socModel = [] then
    List.replicate (splitString htpArch).length none else (splitString socModel).map some
  htpArchs : sources.htpArchPerSoc = if splitString htpArch = [] then
    List.replicate (splitString socModel).length none else (splitString htpArch).map some
  vtcmSizes : parsePerSocOption "vtcm_mb" source sources.socModelPerSoc.length vtcmMb =
    .ok sources.vtcmSizeInMbPerSoc

theorem alignSocModelAndHtpArch_ok {socTexts archTexts : List (List Char)}
    {lists : List (Option (List Char)) × List (Option (List Char))}
    (h : alignSocModelAndHtpArch none none (socTexts.map some) (archTexts.map some) = .ok lists) :
    (socTexts ≠ [] → archTexts ≠ [] → socTexts.length = archTexts.length) ∧
      lists = (if socTexts = [] then List.replicate archTexts.length none else socTexts.map some,
        if archTexts = [] then List.replicate socTexts.length none else archTexts.map some) := by
  cases socTexts with
  | nil =>
    cases h
    cases archTexts <;> simp
  | cons socText socTexts =>
    cases archTexts with
    | nil =>
      simp only [alignSocModelAndHtpArch] at h
      simpa using h.symm
    | cons archText archTexts =>
      by_cases hlength : archTexts.length = socTexts.length
      · simp [alignSocModelAndHtpArch,hlength] at h
        simp [hlength,h]
      · simp [alignSocModelAndHtpArch,hlength] at h

theorem splitValues_source (option : List Char) :
    splitValues source option = (splitString option).map some := by
  unfold splitValues
  split
  next hempty =>
    subst hempty
    rfl
  next => rfl

theorem accepted_of_ok {socModel htpArch vtcmMb : List Char} {sources : Sources}
    (h : parsePerSoc source source source socModel htpArch vtcmMb = .ok sources) :
    Accepted socModel htpArch vtcmMb sources := by
  unfold parsePerSoc at h
  rw [splitValues_source,splitValues_source] at h
  obtain ⟨lists,halign,h⟩ := Registry.bind_ok h
  obtain ⟨hlength,rfl⟩ := alignSocModelAndHtpArch_ok halign
  obtain ⟨vtcmSizes,hvtcm,h⟩ := Registry.bind_ok h
  cases h
  exact ⟨hlength,rfl,rfl,hvtcm⟩

section
variable {socModel htpArch vtcmMb : List Char} {sources : Sources} {n : Nat}
  {entries : List (Option (List Char))}

theorem fromPositions_default (n : Nat) (option : List Char) :
    FromPositions n option (List.replicate n none) := by
  refine ⟨length_replicate,fun i text h => ?_⟩
  have hnone := eq_of_mem_replicate (mem_of_getElem? h)
  cases hnone

theorem fromPositions_of_filled {option : List Char} (h : Filled option) :
    FromPositions (positions option).length option ((splitString option).map some) := by
  rw [splitString_eq_positions h]
  refine ⟨length_map _,fun i text hi => .inl ?_⟩
  rw [List.getElem?_map] at hi
  obtain ⟨other,hother,heq⟩ := Option.map_eq_some_iff.mp hi
  rwa [← Option.some.inj heq]

theorem two_le_numPositions (hcomma : ',' ∈ socModel ∨ ',' ∈ htpArch)
    (hcount : socModel ≠ [] → htpArch ≠ [] → (positions socModel).length = (positions htpArch).length) :
    2 ≤ numPositions socModel htpArch := by
  unfold numPositions
  split
  next hempty =>
    refine two_le_positions (hcomma.resolve_left ?_)
    simp [hempty]
  next hne =>
    rcases hcomma with hsoc | harch
    · exact two_le_positions hsoc
    · rw [hcount hne (ne_nil_of_mem harch)]
      exact two_le_positions harch

theorem not_repeated {text : List Char} (hn : 2 ≤ n) (hlong : 2 ≤ (positions vtcmMb).length)
    (hsplit : splitString vtcmMb = [text])
    (h : FromPositions n vtcmMb (List.replicate n (some text))) : False := by
  have hentry : ∀ i, i < 2 → (positions vtcmMb)[i]? = some text := by
    intro i hi
    refine (h.entry i text ?_).resolve_right fun hone => ?_
    · exact List.getElem?_replicate_of_lt (by omega)
    · rw [hone] at hlong
      exact absurd hlong (by simp)
  have hkept : text ≠ [] := by
    have hmem : text ∈ splitString vtcmMb := by simp [hsplit]
    simpa using (mem_filter.mp hmem).2
  rcases hpositions : positions vtcmMb with _ | ⟨first,_ | ⟨second,rest⟩⟩
  · exact positions_ne_nil vtcmMb hpositions
  · simp [hpositions] at hlong
  · have hfirst : first = text := by simpa [hpositions] using hentry 0 (by omega)
    have hsecond : second = text := by simpa [hpositions] using hentry 1 (by omega)
    rw [splitString,Separated.split,← positions,hpositions,hfirst,hsecond] at hsplit
    simp [hkept] at hsplit

theorem vtcm_positional_iff (hn : 2 ≤ n)
    (h : parsePerSocOption "vtcm_mb" source n vtcmMb = .ok entries) :
    (vtcmMb = [] ∨ (positions vtcmMb).length = 1 ∨ (positions vtcmMb).length = n) ∧
      FromPositions n vtcmMb entries ↔ vtcmMb = [] ∨ Filled vtcmMb := by
  unfold parsePerSocOption at h
  split at h
  next hempty =>
    cases h
    exact iff_of_true ⟨.inl hempty,fromPositions_default n vtcmMb⟩ (.inl hempty)
  next hne =>
    have hle := splitString_length_le vtcmMb
    cases hsplit : splitString vtcmMb with
    | nil =>
      rw [hsplit,map_nil] at h
      dsimp only at h
      rw [if_pos (by simp; omega)] at h
      cases h
    | cons first rest =>
      cases rest with
      | nil =>
        rw [hsplit] at h
        cases h
        constructor
        · rintro ⟨hcount,hfrom⟩
          rcases hcount with hempty | hone | hmany
          · exact absurd hempty hne
          · exact .inr (filled_iff.mpr (by rw [hsplit,hone]; rfl))
          · exact (not_repeated hn (hmany ▸ hn) hsplit hfrom).elim
        · intro hfilled
          have hsame := splitString_eq_positions (hfilled.resolve_left hne)
          rw [hsplit] at hsame
          refine ⟨.inr (.inl (by rw [← hsame]; rfl)),length_replicate,fun i text hi => ?_⟩
          have htext := eq_of_mem_replicate (mem_of_getElem? hi)
          exact .inr (hsame.symm.trans (by rw [Option.some.inj htext]))
      | cons next rest =>
        rw [hsplit,map_cons,map_cons] at h
        split at h
        next hone => cases hone
        next =>
        split at h
        next => cases h
        next hlength =>
          cases h
          have hvalues : (splitString vtcmMb).length = n := by
            rw [hsplit]
            simpa using hlength
          constructor
          · rintro ⟨hempty | hone | hmany,_⟩
            · exact absurd hempty hne
            · omega
            · exact .inr (filled_iff.mpr (hvalues.trans hmany.symm))
          · intro hfilled
            have hfull := hfilled.resolve_left hne
            have hcount : (positions vtcmMb).length = n := by rw [← splitString_eq_positions hfull,hvalues]
            have hfrom := fromPositions_of_filled hfull
            rw [hcount,hsplit] at hfrom
            exact ⟨.inr (.inr hcount),hfrom⟩

theorem fromPositions_iff (option : List Char) (k : Nat)
    (hn : splitString option ≠ [] → n = (positions option).length) :
    FromPositions n option (if splitString option = [] then List.replicate k none
      else (splitString option).map some) ↔
      ((splitString option).length = 0 → k = n) ∧
        ((splitString option).length ≠ 0 → (splitString option).length = n) := by
  split
  next hempty =>
    rw [hempty]
    refine ⟨fun h => ⟨fun _ => length_replicate.symm.trans h.length,fun h0 => absurd rfl h0⟩,?_⟩
    rintro ⟨hk,_⟩
    rw [← hk rfl]
    exact fromPositions_default k option
  next hsome =>
    have hlength : (splitString option).length ≠ 0 := fun h => hsome (length_eq_zero_iff.mp h)
    refine ⟨fun h => ⟨fun h0 => absurd h0 hlength,fun _ => (length_map _).symm.trans h.length⟩,?_⟩
    rintro ⟨_,hall⟩
    rw [hn hsome]
    exact fromPositions_of_filled (filled_iff.mpr ((hall hlength).trans (hn hsome)))

theorem splitString_ne_nil {option : List Char} (h : splitString option ≠ []) : option ≠ [] := by
  rintro rfl
  exact h rfl

theorem options_positional_iff (h : Accepted socModel htpArch vtcmMb sources) :
    (socModel ≠ [] → htpArch ≠ [] → (positions socModel).length = (positions htpArch).length) ∧
      FromPositions (numPositions socModel htpArch) socModel sources.socModelPerSoc ∧
      FromPositions (numPositions socModel htpArch) htpArch sources.htpArchPerSoc ↔
      Filled socModel ∧ Filled htpArch ∨ Filled socModel ∧ LeftBlank htpArch socModel ∨
        Filled htpArch ∧ LeftBlank socModel htpArch := by
  have hsocs : FromPositions (numPositions socModel htpArch) socModel _ ↔ _ :=
    fromPositions_iff socModel (splitString htpArch).length fun hne => if_neg (splitString_ne_nil hne)
  have hnum (hcount : socModel ≠ [] → htpArch ≠ [] →
      (positions socModel).length = (positions htpArch).length) (hne : splitString htpArch ≠ []) :
      numPositions socModel htpArch = (positions htpArch).length := by
    unfold numPositions
    split
    next => rfl
    next hgiven => exact hcount hgiven (splitString_ne_nil hne)
  have haligned := h.aligned
  have hsocEmpty : socModel = [] → (splitString socModel).length = 0 := by
    rintro rfl
    rfl
  have harchEmpty : htpArch = [] → (splitString htpArch).length = 0 := by
    rintro rfl
    rfl
  have hsocPos := length_pos_iff.mpr (positions_ne_nil socModel)
  have harchPos := length_pos_iff.mpr (positions_ne_nil htpArch)
  rw [h.socModels,h.htpArchs,hsocs,LeftBlank,LeftBlank,blank_iff,blank_iff,filled_iff,filled_iff]
  constructor
  · rintro ⟨hcount,hsoc,harch⟩
    rw [fromPositions_iff htpArch _ (hnum hcount)] at harch
    unfold numPositions at hsoc harch
    grind
  · intro hdense
    have hcount : socModel ≠ [] → htpArch ≠ [] →
        (positions socModel).length = (positions htpArch).length := by grind
    refine ⟨hcount,?_,?_⟩
    · unfold numPositions
      grind
    · rw [fromPositions_iff htpArch _ (hnum hcount)]
      unfold numPositions
      grind

theorem positional_iff_dense (hcomma : ',' ∈ socModel ∨ ',' ∈ htpArch)
    (h : Accepted socModel htpArch vtcmMb sources) :
    Positional socModel htpArch vtcmMb sources ↔ Dense socModel htpArch vtcmMb := by
  constructor
  · rintro ⟨hcount,hvtcm,hsoc,harch,hsizes⟩
    have htwo := two_le_numPositions hcomma hcount
    have haccepted := h.vtcmSizes
    rw [hsoc.length] at haccepted
    exact ⟨(options_positional_iff h).mp ⟨hcount,hsoc,harch⟩,
      (vtcm_positional_iff htwo haccepted).mp ⟨hvtcm,hsizes⟩⟩
  · rintro ⟨hoptions,hvtcm⟩
    obtain ⟨hcount,hsoc,harch⟩ := (options_positional_iff h).mpr hoptions
    have htwo := two_le_numPositions hcomma hcount
    have haccepted := h.vtcmSizes
    rw [hsoc.length] at haccepted
    obtain ⟨hvtcmCount,hsizes⟩ := (vtcm_positional_iff htwo haccepted).mpr hvtcm
    exact ⟨hcount,hvtcmCount,hsoc,harch,hsizes⟩

theorem parsePerSocHtpConfigs_positional_iff (table : SocTable) (vtcmSizeInMb : Int)
    (socModel htpArch vtcmMb : List Char) (hcomma : ',' ∈ socModel ∨ ',' ∈ htpArch)
    (config : Option (PerSoc Nat Nat Int))
    (h : parsePerSocHtpConfigs table vtcmSizeInMb socModel htpArch vtcmMb = .ok config) :
    ∃ sources : Sources,
      givenPerSoc table vtcmSizeInMb socModel htpArch vtcmMb =
        .ok (sources.read (parseSocModel table) parseHtpArchitecture (parseVtcmSize vtcmSizeInMb)) ∧
      parsePerSoc source source source socModel htpArch vtcmMb = .ok sources ∧
      (Positional socModel htpArch vtcmMb sources ↔ Dense socModel htpArch vtcmMb) := by
  unfold parsePerSocHtpConfigs at h
  rw [if_neg fun hnone => hcomma.elim hnone.1 hnone.2,givenPerSoc,parsePerSoc_read] at h
  rw [givenPerSoc,parsePerSoc_read]
  cases hsources : parsePerSoc source source source socModel htpArch vtcmMb with
  | error message =>
    rw [hsources] at h
    cases h
  | ok sources => exact ⟨sources,rfl,rfl,positional_iff_dense hcomma (accepted_of_ok hsources)⟩

end

structure SocInfo where
  socName : String
  socModel : Nat
  htpArch : Nat

def kSocInfos : List SocInfo := [⟨"SM8350",30,68⟩,⟨"SM8325",34,68⟩,⟨"SM8450",36,69⟩,⟨"SC8280X",37,68⟩,
  ⟨"SM8475",42,69⟩,⟨"SM8550",43,73⟩,⟨"SM8650",57,75⟩,⟨"SC8380XP",60,73⟩,⟨"SM8635",68,73⟩,
  ⟨"SM8750",69,79⟩,⟨"SM7675",70,73⟩,⟨"SM8850",87,81⟩,⟨"SC8480XP",88,81⟩]

def socTable : SocTable where
  mapSocModelFromSocName socName :=
    ((kSocInfos.find? fun info => info.socName.toList = socName.map Char.toUpper).map (·.socModel)).getD 0
  mapHtpArchFromSocModel socModel :=
    ((kSocInfos.find? fun info => info.socModel = socModel).map (·.htpArch)).getD 0

theorem parsePerSocHtpConfigs_positional_two_socs :
    ∃ sources : Sources,
      givenPerSoc socTable 0 "43,69".toList "73,75".toList "8".toList =
        .ok (sources.read (parseSocModel socTable) parseHtpArchitecture (parseVtcmSize 0)) ∧
      parsePerSoc source source source "43,69".toList "73,75".toList "8".toList = .ok sources ∧
      (Positional "43,69".toList "73,75".toList "8".toList sources ↔
        Dense "43,69".toList "73,75".toList "8".toList) :=
  parsePerSocHtpConfigs_positional_iff socTable 0 "43,69".toList "73,75".toList "8".toList
    (.inl (by decide)) (some ⟨[43,69],[73,79],[8,8]⟩) (by decide)

theorem skipped_position_shifts_socs :
    parsePerSocHtpConfigs socTable 0 "43,,69".toList "73,75".toList [] =
        .ok (some ⟨[43,69],[73,79],[0,0]⟩) ∧
      ∀ sources, parsePerSoc source source source "43,,69".toList "73,75".toList [] = .ok sources →
        ¬ Positional "43,,69".toList "73,75".toList [] sources := by
  refine ⟨by decide,fun sources _ h => ?_⟩
  exact absurd (h.count (by decide) (by decide)) (by decide)

end QnnEp.Options
