import QnnEp.Foundation.LexicalPath

namespace QnnEp.Context.BinaryPath
open LexicalPath

inductive Platform where
  | posix
  | windows (grammar : Grammar)

def Platform.grammar : Platform → Grammar
  | .posix => Grammar.posix
  | .windows grammar => grammar

structure EpContextNode where
  opType : Text
  source : Text
  mainContext : Int
  embedMode : Bool
  epCacheContext : Option Text
  deriving DecidableEq, Repr

structure Session where
  platform : Platform
  contextCachePath : Text
  modelPath : Text
  htpShareResourceOptimization : Int
  enableMultiSocEpContext : Bool
  sharedContextsHaveAllGraphs : Bool

def contextBufferSize : Nat := 512

def getLowercaseString (t : Text) : Text := t.map Char.toLower

namespace EpContextNode

def isQnn (node : EpContextNode) : Bool :=
  node.opType = "EPContext".toList ∧
    (getLowercaseString node.source = "qnnexecutionprovider".toList ∨
      getLowercaseString node.source = "qnn".toList)

def readOpAttr (node : EpContextNode) : Option Text :=
  node.epCacheContext.filter fun t => t.length ≤ contextBufferSize - 1

end EpContextNode

namespace Session

def grammar (session : Session) : Grammar := session.platform.grammar

def getContextOnnxModelFilePath (session : Session) : Text :=
  if session.contextCachePath ≠ [] then session.contextCachePath else session.modelPath

def folderPath (session : Session) : Text :=
  session.grammar.parentPath session.getContextOnnxModelFilePath

def directory (session : Session) : Path := session.grammar.parse session.folderPath

end Session

def lexicallyNormalPreferred (g : Grammar) (t : Text) : Text :=
  let p := g.parse t
  let text := p.rootName ++ (if p.rootDirectory then ['\\'] else []) ++
    ['\\'].intercalate (List.replicate p.normal.ups dotDot ++ p.normal.names)
  if text = [] then dot else text

def relativeText : Platform → Text → Text
  | .posix, t => t
  | .windows g, t => lexicallyNormalPreferred g t

def statesAbsolute : Platform → Text → Bool
  | .posix, t => t.head? = some '/'
  | .windows g, t => g.isAbsolute (g.parse t)

def relativePath (platform : Platform) (name : Text) : Except String Text :=
  if name = [] then .error "The file path in ep_cache_context should not be empty."
  else if statesAbsolute platform name then
    .error ("External mode should set ep_cache_context field with a relative path, " ++
      "but it is an absolute path: " ++ String.ofList name)
  else if dotDot <:+: relativeText platform name then
    .error ("The file path in ep_cache_context field has '..'. " ++
      "It's not allowed to point outside the directory.")
  else .ok (relativeText platform name)

def contextBinaryPath (session : Session) (name : Text) : Except String Path := do
  let relative ← relativePath session.platform name
  pure (session.grammar.pathAppend session.directory (session.grammar.parse relative))

def sharedContextBinFilepath (folderPath name : Text) : Text :=
  (if folderPath = [] then dot else folderPath) ++ '/' :: name

def EpContextNode.externalName (node : EpContextNode) : Text := node.epCacheContext.getD []

def loadsExternalBinary (session : Session) (node : EpContextNode) : Bool :=
  ¬session.sharedContextsHaveAllGraphs ∧ node.isQnn ∧ node.mainContext = 1 ∧ ¬node.embedMode

def getEpContextFromMainNode (session : Session) (node : EpContextNode) : Option Path :=
  if loadsExternalBinary session node then (contextBinaryPath session node.externalName).toOption
  else none

def sharedResourceName (session : Session) (node : EpContextNode) : Option Text :=
  if session.sharedContextsHaveAllGraphs ∨ session.htpShareResourceOptimization ≠ 1 ∨
      session.enableMultiSocEpContext ∨ ¬node.isQnn ∨ node.mainContext = 0 then none
  else node.readOpAttr

def getSharedResourcePath (session : Session) (node : EpContextNode) : Option Path :=
  (sharedResourceName session node).map fun name =>
    session.grammar.parse (sharedContextBinFilepath session.folderPath name)

def contextBinaryPaths (session : Session) (node : EpContextNode) : List Path :=
  (getSharedResourcePath session node).toList ++ (getEpContextFromMainNode session node).toList

structure Fits (g : Grammar) (directory q : Path) : Prop where
  rootName : q.rootName = [] ∨ q.rootName = directory.rootName
  rootDirectory : q.rootDirectory = true →
    directory.rootDirectory = true ∧ directory.normal.names <+: q.normal.names
  absolute : g.isAbsolute q = true → Inside directory q

structure Accepts (platform : Platform) (name : Text) : Prop where
  nonempty : name ≠ []
  relative : statesAbsolute platform name = false
  noDotDot : ¬dotDot <:+: relativeText platform name

structure KeepsRoot (g : Grammar) (folderPath name : Text) : Prop where
  rootName : (g.parse (sharedContextBinFilepath folderPath name)).rootName =
    (g.parse folderPath).rootName
  rootDirectory : (g.parse (sharedContextBinFilepath folderPath name)).rootDirectory =
    (g.parse folderPath).rootDirectory

structure StaysInFolder (g : Grammar) (folderPath name : Text) : Prop where
  keepsRoot : KeepsRoot g folderPath name
  staysIn : Normal.StaysIn (g.parse folderPath).rootDirectory
    (Normal.ofParts (g.parse folderPath).parts) (Normal.ofParts (g.parts name))

section
variable {g : Grammar} {directory q : Path}

theorem normal_names_of_rooted (h : q.rootDirectory = true) (rootName : Text) :
    (LexicalPath.Path.mk rootName true q.parts).normal = q.normal := by
  simp [Path.normal,h]

theorem inside_pathAppend_iff (hparts : dotDot ∉ q.parts) :
    Inside directory (g.pathAppend directory q) ↔ Fits g directory q := by
  unfold Grammar.pathAppend
  split
  · next hreplaced =>
    constructor
    · intro h
      exact ⟨.inr h.rootName,fun hq => ⟨h.rootDirectory ▸ hq,h.names⟩,fun _ => h⟩
    · intro h
      rcases hreplaced with habsolute | ⟨hne,hforeign⟩
      · exact h.absolute habsolute
      · exact absurd h.rootName (not_or.mpr ⟨hne,hforeign⟩)
  · next hkept =>
    obtain ⟨habsolute,hname⟩ := not_or.mp hkept
    have hroot : q.rootName = [] ∨ q.rootName = directory.rootName := by
      by_cases hne : q.rootName = []
      · exact .inl hne
      · exact .inr (not_not.mp fun h => hname ⟨hne,h⟩)
    split
    · next hrooted =>
      constructor
      · intro h
        refine ⟨hroot,fun _ => ⟨h.rootDirectory.symm,?_⟩,fun h => absurd h habsolute⟩
        have hnames := h.names
        rwa [normal_names_of_rooted hrooted] at hnames
      · intro h
        obtain ⟨hdirectory,hnames⟩ := h.rootDirectory hrooted
        rw [← normal_names_of_rooted hrooted directory.rootName] at hnames
        refine ⟨rfl,hdirectory.symm,?_,hnames⟩
        simp [Path.normal,hdirectory]
    · next hrelative =>
      have hups : (Normal.ofParts q.parts).ups = 0 := Normal.ups_walk_of_not_mem hparts
      have hinside := (normal_append directory.rootDirectory directory.parts q.parts
        directory.rootName).mpr (Normal.staysIn_of_ups_eq_zero _ hups)
      refine iff_of_true ⟨rfl,rfl,hinside.1,hinside.2⟩ ⟨hroot,fun h => absurd h hrelative,?_⟩
      exact fun h => absurd h habsolute

theorem ofParts_parts_dot (parts : List Text) :
    Normal.ofParts (g.parts dot ++ parts) = Normal.ofParts parts := by
  by_cases hdot : g.isSeparator '.' = true
  · have hparts : g.parts dot = [] := by simp [Grammar.parts,dot,List.splitOnP_cons_eq_if_modifyHead,hdot]
    rw [hparts,List.nil_append]
  · have hparts : g.parts dot = [dot] := by simp [Grammar.parts,dot,List.splitOnP_cons_eq_if_modifyHead,hdot]
    rw [hparts]
    rfl

theorem ofParts_sharedContextBinFilepath {folderPath name : Text} (h : KeepsRoot g folderPath name) :
    Normal.ofParts (g.parse (sharedContextBinFilepath folderPath name)).parts =
      Normal.ofParts ((g.parse folderPath).parts ++ g.parts name) := by
  have hroot : g.rootName (sharedContextBinFilepath folderPath name) = g.rootName folderPath :=
    h.rootName
  have hafter : (g.parse (sharedContextBinFilepath folderPath name)).parts =
      g.parts ((sharedContextBinFilepath folderPath name).drop (g.rootName folderPath).length) := by
    rw [← hroot]
    rfl
  rw [hafter]
  by_cases hfolder : folderPath = []
  · subst hfolder
    have hempty : g.rootName [] = [] := List.take_nil
    have hparts : (g.parse []).parts = [] := by simp [Grammar.parse,Grammar.afterRootName,Grammar.parts]
    rw [hempty,hparts,sharedContextBinFilepath,if_pos rfl,List.length_nil,List.drop_zero,
      Grammar.parts_append_slash,ofParts_parts_dot,List.nil_append]
  · have hlength : (g.rootName folderPath).length ≤ folderPath.length :=
      (List.take_prefix _ _).length_le
    rw [sharedContextBinFilepath,if_neg hfolder,List.drop_append_of_le_length hlength,
      Grammar.parts_append_slash]
    rfl

theorem inside_sharedContextBinFilepath_iff (folderPath name : Text) :
    Inside (g.parse folderPath) (g.parse (sharedContextBinFilepath folderPath name)) ↔
      StaysInFolder g folderPath name := by
  have hnormal : KeepsRoot g folderPath name →
      (g.parse (sharedContextBinFilepath folderPath name)).normal =
        (LexicalPath.Path.mk (g.parse folderPath).rootName (g.parse folderPath).rootDirectory
          ((g.parse folderPath).parts ++ g.parts name)).normal := by
    intro hroot
    rw [Path.normal,Path.normal,hroot.rootDirectory,ofParts_sharedContextBinFilepath hroot]
  have happend := normal_append (g.parse folderPath).rootDirectory (g.parse folderPath).parts
    (g.parts name) (g.parse folderPath).rootName
  constructor
  · intro h
    have hroot : KeepsRoot g folderPath name := ⟨h.rootName,h.rootDirectory⟩
    refine ⟨hroot,happend.mp ?_⟩
    rw [← hnormal hroot]
    exact ⟨h.ups,h.names⟩
  · intro h
    have hinside := happend.mpr h.staysIn
    rw [← hnormal h.keepsRoot] at hinside
    exact ⟨h.keepsRoot.rootName,h.keepsRoot.rootDirectory,hinside.1,hinside.2⟩

end

structure Contained (session : Session) (node : EpContextNode) : Prop where
  main : loadsExternalBinary session node = true → Accepts session.platform node.externalName →
    Fits session.grammar session.directory
      (session.grammar.parse (relativeText session.platform node.externalName))
  shared : ∀ name, sharedResourceName session node = some name →
    StaysInFolder session.grammar session.folderPath name

section
variable {session : Session} {node : EpContextNode}

theorem relativePath_ok_iff {platform : Platform} {name relative : Text} :
    relativePath platform name = .ok relative ↔
      Accepts platform name ∧ relative = relativeText platform name := by
  unfold relativePath
  constructor
  · intro h
    split at h
    · cases h
    · next hne =>
      split at h
      · cases h
      · next habsolute =>
        split at h
        · cases h
        · next hdots =>
          cases h
          exact ⟨⟨hne,by simpa using habsolute,hdots⟩,rfl⟩
  · rintro ⟨h,rfl⟩
    rw [if_neg h.nonempty,if_neg (by simp [h.relative]),if_neg h.noDotDot]

theorem contextBinaryPath_toOption {name : Text} {p : Path} :
    (contextBinaryPath session name).toOption = some p ↔ Accepts session.platform name ∧
      p = session.grammar.pathAppend session.directory
        (session.grammar.parse (relativeText session.platform name)) := by
  unfold contextBinaryPath
  cases hrelative : relativePath session.platform name with
  | error message =>
    constructor
    · intro h
      cases h
    · rintro ⟨haccepts,_⟩
      cases hrelative.symm.trans (relativePath_ok_iff.mpr ⟨haccepts,rfl⟩)
  | ok relative =>
    obtain ⟨haccepts,rfl⟩ := relativePath_ok_iff.mp hrelative
    constructor
    · intro h
      exact ⟨haccepts,(Option.some.inj h).symm⟩
    · rintro ⟨_,rfl⟩
      rfl

theorem inside_main_iff :
    (∀ p ∈ getEpContextFromMainNode session node, Inside session.directory p) ↔
      (loadsExternalBinary session node = true → Accepts session.platform node.externalName →
        Fits session.grammar session.directory
          (session.grammar.parse (relativeText session.platform node.externalName))) := by
  unfold getEpContextFromMainNode
  split
  · next hloads =>
    have hdots : Accepts session.platform node.externalName →
        dotDot ∉ (session.grammar.parse (relativeText session.platform node.externalName)).parts :=
      fun haccepts hmem => haccepts.noDotDot (Grammar.infix_of_mem_parse hmem)
    constructor
    · intro h _ haccepts
      exact (inside_pathAppend_iff (hdots haccepts)).mp
        (h _ (contextBinaryPath_toOption.mpr ⟨haccepts,rfl⟩))
    · intro h p hp
      obtain ⟨haccepts,rfl⟩ := contextBinaryPath_toOption.mp hp
      exact (inside_pathAppend_iff (hdots haccepts)).mpr (h hloads haccepts)
  · next hloads =>
    refine iff_of_true ?_ fun h => absurd h hloads
    intro p hp
    cases hp

theorem inside_shared_iff :
    (∀ p ∈ getSharedResourcePath session node, Inside session.directory p) ↔
      ∀ name, sharedResourceName session node = some name →
        StaysInFolder session.grammar session.folderPath name := by
  unfold getSharedResourcePath
  cases sharedResourceName session node with
  | none => simp
  | some name => simpa [Session.directory] using inside_sharedContextBinFilepath_iff session.folderPath name

theorem contextBinaryPaths_inside_iff (session : Session) (node : EpContextNode) :
    (∀ p ∈ contextBinaryPaths session node, Inside session.directory p) ↔ Contained session node := by
  have hsplit : (∀ p ∈ contextBinaryPaths session node, Inside session.directory p) ↔
      (∀ p ∈ getSharedResourcePath session node, Inside session.directory p) ∧
        ∀ p ∈ getEpContextFromMainNode session node, Inside session.directory p := by
    simp [contextBinaryPaths,or_imp,forall_and]
  rw [hsplit,inside_shared_iff,inside_main_iff]
  exact ⟨fun h => ⟨h.2,h.1⟩,fun h => ⟨h.2,h.1⟩⟩

def sharingSession : Session :=
  ⟨.posix,[],"/models/model_ctx.onnx".toList,1,false,false⟩

def parentDirectoryNode : EpContextNode :=
  ⟨"EPContext".toList,"QNN".toList,1,false,some "../secret.bin".toList⟩

theorem contextBinaryPaths_parentDirectory :
    ¬∀ p ∈ contextBinaryPaths sharingSession parentDirectoryNode, Inside sharingSession.directory p := by
  intro h
  have hshared := (h _ (List.mem_append_left _ List.mem_cons_self)).names
  exact absurd hshared (by decide)

end

end QnnEp.Context.BinaryPath
