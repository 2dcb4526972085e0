import LinkSynthesis.Command.RawCommand
import LinkSynthesis.Proofs.Command.InputOptions

/-!
# The parts of a raw command

What a raw command is made of, kind by kind. Each begins with the program that is run, so no raw
command is empty. A link is its input options in a frame that does not depend on them.
-/

namespace LinkSynthesis

/-- All flags of the table. -/
def FlagTable.texts (table : FlagTable) : List String :=
  table.flags ++ table.groups.flatMap (·.2)

/-- The flag tables of links. -/
def Toolchain.linkTables (tc : Toolchain) : List FlagTable :=
  [tc.fullyStaticLinkFlags, tc.mostlyStaticLinkFlags, tc.mostlyStaticSharedLinkFlags,
    tc.dynamicLinkFlags]

/-- The flags of a toolchain that a link may hand on. -/
def Toolchain.flagTexts (tc : Toolchain) : List String :=
  tc.linkTables.flatMap (·.texts) ++ tc.dynamicLibraryLinkFlags ++ tc.linkFlags ++ tc.fdoLinkFlags

/-- The texts of a toolchain that a link may hand on as they are. -/
def Toolchain.linkTexts (tc : Toolchain) : List String :=
  [tc.compiler, tc.shExecutable] ++ tc.linkTables.flatMap (·.texts) ++
    tc.dynamicLibraryLinkFlags ++ tc.linkFlags ++ tc.fdoLinkFlags

/-- What stands around the input options of a link. -/
structure LinkFrame where
  before : List String
  after : List String

namespace Action

variable {a : Action} {command : List String} {file : Artifact} {token : String}

/-! ### Parts -/

theorem compilerCommand_eq_ok (h : a.compilerCommand = .ok command) :
    ∃ (objects : List Artifact) (output : Artifact) (inputs : List String),
      a.linkstampObjects = objects.map some ∧ a.output = some output ∧
      a.inputOptions a.needsWholeArchive true = .ok inputs ∧
      command = a.toolchain.compiler :: a.symbolCountsOption ++
        (if a.target = .dynamicLibrary then ["-shared"] else []) ++
        objects.map (·.execPath) ++ a.outputOptions output ++ inputs ++
        a.toolchain.linkOptions a.staticness a.features a.isSharedLink ++
        (if a.toolchain.coverage then ["-lgcov"] else []) ++
        (if a.target = .executable ∧ a.toolchain.forcePic then ["-pie"] else []) ++
        a.toolchain.linkFlags ++ a.toolchain.fdoLinkFlags := by
  obtain ⟨objects, ho, h⟩ := bind_eq_ok_iff.1 h
  obtain ⟨output, hout, h⟩ := bind_eq_ok_iff.1 h
  obtain ⟨inputs, hin, h⟩ := bind_eq_ok_iff.1 h
  cases h
  exact ⟨objects, output, inputs, Artifact.mapM_require_eq_ok_iff.1 ho,
    Artifact.require_eq_ok_iff.1 hout, hin, rfl⟩

theorem archiverCommand_eq_ok (h : a.archiverCommand = .ok command) :
    ∃ (output : Artifact) (inputs : List String),
      a.output = some output ∧ a.inputOptions false false = .ok inputs ∧
      command = a.toolchain.ar :: a.toolchain.arFlagsFor (a.toolchain.archiveType = .thin) ++
        output.execPath :: inputs := by
  obtain ⟨output, hout, h⟩ := bind_eq_ok_iff.1 h
  obtain ⟨inputs, hin, h⟩ := bind_eq_ok_iff.1 h
  cases h
  exact ⟨output, inputs, Artifact.require_eq_ok_iff.1 hout, hin, rfl⟩

/-- A raw command is that of the compiler or of the archiver, by the kind of the target. -/
theorem rawCommand_cases (h : a.rawCommand = .ok command) :
    (a.target = .executable ∧ ∃ compiler, a.compilerCommand = .ok compiler ∧
      command = compiler ++ a.fissionOption) ∨
    (a.target = .dynamicLibrary ∧ ∃ wrapper compiler, a.interfaceWrapper = .ok wrapper ∧
      a.compilerCommand = .ok compiler ∧
      command = (wrapper ++ compiler).filter (· != "-pie") ++ a.fissionOption) ∨
    (a.target.isStaticLibrary = true ∧ a.archiverCommand = .ok command) := by
  unfold rawCommand at h
  cases kind : a.target with
  | executable =>
    rw [kind] at h
    obtain ⟨compiler, hc, h⟩ := bind_eq_ok_iff.1 h
    cases h
    exact .inl ⟨rfl, compiler, hc, rfl⟩
  | dynamicLibrary =>
    rw [kind] at h
    obtain ⟨wrapper, hw, h⟩ := bind_eq_ok_iff.1 h
    obtain ⟨compiler, hc, h⟩ := bind_eq_ok_iff.1 h
    cases h
    exact .inr (.inl ⟨rfl, wrapper, compiler, hw, hc, rfl⟩)
  | interfaceDynamicLibrary =>
    rw [kind] at h
    cases h
  | _ =>
    rw [kind] at h
    exact .inr (.inr ⟨rfl, h⟩)

/-- An archive is made by the archiver. -/
theorem rawCommand_eq_archiver (archive : a.target.isStaticLibrary = true) :
    a.rawCommand = a.archiverCommand := by
  unfold rawCommand
  cases kind : a.target with
  | executable | dynamicLibrary | interfaceDynamicLibrary =>
    rw [kind] at archive
    cases archive
  | _ => rfl

/-! ### No raw command is empty -/

theorem compilerCommand_ne_nil (h : a.compilerCommand = .ok command) : command ≠ [] := by
  obtain ⟨objects, output, inputs, -, -, -, rfl⟩ := compilerCommand_eq_ok h
  simp

/-- The option that asks for a shared object is left, whatever is filtered out. -/
theorem shared_mem_rawCommand (h : a.rawCommand = .ok command) (ht : a.target = .dynamicLibrary) :
    "-shared" ∈ command := by
  rcases rawCommand_cases h with ⟨other, -⟩ | ⟨-, wrapper, compiler, -, hc, rfl⟩ | ⟨other, -⟩
  · cases ht.symm.trans other
  · have asked : "-shared" ∈ compiler := by
      obtain ⟨objects, output, inputs, -, -, -, rfl⟩ := compilerCommand_eq_ok hc
      simp [ht]
    exact List.mem_append_left _ (List.mem_filter.2 ⟨List.mem_append_right _ asked, by decide⟩)
  · rw [ht] at other
    cases other

theorem rawCommand_ne_nil (h : a.rawCommand = .ok command) : command ≠ [] := by
  rcases rawCommand_cases h with ⟨-, compiler, hc, rfl⟩ | ⟨dynamic, -⟩ | ⟨-, archived⟩
  · exact List.append_ne_nil_of_left_ne_nil (compilerCommand_ne_nil hc) _
  · -- The filter drops no more than `-pie`, so it cannot empty the compile.
    exact List.ne_nil_of_mem (shared_mem_rawCommand h dynamic)
  · obtain ⟨output, inputs, -, -, rfl⟩ := archiverCommand_eq_ok archived
    simp

/-! ### Around the input options -/

/-- What stands in front of the compiler. -/
def linkWrapper (a : Action) : Except AssemblyError (List String) :=
  match a.target with
  | .dynamicLibrary => a.interfaceWrapper
  | .interfaceDynamicLibrary => throw .interfaceTarget
  | _ => return []

/-- What stands around the input options, the wrapper included. -/
def linkFrame (a : Action) : Except AssemblyError LinkFrame := do
  let wrapper ← a.linkWrapper
  let objects ← a.linkstampObjects.mapM Artifact.require
  let output ← Artifact.require a.output
  return {
    before := wrapper ++ a.toolchain.compiler :: a.symbolCountsOption ++
      (if a.target = .dynamicLibrary then ["-shared"] else []) ++
      objects.map (·.execPath) ++ a.outputOptions output
    after := a.toolchain.linkOptions a.staticness a.features a.isSharedLink ++
      (if a.toolchain.coverage then ["-lgcov"] else []) ++
      (if a.target = .executable ∧ a.toolchain.forcePic then ["-pie"] else []) ++
      a.toolchain.linkFlags ++ a.toolchain.fdoLinkFlags }

/-- The arguments that are left of a token: a dynamic library takes no `-pie`. -/
def keep (a : Action) (token : String) : List String :=
  if a.target = .dynamicLibrary ∧ token = "-pie" then [] else [token]

theorem flatMap_keep (tokens : List String) : tokens.flatMap a.keep =
    if a.target = .dynamicLibrary then tokens.filter (· != "-pie") else tokens := by
  split
  · next dynamic =>
    induction tokens with
    | nil => rfl
    | cons token tokens ih =>
      rw [List.flatMap_cons, ih, keep]
      by_cases pie : token = "-pie" <;> simp [dynamic, pie]
  · next other =>
    have single : a.keep = ([·]) := by
      funext token
      simp [keep, other]
    rw [single, List.flatMap_singleton']

/-- A link is its input options in their frame. -/
theorem rawCommand_eq_frame (link : a.target.isStaticLibrary = false) : a.rawCommand = (do
    let frame ← a.linkFrame
    let inputs ← a.inputOptions a.needsWholeArchive true
    return (frame.before ++ inputs ++ frame.after).flatMap a.keep ++ a.fissionOption) := by
  simp only [flatMap_keep]
  unfold rawCommand linkFrame linkWrapper compilerCommand
  cases ht : a.target with
  | executable =>
    simp only [bind_assoc, pure_bind]
    simp
  | dynamicLibrary =>
    simp only [bind_assoc, pure_bind]
    simp
  | interfaceDynamicLibrary => rfl
  | _ =>
    rw [ht] at link
    cases link

/-- Input options are arguments of the link, but for a `-pie` that a dynamic library does not
keep. -/
theorem inputOptions_subset_rawCommand (link : a.target.isStaticLibrary = false)
    (h : a.rawCommand = .ok command) : ∃ inputs,
      a.inputOptions a.needsWholeArchive true = .ok inputs ∧
        ∀ token ∈ inputs, token ≠ "-pie" → token ∈ command := by
  rw [rawCommand_eq_frame link] at h
  obtain ⟨frame, -, h⟩ := bind_eq_ok_iff.1 h
  obtain ⟨inputs, hi, h⟩ := bind_eq_ok_iff.1 h
  cases h
  refine ⟨inputs, hi, fun token ht other => List.mem_append_left _ (List.mem_flatMap.2 ?_)⟩
  exact ⟨token, by simp [ht], by simp [keep, other]⟩

/-! ### Where the arguments of the frame come from -/

/-- The files that a link may name around its input options. -/
def frameFiles (a : Action) : List Artifact :=
  (a.output :: a.interfaceOutput :: a.interfaceSoBuilder :: a.linkstampObjects).filterMap id

/-- The texts that a link may hand on around its input options. -/
def frameTexts (a : Action) : List String :=
  a.toolchain.linkTexts ++ a.frameFiles.map (·.execPath)

/-- The arguments that a link writes around its input options by itself. -/
inductive IsFrameOption (a : Action) : String → Prop
  | fixed {token : String} (h : token ∈ ["-c", interfaceScript, "-shared", "-o", "/dev/null",
      "-MMD", "-MF", "-lgcov"]) : IsFrameOption a token
  | symbolCounts (path : String) : IsFrameOption a ("-Wl,--print-symbol-counts=" ++ path)
  | pie (executable : a.target = .executable) (pic : a.toolchain.forcePic = true) :
      IsFrameOption a "-pie"

theorem mem_texts_of_mem_evaluate {table : FlagTable} {features : NameSet}
    (h : token ∈ table.evaluate features) : token ∈ table.texts := by
  refine List.mem_append.2 ((List.mem_append.1 h).imp_right fun grouped => ?_)
  obtain ⟨group, hg, ht⟩ := List.mem_flatMap.1 grouped
  split at ht
  · exact List.mem_flatMap.2 ⟨group, hg, ht⟩
  · cases ht

theorem linkTable_mem_linkTables {tc : Toolchain} {staticness : Staticness} {shared : Bool} :
    tc.linkTable staticness shared ∈ tc.linkTables := by
  unfold Toolchain.linkTable Toolchain.linkTables
  cases staticness with
  | fullyStatic => cases shared <;> simp
  | mostlyStatic =>
    cases shared with
    | false => simp
    | true =>
      dsimp only
      split <;> simp
  | dynamic => simp

theorem mem_flagTexts_of_mem_linkOptions {tc : Toolchain} {staticness : Staticness}
    {features : NameSet} {shared : Bool} (h : token ∈ tc.linkOptions staticness features shared) :
    token ∈ tc.flagTexts := by
  simp only [Toolchain.flagTexts, List.mem_append]
  rcases List.mem_append.1 h with table | library
  · exact .inl (.inl (.inl (List.mem_flatMap.2
      ⟨_, linkTable_mem_linkTables, mem_texts_of_mem_evaluate table⟩)))
  · split at library
    · exact .inl (.inl (.inr library))
    · cases library

theorem mem_linkTexts_of_mem_flagTexts {tc : Toolchain} (h : token ∈ tc.flagTexts) :
    token ∈ tc.linkTexts := by
  rw [Toolchain.flagTexts, List.append_assoc, List.append_assoc] at h
  rw [Toolchain.linkTexts, List.append_assoc, List.append_assoc, List.append_assoc]
  exact List.mem_append_right _ h

theorem mem_frameTexts_of_some (h : some file ∈
    a.output :: a.interfaceOutput :: a.interfaceSoBuilder :: a.linkstampObjects) :
    file.execPath ∈ a.frameTexts :=
  List.mem_append_right _ (List.mem_map_of_mem (List.mem_filterMap.2 ⟨some file, h, rfl⟩))

theorem mem_linkWrapper_cases {wrapper : List String} (h : a.linkWrapper = .ok wrapper)
    (ht : token ∈ wrapper) : token ∈ a.frameTexts ∨ IsFrameOption a token := by
  unfold linkWrapper at h
  split at h
  · unfold interfaceWrapper at h
    split at h
    · cases h
      cases ht
    · next interface hi =>
      obtain ⟨builder, hb, h⟩ := bind_eq_ok_iff.1 h
      obtain ⟨output, ho, h⟩ := bind_eq_ok_iff.1 h
      cases h
      have hb := Artifact.require_eq_ok_iff.1 hb
      have ho := Artifact.require_eq_ok_iff.1 ho
      simp only [List.mem_cons, List.not_mem_nil, or_false] at ht
      rcases ht with rfl | rfl | rfl | rfl | rfl | rfl
      · exact .inl (List.mem_append_left _ (by simp [Toolchain.linkTexts]))
      · exact .inr (.fixed (by simp))
      · exact .inr (.fixed (by simp))
      · exact .inl (mem_frameTexts_of_some (by simp [hb]))
      · exact .inl (mem_frameTexts_of_some (by simp [ho]))
      · exact .inl (mem_frameTexts_of_some (by simp [hi]))
  · cases h
  · cases h
    cases ht

theorem mem_outputOptions_cases {output : Artifact} (h : a.output = some output)
    (ht : token ∈ a.outputOptions output) : token ∈ a.frameTexts ∨ IsFrameOption a token := by
  have path : output.execPath ∈ a.frameTexts := mem_frameTexts_of_some (h ▸ .head _)
  have options : token = output.execPath ∨ token ∈ ["-o", "/dev/null", "-MMD", "-MF"] := by
    unfold outputOptions at ht
    split at ht <;> grind
  rcases options with rfl | option
  · exact .inl path
  · exact .inr (.fixed (by grind))

/-- An argument of the frame is handed on or written by the link itself. -/
theorem mem_linkFrame_cases {frame : LinkFrame} (h : a.linkFrame = .ok frame)
    (ht : token ∈ frame.before ++ frame.after) : token ∈ a.frameTexts ∨ IsFrameOption a token := by
  obtain ⟨wrapper, hw, h⟩ := bind_eq_ok_iff.1 h
  obtain ⟨objects, hobjects, h⟩ := bind_eq_ok_iff.1 h
  obtain ⟨output, ho, h⟩ := bind_eq_ok_iff.1 h
  cases h
  have hobjects := Artifact.mapM_require_eq_ok_iff.1 hobjects
  have ofToolchain (h : token ∈ a.toolchain.linkTexts) :
      token ∈ a.frameTexts ∨ IsFrameOption a token :=
    .inl (List.mem_append_left _ h)
  simp only [List.mem_append, List.mem_cons] at ht
  rcases ht with ((((wrapped | rfl | counts) | shared) | object) | named) |
    ((((options | coverage) | pie) | flags) | fdo)
  · exact mem_linkWrapper_cases hw wrapped
  · exact ofToolchain (by simp [Toolchain.linkTexts])
  · unfold symbolCountsOption at counts
    split at counts
    · rw [List.mem_singleton.1 counts]
      exact .inr (.symbolCounts _)
    · cases counts
  · exact .inr (.fixed (by grind))
  · obtain ⟨object, hobject, rfl⟩ := List.mem_map.1 object
    exact .inl (mem_frameTexts_of_some (by simp [hobjects, hobject]))
  · exact mem_outputOptions_cases (Artifact.require_eq_ok_iff.1 ho) named
  · exact ofToolchain (mem_linkTexts_of_mem_flagTexts (mem_flagTexts_of_mem_linkOptions options))
  · exact .inr (.fixed (by grind))
  · split at pie
    · next own =>
      rw [List.mem_singleton.1 pie]
      exact .inr (.pie own.1 own.2)
    · cases pie
  · exact ofToolchain (by simp [Toolchain.linkTexts, flags])
  · exact ofToolchain (by simp [Toolchain.linkTexts, fdo])

end Action
end LinkSynthesis
