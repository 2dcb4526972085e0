import LinkSynthesis.Json.Value
import LinkSynthesis.Text.Letters
import LinkSynthesis.Toolchain

/-!
# Toolchain settings

A toolchain document is an object each of whose members is one setting. A member is read on its
own, into the field that its name stands for and a value of that field's kind; the settings are
then applied to the default toolchain. The first member that cannot be read, in document order,
is the error of the document.
-/

namespace LinkSynthesis.Toolchain
open Json (Value Members)

/-- A field that holds one text. -/
inductive TextField where
  | compiler
  | ar
  | shExecutable
  | targetLibc
  | binDir
  | solibDirectory
  | description
deriving DecidableEq

/-- A field that holds a list of texts. -/
inductive WordsField where
  | arFlags
  | arThinFlags
  | cFlags
  | dynamicLibraryLinkFlags
  | linkFlags
  | fdoLinkFlags
deriving DecidableEq

/-- A field that is on or off. -/
inductive SwitchField where
  | supportsEmbeddedRuntimes
  | lipoBinary
  | useFission
  | forcePic
  | needsPic
  | coverage
  | skipStaticOutputs
  | shareNativeDeps
  | legacyWholeArchive
deriving DecidableEq

/-- A field that holds a flag table. -/
inductive TableField where
  | compilerFlags
  | unfilteredCompilerFlags
  | fullyStaticLinkFlags
  | mostlyStaticLinkFlags
  | mostlyStaticSharedLinkFlags
  | dynamicLinkFlags
deriving DecidableEq

/-- A field of the toolchain, by the kind of its value. -/
inductive Field where
  | text (field : TextField)
  | sysroot
  | words (field : WordsField)
  | switch (field : SwitchField)
  | table (field : TableField)
  | archiveType
  | fdoMode
deriving DecidableEq

/-- The name of a field in a document. -/
def Field.name : Field → String
  | .text .compiler => "compiler"
  | .text .ar => "ar"
  | .text .shExecutable => "sh_executable"
  | .text .targetLibc => "target_libc"
  | .text .binDir => "bin_dir"
  | .text .solibDirectory => "solib_directory"
  | .text .description => "description"
  | .sysroot => "sysroot"
  | .words .arFlags => "ar_flags"
  | .words .arThinFlags => "ar_thin_flags"
  | .words .cFlags => "c_flags"
  | .words .dynamicLibraryLinkFlags => "dynamic_library_link_flags"
  | .words .linkFlags => "link_flags"
  | .words .fdoLinkFlags => "fdo_link_flags"
  | .switch .supportsEmbeddedRuntimes => "supports_embedded_runtimes"
  | .switch .lipoBinary => "lipo_binary"
  | .switch .useFission => "use_fission"
  | .switch .forcePic => "force_pic"
  | .switch .needsPic => "needs_pic"
  | .switch .coverage => "coverage"
  | .switch .skipStaticOutputs => "skip_static_outputs"
  | .switch .shareNativeDeps => "share_native_deps"
  | .switch .legacyWholeArchive => "legacy_whole_archive"
  | .table .compilerFlags => "compiler_flags"
  | .table .unfilteredCompilerFlags => "unfiltered_compiler_flags"
  | .table .fullyStaticLinkFlags => "fully_static_link_flags"
  | .table .mostlyStaticLinkFlags => "mostly_static_link_flags"
  | .table .mostlyStaticSharedLinkFlags => "mostly_static_shared_link_flags"
  | .table .dynamicLinkFlags => "dynamic_link_flags"
  | .archiveType => "archive_type"
  | .fdoMode => "fdo_mode"

/-- All fields. -/
def Field.all : List Field :=
  [.text .compiler, .text .ar, .text .shExecutable, .text .targetLibc, .text .binDir,
   .text .solibDirectory, .text .description, .sysroot,
   .words .arFlags, .words .arThinFlags, .words .cFlags, .words .dynamicLibraryLinkFlags,
   .words .linkFlags, .words .fdoLinkFlags,
   .switch .supportsEmbeddedRuntimes, .switch .lipoBinary, .switch .useFission,
   .switch .forcePic, .switch .needsPic, .switch .coverage, .switch .skipStaticOutputs,
   .switch .shareNativeDeps, .switch .legacyWholeArchive,
   .table .compilerFlags, .table .unfilteredCompilerFlags, .table .fullyStaticLinkFlags,
   .table .mostlyStaticLinkFlags, .table .mostlyStaticSharedLinkFlags, .table .dynamicLinkFlags,
   .archiveType, .fdoMode]

/-- The field of a name. -/
def Field.ofName? (name : String) : Option Field := all.find? (·.name == name)

/-- Why a document is no toolchain: it is no mapping, or a member of it is no setting. -/
inductive SettingError where
  | notMapping (document : Value)
  | unknownKey (key : String)
  | notWords (key : String)
  | notWord (key : String) (item : Value)
  | notTable (key : String)
  | unknownTableKey (table key : String)
  /-- The feature groups of a flag table say something, but are no mapping. -/
  | groupsNotMapping (table : String)
  | notSwitch (key : String)
  | notText (key : String)
  | unknownArchiveType (value : Value)
  | unknownFdoMode (value : Value)

/-- The text of the error. The shapes that `notMapping` and `groupsNotMapping` stand for are not
foreseen by any check: they break a run off and are not reported as such. Their texts are this
library's own and show the document or the name of the table. -/
def SettingError.message : SettingError → String
  | .notMapping document => "toolchain: not a mapping: " ++ document.literal
  | .unknownKey key => "toolchain: unknown key: " ++ key
  | .notWords key => "toolchain: " ++ key ++ " must be a list of strings"
  | .notWord key item =>
    "toolchain: " ++ key ++ " must be a list of strings, got " ++ item.literal
  | .notTable key => "toolchain: " ++ key ++ " must be a list or a mapping"
  | .unknownTableKey table key => "toolchain: unknown key in " ++ table ++ ": " ++ key
  | .groupsNotMapping table => "toolchain: " ++ table ++ ".features must be a mapping"
  | .notSwitch key => "toolchain: " ++ key ++ " must be true or false"
  | .notText key => "toolchain: " ++ key ++ " must be a string"
  | .unknownArchiveType value => "toolchain: invalid archive_type: " ++ value.display
  | .unknownFdoMode value => "toolchain: invalid fdo_mode: " ++ value.display

/-- A field with a value of its kind. -/
inductive Setting where
  | text (field : TextField) (value : String)
  | sysroot (value : Option String)
  | words (field : WordsField) (value : List String)
  | switch (field : SwitchField) (value : Bool)
  | table (field : TableField) (value : FlagTable)
  | archiveType (value : ArchiveType)
  | fdoMode (value : Option FdoMode)

namespace Setting

/-! ### Reading one member -/

/-- One text of a list of texts. -/
def readWord (key : String) : Value → Except SettingError String
  | .str word => .ok word
  | item => .error (.notWord key item)

/-- A list of texts. -/
def readWords (key : String) : Value → Except SettingError (List String)
  | .arr items => items.mapM (readWord key)
  | _ => .error (.notWords key)

/-- A member that may be left out or say nothing. -/
def orEmpty (empty : Value) (value : Option Value) : Value :=
  match value with
  | some value => if value.isTruthy then value else empty
  | none => empty

/-- The feature groups of a flag table. -/
def readGroups (key : String) : Value → Except SettingError (List (String × List String))
  | .obj members => members.mapM fun member => do
    return (member.1, ← readWords (key ++ ".features." ++ member.1) member.2)
  | _ => .error (.groupsNotMapping key)

/-- A flag table: a list of flags, or a mapping with `flags` and `features`. -/
def readTable (key : String) : Value → Except SettingError FlagTable
  | .arr items => do return { flags := ← readWords key (.arr items) }
  | .obj members => do
    let unknown := (members.map (·.1)).filter fun name => name != "flags" && name != "features"
    if let some name := (NameSet.ofList unknown).first? then throw (.unknownTableKey key name)
    let groups ← readGroups key (orEmpty (.obj []) (Members.get? members "features"))
    let flags ← readWords (key ++ ".flags") (orEmpty (.arr []) (Members.get? members "flags"))
    return { flags, groups }
  | _ => .error (.notTable key)

/-- The value of a field. -/
def read (field : Field) (value : Value) : Except SettingError Setting :=
  match field, value with
  | .text field, .str value => .ok (.text field value)
  | .sysroot, .str value => .ok (.sysroot value)
  | .sysroot, .null => .ok (.sysroot none)
  | .words field, value => (readWords (Field.words field).name value).map (.words field)
  | .switch field, .bool value => .ok (.switch field value)
  | .table field, value => (readTable (Field.table field).name value).map (.table field)
  | .archiveType, value =>
    match ArchiveType.ofCapitals? (Text.upper value.display) with
    | some type => .ok (.archiveType type)
    | none => .error (.unknownArchiveType value)
  | .fdoMode, .null => .ok (.fdoMode none)
  | .fdoMode, .str word =>
    match FdoMode.ofKeyword? word with
    | some mode => .ok (.fdoMode mode)
    | none => .error (.unknownFdoMode (.str word))
  | .fdoMode, value => .error (.unknownFdoMode value)
  | .switch field, _ => .error (.notSwitch (Field.switch field).name)
  | field, _ => .error (.notText field.name)

/-- The setting of one member. -/
def ofMember (member : String × Value) : Except SettingError Setting :=
  match Field.ofName? member.1 with
  | some field => read field member.2
  | none => .error (.unknownKey member.1)

/-! ### Applying settings -/

/-- Puts a setting in effect. -/
def apply (tc : Toolchain) : Setting → Toolchain
  | .text .compiler value => { tc with compiler := value }
  | .text .ar value => { tc with ar := value }
  | .text .shExecutable value => { tc with shExecutable := value }
  | .text .targetLibc value => { tc with targetLibc := value }
  | .text .binDir value => { tc with binDir := value }
  | .text .solibDirectory value => { tc with solibDirectory := value }
  | .text .description value => { tc with description := value }
  | .sysroot value => { tc with sysroot := value }
  | .words .arFlags value => { tc with arFlags := value }
  | .words .arThinFlags value => { tc with arThinFlags := value }
  | .words .cFlags value => { tc with cFlags := value }
  | .words .dynamicLibraryLinkFlags value => { tc with dynamicLibraryLinkFlags := value }
  | .words .linkFlags value => { tc with linkFlags := value }
  | .words .fdoLinkFlags value => { tc with fdoLinkFlags := value }
  | .switch .supportsEmbeddedRuntimes value => { tc with supportsEmbeddedRuntimes := value }
  | .switch .lipoBinary value => { tc with lipoBinary := value }
  | .switch .useFission value => { tc with useFission := value }
  | .switch .forcePic value => { tc with forcePic := value }
  | .switch .needsPic value => { tc with needsPic := value }
  | .switch .coverage value => { tc with coverage := value }
  | .switch .skipStaticOutputs value => { tc with skipStaticOutputs := value }
  | .switch .shareNativeDeps value => { tc with shareNativeDeps := value }
  | .switch .legacyWholeArchive value => { tc with legacyWholeArchive := value }
  | .table .compilerFlags value => { tc with compilerFlags := value }
  | .table .unfilteredCompilerFlags value => { tc with unfilteredCompilerFlags := value }
  | .table .fullyStaticLinkFlags value => { tc with fullyStaticLinkFlags := value }
  | .table .mostlyStaticLinkFlags value => { tc with mostlyStaticLinkFlags := value }
  | .table .mostlyStaticSharedLinkFlags value => { tc with mostlyStaticSharedLinkFlags := value }
  | .table .dynamicLinkFlags value => { tc with dynamicLinkFlags := value }
  | .archiveType value => { tc with archiveType := value }
  | .fdoMode value => { tc with fdoMode := value }

end Setting

/-- The toolchain of an object: the settings of its members, in effect over the defaults. -/
def ofMembers (members : Members) : Except SettingError Toolchain := do
  let settings ← members.mapM Setting.ofMember
  return settings.foldl Setting.apply {}

/-- The toolchain of a document. -/
def ofDocument (document : Value) : Except SettingError Toolchain :=
  match document with
  | .obj members => ofMembers members
  | _ => .error (.notMapping document)

/-- The flag table of a field. -/
def table (tc : Toolchain) : TableField → FlagTable
  | .compilerFlags => tc.compilerFlags
  | .unfilteredCompilerFlags => tc.unfilteredCompilerFlags
  | .fullyStaticLinkFlags => tc.fullyStaticLinkFlags
  | .mostlyStaticLinkFlags => tc.mostlyStaticLinkFlags
  | .mostlyStaticSharedLinkFlags => tc.mostlyStaticSharedLinkFlags
  | .dynamicLinkFlags => tc.dynamicLinkFlags

end LinkSynthesis.Toolchain
