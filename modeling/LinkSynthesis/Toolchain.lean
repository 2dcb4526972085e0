import LinkSynthesis.Kind
import LinkSynthesis.NameSet

/-!
# Toolchains

What a toolchain fixes for every link action: executables, directories, flag tables and a few
switches. Nothing here looks at the host; paths are taken as they are given.
-/

namespace LinkSynthesis

/-- Flags that always apply, and groups of flags that apply while their feature is enabled. -/
structure FlagTable where
  flags : List String := []
  groups : List (String × List String) := []
deriving DecidableEq

namespace FlagTable

/-- The flags in effect: the base flags, then the enabled groups in table order. -/
def evaluate (table : FlagTable) (features : NameSet) : List String :=
  table.flags ++ table.groups.flatMap fun group =>
    if features.contains group.1 then group.2 else []

end FlagTable

/-- A toolchain. -/
structure Toolchain where
  compiler : String := "/usr/bin/gcc"
  ar : String := "/usr/bin/ar"
  shExecutable : String := "/bin/bash"
  arFlags : List String := ["rcsD"]
  arThinFlags : List String := ["rcsDT"]
  archiveType : ArchiveType := .fat
  targetLibc : String := "glibc"
  /-- The output tree of the build. -/
  binDir : String := "buck-out/bin"
  /-- The directory below the output tree that collects the shared libraries. -/
  solibDirectory : String := "_solib_k8"
  sysroot : Option String := none
  description : String := "k8-gcc"
  compilerFlags : FlagTable := {}
  cFlags : List String := []
  unfilteredCompilerFlags : FlagTable := {}
  fullyStaticLinkFlags : FlagTable := {}
  mostlyStaticLinkFlags : FlagTable := {}
  mostlyStaticSharedLinkFlags : FlagTable := {}
  dynamicLinkFlags : FlagTable := {}
  dynamicLibraryLinkFlags : List String := []
  supportsEmbeddedRuntimes : Bool := false
  linkFlags : List String := []
  fdoMode : Option FdoMode := none
  lipoBinary : Bool := false
  fdoLinkFlags : List String := []
  useFission : Bool := false
  forcePic : Bool := false
  needsPic : Bool := true
  coverage : Bool := false
  skipStaticOutputs : Bool := false
  shareNativeDeps : Bool := false
  legacyWholeArchive : Bool := false
deriving DecidableEq

namespace Toolchain

/-- The flags of the archiver. -/
def arFlagsFor (tc : Toolchain) (thin : Bool) : List String :=
  if thin then tc.arThinFlags else tc.arFlags

/-- The flag table of a staticness tier. A shared link takes the counterpart of the tier; there is
no fully static shared object, so that one borrows the table of the next tier. -/
def linkTable (tc : Toolchain) : Staticness → (shared : Bool) → FlagTable
  | .fullyStatic, false => tc.fullyStaticLinkFlags
  | .fullyStatic, true => tc.mostlyStaticLinkFlags
  | .mostlyStatic, false => tc.mostlyStaticLinkFlags
  | .mostlyStatic, true =>
    if tc.supportsEmbeddedRuntimes then tc.mostlyStaticSharedLinkFlags else tc.dynamicLinkFlags
  | .dynamic, _ => tc.dynamicLinkFlags

/-- The link options of a staticness tier; a shared link adds the flags of dynamic libraries. -/
def linkOptions (tc : Toolchain) (staticness : Staticness) (features : NameSet) (shared : Bool) :
    List String :=
  (tc.linkTable staticness shared).evaluate features ++
    if shared then tc.dynamicLibraryLinkFlags else []

/-- The flavour of feedback-directed optimisation that linkstamps record. -/
def fdoBuildStamp (tc : Toolchain) : Option String :=
  tc.fdoMode.map fun
    | .autofdo => if tc.lipoBinary then "ALIPO" else "AFDO"
    | .fdo => if tc.lipoBinary then "LIPO" else "FDO"

end Toolchain
end LinkSynthesis
