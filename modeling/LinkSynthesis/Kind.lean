/-!
# Kinds of link actions

What an action produces, how statically it links, and which archives its toolchain makes. Each
kind has one keyword, by which documents and messages name it.
-/

namespace LinkSynthesis

/-- What a link or archive action produces. -/
inductive TargetKind where
  | executable
  | dynamicLibrary
  | interfaceDynamicLibrary
  | staticLibrary
  | picStaticLibrary
  | alwaysLinkStaticLibrary
  | alwaysLinkPicStaticLibrary
deriving DecidableEq, Repr

namespace TargetKind

/-- All kinds, in the order in which messages list them. -/
def all : List TargetKind :=
  [.executable, .dynamicLibrary, .interfaceDynamicLibrary, .staticLibrary, .picStaticLibrary,
   .alwaysLinkStaticLibrary, .alwaysLinkPicStaticLibrary]

/-- The keyword of a kind. -/
def keyword : TargetKind → String
  | .executable => "executable"
  | .dynamicLibrary => "dynamic_library"
  | .interfaceDynamicLibrary => "interface_dynamic_library"
  | .staticLibrary => "static_library"
  | .picStaticLibrary => "pic_static_library"
  | .alwaysLinkStaticLibrary => "always_link_static_library"
  | .alwaysLinkPicStaticLibrary => "always_link_pic_static_library"

/-- The kind of a keyword. -/
def ofKeyword? (word : String) : Option TargetKind := all.find? (·.keyword == word)

/-- The archiver, not the linker, makes the output. -/
def isStaticLibrary : TargetKind → Bool
  | .staticLibrary | .picStaticLibrary | .alwaysLinkStaticLibrary | .alwaysLinkPicStaticLibrary =>
    true
  | _ => false

theorem ofKeyword?_keyword (kind : TargetKind) : ofKeyword? kind.keyword = some kind := by
  cases kind <;> rfl

end TargetKind

/-- How much of a link is resolved before the output runs. -/
inductive Staticness where
  | fullyStatic
  | mostlyStatic
  | dynamic
deriving DecidableEq, Repr

namespace Staticness

/-- All tiers, in the order in which messages list them. -/
def all : List Staticness := [.fullyStatic, .mostlyStatic, .dynamic]

/-- The keyword of a tier. -/
def keyword : Staticness → String
  | .fullyStatic => "fully_static"
  | .mostlyStatic => "mostly_static"
  | .dynamic => "dynamic"

/-- The tier of a keyword. -/
def ofKeyword? (word : String) : Option Staticness := all.find? (·.keyword == word)

theorem ofKeyword?_keyword (staticness : Staticness) :
    ofKeyword? staticness.keyword = some staticness := by
  cases staticness <;> rfl

end Staticness

/-- How a toolchain stores and links archives. -/
inductive ArchiveType where
  | fat
  | thin
  | startEndLib
deriving DecidableEq, Repr

namespace ArchiveType

/-- All archive types. -/
def all : List ArchiveType := [.fat, .thin, .startEndLib]

/-- The keyword of an archive type. -/
def keyword : ArchiveType → String
  | .fat => "fat"
  | .thin => "thin"
  | .startEndLib => "start_end_lib"

/-- The keyword of an archive type, in capitals. -/
def capitals : ArchiveType → String
  | .fat => "FAT"
  | .thin => "THIN"
  | .startEndLib => "START_END_LIB"

/-- The archive type of a keyword in capitals. -/
def ofCapitals? (word : String) : Option ArchiveType := all.find? (·.capitals == word)

end ArchiveType

/-- The profile that feedback-directed optimisation reads. -/
inductive FdoMode where
  | fdo
  | autofdo
deriving DecidableEq, Repr

namespace FdoMode

/-- The keyword of a mode. -/
def keyword : FdoMode → String
  | .fdo => "fdo"
  | .autofdo => "autofdo"

/-- The mode of a keyword. -/
def ofKeyword? (word : String) : Option FdoMode := [fdo, autofdo].find? (·.keyword == word)

end FdoMode
end LinkSynthesis
