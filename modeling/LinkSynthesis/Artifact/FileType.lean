import LinkSynthesis.Text.DecimalDigit
import LinkSynthesis.Text.Pattern

/-!
# File types

What a linker can do with a file is read off the end of its name: shared libraries (plain,
versioned or interface), archives and always-link archives. A name may end in one line break,
which takes no part in the decision; a line break anywhere else makes the name none of these.
-/

namespace LinkSynthesis.FileType
open Text

/-- Any text within one line. -/
def anything : Pattern := .many .inLine

/-- The ending `.pic`, which may be left out. -/
def picMark : Pattern := .optional (.literal "pic.")

/-- `name.so`, the only form that `-l` finds. -/
def sharedLibrary : Pattern := .seq anything (.literal ".so")

/-- `libname.so.1.2`, with one or more version numbers. -/
def versionedSharedLibrary : Pattern :=
  .seq (.literal "lib") <| .seq (.oneOrMore .inLine) <| .seq (.literal ".so") <|
    .oneOrMore (.seq (.literal ".") (.oneOrMore (.one isDecimalDigit)))

/-- `name.ifso`, the interface of a shared library. -/
def interfaceSharedLibrary : Pattern := .seq anything (.literal ".ifso")

/-- `name.a` or `name.lo`, with `.pic` before the ending or not. -/
def archive : Pattern :=
  .seq anything <| .seq (.literal ".") <| .seq picMark <| .alt (.literal "a") (.literal "lo")

/-- `name.lo`, with `.pic` before the ending or not. -/
def alwaysLinkLibrary : Pattern :=
  .seq anything <| .seq (.literal ".") <| .seq picMark <| .literal "lo"

/-- A plain `.so` name. -/
def isSharedLibrary (name : String) : Bool := sharedLibrary.acceptsLine name.toList

/-- A shared library of any of the three forms. -/
def isSharedLibraryFile (name : String) : Bool :=
  isSharedLibrary name || versionedSharedLibrary.acceptsLine name.toList ||
    interfaceSharedLibrary.acceptsLine name.toList

/-- An archive, always-link archives included. -/
def isArchive (name : String) : Bool := archive.acceptsLine name.toList

/-- An archive all of whose members belong in the link. -/
def isAlwaysLinkLibrary (name : String) : Bool := alwaysLinkLibrary.acceptsLine name.toList

/-- A shared library that is linked dynamically: its name also starts with `lib`. -/
def isDynamicLibrary (name : String) : Bool :=
  isSharedLibraryFile name && "lib".toList.isPrefixOf name.toList

end LinkSynthesis.FileType
