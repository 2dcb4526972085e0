import LinkSynthesis.Json.Value

/-!
# Files

Documents by file name, and why a file cannot be read. A `Folder` is a directory tree given by the
files in it, each with its document. Of the system around it only what every POSIX system has is
known: the directories `/`, `/dev` and `/tmp`, and `/dev/null`, whose document is empty.
-/

namespace LinkSynthesis.Program
open Json (Value)

/-- Why a file gives no document. -/
inductive FileError where
  | notFound (name : String)
  | notDirectory (name : String)
  | isDirectory (name : String)
  /-- The name, or a part of it between slashes, is longer than the system allows. -/
  | nameTooLong (name : String)
  /-- No file name holds a null character. -/
  | nullInName
  /-- The file holds no document, or the system refuses to read it. -/
  | unreadable (name : String)
deriving DecidableEq

/-- The text of the error. -/
def FileError.message : FileError → String
  | .notFound name => "[Errno 2] No such file or directory: " ++ Text.quoted name
  | .notDirectory name => "[Errno 20] Not a directory: " ++ Text.quoted name
  | .isDirectory name => "[Errno 21] Is a directory: " ++ Text.quoted name
  | .nameTooLong name => "[Errno 36] File name too long: " ++ Text.quoted name
  | .nullInName => "embedded null byte"
  | .unreadable name => "no document in " ++ Text.quoted name

/-- The bytes that a file name may have. -/
def maxPathSize : Nat := 4095

/-- The bytes that a part between slashes may have. -/
def maxNameSize : Nat := 255

/-- Why a text is no file name at all, whatever files there are. -/
def FileError.ofName? (file : String) : Option FileError :=
  if file.toList.contains '\x00' then some .nullInName
  else if file = "" then some (.notFound file)
  else if maxPathSize < file.utf8ByteSize then some (.nameTooLong file)
  else none

/-- The files of a directory, by their names below it. -/
abbrev Folder := List (String × Value)

namespace Folder

/-- Where a walk along a file name has come to. -/
inductive Position where
  /-- A directory of the folder, by the names that lead to it. -/
  | inside (names : List String)
  /-- A directory above the folder, whose place in the system is not known. -/
  | above
  /-- A directory of the system, by the names that lead to it from the root. -/
  | system (names : List String)
  | file (document : Value)

/-- What a name that nothing is known of stands for. -/
def missing (file name : String) : Except FileError Position :=
  if maxNameSize < name.utf8ByteSize then .error (.nameTooLong file) else .error (.notFound file)

/-- One name further from a directory of the folder. -/
def enterInside (folder : Folder) (file name : String) (names : List String) :
    Except FileError Position :=
  let path := "/".intercalate (names ++ [name])
  match folder.lookup path with
  | some document => .ok (.file document)
  | none =>
    if folder.any fun entry => (path ++ "/").toList.isPrefixOf entry.1.toList then
      .ok (.inside (names ++ [name]))
    else missing file name

/-- One name further from a directory of the system. -/
def enterSystem (file name : String) (names : List String) : Except FileError Position :=
  match names, name with
  | [], "dev" => .ok (.system ["dev"])
  | [], "tmp" => .ok (.system ["tmp"])
  | ["dev"], "null" => .ok (.file .null)
  | _, _ => missing file name

/-- One name further. -/
def enter (folder : Folder) (file name : String) : Position → Except FileError Position
  | .file _ => .error (.notDirectory file)
  | .above => if name = "" ∨ name = "." ∨ name = ".." then .ok .above else missing file name
  | .inside names =>
    if name = "" ∨ name = "." then .ok (.inside names)
    else if name = ".." then .ok (if names.isEmpty then .above else .inside names.dropLast)
    else enterInside folder file name names
  | .system names =>
    if name = "" ∨ name = "." then .ok (.system names)
    else if name = ".." then .ok (.system names.dropLast)
    else enterSystem file name names

/-- The document of a file, by a name seen from the folder. -/
def read (folder : Folder) (file : String) : Except FileError Value := do
  if let some error := FileError.ofName? file then throw error
  let start := if file.toList.head? = some '/' then .system [] else .inside []
  let names := (file.toList.splitOn '/').map String.ofList
  match ← names.foldlM (fun position name => folder.enter file name position) start with
  | .file document => return document
  | _ => throw (.isDirectory file)

end Folder
end LinkSynthesis.Program
