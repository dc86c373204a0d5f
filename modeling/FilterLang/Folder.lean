/-!
# Folders of text files

Commands read files by their paths, and a file that cannot be read gives a reason. A `Folder` holds
texts at paths, so that commands can also be run where there is no disk: reading from it gives the
same reasons as reading from a disk that holds just these files.
-/

namespace FilterLang

/-! ### Faults -/

/-- Why a file cannot be read as a text. -/
inductive FileFault where
  | missing
  /-- The path leads to a folder. -/
  | folder
  /-- The path goes on below a file. -/
  | notFolder
  | denied
  /-- The path has a name that no file can have. -/
  | badName
  /-- The content is not text. -/
  | notText
  /-- Any other reason, in the words of the system. -/
  | other (reason : String)
  deriving Repr, DecidableEq

/-- The words for a fault. -/
def FileFault.message : FileFault → String
  | missing => "No such file or directory (os error 2)"
  | folder => "Is a directory (os error 21)"
  | notFolder => "Not a directory (os error 20)"
  | denied => "Permission denied (os error 13)"
  | badName => "file name contained an unexpected NUL byte"
  | notText => "stream did not contain valid UTF-8"
  | other reason => reason

/-- The text that some content is. -/
def textOf (content : ByteArray) : Except FileFault String :=
  match String.fromUTF8? content with
  | some text => .ok text
  | none => .error .notText

/-! ### Folders -/

/-- Texts, each with the names that lead to it. -/
structure Folder where
  files : List (List String × String)
  deriving Repr

namespace Folder

/-- The names on a path, the first one first. Repeated slashes count once, and a dot stays where it
is. -/
def namesOf (path : String) : List String :=
  (path.splitOn "/").filter fun name ↦ name != "" && name != "."

/-- Whether a path can only lead to a folder. -/
def endsInFolder (path : String) : Bool :=
  match (path.splitOn "/").getLast? with
  | some name => name == "" || name == "."
  | none => true

/-- The folder that holds the given texts at the given paths. -/
def ofList (files : List (String × String)) : Folder :=
  ⟨files.map fun (path, text) ↦ (namesOf path, text)⟩

/-- The text at a path that starts in the folder. Nothing outside the folder is found. -/
def read (f : Folder) (path : String) : Except FileFault String :=
  let names := namesOf path
  if path.toList.contains '\x00' then .error .badName
  else if path.startsWith "/" then .error .missing
  else
    match f.files.lookup names with
    | some text => if endsInFolder path then .error .notFolder else .ok text
    | none =>
      if names.isEmpty || f.files.any (fun (file, _) ↦ names.isPrefixOf file) then .error .folder
      else if f.files.any (fun (file, _) ↦ file.isPrefixOf names) then .error .notFolder
      else .error .missing

end Folder

end FilterLang
