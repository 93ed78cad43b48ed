import MonkeySyntax.Text.Lines
import MonkeySyntax.Text.Quoted
import MonkeySyntax.Text.Utf8

/-!
Contract: the files a program can be read from.

Owns:
- a folder of files and empty folders, and how a path leads to a file in it;
- the ways in which opening and reading a file can fail, with their messages;
- the text of a file.

Does not own: the disk. Outside the folder there are only folders that hold
nothing.
-/

set_option autoImplicit false

namespace MonkeySyntax

/-- What a name in a folder stands for. -/
inductive Entry where
  | file (bytes : List UInt8)
  | folder
deriving DecidableEq, Repr

/-- The names in a folder and what they stand for. -/
abbrev Folder := List (String × Entry)

/-- Why a path leads to no file. -/
inductive PathFault where
  | notFound
  | notAFolder
  | isAFolder
  | nameTooLong
  | denied
  /-- Some other trouble with the disk. -/
  | unreadable
  /-- The path holds the character zero. -/
  | zeroInPath
deriving DecidableEq, Repr

/-- Why there is no text for a path. -/
inductive FileFault where
  | path (fault : PathFault)
  | encoding (fault : Utf8.Fault)
deriving DecidableEq, Repr

namespace PathFault

/-- The number and the wording of a fault that the disk finds. -/
def cause? : PathFault → Option (Nat × String)
  | .notFound => some (2, "No such file or directory")
  | .unreadable => some (5, "Input/output error")
  | .denied => some (13, "Permission denied")
  | .notAFolder => some (20, "Not a directory")
  | .isAFolder => some (21, "Is a directory")
  | .nameTooLong => some (36, "File name too long")
  | .zeroInPath => none

/-- The message of a fault, which shows the path. -/
def message (path : String) (fault : PathFault) : String :=
  match fault.cause? with
  | none => "embedded null byte"
  | some (number, wording) =>
      "[Errno " ++ toString number ++ "] " ++ wording ++ ": " ++ Quoted.quote path

end PathFault

/-- The message of a fault, which shows the path if the path is at fault. -/
def FileFault.message (path : String) : FileFault → String
  | .path fault => fault.message path
  | .encoding fault => fault.message

namespace Folder

/-- The greatest length of a name, in bytes. -/
def nameLimit : Nat := 255

/-- The length from which on a path is too long, in bytes. -/
def pathLimit : Nat := 4096

/-- The names of a path between its slashes. -/
def names (path : String) : List String :=
  (path.toList.splitOn '/').map String.ofList

/-- Whether a name leads from a folder back to itself. -/
def staysHere (name : String) : Bool := name == "" || name == "."

/-- Whether a name leads from a folder back to the one it was reached from. -/
def stepsOut (name : String) : Bool := name == ".."

/-- Follows names from a folder to an entry. The folders on the way to it are
given with the nearest one first. Stepping out of all of them leads to a folder
that holds nothing. -/
def follow : List Folder → Folder → List String → Except PathFault Entry
  | _, _, [] => .ok .folder
  | outer, folder, name :: others =>
      if staysHere name then follow outer folder others
      else if stepsOut name then follow outer.tail (outer.headD []) others
      else if nameLimit < name.utf8ByteSize then .error .nameTooLong
      else
        match folder.lookup name, others with
        | none, _ => .error .notFound
        | some .folder, _ => follow (folder :: outer) [] others
        | some (.file bytes), [] => .ok (.file bytes)
        | some (.file _), _ :: _ => .error .notAFolder

/-- The entry to which a path leads: from the folder itself, or from a root that
holds nothing. -/
def entry (folder : Folder) (path : String) : Except PathFault Entry :=
  if path.toList.head? = some '/' then follow [] [] (names path)
  else follow [] folder (names path)

/-- The bytes of the file to which a path leads. -/
def bytes (folder : Folder) (path : String) : Except PathFault (List UInt8) :=
  if path.toList.contains '\x00' then .error .zeroInPath
  else if pathLimit ≤ path.utf8ByteSize then .error .nameTooLong
  else
    match folder.entry path with
    | .ok (.file bytes) => .ok bytes
    | .ok .folder => .error .isAFolder
    | .error fault => .error fault

end Folder

/-- The text that some bytes hold, with every line end as a newline. -/
def textOfBytes (bytes : List UInt8) : Except Utf8.Fault String := do
  return String.ofList (Lines.unify (← Utf8.decode bytes))

/-- The text of a file whose bytes a disk delivers or fails to deliver. -/
def textOfFile (delivered : Except PathFault (List UInt8)) : Except FileFault String := do
  let bytes ← delivered.mapError FileFault.path
  (textOfBytes bytes).mapError FileFault.encoding

end MonkeySyntax
