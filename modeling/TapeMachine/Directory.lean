import TapeMachine.Path
import TapeMachine.Text.Quoted
import TapeMachine.Text.Utf8

/-!
The files that a program can reach: a finite map from places below the working directory to files
and folders, with the faults of reading and writing. There are no links, so that one file stands at
one place only, and no permissions, so that nothing is refused for the lack of them.
-/

set_option autoImplicit false

namespace TapeMachine

/-- What stands at a place. -/
inductive Entry
  | file (bytes : List UInt8)
  | folder
  deriving DecidableEq

/-- A place: the names that lead to it from the working directory. -/
abbrev Place := List (List Char)

/-- Files and folders by their places; the working directory itself is always there. -/
structure Directory where
  entries : List (Place × Entry)

namespace Directory

/-- Why a file cannot be read or written. -/
inductive Cause
  | missing
  | isFolder
  | notFolder
  | nameTooLong
  deriving DecidableEq

/-- A failed access: the path as it was given, and the cause; some texts are no paths at all. -/
inductive Fault
  | denied (path : String) (cause : Cause)
  | nullCharacter
  deriving DecidableEq

def Cause.message : Cause → String
  | missing => "[Errno 2] No such file or directory"
  | isFolder => "[Errno 21] Is a directory"
  | notFolder => "[Errno 20] Not a directory"
  | nameTooLong => "[Errno 36] File name too long"

def Fault.message : Fault → String
  | denied path cause => cause.message ++ ": " ++ String.ofList (Text.quoted path.toList)
  | nullCharacter => "embedded null byte"

def lookup (d : Directory) (place : Place) : Option Entry :=
  if place.all (· == ['.', '.']) || place = [['/']] then some .folder
  else (d.entries.find? fun entry => entry.1 == place).map Prod.snd

def put (place : Place) (bytes : List UInt8) (d : Directory) : Directory :=
  ⟨(d.entries.filter fun entry => entry.1 != place) ++ [(place, .file bytes)]⟩

/-- The place around a place; beyond the working directory it is given by pairs of dots. -/
def outside (place : Place) : Place :=
  if place = [['/']] then place
  else if place.all (· == ['.', '.']) then place ++ [['.', '.']]
  else place.dropLast

def maxName : Nat := 255

def maxPath : Nat := 4095

/-- Follow names from a place on; every place passed has to be a folder. -/
def follow (d : Directory) : (names : List (List Char)) → Place → Except Cause Place
  | [], place => .ok place
  | name :: rest, place =>
    match d.lookup place with
    | none => .error .missing
    | some (.file _) => .error .notFolder
    | some .folder =>
      if name = [] ∨ name = ['.'] then d.follow rest place
      else if name = ['.', '.'] then d.follow rest (outside place)
      else if maxName < (Text.Utf8.encode name).length then .error .nameTooLong
      else d.follow rest (place ++ [name])

/-- The place that a path leads to, where something need not stand yet. -/
def locate (d : Directory) (path : String) : Except Fault Place :=
  let text := path.toList
  if text.contains '\x00' then .error .nullCharacter
  else if text = [] then .error (.denied path .missing)
  else if maxPath < (Text.Utf8.encode text).length then .error (.denied path .nameTooLong)
  else
    let start : Place := if text.head? = some '/' then [['/']] else []
    (d.follow (Path.splitSlashes text) start).mapError (.denied path)

def read (d : Directory) (path : String) : Except Fault (List UInt8) := do
  match d.lookup (← d.locate path) with
  | some (.file bytes) => return bytes
  | some .folder => .error (.denied path .isFolder)
  | none => .error (.denied path .missing)

def target (d : Directory) (path : String) : Except Fault Place := do
  let place ← d.locate path
  if d.lookup place = some .folder then .error (.denied path .isFolder) else return place

def write (path : String) (bytes : List UInt8) (d : Directory) : Except Fault Directory := do
  return d.put (← d.target path) bytes

/-- Whether something stands at a path; a name that is too long cannot even be looked for. -/
def exists? (d : Directory) (path : String) : Except Fault Bool :=
  match d.locate path with
  | .ok place => .ok (d.lookup place).isSome
  | .error (.denied path .nameTooLong) => .error (.denied path .nameTooLong)
  | .error _ => .ok false

def holds (d : Directory) (path : String) : Bool := (d.exists? path).toOption.getD false

end Directory

end TapeMachine
