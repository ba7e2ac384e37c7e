import TapeMachine.Command

set_option autoImplicit false

namespace TapeMachine.Program

/-- What stands at a place and, if it is a folder, below it, as far as it can be read. -/
partial def readEntry (found : IO.FS.DirEntry) (around : Place) : IO (List (Place × Entry)) := do
  let place := around ++ [found.fileName.toList]
  if ← found.path.isDir then
    let inside ← (← found.path.readDir).toList.mapM fun entry => readEntry entry place
    return (place, .folder) :: inside.flatten
  else
    try
      return [(place, .file (← IO.FS.readBinFile found.path).toList)]
    catch _ => return []

def readDirectory : IO Directory := do
  let found ← (← (← IO.currentDir).readDir).toList.mapM fun entry => readEntry entry []
  return ⟨found.flatten⟩

def writeChanges (before after : Directory) : IO Unit := do
  for (place, entry) in after.entries do
    match entry with
    | .file bytes =>
      if before.lookup place ≠ some entry then
        IO.FS.writeBinFile (String.ofList (Path.joined place)) (ByteArray.mk bytes.toArray)
    | .folder => pure ()

def command? : String → Option Command
  | "run" => some .run
  | "compile" => some .compile
  | "fill" => some .fill
  | _ => none

/-- Carry out a command in the working directory; returns the exit status. -/
def perform (command : Command) (arguments : List String) : IO UInt32 := do
  let before ← readDirectory
  let (result, last) := (command.perform arguments).run ⟨before, "", none⟩
  writeChanges before last.directory
  IO.print last.printed
  match result with
  | .ok status => return status.toUInt32
  | .error failure =>
    IO.eprintln failure.message
    return 1

end TapeMachine.Program

open TapeMachine in
def main (arguments : List String) : IO UInt32 :=
  match arguments with
  | name :: rest =>
    match Program.command? name with
    | some command => Program.perform command rest
    | none => do
      IO.eprintln "commands: run, compile, fill"
      return 2
  | [] => do
    IO.eprintln "commands: run, compile, fill"
    return 2
