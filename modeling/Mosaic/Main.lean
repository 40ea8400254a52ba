import Mosaic.CommandLine.Tools
import Mosaic.Picture.Canvas

/-!
# The program

The first argument names the command, and the others are its own.  The files that the arguments may
name are read, the command works on them, and what it wrote is put back.  Of pictures only the sizes
are known, so no picture is put back.
-/

namespace Mosaic
namespace CommandLine

def commands : List (String × (Setting -> List String -> Report)) := [
  ("run", run), ("evaluate", evaluate), ("generate", generate Outline.easel),
  ("maze", generateMazes Outline.easel)]

def usage : String := "usage: mosaic run|evaluate|generate|maze ...\n"

def valuePart (argument : String) : String :=
  let cut := cutAtEquals argument.toList
  String.ofList (cut.2.getD cut.1)

def placeOf (path : Path) : Place :=
  path.names.foldl
    (fun place name => if name = ['.', '.'] then place.around else place.child name)
    (Place.startOf path)

def wayTo (place : Place) : List Place :=
  (List.range place.names.length).map fun n => ⟨place.base, place.names.take (n + 1)⟩

/-- The places that arguments may name: each as it stands, and a catalogue inside it. -/
def placesFor (arguments : List String) : List Place :=
  let paths := (goalHome :: mazeHome :: arguments.map valuePart).map Path.ofText
  (paths.flatMap fun path =>
    wayTo (placeOf path) ++ wayTo (placeOf (path.inside (Path.ofText "data.json")))).eraseDups

def changes (before after : Folder) : List (Place × Content) :=
  after.contents.toList.filter fun (place, content) => before.contentAt? place != some content

def ending (fault : Option Fault) : UInt32 × String :=
  match fault with
  | none => (0, "")
  | some (.exit text) =>
      match text.toNat? with
      | some code => (code.toUInt32, "")
      | none => (1, text ++ "\n")
  | some other => (1, other.message?.getD "The input could not be used." ++ "\n")

/-!
## Reading and writing files
-/

def readContent (place : Place) : IO (Option Content) := do
  let name := place.toPath.text
  try
    if <- (<- IO.FS.realPath name).isDir then return some .folder
    return some (.text (Text.held (<- IO.FS.readFile name)))
  catch _ => return none

def readFolder (places : List Place) : IO Folder :=
  places.foldlM (fun folder place => do
    return (<- readContent place).elim folder fun content => folder.put place content) Folder.empty

def writeContent (place : Place) (content : Content) : IO Unit := do
  match content with
  | .folder => IO.FS.createDirAll place.toPath.text
  | .text value => do
      IO.FS.createDirAll place.around.toPath.text
      IO.FS.writeFile place.toPath.text value
  | .picture _ _ => pure ()

def readEnvironment : IO Settings.Environment :=
  Settings.variableNames.filterMapM fun name => do
    return (<- IO.getEnv name).map fun value => (name, value)

def carryOut (command : Setting -> List String -> Report) (arguments : List String) : IO UInt32 := do
  let folder <- readFolder (placesFor arguments)
  let seed <- IO.rand 0 (Nat.pow 2 32 - 1)
  let stem <- IO.rand 0 (Nat.pow 2 64 - 1)
  let names (index : Nat) : String := String.ofList (Text.hexadecimal 16 stem) ++ "-" ++ toString index
  let report := command ⟨folder, <- readEnvironment, seed, names⟩ arguments
  for (place, content) in changes folder report.folder do writeContent place content
  let (code, complaint) := ending report.fault
  IO.print (Text.released report.output)
  IO.eprint (Text.released (report.remarks ++ complaint))
  return code

end CommandLine
end Mosaic

def main (arguments : List String) : IO UInt32 := do
  match arguments with
  | name :: rest =>
      match Mosaic.CommandLine.commands.lookup name with
      | some command => Mosaic.CommandLine.carryOut command (rest.map Mosaic.Text.held)
      | none => IO.eprint Mosaic.CommandLine.usage *> return 2
  | [] => IO.eprint Mosaic.CommandLine.usage *> return 2
