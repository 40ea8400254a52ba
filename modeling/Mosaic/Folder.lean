import Mosaic.Fault
import Mosaic.Text.Half
import Mosaic.Text.Lines
import Mosaic.Text.Path
import Std.Data.HashMap

/-!
# Folders of files

The commands work on a folder that holds files and further folders.  Files are texts or pictures; of
a picture only its size is known.  A path is followed name by name, and every name but the last has
to lead to a folder; a double dot leads to the folder around.  Around the folder that the commands
start from there are others, of which little more is known than that they exist.
-/

namespace Mosaic

/-- Where a row of names starts: so many levels above the home folder, or at the root. -/
inductive Base
  | above (levels : Nat)
  | root
  deriving DecidableEq, Hashable, Repr, Inhabited

/-- A place in the tree of folders, given without double dots. -/
structure Place where
  base : Base
  names : List (List Char)
  deriving DecidableEq, Repr, Inhabited

instance : Hashable Place where
  hash place := mixHash (hash place.base) (hash (place.names.map String.ofList))

namespace Place

def home : Place := ⟨.above 0, []⟩

def startOf (path : Path) : Place := if path.slashes = 0 then home else ⟨.root, []⟩

def child (place : Place) (name : List Char) : Place := { place with names := place.names ++ [name] }

def around (place : Place) : Place :=
  match place.names, place.base with
  | [], .above levels => ⟨.above (levels + 1), []⟩
  | [], .root => place
  | names, base => ⟨base, names.dropLast⟩

def toPath (place : Place) : Path :=
  match place.base with
  | .above levels => ⟨0, List.replicate levels ['.', '.'] ++ place.names⟩
  | .root => ⟨1, place.names⟩

end Place

inductive Content
  | text (value : String)
  | picture (width height : Nat)
  | folder
  deriving DecidableEq, Repr, Inhabited

/-- The files and folders by their places.  The starting points of paths are folders without being
listed, and a few other places have something in them. -/
structure Folder where
  contents : Std.HashMap Place Content
  deriving Inhabited

/-- An operation on a folder: what was done before a fault stays done. -/
abbrev Filing (α : Type) : Type := ExceptT Fault (StateM Folder) α

namespace Folder

def empty : Folder := ⟨∅⟩

def usualFolders : List String :=
  ["bin", "boot", "dev", "etc", "home", "lib", "media", "mnt", "opt", "proc", "root", "run", "sbin",
    "srv", "sys", "tmp", "usr", "var"]

/-- What is always there: the usual folders, and the null device, which reads as an empty text. -/
def standing : List (Place × Content) :=
  (⟨.root, ["dev".toList, "null".toList]⟩, .text "") ::
    usualFolders.map fun name => (⟨.root, [name.toList]⟩, .folder)

def contentAt? (folder : Folder) (place : Place) : Option Content :=
  if place.names.isEmpty then some .folder
  else folder.contents[place]?.or (standing.lookup place)

/-!
## Names in bytes
-/

def nameLimit : Nat := 255

def pathLimit : Nat := 4095

def isStrayByte (point : Nat) : Bool := 0xDC80 ≤ point && point ≤ 0xDCFF

def pointLength (point : Nat) : Nat :=
  if isStrayByte point then 1
  else if point < 0x80 then 1
  else if point < 0x800 then 2
  else if point < 0x10000 then 3
  else 4

def byteLength (name : List Char) : Nat := ((Text.points name).map pointLength).foldr (· + ·) 0

/-- The first halves that have no bytes, from a position on: with them, all halves that follow. -/
def lonelyHalf? (hasBytes : Nat -> Bool) (position : Nat) : List Nat -> Option FileFault
  | [] => none
  | point :: rest =>
      if Text.isHalfUnit point && !hasBytes point then
        some (.lonelyHalf point position (1 + (rest.takeWhile Text.isHalfUnit).length))
      else lonelyHalf? hasBytes (position + 1) rest

/-- A text that the system is to take has to have bytes, without a null among them. -/
def checkBytes (text : String) : Except FileFault Unit :=
  match lonelyHalf? isStrayByte 0 (Text.points text.toList) with
  | some fault => .error fault
  | none => if text.toList.contains '\x00' then .error .nullCharacter else .ok ()

def checkContent : Content -> Except FileFault Unit
  | .text value =>
      match lonelyHalf? (fun _ => false) 0 (Text.points value.toList) with
      | some fault => .error fault
      | none => .ok ()
  | _ => .ok ()

/-!
## Following paths
-/

def enter (folder : Folder) (place : Place) (name : List Char) : Except FileFault Place :=
  match folder.contentAt? place with
  | none => .error .missing
  | some .folder =>
      if name = ['.', '.'] then .ok place.around
      else if nameLimit < byteLength name then .error .nameTooLong
      else .ok (place.child name)
  | some _ => .error .notFolder

/-- The place that a path leads to, whether or not anything is found there. -/
def locate (folder : Folder) (path : Path) : Except FileFault Place := do
  checkBytes path.text
  if pathLimit < byteLength path.text.toList then throw .nameTooLong
  path.names.foldlM folder.enter (Place.startOf path)

/-- What a path leads to, if it leads to anything.  A path that leads nowhere is no fault, unless it
has too long a name. -/
def find? (folder : Folder) (path : Path) : Except Fault (Option Content) :=
  match folder.locate path with
  | .ok place => .ok (folder.contentAt? place)
  | .error .nameTooLong => .error (.file .nameTooLong)
  | .error _ => .ok none

def has (folder : Folder) (path : Path) : Except Fault Bool := do
  return (<- folder.find? path).isSome

def readText (folder : Folder) (path : Path) : Except Fault String :=
  match folder.locate path with
  | .error fault => .error (.file fault)
  | .ok place =>
      match folder.contentAt? place with
      | some (.text value) => .ok (String.ofList (Text.plainLineEnds value.toList))
      | some (.picture _ _) => .error .notADocument
      | some .folder => .error (.file .isFolder)
      | none => .error (.file .missing)

/-- The key by which paths are put in order: the text of a path, code point by code point.  A slash
counts like any other character, so a file may stand between a folder's name and its contents. -/
def orderKey (path : Path) : List Nat := Text.points path.text.toList

def files (folder : Folder) : List (Path × Content) :=
  let listed := folder.contents.toList.filterMap fun (place, content) =>
    if place.base = .above 0 && content != .folder then some (place.toPath, content) else none
  listed.mergeSort fun left right => !(orderKey right.1).lex (orderKey left.1) Nat.blt

/-!
## Changing folders
-/

def put (folder : Folder) (place : Place) (content : Content) : Folder :=
  ⟨folder.contents.insert place content⟩

theorem contentAt?_put_self (folder : Folder) {place : Place} (content : Content)
    (h : place.names ≠ []) : (folder.put place content).contentAt? place = some content := by
  simp [contentAt?, put, h]

theorem contentAt?_put_of_ne (folder : Folder) {place other : Place} (content : Content)
    (h : other ≠ place) : (folder.put place content).contentAt? other = folder.contentAt? other := by
  simp [contentAt?, put, Std.HashMap.getElem?_insert, Ne.symm h]

def refuse {α : Type} (fault : FileFault) : Filing α := throw (.file fault)

def follow (path : Path) : Filing Place := do
  match (<- get).locate path with
  | .ok place => return place
  | .error fault => refuse fault

def makeOne (path : Path) : Filing Unit := do
  let place <- follow path
  if ((<- get).contentAt? place).isSome then refuse .occupied
  modify fun folder => folder.put place .folder

/-- A fault of a folder that was to be made does not matter if the folder exists. -/
def unlessFolder (path : Path) (fault : Fault) : Filing Unit := do
  let found <- (<- get).find? path
  if found != some .folder then throw fault

/-- A folder with the last of some names, latest first, and the folders around it as far as they are
missing. -/
def makeNamed (slashes : Nat) : List (List Char) -> Filing Unit
  | [] => pure ()
  | name :: outer => do
      let path : Path := ⟨slashes, (name :: outer).reverse⟩
      try makeOne path
      catch
        | .file .missing => do
            makeNamed slashes outer
            try makeOne path catch fault => unlessFolder path fault
        | fault => unlessFolder path fault

def make (path : Path) : Filing Unit := makeNamed path.slashes path.names.reverse

/-- A file written, in the place of an earlier one.  A text that has no bytes leaves the file
empty. -/
def write (path : Path) (content : Content) : Filing Unit := do
  let place <- follow path
  if (<- get).contentAt? place = some .folder then refuse .isFolder
  match checkContent content with
  | .ok _ => modify fun folder => folder.put place content
  | .error fault =>
      modify fun folder => folder.put place (.text "")
      refuse fault

def deposit (path : Path) (content : Content) : Filing Unit := do
  make path.parent
  write path content

end Folder
end Mosaic
