import Conformity.Failure
import Conformity.Storage.Path
import Conformity.Text.Order

/-!
# Asset storage

A disk holds files and folders by their places. The top folder is always there; everything else lies in a
folder that is there, too. An action on a disk may fail, and keeps what it did before it failed. Assets lie
below a root folder; a path that leads out of it is refused. An asset is written to a temporary file beside
its place first and then moved there. Output kept for audits goes into a generated folder of its own.
-/

namespace Conformity

/-! ## Disks -/

/-- What stands at a place. -/
inductive FileNode where
  | file (content : Bytes)
  | folder
  deriving DecidableEq, Repr

/-- Files and folders by place, in the order in which they came. -/
structure Disk where
  nodes : List (Path.Place × FileNode) := []
  deriving Repr

namespace Disk

open Conformity.Path (Place)

/-- Something done with a disk. What was done before a failure stays done. -/
abbrev Action (α : Type) := ExceptT Failure (StateM Disk) α

/-- What stands at a place. -/
def node? (d : Disk) (place : Place) : Option FileNode :=
  if place.isEmpty then some .folder else d.nodes.lookup place

/-- Puts a file or folder at a place. -/
def put (place : Place) (node : FileNode) (d : Disk) : Disk :=
  if d.nodes.any (·.1 == place) then
    { d with nodes := d.nodes.map fun e => if e.1 == place then (place, node) else e }
  else { d with nodes := d.nodes ++ [(place, node)] }

/-- Removes a place and everything below it. -/
def remove (place : Place) (d : Disk) : Disk :=
  { d with nodes := d.nodes.filter fun e => !Path.isWithin place e.1 }

/-- The greatest number of bytes in a name. -/
def longestName : Nat := 255

/-- Is a name too long? -/
def isTooLong (name : String) : Bool := longestName < (bytesOf name).length

/-- Walks to a place below a folder and tells what stands there. -/
def seek (d : Disk) (folder : Place) : List String → Except SystemFault FileNode
  | [] => .ok .folder
  | name :: names =>
    if isTooLong name then .error .nameTooLong
    else
      match d.node? (folder ++ [name]) with
      | none => .error .notFound
      | some .folder => seek d (folder ++ [name]) names
      | some (.file content) => if names.isEmpty then .ok (.file content) else .error .notFolder

/-- What stands at a place, found by walking there. -/
def find (d : Disk) (place : Place) : Except SystemFault FileNode := seek d [] place

/-- What stands at a place, if anything does. -/
def look (place : Place) : Action (Option FileNode) := do
  match (← get).find place with
  | .ok node => return some node
  | .error .notFound | .error .notFolder => return none
  | .error e => throw (.system e)

/-- Is there a file at a place? -/
def isFile (place : Place) : Action Bool := do
  match ← look place with
  | some (.file _) => return true
  | _ => return false

/-- Is there anything at a place? -/
def holds (place : Place) : Action Bool := do return (← look place).isSome

/-- Makes the folders on the way from a folder to a place inside it. -/
def makeFolders (folder : Place) : List String → Action Unit
  | [] => return ()
  | name :: names => do
    if isTooLong name then throw (.system .nameTooLong)
    else
      let place := folder ++ [name]
      match (← get).node? place with
      | some .folder => makeFolders place names
      | some (.file _) => throw (.system (if names.isEmpty then .exists else .notFolder))
      | none =>
        modify (put place .folder)
        makeFolders place names

/-- Makes a folder and those around it. -/
def makeFolder (place : Place) : Action Unit := makeFolders [] place

/-- Writes a file into a folder that is there. -/
def writeFile (place : Place) (content : Bytes) : Action Unit := do
  match (← get).find place with
  | .ok .folder => throw (.system .isFolder)
  | .ok (.file _) | .error .notFound => modify (put place (.file content))
  | .error e => throw (.system e)

/-- Moves a file in place of another one. -/
def moveFile (source target : Place) : Action Unit := do
  match (← get).node? source, (← get).find target with
  | some (.file _), .ok .folder => throw (.system .isFolder)
  | some (.file content), .ok (.file _) | some (.file content), .error .notFound =>
    modify fun d => (d.remove source).put target (.file content)
  | some (.file _), .error e => throw (.system e)
  | _, _ => throw (.system .notFound)

/-- The files below a place, each with its path from there. They are in the order of their places:
what lies in a folder comes together. -/
def filesBelow (place : Place) (d : Disk) : List (String × Bytes) :=
  let files := d.nodes.filterMap fun e =>
    match e.2 with
    | .file content =>
      if Path.isWithin place e.1 then some (e.1.drop place.length, content) else none
    | .folder => none
  (files.mergeSort fun a b => Path.inOrder a.1 b.1).map fun e => ("/".intercalate e.1, e.2)

end Disk

/-! ## Storage -/

open Conformity.Path (Place)

/-- Where assets and generated files lie. -/
structure Storage where
  root : Place
  generatedFolder : String := "auto-generated"

namespace Storage

/-- The place of an asset. -/
def place (s : Storage) (path : String) : Except Refused Place :=
  if path.toList.any fun c => c.toNat == 0 then .error .nulInPath
  else
    match Path.below? s.root path with
    | some place => .ok place
    | none => .error (.outside path)

/-- The place of an asset, for an action. -/
def placeOf (s : Storage) (path : String) : Disk.Action Place :=
  match s.place path with
  | .ok place => return place
  | .error e => throw (.refused e)

/-- Is there an asset at a path? -/
def isAsset (s : Storage) (path : String) : Disk.Action Bool :=
  match s.place path with
  | .ok place => Disk.isFile place
  | .error _ => return false

/-- The content of an asset. -/
def read (s : Storage) (path : String) : Disk.Action Bytes := do
  let place ← s.placeOf path
  match ← Disk.look place with
  | some (.file content) => return content
  | _ => throw (.missing path (Path.text place))

/-- The place of something that is there. -/
def locate (s : Storage) (path : String) : Disk.Action Place := do
  let place ← s.placeOf path
  if ← Disk.holds place then return place else throw (.missing path (Path.text place))

/-- The place of the temporary file beside a place. -/
def besides (place : Place) : Place := place.dropLast ++ [(place.getLast?.getD "") ++ ".tmp"]

/-- Writes an asset, and makes the folders around it. -/
def write (s : Storage) (path : String) (content : Bytes) : Disk.Action Unit := do
  let place ← s.placeOf path
  Disk.makeFolder place.dropLast
  if place.isEmpty then throw (.refused .nameless)
  else
    Disk.writeFile (besides place) content
    Disk.moveFile (besides place) place

/-- The place of a generated folder. -/
def generatedPlace (s : Storage) (folder : String) : Disk.Action Place :=
  s.placeOf (s.generatedFolder ++ "/" ++ folder)

/-- The last name of a path; a path may have none. -/
def lastName (path : String) : Option String :=
  ((Path.parts path).filter (· != ".")).getLast?

/-- Writes a generated file under the last name of `name`, and tells its place. -/
def writeGenerated (s : Storage) (folder name : String) (content : Bytes) : Disk.Action Place := do
  let place ← s.generatedPlace folder
  Disk.makeFolder place
  if name.toList.any fun c => c.toNat == 0 then throw (.refused .nulInPath)
  else
    match lastName name with
    | none => throw (.system .isFolder)
    | some last =>
      if last == ".." then throw (.system .isFolder)
      else
        Disk.writeFile (place ++ [last]) content
        return place ++ [last]

/-- Removes a generated folder with all that is in it. -/
def clearGenerated (s : Storage) (folder : String) : Disk.Action Unit := do
  let place ← s.generatedPlace folder
  match ← Disk.look place with
  | none => return ()
  | some (.file _) => throw (.system .notFolder)
  | some .folder => modify (Disk.remove place)

/-- All files below the root. -/
def files (s : Storage) (d : Disk) : List (String × Bytes) := d.filesBelow s.root

end Storage

end Conformity
