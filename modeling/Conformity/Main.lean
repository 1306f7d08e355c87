import Conformity.Command.Session
import Conformity.Engine.Scripted
import Std.Time.Format

/-!
# The command line

What a command may need is loaded from the file system: the files that its arguments name, the
configuration files around the present folder, and everything below the root of the assets. What the
command has changed is written back. There is no engine here that transforms documents: sources pass
through the stages as they are, and a run finds nothing.
-/

namespace Conformity.CommandLine

open Conformity.Path (Place)

/-- The disk after an action on it. -/
def after (disk : Disk) (a : Disk.Action Unit) : Disk := (a.run.run disk).2

/-- The disk with a file, in its folder. -/
def withFile (disk : Disk) (place : Place) (content : Bytes) : Disk :=
  after disk do
    Disk.makeFolder place.dropLast
    Disk.writeFile place content

/-- Loads a folder with all that is in it, or a file. -/
partial def load (disk : Disk) (place : Place) : IO Disk := do
  let path := (← IO.currentDir) / Path.text place
  if ← path.isDir then
    (← path.readDir).foldlM (fun disk entry => load disk (place ++ [entry.fileName]))
      (after disk (Disk.makeFolder place))
  else if ← path.pathExists then
    return withFile disk place (← IO.FS.readBinFile path).toList
  else return disk

/-- Loads the file that an argument names, if there is one, and the folder in which it would lie. -/
def loadNamed (folder : Place) (disk : Disk) (argument : String) : IO Disk := do
  let place := Path.resolved folder argument
  let path := (← IO.currentDir) / Path.text place
  let around := (← IO.currentDir) / Path.text place.dropLast
  let disk ← if ← around.isDir then pure (after disk (Disk.makeFolder place.dropLast)) else pure disk
  if (← path.pathExists) && !(← path.isDir) then load disk place else return disk

/-- The root of the assets, if the configuration can be read. -/
def assetRoot (folder : Place) (disk : Disk) (arguments : List String) : Option Place :=
  match Command.ofArguments arguments with
  | .ok (.perform _ config) =>
    match ((Config.load folder config).run.run disk).1 with
    | .ok c => some (Path.resolved folder c.assets.root)
    | .error _ => none
  | _ => none

/-- Writes back what has changed between two states of the disk. -/
def store (old new : Disk) : IO Unit := do
  old.nodes.forM fun (place, node) => do
    if node != .folder && (new.node? place).isNone then IO.FS.removeFile (Path.text place)
  new.nodes.forM fun (place, node) => do
    match node with
    | .folder => if (old.node? place).isNone then IO.FS.createDirAll (Path.text place)
    | .file content =>
      if old.node? place != some node then
        IO.FS.writeBinFile (Path.text place) (ByteArray.mk content.toArray)

/-- What the clocks show. -/
def present : IO Present := do
  let now := Std.Time.DateTime.ofTimestamp (← Std.Time.Timestamp.now) Std.Time.TimeZone.ZoneRules.UTC
  let here ← Std.Time.PlainDateTime.now
  let seconds := "uuuu-MM-dd'T'HH:mm:ss"
  return ⟨(← IO.monoMsNow) / 1000, here.format seconds, now.format (seconds ++ "xxx")⟩

/-- The wording of what a session broke off with. -/
def told : SessionEnd → String
  | .exit _ => ""
  | .failure e => e.message
  | .tag e => e.message

end Conformity.CommandLine

open Conformity CommandLine in
/-- Does what the arguments ask for. -/
def main (arguments : List String) : IO UInt32 := do
  let folder := Path.parts (← IO.currentDir).toString
  let configs := (List.range (folder.length + 1)).map fun n =>
    Path.text (folder.take n ++ [Config.fileName])
  let named ← (configs ++ arguments).foldlM (loadNamed folder) {}
  let disk ←
    match assetRoot folder named arguments with
    | some root => load named root
    | none => pure named
  let outcome :=
    Session.ofArguments ⟨folder, ({} : Script).engine, ← present⟩ disk arguments
  store disk outcome.disk
  outcome.lines.forM fun line => IO.println line
  outcome.usage.forM fun e => IO.eprintln e.message
  outcome.broken.forM fun e => IO.eprintln (told e)
  return UInt32.ofNat outcome.code
