import Conformity.Config.Basic
import Conformity.Data.Json
import Conformity.Storage.Basic

/-!
# Configuration files

A configuration is read from a JSON file. If no file is named, the nearest one in the present folder
or a folder around it is taken; without any file everything has its default.
-/

namespace Conformity

open Conformity.Path (Place)

namespace Path

/-- A path as it is told: without empty parts and parts that lead nowhere. -/
def tidy (path : String) : String :=
  let inner := "/".intercalate ((parts path).filter (· != "."))
  if path.toList.head? == some '/' then "/" ++ inner
  else if inner.isEmpty then "." else inner

/-- The place that a path leads to from a folder; a path may begin at the top. -/
def resolved (folder : Place) (path : String) : Place :=
  from_ (if path.toList.head? == some '/' then [] else folder) path

end Path

namespace Config

/-- The name of a configuration file. -/
def fileName : String := ".schemax.json"

/-- The nearest configuration file around a folder, whose parts are given from the inside out. -/
def nearest : List String → Disk.Action (Option Place)
  | [] => do return if ← Disk.holds [fileName] then some [fileName] else none
  | part :: parts => do
    let place := (part :: parts).reverse ++ [fileName]
    if ← Disk.holds place then return some place else nearest parts

/-- The nearest configuration file, in a folder or around it. -/
def findFile (folder : Place) : Disk.Action (Option Place) := nearest folder.reverse

/-- Reads a configuration from the content of a file that is told as `path`. -/
def ofBytes (path : String) (bs : Bytes) : Except Refused Config :=
  match Text.decode? bs with
  | none => .error (.configuration path false)
  | some cs =>
    match Json.parse cs with
    | none => .error (.configuration path true)
    | some d =>
      match (d.entries?).map read with
      | some (.ok c) => .ok c
      | _ => .error (.configuration path false)

/-- Reads the configuration file at a place; there is a configuration without it, too. -/
def loadAt (path : String) (place : Place) : Disk.Action Config := do
  match ← Disk.look place with
  | none => return {}
  | some .folder => throw (.refused (.configuration path false))
  | some (.file content) =>
    match ofBytes path content with
    | .ok c => return c
    | .error e => throw (.refused e)

/-- Reads the configuration that is named, or else the nearest one around a folder. -/
def load (folder : Place) (path : Option String) : Disk.Action Config := do
  match path with
  | some path => loadAt (Path.tidy path) (Path.resolved folder path)
  | none =>
    match ← findFile folder with
    | some place => loadAt (Path.text place) place
    | none => return {}

end Config

end Conformity
