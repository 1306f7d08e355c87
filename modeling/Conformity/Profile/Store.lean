import Conformity.Storage.Basic
import Conformity.Yaml.Document
import Conformity.Yaml.Printed

/-!
# The profiles document

Profiles and global assertions are kept in one YAML document. Everything else in the document stays as
it is when a profile is put, a profile is removed, or the global assertions are replaced. A record
that cannot be read as a profile is reported; it does not hide the others.
-/

namespace Conformity

/-- A profiles document as it is read. The profiles hold their own entries only. -/
structure ProfilesDocument where
  globals : Assertions := []
  profiles : Table Profile := []
  /-- What is wrong with records that were left out. -/
  faults : List String := []

/-- Where the profiles document lies. -/
structure ProfileStore where
  storage : Storage
  path : String := "validation-profiles.yml"

namespace ProfileStore

/-- The section of the profiles. -/
def profilesKey : String := "profiles"

/-- The root of a document: a mapping with a section of profiles. -/
structure Root where
  /-- The label of the mapping. -/
  label : Nat := 0
  entries : Data.Fields

namespace Root

/-- The entries of the section of profiles, which may be the root itself. -/
def section? (entries : Data.Fields) : Option Data.Fields :=
  match Data.field profilesKey entries with
  | some (.map _ es) => some es
  | some (.knot _ true) => some entries
  | _ => none

/-- The root of a document that was read, if it is a mapping or empty. -/
def of? (d : Data) : Option Root :=
  let root (label : Nat) (es : Data.Fields) : Root :=
    if (section? es).isSome then ⟨label, es⟩
    else ⟨label, Data.insert (.text profilesKey) (.map 0 []) es⟩
  match d with
  | .scalar .null => some (root 0 [])
  | .map l es => some (root l es)
  | _ => none

/-- The root as a value. -/
def toData (r : Root) : Data := .map r.label r.entries

/-- The records of the profiles. -/
def records (r : Root) : Data.Fields := (section? r.entries).getD []

/-- The root with other records, wherever the section of profiles occurs. -/
def withRecords (r : Root) (records : Data.Fields) : Root :=
  match Data.field profilesKey r.entries with
  | some (.map 0 _) =>
    { r with entries := Data.insert (.text profilesKey) (.map 0 records) r.entries }
  | some (.map label _) => { r with entries := Data.replaceEntries label records r.entries }
  | some (.knot _ true) => { r with entries := records }
  | _ => r

end Root

/-- How far a value that lies within itself is followed. -/
def unrolling : Nat := 3

/-- Reads the profiles of a root, in order; of two records with one name the later counts. -/
def readRecords (root : Data) : (found : ProfilesDocument) → Data.Fields →
    Except Failure ProfilesDocument
  | found, [] => .ok found
  | found, (k, d) :: es =>
    let name := k.plain
    match Profile.ofRecord name (Data.unroll root unrolling d) with
    | .ok p => readRecords root { found with profiles := found.profiles.set name p } es
    | .error (.misfits told) =>
      let fault := (Failure.record name told).message
      readRecords root { found with faults := found.faults ++ [fault] } es
    | .error (.route e) => .error (.route e)

/-- Reads the document of a root. -/
def readRoot (r : Root) : Except Failure ProfilesDocument := do
  let found ← readRecords r.toData {} r.records
  let globals := (Data.field assertionsKey r.entries).getD .null
  return { found with globals := Assertions.ofSection (Data.unroll r.toData unrolling globals) }

/-- The root of a document with this content. -/
def rootOf (s : ProfileStore) (content : Bytes) : Except Failure Root :=
  match Yaml.read content with
  | .error e => .error (Failure.ofDocument s.path e)
  | .ok d =>
    match Root.of? d with
    | some r => .ok r
    | none => .error (.unavailable (.profilesNoMapping s.path))

/-- Reads the root of the document; a document that is not there is empty. -/
def loadRoot (s : ProfileStore) : Disk.Action Root := do
  if !(← s.storage.isAsset s.path) then return ⟨0, [(.text profilesKey, .map 0 [])]⟩
  else
    match s.rootOf (← s.storage.read s.path) with
    | .ok r => return r
    | .error e => throw e

/-- Reads the document. -/
def load (s : ProfileStore) : Disk.Action ProfilesDocument := do
  match readRoot (← s.loadRoot) with
  | .ok found => return found
  | .error e => throw e

/-- Writes the entries of the root. -/
def writeRoot (s : ProfileStore) (entries : Data.Fields) : Disk.Action Unit :=
  s.storage.write s.path (Text.encode (Yaml.print (.map 0 entries)))

/-- Puts a profile in place of the one with its name, or behind the others. -/
def put (s : ProfileStore) (p : Profile) : Disk.Action Unit := do
  let r ← s.loadRoot
  s.writeRoot (r.withRecords (Data.insert (.text p.name) p.record r.records)).entries

/-- Removes a profile. Was it there? -/
def remove (s : ProfileStore) (name : String) : Disk.Action Bool := do
  let r ← s.loadRoot
  if (Data.field name r.records).isNone then return false
  else
    s.writeRoot (r.withRecords (Data.erase (.text name) r.records)).entries
    return true

/-- Replaces the global assertions and puts them in front. -/
def putGlobals (s : ProfileStore) (globals : Assertions) : Disk.Action Unit := do
  let r ← s.loadRoot
  let others := Data.erase (.text assertionsKey) r.entries
  if globals.isEmpty then s.writeRoot others
  else
    s.writeRoot ((.text assertionsKey, Profile.sectionRecord Assertion.record globals) :: others)

end ProfileStore

end Conformity
