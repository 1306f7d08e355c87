/-!
# Tables

Values by name, in the order in which the names first came. Setting a name that is there keeps its
place.
-/

namespace Conformity

/-- Values by name. -/
abbrev Table (α : Type) := List (String × α)

namespace Table

variable {α : Type}

/-- The value of a name. -/
def get? (t : Table α) (name : String) : Option α := t.lookup name

/-- Has a name a value? -/
def has (t : Table α) (name : String) : Bool := (t.get? name).isSome

/-- The names in order. -/
def names (t : Table α) : List String := t.map (·.1)

/-- Gives a name the value that `f` makes of its present one. -/
def alter (name : String) (f : Option α → α) : Table α → Table α
  | [] => [(name, f none)]
  | e :: t => if e.1 == name then (e.1, f (some e.2)) :: t else e :: alter name f t

/-- Sets the value of a name. -/
def set (name : String) (value : α) (t : Table α) : Table α := t.alter name fun _ => value

/-- Removes a name. -/
def erase (name : String) (t : Table α) : Table α := t.filter fun e => e.1 != name

/-- The table of entries; of several entries for a name the last one counts, at the place of the
first. -/
def ofEntries (entries : List (String × α)) : Table α :=
  entries.foldl (fun t e => t.set e.1 e.2) []

end Table

end Conformity
