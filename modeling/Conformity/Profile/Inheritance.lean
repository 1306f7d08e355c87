import Conformity.Profile.Basic

/-!
# Inheritance

A profile inherits from the profile it extends, that one from the next, and so on. Rules and
assertions are added to the inherited ones; an override replaces the inherited one for the same
element. A resolver remembers what it has resolved. Resolving fails if the chain of a profile leaves
the known profiles or comes back to itself.
-/

namespace Conformity

/-- Overrides for one type with one more: in place of the one for the same element, or at the end. -/
def replaceOverride (os : List Override) (o : Override) : List Override :=
  match os with
  | [] => [o]
  | p :: ps => if p.element == o.element then o :: ps else p :: replaceOverride ps o

/-- Inherited overrides replaced and extended by own ones. -/
def mergeOverrides (inherited own : Overrides) : Overrides :=
  (inherited ++ own).foldl
    (fun merged e => merged.alter e.1 fun os => e.2.foldl replaceOverride (os.getD [])) []

/-- Inherited assertions followed by own ones. -/
def mergeAssertions (inherited own : Assertions) : Assertions :=
  (inherited ++ own).foldl (fun merged e => merged.alter e.1 fun as => as.getD [] ++ e.2) []

/-- Why a profile cannot be resolved. -/
inductive InheritanceFault where
  /-- The chain comes back to a profile. -/
  | cycle (profile : String)
  | unknown (profile : String)
  /-- A profile extends one that is not known. -/
  | unknownParent (profile parent : String)
  deriving DecidableEq, Repr

namespace InheritanceFault

/-- The profile at which the fault was found. -/
def profile : InheritanceFault → String
  | cycle p | unknown p | unknownParent p _ => p

/-- The wording of a fault. -/
def message : InheritanceFault → String
  | cycle p => "Cyclic profile inheritance detected at " ++ Text.quoted p
  | unknown p => "Unknown profile: " ++ Text.quoted p
  | unknownParent p q =>
    "Profile " ++ Text.quoted p ++ " extends unknown profile " ++ Text.quoted q

/-- A fault of the profile with a name, as a record. -/
def toData (name : String) (f : InheritanceFault) : Data :=
  .ofEntries [("name", .text name), ("profile", .text f.profile), ("message", .text f.message)]

end InheritanceFault

/-- A profile with what it inherits from a resolved parent. -/
def Profile.inherit (own parent : Profile) : Profile :=
  { own with
    rules := parent.rules ++ own.rules
    overrides := mergeOverrides parent.overrides own.overrides
    assertions := mergeAssertions parent.assertions own.assertions }

/-- Profiles as declared, and those of them that are resolved already. -/
structure Resolver where
  declared : Table Profile
  resolved : Table Profile := []

namespace Resolver

/-- Resolves a profile below those of `path`, each of which extends the one before; `fuel` bounds the
length of the chain. -/
def resolveFrom (declared : Table Profile) : (fuel : Nat) → (resolved : Table Profile) →
    (path : List String) → (name : String) → Except InheritanceFault Profile × Table Profile
  | 0, resolved, _, name => (.error (.cycle name), resolved)
  | fuel + 1, resolved, path, name =>
    if path.contains name then (.error (.cycle name), resolved)
    else
      match resolved.get? name with
      | some p => (.ok p, resolved)
      | none =>
        match declared.get? name with
        | none => (.error (.unknown name), resolved)
        | some own =>
          match own.extends? with
          | none => (.ok own, resolved.set name own)
          | some parent =>
            if !declared.has parent then (.error (.unknownParent name parent), resolved)
            else
              match resolveFrom declared fuel resolved (name :: path) parent with
              | (.ok p, resolved) => (.ok (own.inherit p), resolved.set name (own.inherit p))
              | (.error e, resolved) => (.error e, resolved)

/-- Resolves a profile. No chain has more profiles than there are. -/
def resolve (r : Resolver) (name : String) : Except InheritanceFault Profile × Resolver :=
  let (result, resolved) := resolveFrom r.declared (r.declared.length + 1) r.resolved [] name
  (result, { r with resolved })

/-- Resolves profiles one after another. -/
def resolveEach (r : Resolver) : List String → Table Profile × Table InheritanceFault
  | [] => ([], [])
  | name :: names =>
    let (result, r) := r.resolve name
    let (resolved, failures) := r.resolveEach names
    match result with
    | .ok p => ((name, p) :: resolved, failures)
    | .error e => (resolved, (name, e) :: failures)

/-- Resolves all profiles; those that fail are told apart, in the order of the profiles. -/
def resolveAll (declared : Table Profile) : Table Profile × Table InheritanceFault :=
  resolveEach { declared } declared.names

end Resolver

end Conformity
