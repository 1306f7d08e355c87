import Conformity.Text.Quoted

/-!
# Arguments

Arguments are words and options. A long option begins with two hyphens, and may have its value behind
an equals sign; a short one has a single letter behind a hyphen, and several short ones may share the
hyphen. An option that takes a value takes what is left of its argument, or else the next argument,
whatever that looks like. Behind two hyphens alone all arguments are words.
-/

namespace Conformity

/-- An option with its names. -/
structure OptionForm where
  long : String
  short : Option Char := none
  takesValue : Bool := true
  deriving DecidableEq, Repr

/-- Why arguments cannot be used. -/
inductive UsageFault where
  | unknownOption (name : String)
  /-- An option without its value. -/
  | noValue (name : String)
  /-- An option with a value that it does not take. -/
  | surplusValue (name : String)
  | noCommand
  | unknownCommand (name : String)
  | missingWord (name : String)
  | surplusWord (word : String)
  | missingOption (name : String)
  deriving DecidableEq, Repr

/-- The wording of a fault. -/
def UsageFault.message : UsageFault → String
  | unknownOption name => "No such option: " ++ name
  | noValue name => "Option " ++ Text.quoted name ++ " requires an argument."
  | surplusValue name => "Option " ++ Text.quoted name ++ " does not take a value."
  | noCommand => "Missing command."
  | unknownCommand name => "No such command " ++ Text.quoted name ++ "."
  | missingWord name => "Missing argument " ++ Text.quoted name ++ "."
  | surplusWord word => "Got unexpected extra argument (" ++ word ++ ")"
  | missingOption name => "Missing option " ++ Text.quoted name ++ "."

/-- Arguments that were read. Options are told by their long names. -/
structure Arguments where
  options : List (String × String) := []
  words : List String := []
  deriving DecidableEq, Repr

namespace Arguments

/-- The value of an option; of several values the last one counts. -/
def value? (a : Arguments) (option : String) : Option String := a.options.reverse.lookup option

/-- All values of an option. -/
def values (a : Arguments) (option : String) : List String :=
  (a.options.filter fun o => o.1 == option).map (·.2)

/-- Is an option given? -/
def has (a : Arguments) (option : String) : Bool := (a.value? option).isSome

/-- The options in one argument, the last of which may wait for its value in the next one. -/
structure Found where
  complete : List (String × String) := []
  waiting : Option String := none

/-- Reads short options from the letters behind a hyphen. -/
def readShort (forms : List OptionForm) (found : List (String × String)) :
    List Char → Except UsageFault Found
  | [] => .ok ⟨found, none⟩
  | c :: cs =>
    match forms.find? fun f => f.short == some c with
    | none => .error (.unknownOption (String.ofList ['-', c]))
    | some f =>
      if !f.takesValue then readShort forms (found ++ [(f.long, "")]) cs
      else if cs.isEmpty then .ok ⟨found, some f.long⟩
      else .ok ⟨found ++ [(f.long, String.ofList cs)], none⟩

/-- Reads the options of an argument that begins with a hyphen. -/
def readOption (forms : List OptionForm) (argument : List Char) : Except UsageFault Found :=
  let name := String.ofList (argument.takeWhile (· != '='))
  let value := (argument.dropWhile (· != '=')).tail?.map String.ofList
  match forms.find? fun f => f.long == name, value with
  | some f, some v =>
    if f.takesValue then .ok ⟨[(f.long, v)], none⟩ else .error (.surplusValue name)
  | some f, none => .ok (if f.takesValue then ⟨[], some f.long⟩ else ⟨[(f.long, "")], none⟩)
  | none, _ =>
    match argument with
    | '-' :: '-' :: _ => .error (.unknownOption name)
    | _ => readShort forms [] (argument.drop 1)

/-- Is an argument an option? A hyphen alone is a word. -/
def isOption (argument : String) : Bool :=
  argument.toList.head? == some '-' && argument != "-"

/-- Reads arguments. If they are not mixed, all arguments from the first word on are words. -/
def read (forms : List OptionForm) (mixed : Bool) (a : Arguments) :
    List String → Except UsageFault Arguments
  | [] => .ok a
  | argument :: rest =>
    if argument == "--" then .ok { a with words := a.words ++ rest }
    else if isOption argument then
      match readOption forms argument.toList with
      | .error e => .error e
      | .ok found =>
        let a := { a with options := a.options ++ found.complete }
        match found.waiting, rest with
        | none, rest => read forms mixed a rest
        | some name, [] => .error (.noValue name)
        | some name, v :: rest =>
          read forms mixed { a with options := a.options ++ [(name, v)] } rest
    else if mixed then read forms mixed { a with words := a.words ++ [argument] } rest
    else .ok { a with words := a.words ++ argument :: rest }

end Arguments

end Conformity
