import Conformity.Text.Blank
import Conformity.Text.Numeral
import Conformity.Text.Cut

/-!
# Readable schema messages

A schema validator names elements with their namespace and words its messages in terms of the schema.
`readable` drops the namespaces and says the known messages in plain words, keeping the element, the
offending value and what was expected. A message of no known form only loses its namespaces.
-/

namespace Conformity

/-- What a schema message says about an element. -/
inductive SchemaMessage where
  | incomplete (element expected : List Char)
  | notExpected (element : List Char) (expected : Option (List Char))
  | invalidValue (element value : List Char) (type : Option (List Char))
  | notListed (element value allowed : List Char)
  | tooShort (element value length limit : List Char)
  | tooLong (element value length limit : List Char)
  | childInText (element : List Char)
  | textInElement (element : List Char)
  deriving DecidableEq, Repr

namespace SchemaMessage

/-- Characters up to the next apostrophe, and what follows that. -/
def upToQuote (cs : List Char) : Option (List Char × List Char) :=
  match cs.dropWhile (· != '\'') with
  | _ :: rest => some (cs.takeWhile (· != '\''), rest)
  | [] => none

/-- The element that a message is about, and what it says. -/
def subject? (cs : List Char) : Option (List Char × List Char) := do
  let rest ← Text.after? "Element '".toList cs
  let (element, rest) ← upToQuote rest
  if element.isEmpty then none
  else return (element, ← Text.after? ": ".toList rest)

/-- What is expected, as a message says it up to its end. -/
def expected? (cs : List Char) : Option (List Char) := do
  let rest ← Text.after? "Expected is ".toList cs
  let rest := (Text.after? "one of ".toList rest).getD rest
  let rest ← Text.after? "( ".toList rest
  let items ← Text.before? " ).".toList rest
  if items.isEmpty || items.contains '\n' then none else some items

/-- An element without a child it needs. -/
def incomplete? (element cs : List Char) : Option SchemaMessage := do
  let rest ← Text.after? "Missing child element(s). ".toList cs
  return incomplete element (← expected? rest)

/-- An element at a wrong place. -/
def notExpected? (element cs : List Char) : Option SchemaMessage := do
  let rest ← Text.after? "This element is not expected.".toList cs
  if rest.isEmpty then return notExpected element none
  else return notExpected element (some (← expected? (← Text.after? " ".toList rest)))

/-- The type that a message names at its end, if it names one. -/
def typeAtEnd? (cs : List Char) : Option (Option (List Char)) :=
  if cs == ['.'] then some none
  else do
    let rest ← Text.after? " '".toList cs
    let (type, rest) ← upToQuote rest
    if type.isEmpty || rest != ['.'] then none else some (some type)

/-- A value that its type does not have. -/
def invalidValue? (element cs : List Char) : Option SchemaMessage := do
  let rest ← Text.after? "'".toList cs
  let (value, rest) ← upToQuote rest
  let rest ← Text.after? " is not a valid value of the ".toList rest
  let rest := (Text.after? "local ".toList rest).getD rest
  let rest ← Text.after? "atomic type".toList rest
  return invalidValue element value (← typeAtEnd? rest)

/-- A value that is not among those listed. -/
def notListed? (element cs : List Char) : Option SchemaMessage := do
  let rest ← Text.after? "[facet 'enumeration'] The value '".toList cs
  let (value, rest) ← upToQuote rest
  let rest ← Text.after? (" is not an element of the set ".toList ++ ['{']) rest
  let allowed := rest.takeWhile (· != '}')
  if rest.dropWhile (· != '}') == ['}', '.'] then some (notListed element value allowed) else none

/-- A number between apostrophes, and what follows it. -/
def number? (cs : List Char) : Option (List Char × List Char) := do
  let (digits, rest) ← upToQuote cs
  if digits.isEmpty || !digits.all Text.isDigit then none else some (digits, rest)

/-- A value whose length a facet does not allow. -/
def wrongLength? (facet comparison : String) (cs : List Char) :
    Option (List Char × List Char × List Char) := do
  let rest ← Text.after? ("[facet '" ++ facet ++ "'] The value '").toList cs
  let (value, rest) ← upToQuote rest
  let rest ← Text.after? " has a length of '".toList rest
  let (length, rest) ← number? rest
  let rest ← Text.after? ("; this " ++ comparison ++ " length of '").toList rest
  let (limit, rest) ← number? rest
  if rest == ['.'] then some (value, length, limit) else none

/-- A value that is too short. -/
def tooShort? (element cs : List Char) : Option SchemaMessage :=
  (wrongLength? "minLength" "underruns the allowed minimum" cs).map fun (value, length, limit) =>
    tooShort element value length limit

/-- A value that is too long. -/
def tooLong? (element cs : List Char) : Option SchemaMessage :=
  (wrongLength? "maxLength" "exceeds the allowed maximum" cs).map fun (value, length, limit) =>
    tooLong element value length limit

/-- A child where only text may stand. -/
def childInText? (element cs : List Char) : Option SchemaMessage :=
  if cs == "Element content is not allowed, because the content type is a simple type definition.".toList
  then some (childInText element) else none

/-- Text where only elements may stand. -/
def textInElement? (element cs : List Char) : Option SchemaMessage :=
  if cs == ("Character content other than whitespace is not allowed because the content type is " ++
      "'element-only'.").toList
  then some (textInElement element) else none

/-- The known forms of a message about an element. -/
def forms : List (List Char → List Char → Option SchemaMessage) :=
  [incomplete?, notExpected?, invalidValue?, notListed?, tooShort?, tooLong?, childInText?,
    textInElement?]

/-- What a message says, if it has a known form. -/
def read? (cs : List Char) : Option SchemaMessage :=
  match subject? cs with
  | some (element, rest) => forms.findSome? fun form => form element rest
  | none => none

/-- The values of well-known types in plain words. -/
def typeWords : List (String × String) :=
  [("date", "a date (YYYY-MM-DD)"), ("dateTime", "a date and time (YYYY-MM-DDThh:mm:ss)"),
   ("time", "a time (hh:mm:ss)"), ("decimal", "a decimal number"), ("integer", "an integer"),
   ("int", "an integer"), ("boolean", "true or false")]

/-- The values of a type in plain words. -/
def typeText (type : List Char) : String :=
  let name := String.ofList ((Text.split ':' type).getLastD [])
  (typeWords.lookup name).getD ("a valid " ++ name)

/-- The expected items, each trimmed. -/
def itemsText (items : List Char) : String :=
  ", ".intercalate
    (((Text.split ',' items).map Text.trimChars).filter (!·.isEmpty) |>.map String.ofList)

/-- The listed values, each without blanks and apostrophes around it. -/
def listedText (allowed : List Char) : String :=
  ", ".intercalate ((Text.split ',' allowed).map fun v =>
    String.ofList (Text.stripChar '\'' (Text.trimChars v)))

/-- The beginning of a readable message. -/
def elementText (element : List Char) : String := "Element '" ++ String.ofList element ++ "' "

/-- A value between apostrophes. -/
def valueText (value : List Char) : String := "'" ++ String.ofList value ++ "'"

/-- The message in plain words. -/
def text : SchemaMessage → String
  | incomplete element expected =>
    elementText element ++ "is incomplete; expected " ++ itemsText expected ++ "."
  | notExpected element expected =>
    elementText element ++ "is not allowed here" ++
      ((expected.map fun items => "; expected " ++ itemsText items).getD "") ++ "."
  | invalidValue element value type =>
    if value.isEmpty then elementText element ++ "must not be empty."
    else
      elementText element ++ "has invalid value " ++ valueText value ++
        ((type.map fun t => "; expected " ++ typeText t).getD "") ++ "."
  | notListed element value allowed =>
    elementText element ++ "has invalid value " ++ valueText value ++ "; allowed values: " ++
      listedText allowed ++ "."
  | tooShort element value length limit =>
    elementText element ++ "value " ++ valueText value ++ " is too short (" ++
      String.ofList length ++ " characters, minimum " ++ String.ofList limit ++ ")."
  | tooLong element value length limit =>
    elementText element ++ "value " ++ valueText value ++ " is too long (" ++
      String.ofList length ++ " characters, maximum " ++ String.ofList limit ++ ")."
  | childInText element => elementText element ++ "must hold a text value and no child elements."
  | textInElement element => elementText element ++ "must not contain text."

/-- A character that a namespace between braces may have. -/
def isNamespaceChar (c : Char) : Bool :=
  !(c == '{' || c == '}' || c == '\'' || Text.isBlank c)

/-- The length of a namespace between braces in front of a name, if there is one behind an opening
brace. -/
def namespaceLength? (cs : List Char) : Option Nat :=
  let inner := cs.takeWhile isNamespaceChar
  match cs.dropWhile isNamespaceChar with
  | '}' :: c :: _ => if !inner.isEmpty && Text.isWordChar c then some (inner.length + 1) else none
  | _ => none

/-- Drops the namespaces, the first `skip` characters belonging to one already found. -/
def withoutNamespacesFrom : (skip : Nat) → List Char → List Char
  | _, [] => []
  | skip + 1, _ :: cs => withoutNamespacesFrom skip cs
  | 0, c :: cs =>
    match if c == '{' then namespaceLength? cs else none with
    | some n => withoutNamespacesFrom n cs
    | none => c :: withoutNamespacesFrom 0 cs

/-- A message with every name reduced to its local part. -/
def withoutNamespaces (cs : List Char) : List Char := withoutNamespacesFrom 0 cs

/-- A schema message in plain words, behind the number of its line if that is known. -/
def readable (message : String) (line : Option Int) : String :=
  let cs := withoutNamespaces (Text.trimChars message.toList)
  let said := ((read? cs).map text).getD (String.ofList cs)
  match line with
  | some n => "Line " ++ toString n ++ ": " ++ said
  | none => said

end SchemaMessage

end Conformity
