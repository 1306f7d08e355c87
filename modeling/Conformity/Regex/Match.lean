import Conformity.Regex.Expr

/-!
# Matching

`Expr.run` tries the ways in which an expression can match in order of preference, handing the state
after each to a continuation, until the continuation accepts one. A repetition counts its rounds; once
the least number is reached, a round that took no characters is the last. Looks, atomic groups and
possessive rounds keep only the first way their body matches.
-/

namespace Conformity.Regex

/-- A place in a text, with what the groups took so far. -/
structure State where
  /-- The characters before the place, last one first. -/
  before : List Char
  after : List Char
  /-- The number of characters before the place. -/
  pos : Nat
  groups : List (Nat × List Char)

namespace State

/-- The start of a text. -/
def start (text : List Char) : State := ⟨[], text, 0, []⟩

/-- Steps over one character. -/
def next (st : State) (c : Char) (rest : List Char) : State :=
  { st with before := c :: st.before, after := rest, pos := st.pos + 1 }

/-- Steps back over `n` characters. -/
def back : (n : Nat) → State → Option State
  | 0, st => some st
  | n + 1, st =>
    match st.before with
    | [] => none
    | c :: cs => back n { st with before := cs, after := c :: st.after, pos := st.pos - 1 }

/-- The characters between an earlier place and this one. -/
def since (st earlier : State) : List Char := (st.before.take (st.pos - earlier.pos)).reverse

/-- Steps over a text that has to follow, characters being compared by a rule. -/
def skip (rule : CaseRule) : (text : List Char) → State → Option State
  | [], st => some st
  | c :: cs, st =>
    match st.after with
    | [] => none
    | d :: ds => if (rule.mates d).contains c.toNat then skip rule cs (st.next d ds) else none

end State

/-- Does the place of a state satisfy an anchor? -/
def Anchor.holds (st : State) : Anchor → Bool
  | .textStart => st.before.isEmpty
  | .lineStart => st.before.isEmpty || st.before.head? == some '\n'
  | .lastLineEnd => st.after.isEmpty || st.after == ['\n']
  | .lineEnd => st.after.isEmpty || st.after.head? == some '\n'
  | .textEnd => st.after.isEmpty
  | .wordBoundary ascii => edge ascii st == some true
  | .noWordBoundary ascii => edge ascii st == some false
where
  /-- Does a word start or end here? An empty text has no such place. -/
  edge (ascii : Bool) (st : State) : Option Bool :=
    if st.before.isEmpty && st.after.isEmpty then none
    else
      let word (c : Option Char) := c.any fun c => Category.word.contains ascii c
      some (word st.before.head? != word st.after.head?)

/-- One way to match a body: the state before, and a continuation for the state after. -/
abbrev Matcher (α : Type) := State → (State → Option α) → Option α

/-- May another round follow `count` rounds? -/
def roundsLeft (most : Option Nat) (count : Nat) : Bool := most.all fun n => decide (count < n)

/-- Rounds of a body, as many as possible. `last` is where the round before began, if it was beyond the
least number. -/
def greedyRounds {α : Type} (body : Matcher α) (least : Nat) (most : Option Nat) (k : State → Option α) :
    (fuel count : Nat) → (last : Option Nat) → State → Option α
  | 0, _, _, _ => none
  | fuel + 1, count, last, st =>
    if count < least then
      body st fun st => greedyRounds body least most k fuel (count + 1) last st
    else if roundsLeft most count && last != some st.pos then
      match body st fun st' => greedyRounds body least most k fuel (count + 1) (some st.pos) st' with
      | some a => some a
      | none => k st
    else k st

/-- Rounds of a body, as few as possible. -/
def lazyRounds {α : Type} (body : Matcher α) (least : Nat) (most : Option Nat) (k : State → Option α) :
    (fuel count : Nat) → (last : Option Nat) → State → Option α
  | 0, _, _, _ => none
  | fuel + 1, count, last, st =>
    if count < least then
      body st fun st => lazyRounds body least most k fuel (count + 1) last st
    else
      match k st with
      | some a => some a
      | none =>
        if roundsLeft most count && last != some st.pos then
          body st fun st' => lazyRounds body least most k fuel (count + 1) (some st.pos) st'
        else none

/-- Rounds of a body, as many as possible, each taken the first way it matches. -/
def possessiveRounds (body : State → Option State) (least : Nat) (most : Option Nat) :
    (fuel count : Nat) → (last : Option Nat) → State → Option State
  | 0, _, _, _ => none
  | fuel + 1, count, last, st =>
    if count < least then
      (body st).bind fun st => possessiveRounds body least most fuel (count + 1) last st
    else if roundsLeft most count && last != some st.pos then
      match body st with
      | some st' => possessiveRounds body least most fuel (count + 1) (some st.pos) st'
      | none => some st
    else some st

/-- More rounds than a repetition can take from a state. -/
def roundFuel (least : Nat) (st : State) : Nat := least + st.after.length + 3

mutual

/-- Tries the ways in which an expression matches at a state, in order of preference. -/
def Expr.run {α : Type} : Expr → Matcher α
  | .char rule code, st, k =>
    match st.after with
    | [] => none
    | c :: cs => if (rule.mates c).contains code then k (st.next c cs) else none
  | .set rule ascii negated items, st, k =>
    match st.after with
    | [] => none
    | c :: cs =>
      let mates := rule.mates c
      if (items.any fun i => i.takes ascii c mates) != negated then k (st.next c cs) else none
  | .any lineBreaks, st, k =>
    match st.after with
    | [] => none
    | c :: cs => if lineBreaks || c != '\n' then k (st.next c cs) else none
  | .anchor place, st, k => if place.holds st then k st else none
  | .seq items, st, k => Expr.runSeq items st k
  | .alt branches, st, k => Expr.runAlt branches st k
  | .capture group body, st, k =>
    body.run st fun st' => k { st' with groups := (group, st'.since st) :: st'.groups }
  | .atomic body, st, k =>
    match body.run st some with
    | some st' => k st'
    | none => none
  | .repeated greed least most body, st, k =>
    match greed with
    | .greedy => greedyRounds body.run least most k (roundFuel least st) 0 none st
    | .lazy => lazyRounds body.run least most k (roundFuel least st) 0 none st
    | .possessive =>
      match possessiveRounds (fun st => body.run st some) least most (roundFuel least st) 0 none st with
      | some st' => k st'
      | none => none
  | .ahead negated body, st, k =>
    match body.run st some with
    | some st' => if negated then none else k { st with groups := st'.groups }
    | none => if negated then k st else none
  | .behind negated width body, st, k =>
    match (st.back width.1).bind fun st => body.run st some with
    | some st' => if negated then none else k { st with groups := st'.groups }
    | none => if negated then k st else none
  | .backref rule group, st, k =>
    match st.groups.lookup group with
    | some text =>
      match st.skip rule text with
      | some st' => k st'
      | none => none
    | none => none
  | .cond group yes no, st, k =>
    if (st.groups.lookup group).isSome then yes.run st k else no.run st k

/-- Matches consecutive expressions. -/
def Expr.runSeq {α : Type} : List Expr → Matcher α
  | [], st, k => k st
  | e :: es, st, k => e.run st fun st => Expr.runSeq es st k

/-- Matches one of several expressions, earlier ones first. -/
def Expr.runAlt {α : Type} : List Expr → Matcher α
  | [], _, _ => none
  | e :: es, st, k =>
    match e.run st k with
    | some a => some a
    | none => Expr.runAlt es st k

end

/-- Does an expression match the whole of a text? -/
def Expr.matchesAll (e : Expr) (text : List Char) : Bool :=
  (e.run (State.start text) fun st => if st.after.isEmpty then some () else none).isSome

end Conformity.Regex
