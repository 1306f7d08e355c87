import Conformity.Regex.Escape
import Conformity.Text.Identifier

/-!
# Reading a pattern

A pattern is read token by token into a stack of open groups. Each group holds the branches already
closed and the items of the branch being read; a closing parenthesis turns the top group into one
item of the group below. `parse` ends with an expression, or with the first fault in reading order.
-/

namespace Conformity.Regex

/-- The options that hold for a stretch of a pattern. -/
structure Options where
  ignoreCase : Bool := false
  multiline : Bool := false
  dotAll : Bool := false
  verbose : Bool := false
  ascii : Bool := false

/-- Which characters count as equal under the options. -/
def Options.caseRule (o : Options) : CaseRule :=
  if !o.ignoreCase then .exact else if o.ascii then .ascii else .unicode

/-- What an open group will become. -/
inductive FrameKind where
  /-- The pattern itself. -/
  | root
  | plain
  | capture (group : Nat)
  | atomic
  | ahead (negated : Bool)
  /-- A look behind; `outermost` if no other look behind is open around it. -/
  | behind (negated outermost : Bool)
  /-- A choice by group number, with its first body once that is read. -/
  | cond (group : Nat) (yes : Option Expr)

/-- A group that is still open, with its branches and items so far, last one first. -/
structure Frame where
  kind : FrameKind
  start : Nat
  options : Options
  branches : List Expr := []
  items : List Expr := []

/-- What the reader knows besides the open groups. -/
structure Groups where
  /-- The number of the next group. -/
  next : Nat := 1
  names : List (List Char × Nat) := []
  /-- The widths of the closed groups. -/
  widths : List (Nat × Nat × Nat) := []
  /-- The number of the next group when the outermost open look behind began. -/
  behindFrom : Option Nat := none
  /-- The groups chosen by number, with the position of the first choice. -/
  chosen : List (Nat × Nat) := []
  /-- Was ASCII matching asked for as a whole? -/
  globalAscii : Bool := false
  /-- Was Unicode matching asked for as a whole? -/
  globalUnicode : Bool := false
  template : Bool := false

/-- The state of the reader: the top open group and those below it. -/
structure Reader where
  top : Frame
  below : List Frame := []
  groups : Groups := {}

namespace Reader

/-- Adds an item to the branch being read. -/
def push (r : Reader) (e : Expr) : Reader :=
  { r with top := { r.top with items := e :: r.top.items } }

/-- The branch being read as one expression. -/
def branch (f : Frame) : Expr := .seq f.items.reverse

/-- All branches of a group as one expression. -/
def body (f : Frame) : Expr :=
  match f.branches with
  | [] => branch f
  | bs => .alt (branch f :: bs).reverse

/-- Opens a group. -/
def enter (r : Reader) (kind : FrameKind) (start : Nat) (options : Options) : Reader :=
  { r with top := { kind, start, options }, below := r.top :: r.below }

/-- Is the group closed? -/
def isClosed (r : Reader) (group : Nat) : Bool := (r.groups.widths.lookup group).isSome

/-- Refuses a reference inside a look behind to a group that is open or was opened in it. -/
def checkLookBehind (r : Reader) (group p : Nat) : Except Fault Unit :=
  match r.groups.behindFrom with
  | none => .ok ()
  | some first =>
    if !r.isClosed group then .error (faultAt .openGroup p)
    else if first ≤ group then .error (faultAt .lookBehindGroup p)
    else .ok ()

/-- The item that a closed group becomes. -/
def closedItem (groups : Groups) (f : Frame) : Expr :=
  match f.kind with
  | .root | .plain => body f
  | .capture n => .capture n (body f)
  | .atomic => .atomic (body f)
  | .ahead negated => .ahead negated (body f)
  | .behind negated _ => .behind negated ((body f).width groups.widths) (body f)
  | .cond n none => .cond n (branch f) (.seq [])
  | .cond n (some yes) => .cond n yes (branch f)

/-- What closing a group changes for the rest of the pattern. -/
def closeGroups (groups : Groups) (f : Frame) : Groups :=
  match f.kind with
  | .capture n => { groups with widths := (n, (body f).width groups.widths) :: groups.widths }
  | .behind _ true => { groups with behindFrom := none }
  | _ => groups

/-- A closing parenthesis at position `p`, `ts` being the tokens behind it. -/
def close (r : Reader) (p : Nat) (ts : List Token) : Except Fault (Reader × Rest) :=
  match r.below with
  | [] =>
    if r.groups.globalAscii && r.groups.globalUnicode then .error .flagConflict
    else .error (faultAt .unopenedGroup p)
  | f :: fs => do
    let rest ← ready ts
    let item := closedItem r.groups r.top
    let r' : Reader := { top := f, below := fs, groups := closeGroups r.groups r.top }
    return (r'.push item, rest)

/-- A bar at position `p`, `ts` being the tokens behind it. -/
def bar (r : Reader) (p : Nat) (ts : List Token) : Except Fault (Reader × Rest) :=
  match r.top.kind with
  | .cond n none => do
    let rest ← ready ts
    let top := { r.top with kind := .cond n (some (branch r.top)), items := [] }
    return ({ r with top }, rest)
  | .cond _ (some _) => .error (faultAt .tooManyBranches p)
  | _ => do
    let rest ← ready ts
    let top := { r.top with branches := branch r.top :: r.top.branches, items := [] }
    return ({ r with top }, rest)

end Reader

/-! ### Sets between brackets -/

/-- One end of a range, or a member of a set: the member and its first token. -/
def readSetMember (total : Nat) (t : Token) (rest : Rest) : Except Fault (SetItem × Rest) :=
  match t with
  | .escaped p c => readSetEscape total p c rest
  | t => .ok (.one ((t.text.headD ' ').toNat), rest)

/-- Reads the members of a set up to its closing bracket. `here` is where the set starts. -/
def readSetItems (total here : Nat) : (fuel : Nat) → (items : List SetItem) → Rest →
    Except Fault (List SetItem × Rest)
  | 0, items, rest => .ok (items.reverse, rest)
  | _ + 1, _, [] => .error (faultAt .unclosedSet here)
  | fuel + 1, items, t :: ts => do
    let rest ← ready ts
    if t.is ']' && !items.isEmpty then return (items.reverse, rest)
    let (first, rest) ← readSetMember total t rest
    let (dash, rest) ← accept '-' rest
    if !dash then readSetItems total here fuel (first :: items) rest
    else
      match rest with
      | [] => throw (faultAt .unclosedSet here)
      | t' :: ts' =>
        let rest ← ready ts'
        if t'.is ']' then return ((.one 45 :: first :: items).reverse, rest)
        let (last, rest) ← readSetMember total t' rest
        let badRange :=
          faultAt (.badRange t.text t'.text) (rest.tell total - (t.text.length + 1 + t'.text.length))
        match first, last with
        | .one lo, .one hi =>
          if hi < lo then throw badRange
          else readSetItems total here fuel (.range lo hi :: items) rest
        | _, _ => throw badRange

/-- A set between brackets; `here` is where its opening bracket stands. -/
def readSet (total here : Nat) (o : Options) (rest : Rest) : Except Fault (Expr × Rest) := do
  let (negated, rest) ← accept '^' rest
  let (items, rest) ← readSetItems total here (rest.length + 1) [] rest
  match negated, items with
  | false, [.one code] => return (.char o.caseRule code, rest)
  | _, _ => return (.set o.caseRule o.ascii negated items, rest)

/-! ### Repetitions -/

/-- The least and the greatest number of rounds. -/
abbrev Bounds := Nat × Option Nat

/-- The largest repetition number. -/
def repeatLimit : Nat := 4294967295

/-- Reads the number of rounds behind an opening brace; `here` is the position behind the brace. No
bounds if the brace stands for itself. -/
def readBounds (here : Nat) (rest : Rest) : Except Fault (Option (Bounds × Rest)) := do
  match rest with
  | .plain _ c :: _ => if c == Char.ofNat 125 then return none
  | _ => pure ()
  let (lo, rest) ← acceptWhile Char.isDigit rest.length rest
  let (comma, rest) ← accept ',' rest
  let (hi, rest) ← if comma then acceptWhile Char.isDigit rest.length rest else pure (lo, rest)
  let (closed, rest) ← accept (Char.ofNat 125) rest
  if !closed then return none
  let least := numberIn 10 lo
  let most := numberIn 10 hi
  if least ≥ repeatLimit then throw .repeatTooLarge
  if hi.isEmpty then return some ((least, none), rest)
  if most ≥ repeatLimit then throw .repeatTooLarge
  if most < least then throw (faultAt .minAboveMax here)
  return some ((least, some most), rest)

/-- Repeats the last item of the branch. `p` is where the repetition sign stands and `rest` follows
it. -/
def repeatLast (r : Reader) (p : Nat) (bounds : Bounds) (rest : Rest) :
    Except Fault (Reader × Rest) := do
  match r.top.items with
  | [] => throw (faultAt .nothingToRepeat p)
  | .anchor _ :: _ => throw (faultAt .nothingToRepeat p)
  | .repeated .. :: _ => throw (faultAt .multipleRepeat p)
  | e :: es =>
    let (lazy, rest) ← accept '?' rest
    let (possessive, rest) ← if lazy then pure (false, rest) else accept '+' rest
    let greed : Greed := if lazy then .lazy else if possessive then .possessive else .greedy
    let item := Expr.repeated greed bounds.1 bounds.2 e
    return ({ r with top := { r.top with items := item :: es } }, rest)

/-! ### Groups with a question mark -/

/-- The letters of the options. -/
def isFlag (c : Char) : Bool := "iLmsxatu".toList.contains c

/-- A set of options that a group turns on or off. -/
structure FlagSet where
  flags : List Char := []

/-- Is the option in the set? -/
def FlagSet.has (f : FlagSet) (c : Char) : Bool := f.flags.contains c

/-- The options of a stretch after some have been turned on and others off. -/
def Options.apply (o : Options) (on off : FlagSet) : Options where
  ignoreCase := (o.ignoreCase || on.has 'i') && !off.has 'i'
  multiline := (o.multiline || on.has 'm') && !off.has 'm'
  dotAll := (o.dotAll || on.has 's') && !off.has 's'
  verbose := (o.verbose || on.has 'x') && !off.has 'x'
  ascii := on.has 'a' || (o.ascii && !on.has 'u')

/-- Reads options to turn on, the first of which is `c`; ends with the character behind them. -/
def readFlagsOn (total : Nat) : (fuel : Nat) → (on : List Char) → (c : Char) → Rest →
    Except Fault (List Char × Char × Rest)
  | 0, on, c, rest => .ok (on, c, rest)
  | fuel + 1, on, c, rest => do
    if c == 'L' then throw (faultAt .localeFlag (rest.tell total))
    let on := c :: on
    if (c == 'a' || c == 'u') && on.contains 'a' && on.contains 'u' then
      throw (faultAt .incompatibleFlags (rest.tell total))
    match rest with
    | [] => throw (faultAt (.missing "-, : or )") total)
    | t :: ts =>
      let rest ← ready ts
      match t with
      | .plain p d =>
        if d == ')' || d == '-' || d == ':' then return (on, d, rest)
        else if isFlag d then readFlagsOn total fuel on d rest
        else if Text.isLetter d then throw (faultAt .unknownFlag p)
        else throw (faultAt (.missing "-, : or )") p)
      | t => throw (faultAt (.missing "-, : or )") t.pos)

/-- Reads options to turn off, the first of which is `c`, up to the colon. -/
def readFlagsOff (total : Nat) : (fuel : Nat) → (off : List Char) → (c : Char) → Rest →
    Except Fault (List Char × Rest)
  | 0, off, _, rest => .ok (off, rest)
  | fuel + 1, off, c, rest => do
    if c == 'a' || c == 'u' || c == 'L' then throw (faultAt .typeFlagOff (rest.tell total))
    let off := c :: off
    match rest with
    | [] => throw (faultAt (.missing ":") total)
    | t :: ts =>
      let rest ← ready ts
      match t with
      | .plain p d =>
        if d == ':' then return (off, rest)
        else if isFlag d then readFlagsOff total fuel off d rest
        else if Text.isLetter d then throw (faultAt .unknownFlag p)
        else throw (faultAt (.missing ":") p)
      | t => throw (faultAt (.missing ":") t.pos)

/-- Options for the whole pattern, or those that a group turns on and off. -/
inductive Flags where
  | global (on : FlagSet)
  | scoped (on off : FlagSet)

/-- Reads the options of a group, the first character of which is `c`. -/
def readFlags (total : Nat) (c : Char) (rest : Rest) : Except Fault (Flags × Rest) := do
  let (on, stop, rest) ←
    if c == '-' then pure ([], '-', rest) else readFlagsOn total (rest.length + 1) [] c rest
  if stop == ')' then return (.global ⟨on⟩, rest)
  if on.contains 't' then throw (faultAt .globalFlagOn (rest.tell total - 1))
  if stop == ':' then return (.scoped ⟨on⟩ {}, rest)
  match rest with
  | [] => throw (faultAt (.missing "flag") total)
  | t :: ts =>
    let rest ← ready ts
    match t with
    | .plain p d =>
      if !isFlag d then
        throw (faultAt (if Text.isLetter d then .unknownFlag else .missing "flag") p)
      let (off, rest) ← readFlagsOff total (rest.length + 1) [] d rest
      if off.contains 't' then throw (faultAt .globalFlagOff (rest.tell total - 1))
      if on.any off.contains then throw (faultAt .flagOnAndOff (rest.tell total - 1))
      return (.scoped ⟨on⟩ ⟨off⟩, rest)
    | t => throw (faultAt (.missing "flag") t.pos)

/-- Skips a comment; `start` is where its group starts. -/
def skipComment (start : Nat) : List Token → Except Fault Rest
  | [] => .error (faultAt .unclosedComment start)
  | t :: ts =>
    match ready ts with
    | .error e => .error e
    | .ok rest => if t.is ')' then .ok rest else skipComment start ts

/-- The digits of a number with single underscores between them, as a number. -/
def groupedNumber? (acc : Nat) (afterDigit : Bool) : List Char → Option Nat
  | [] => if afterDigit then some acc else none
  | c :: cs =>
    match Text.digitValue? c with
    | some d => groupedNumber? (acc * 10 + d) true cs
    | none => if c == '_' && afterDigit then groupedNumber? acc false cs else none

/-- A number that chooses a group: blanks around it, a sign, and underscores between the digits do
not count. -/
def chosenNumber? (name : List Char) : Option Nat :=
  match Text.trimChars name with
  | '+' :: cs => groupedNumber? 0 false cs
  | '-' :: cs => (groupedNumber? 0 false cs).filter (· == 0)
  | cs => groupedNumber? 0 false cs

/-- The largest number of groups. -/
def groupLimit : Nat := 1073741823

namespace Reader

/-- Opens a group that takes part in the numbering. -/
def enterCapture (r : Reader) (start : Nat) (rest : Rest) : Reader × Rest :=
  let n := r.groups.next
  (({ r with groups := { r.groups with next := n + 1 } } : Reader).enter (.capture n) start
    r.top.options, rest)

/-- Opens a numbered group with a name, which starts at `nameStart`. -/
def enterNamed (r : Reader) (start nameStart : Nat) (name : List Char) (rest : Rest) :
    Except Fault (Reader × Rest) :=
  if !Text.isIdentifier name then .error (faultAt (.badGroupName name) nameStart)
  else
    match r.groups.names.lookup name with
    | some earlier => .error (faultAt (.duplicateGroup name r.groups.next earlier) nameStart)
    | none =>
      let names := (name, r.groups.next) :: r.groups.names
      .ok (({ r with groups := { r.groups with names } } : Reader).enterCapture start rest)

/-- A reference to a group by name. -/
def namedBackref (r : Reader) (total nameStart : Nat) (name : List Char) (rest : Rest) :
    Except Fault (Reader × Rest) := do
  if !Text.isIdentifier name then throw (faultAt (.badGroupName name) nameStart)
  match r.groups.names.lookup name with
  | none => throw (faultAt (.unknownGroup name) nameStart)
  | some n =>
    if !r.isClosed n then throw (faultAt .openGroup nameStart)
    r.checkLookBehind n (rest.tell total)
    return (r.push (.backref r.top.options.caseRule n), rest)

/-- Opens a choice by group. -/
def enterCond (r : Reader) (total start : Nat) (rest : Rest) : Except Fault (Reader × Rest) := do
  let nameStart := rest.tell total
  let (name, rest) ← readName total nameStart ')' "group name" [] rest
  let (n, groups) ←
    if Text.isIdentifier name then
      match r.groups.names.lookup name with
      | none => throw (faultAt (.unknownGroup name) nameStart)
      | some n => pure (n, r.groups)
    else
      match chosenNumber? name with
      | none => throw (faultAt (.badGroupName name) nameStart)
      | some 0 => throw (faultAt .badGroupNumber nameStart)
      | some n =>
        if n ≥ groupLimit then throw (faultAt (.invalidGroup n) nameStart)
        else if (r.groups.chosen.lookup n).isSome then pure (n, r.groups)
        else pure (n, { r.groups with chosen := r.groups.chosen ++ [(n, nameStart)] })
  let r : Reader := { r with groups }
  r.checkLookBehind n (rest.tell total)
  return (r.enter (.cond n none) start r.top.options, rest)

/-- Opens a look behind. -/
def enterBehind (r : Reader) (start : Nat) (negated : Bool) (rest : Rest) : Reader × Rest :=
  match r.groups.behindFrom with
  | some _ => (r.enter (.behind negated false) start r.top.options, rest)
  | none =>
    let groups := { r.groups with behindFrom := some r.groups.next }
    (({ r with groups } : Reader).enter (.behind negated true) start r.top.options, rest)

/-- Turns options on for the whole pattern, which may happen only at its very start. -/
def setGlobal (r : Reader) (start : Nat) (on : FlagSet) (rest : Rest) :
    Except Fault (Reader × Rest) :=
  if r.below.isEmpty && r.top.branches.isEmpty && r.top.items.isEmpty then
    let ascii := r.groups.globalAscii || on.has 'a'
    let options := { r.top.options.apply on {} with ascii }
    let groups := { r.groups with
      globalAscii := ascii
      globalUnicode := r.groups.globalUnicode || on.has 'u'
      template := r.groups.template || on.has 't' }
    .ok ({ r with top := { r.top with options }, groups }, rest)
  else .error (faultAt .lateGlobalFlags start)

/-- A group with a question mark; `start` is where its parenthesis stands. -/
def special (r : Reader) (total start : Nat) (rest : Rest) : Except Fault (Reader × Rest) := do
  match rest with
  | [] => throw (faultAt .unexpectedEnd total)
  | t :: ts =>
    let rest ← ready ts
    let mark := start + 1
    match t with
    | .plain _ 'P' =>
      let (named, rest) ← accept '<' rest
      if named then
        let nameStart := rest.tell total
        let (name, rest) ← readName total nameStart '>' "group name" [] rest
        r.enterNamed start nameStart name rest
      else
        let (reference, rest) ← accept '=' rest
        if reference then
          let nameStart := rest.tell total
          let (name, rest) ← readName total nameStart ')' "group name" [] rest
          r.namedBackref total nameStart name rest
        else
          match rest with
          | [] => throw (faultAt .unexpectedEnd total)
          | t :: ts =>
            let _ ← ready ts
            throw (faultAt (.unknownExtension ('P' :: t.text)) mark)
    | .plain _ ':' => return (r.enter .plain start r.top.options, rest)
    | .plain _ '#' => return (r, ← skipComment start rest)
    | .plain _ '=' => return (r.enter (.ahead false) start r.top.options, rest)
    | .plain _ '!' => return (r.enter (.ahead true) start r.top.options, rest)
    | .plain _ '<' =>
      match rest with
      | [] => throw (faultAt .unexpectedEnd total)
      | t :: ts =>
        let rest ← ready ts
        if t.is '=' then return r.enterBehind start false rest
        else if t.is '!' then return r.enterBehind start true rest
        else throw (faultAt (.unknownExtension ('<' :: t.text)) mark)
    | .plain _ '(' => r.enterCond total start rest
    | .plain _ '>' => return (r.enter .atomic start r.top.options, rest)
    | .plain _ c =>
      if isFlag c || c == '-' then
        let (flags, rest) ← readFlags total c rest
        match flags with
        | .global on => r.setGlobal start on rest
        | .scoped on off => return (r.enter .plain start (r.top.options.apply on off), rest)
      else throw (faultAt (.unknownExtension [c]) mark)
    | t => throw (faultAt (.unknownExtension t.text) mark)

/-- Adds what an escape sequence, which starts at `p`, stands for. -/
def escape (r : Reader) (total p : Nat) (c : Char) (rest : Rest) : Except Fault (Reader × Rest) := do
  let o := r.top.options
  let (e, rest) ← readEscape total p c rest
  match e with
  | .code n => return (r.push (.char o.caseRule n), rest)
  | .category kind negated =>
    return (r.push (.set o.caseRule o.ascii false [.category kind negated]), rest)
  | .textStart => return (r.push (.anchor .textStart), rest)
  | .textEnd => return (r.push (.anchor .textEnd), rest)
  | .wordBoundary => return (r.push (.anchor (.wordBoundary o.ascii)), rest)
  | .noWordBoundary => return (r.push (.anchor (.noWordBoundary o.ascii)), rest)
  | .group n =>
    if n < r.groups.next then
      if !r.isClosed n then throw (faultAt .openGroup p)
      r.checkLookBehind n (rest.tell total)
      return (r.push (.backref o.caseRule n), rest)
    else throw (faultAt (.invalidGroup n) (p + 1))

/-- Skips a comment of a verbose pattern. -/
def skipLine : List Token → Except Fault Rest
  | [] => .ok []
  | t :: ts =>
    match ready ts with
    | .error e => .error e
    | .ok rest => if t.is '\n' then .ok rest else skipLine ts

/-- A blank of a verbose pattern. -/
def isPatternBlank (c : Char) : Bool := c == ' ' || (9 ≤ c.toNat && c.toNat ≤ 13)

/-- Reads one item: the token at `p` with character `c`, and whatever belongs to it. -/
def plain (r : Reader) (total p : Nat) (c : Char) (ts : List Token) :
    Except Fault (Reader × Rest) := do
  let o := r.top.options
  if c == '|' then r.bar p ts
  else if c == ')' then r.close p ts
  else
    let rest ← ready ts
    if o.verbose && isPatternBlank c then return (r, rest)
    else if o.verbose && c == '#' then return (r, ← skipLine rest)
    else if c == '[' then
      let (e, rest) ← readSet total p o rest
      return (r.push e, rest)
    else if c == '?' then repeatLast r p (0, some 1) rest
    else if c == '*' then repeatLast r p (0, none) rest
    else if c == '+' then repeatLast r p (1, none) rest
    else if c == Char.ofNat 123 then
      match ← readBounds (p + 1) rest with
      | none => return (r.push (.char o.caseRule c.toNat), rest)
      | some (bounds, rest) => repeatLast r p bounds rest
    else if c == '.' then return (r.push (.any o.dotAll), rest)
    else if c == '(' then
      let (marked, rest) ← accept '?' rest
      if marked then r.special total p rest else return r.enterCapture p rest
    else if c == '^' then
      return (r.push (.anchor (if o.multiline then .lineStart else .textStart)), rest)
    else if c == '$' then
      return (r.push (.anchor (if o.multiline then .lineEnd else .lastLineEnd)), rest)
    else return (r.push (.char o.caseRule c.toNat), rest)

/-- Reads one item of the pattern. -/
def item (r : Reader) (total : Nat) : Token → List Token → Except Fault (Reader × Rest)
  | .plain p c, ts => r.plain total p c ts
  | .escaped p c, ts => do r.escape total p c (← ready ts)
  | .dangling p, _ => .error (faultAt .escapeAtEnd p)

/-- Reads items until the tokens end; every item takes at least one token. -/
def run (total : Nat) : (fuel : Nat) → Reader → Rest → Except Fault Reader
  | _, r, [] => .ok r
  | 0, r, _ => .ok r
  | fuel + 1, r, t :: ts =>
    match r.item total t ts with
    | .error e => .error e
    | .ok (r, rest) => run total fuel r rest

end Reader

/-! ### Faults that show only once the pattern is read -/

/-- The name of a kind of repetition in a template fault. -/
def Greed.label : Greed → String
  | .greedy => "MAX_REPEAT"
  | .lazy => "MIN_REPEAT"
  | .possessive => "POSSESSIVE_REPEAT"

mutual

/-- The first fault in the finished expression: a look behind without a fixed width, or a repetition
in a template. -/
def Expr.lateFault? (template : Bool) : Expr → Option Cause
  | .char .. | .set .. | .any _ | .anchor _ | .backref .. => none
  | .seq items | .alt items => Expr.lateFaultIn? template items
  | .capture _ body | .atomic body | .ahead _ body => body.lateFault? template
  | .repeated greed _ _ body =>
    if template then some (.templateRepeat greed.label) else body.lateFault? template
  | .behind _ w body =>
    if w.1 > repeatLimit then some .wideLookBehind
    else if w.1 != w.2 then some .variableLookBehind
    else body.lateFault? template
  | .cond _ yes no => (yes.lateFault? template).or (no.lateFault? template)

/-- The first fault in a list of expressions. -/
def Expr.lateFaultIn? (template : Bool) : List Expr → Option Cause
  | [] => none
  | e :: es => (e.lateFault? template).or (Expr.lateFaultIn? template es)

end

/-- The finished expression of a reader that has come to the end of the pattern. -/
def Reader.finish (r : Reader) : Except Fault Expr :=
  match r.below with
  | _ :: _ => .error (faultAt .unclosedGroup r.top.start)
  | [] =>
    if r.groups.globalAscii && r.groups.globalUnicode then .error .flagConflict
    else
      match r.groups.chosen.find? fun g => decide (r.groups.next ≤ g.1) with
      | some (n, p) => .error (faultAt (.invalidGroup n) p)
      | none =>
        let e := Reader.body r.top
        match e.lateFault? r.groups.template with
        | some cause => .error (.malformed cause none)
        | none => .ok e

/-- Reads a pattern. -/
def parse (pattern : List Char) : Except Fault Expr := do
  let tokens ← ready (Token.scan 0 pattern)
  let start : Reader := { top := { kind := .root, start := 0, options := {} } }
  let r ← start.run pattern.length tokens.length tokens
  r.finish

end Conformity.Regex
