import SchemaLedger.Log.Pattern.Set
import SchemaLedger.Text.Alphanumeric

/-! # Patterns

A log rule may compare a field with a value: a number, or a pattern in the common notation of
regular expressions. Which texts are values decides whether a rule can be read; no value is ever
compared here. A pattern is read for its depth, which must not be too great. -/

namespace SchemaLedger.Log.Pattern

/-! ## Groups -/

structure Item where
  depth : Nat
  isRepeatable : Bool
  deriving DecidableEq, Repr

structure Group where
  outside : Form
  alternatives : List Nat
  /-- The parts of the alternative that is not complete, last one first. -/
  items : List Item
  deriving DecidableEq, Repr

namespace Group

def start (outside : Form) : Group := ⟨outside, [], []⟩

def alternativeDepth (group : Group) : Nat := depthOfAll (group.items.map (·.depth))

def depth (group : Group) : Nat := depthOfAll (group.alternativeDepth :: group.alternatives)

def add (group : Group) (item : Item) : Group := { group with items := item :: group.items }

def nextAlternative (group : Group) : Group :=
  { group with alternatives := group.alternativeDepth :: group.alternatives, items := [] }

def repeatLast? (group : Group) : Option Group :=
  match group.items with
  | [] => none
  | item :: before =>
    if item.isRepeatable then some { group with items := ⟨item.depth + 1, true⟩ :: before }
    else none

end Group

/-! ## What stands at the beginning of a group -/

def isFlag (c : Char) : Bool := ['i', 'm', 's', 'U', 'u', 'R', 'x', '-'].contains c

/-- No flag comes twice, and the hyphen that takes flags back stands before one. -/
def areFlags (flags : List Char) : Bool :=
  flags.all isFlag && flags.eraseDups.length = flags.length && flags.getLast? ≠ some '-'

/-- Whether a flag is set after some flags, and before them. -/
def isSetBy (flags : List Char) (flag : Char) (before : Bool) : Bool :=
  if flags.contains flag then (flags.takeWhile (· ≠ '-')).contains flag else before

def Form.after (form : Form) (flags : List Char) : Form :=
  ⟨isSetBy flags 'x' form.isSpaced, isSetBy flags 'u' form.isUnicode⟩

def isName : List Char → Bool
  | [] => false
  | first :: rest =>
    (first = '_' || Text.isAlphabetic first) &&
      rest.all fun c => c = '_' || c = '.' || c = '[' || c = ']' || Text.isAlphanumeric c

inductive Opening where
  | flags (flags : List Char)
  | group (flags : List Char)
  | named (name : List Char)
  deriving DecidableEq, Repr

def name? (text : List Char) : Option (Opening × List Char) :=
  let name := text.takeWhile (· ≠ '>')
  match text.dropWhile (· ≠ '>') with
  | [] => none
  | _ :: rest => if isName name then some (.named name, rest) else none

def flags? (text : List Char) : Option (Opening × List Char) :=
  let flags := text.takeWhile fun c => c ≠ ':' && c ≠ ')'
  match text.dropWhile fun c => c ≠ ':' && c ≠ ')' with
  | ':' :: rest => if areFlags flags then some (.group flags, rest) else none
  | _ :: rest => if areFlags flags && flags ≠ [] then some (.flags flags, rest) else none
  | [] => none

def opening? : List Char → Option (Opening × List Char)
  | '?' :: 'P' :: '<' :: rest => name? rest
  | '?' :: '<' :: rest => name? rest
  | '?' :: rest => flags? rest
  | rest => some (.group [], rest)

/-! ## Whole patterns -/

structure State where
  form : Form
  names : List (List Char)
  group : Group
  /-- The groups around this one, the innermost first. -/
  outer : List Group

namespace State

def start : State := ⟨.usual, [], .start .usual, []⟩

def add (state : State) (item : Item) : State := { state with group := state.group.add item }

/-- Goes on behind the beginning of a group. No two groups have one name. -/
def opened? (state : State) (opening : Opening) : Option State :=
  let inside (flags : List Char) : State :=
    { state with
      form := state.form.after flags
      group := .start state.form
      outer := state.group :: state.outer }
  match opening with
  | .flags flags =>
    some { state.add ⟨0, false⟩ with form := state.form.after flags }
  | .group flags => some (inside flags)
  | .named name =>
    if state.names.contains name then none
    else some { inside [] with names := name :: state.names }

def closed? (state : State) : Option State :=
  match state.outer with
  | [] => none
  | next :: outer =>
    some { state with
      form := state.group.outside
      group := next.add ⟨state.group.depth + 1, true⟩
      outer := outer }

def next? (state : State) (c : Char) (rest : List Char) : Option (State × List Char) :=
  if c = '(' then do
    let (opening, rest) ← opening? (state.form.skip rest)
    return (← state.opened? opening, rest)
  else if c = ')' then do return (← state.closed?, rest)
  else if c = '|' then some ({ state with group := state.group.nextAlternative }, rest)
  else if c = '[' then do
    let (depth, rest) ← set? state.form rest
    return (state.add ⟨depth, true⟩, rest)
  else if c = '*' || c = '+' || c = '?' then do
    let group ← state.group.repeatLast?
    return ({ state with group := group }, if rest.head? = some '?' then rest.tail else rest)
  else if c = '\\' then do
    let (_, rest) ← escape? state.form rest
    return (state.add ⟨0, true⟩, rest)
  else if c = '\x7b' || (c = '.' && !state.form.isUnicode) then none
  else some (state.add ⟨0, true⟩, rest)

/-- The depth of a pattern, if the text goes on to its end; `fuel` bounds the parts to be read. -/
def depth? : Nat → State → List Char → Option Nat
  | 0, _, _ => none
  | fuel + 1, state, text =>
    match state.form.skip text with
    | [] => if state.outer = [] then some state.group.depth else none
    | c :: rest =>
      match state.next? c rest with
      | some (state, rest) => depth? fuel state rest
      | none => none

end State

def depthLimit : Nat := 250

def isPattern (text : List Char) : Bool :=
  (State.start.depth? (text.length + 1) text).any (· ≤ depthLimit)

/-! ## Numbers -/

def unsigned : List Char → List Char
  | '+' :: rest => rest
  | '-' :: rest => rest
  | rest => rest

/-- Digits, with a point perhaps before, between or after them. -/
def isFraction (text : List Char) : Bool :=
  let others := text.filter (!Decimal.isDigit ·)
  text.any Decimal.isDigit && (others = [] || others = ['.'])

def isNumber (text : List Char) : Bool :=
  let size := (unsigned text).map Char.toLower
  let fraction := size.takeWhile (· ≠ 'e')
  let exponent := size.dropWhile (· ≠ 'e')
  ["inf", "infinity", "nan"].contains (String.ofList size) ||
    (isFraction fraction &&
      (exponent = [] ||
        (unsigned (exponent.drop 1) ≠ [] && (unsigned (exponent.drop 1)).all Decimal.isDigit)))

def isValue (text : List Char) : Bool := isNumber text || isPattern text

end SchemaLedger.Log.Pattern
