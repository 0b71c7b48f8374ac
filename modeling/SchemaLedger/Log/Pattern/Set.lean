import SchemaLedger.Log.Pattern.Sign

/-! # Sets of characters

The part of a pattern between square brackets. Sets hold characters, ranges and other sets, and
can be combined. -/

namespace SchemaLedger.Log.Pattern

structure PartialSet where
  /-- The depths of what it holds so far, since it was last combined. -/
  items : List Nat
  /-- The depth of what is to be combined with that. -/
  left? : Option Nat
  isNew : Bool
  deriving DecidableEq, Repr

namespace PartialSet

def empty : PartialSet := ⟨[], none, true⟩

def depth (set : PartialSet) : Nat :=
  match set.left? with
  | some left => max left (depthOfAll set.items) + 1
  | none => depthOfAll set.items

def add (set : PartialSet) (depth : Nat) : PartialSet :=
  { set with items := depth :: set.items, isNew := false }

def addHyphen (set : PartialSet) : PartialSet := { set with items := 0 :: set.items }

def combined (set : PartialSet) : PartialSet := ⟨[], some set.depth, false⟩

end PartialSet

def properties : List String :=
  ["alnum", "alpha", "ascii", "blank", "cntrl", "digit", "graph", "lower", "print", "punct",
   "space", "upper", "word", "xdigit"]

def property? : List Char → Option (Bool × List Char)
  | ':' :: text =>
    let isNegated := text.head? = some '^'
    let text := if isNegated then text.tail else text
    match text.dropWhile (· ≠ ':') with
    | ':' :: ']' :: rest =>
      if properties.contains (String.ofList (text.takeWhile (· ≠ ':'))) then
        some (isNegated, rest)
      else none
    | _ => none
  | _ => none

/-- Reads a sign of a set. Only ASCII characters are octets. -/
def setSign? (form : Form) : List Char → Option (Sign × List Char)
  | [] => none
  | c :: rest => do
    let (sign, rest) ← if c = '\\' then escape? form rest else some (.character c, rest)
    match sign with
    | .character c => if form.isUnicode || c ≤ '\x7f' then some (sign, rest) else none
    | .property => some (sign, rest)
    | .edge => none

def Sign.upTo (first last : Sign) : Bool :=
  match first, last with
  | .character a, .character b => a ≤ b
  | _, _ => false

def range? (form : Form) (text : List Char) : Option (List Char) := do
  let (first, rest) ← setSign? form text
  match form.skip rest with
  | '-' :: more =>
    if form.peek? more = some ']' || form.peek? more = some '-' then some ('-' :: more)
    else do
      let (last, rest) ← setSign? form (form.skip more)
      if first.upTo last then some rest else none
  | rest => some rest

/-- Reads on behind an opening bracket. A set of octets without some of them is no text. -/
def setStart? (form : Form) (text : List Char) : Option (List Char) :=
  match form.skip text with
  | '^' :: rest => if form.isUnicode then some rest else none
  | rest => some rest

def combine (a b : Char) : Bool := a = b && (a = '&' || a = '-' || a = '~')

/-- Reads a set within others to the end of the outermost: its depth and what follows it. `fuel`
bounds the parts to be read. -/
def setFrom? (form : Form) :
    Nat → PartialSet → List PartialSet → List Char → Option (Nat × List Char)
  | 0, _, _, _ => none
  | fuel + 1, set, outer, text =>
    match form.skip text with
    | [] => none
    | c :: rest =>
      if set.isNew && c = '-' then setFrom? form fuel set.addHyphen outer rest
      else if c = '[' then
        match property? rest with
        | some (isNegated, rest) =>
          if isNegated && !form.isUnicode then none
          else setFrom? form fuel (set.add 0) outer rest
        | none =>
          match setStart? form rest with
          | some rest => setFrom? form fuel .empty ({ set with isNew := false } :: outer) rest
          | none => none
      else if c = ']' && !(set.isNew && set.items = []) then
        match outer with
        | [] => some (set.depth + 1, rest)
        | next :: outer => setFrom? form fuel (next.add (set.depth + 1)) outer rest
      else if rest.head?.any (combine c) then setFrom? form fuel set.combined outer rest.tail
      else if c = ']' then setFrom? form fuel (set.add 0) outer rest
      else
        match range? form (c :: rest) with
        | some rest => setFrom? form fuel (set.add 0) outer rest
        | none => none

def set? (form : Form) (text : List Char) : Option (Nat × List Char) := do
  setFrom? form (text.length + 1) .empty [] (← setStart? form text)

end SchemaLedger.Log.Pattern
