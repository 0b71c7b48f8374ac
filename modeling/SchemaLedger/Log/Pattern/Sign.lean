import SchemaLedger.Text.Blank
import SchemaLedger.Text.Decimal
import SchemaLedger.Text.Hexadecimal

/-! # Signs of patterns

What single characters and escapes of a pattern stand for. It depends on flags, which may change
within a pattern. -/

namespace SchemaLedger.Log.Pattern

structure Form where
  isSpaced : Bool
  /-- Signs stand for characters of Unicode; otherwise for single octets. -/
  isUnicode : Bool
  deriving DecidableEq, Repr

def Form.usual : Form := ⟨false, true⟩

def skipFrom : Bool → List Char → List Char
  | _, [] => []
  -- In a comment, up to the end of the line.
  | true, c :: rest => skipFrom (c ≠ '\n') rest
  | false, c :: rest =>
    if Text.isBlank c then skipFrom false rest
    else if c = '#' then skipFrom true rest
    else c :: rest

def Form.skip (form : Form) (text : List Char) : List Char :=
  if form.isSpaced then skipFrom false text else text

/-- The next character, looked at from the one before it: behind blanks, and behind the sign of a
comment. -/
def Form.peek? (form : Form) (text : List Char) : Option Char :=
  if form.isSpaced then
    match text.dropWhile Text.isBlank with
    | '#' :: rest => (rest.dropWhile Text.isBlank).head?
    | rest => rest.head?
  else text.head?

inductive Sign where
  | character (c : Char)
  | property
  | edge
  deriving DecidableEq, Repr

def controls : List (Char × Char) :=
  [('a', '\x07'), ('f', '\x0c'), ('t', '\t'), ('n', '\n'), ('r', '\r'), ('v', '\x0b')]

def isCategory (c : Char) : Bool := ['c', 'l', 'm', 'n', 'p', 's', 'z'].contains c.toLower

def codeLength? : Char → Option Nat
  | 'x' => some 2
  | 'u' => some 4
  | 'U' => some 8
  | _ => none

def digits? (form : Form) : Nat → List Char → Option (List Char × List Char)
  | 0, rest => some ([], rest)
  | n + 1, c :: rest =>
    if (Text.Hexadecimal.value? c).isSome then do
      let (digits, rest) ← digits? form n (form.skip rest)
      return (c :: digits, rest)
    else none
  | _, [] => none

/-- Reads the code of a character. An octet beyond ASCII is no text. -/
def code? (form : Form) (length : Nat) (text : List Char) : Option (Sign × List Char) := do
  let (digits, rest) ← digits? form length (form.skip text)
  let c ← Text.Hexadecimal.character? digits
  if form.isUnicode || length ≠ 2 || c ≤ '\x7f' then some (.character c, rest) else none

def category? (form : Form) (text : List Char) : Option (Sign × List Char) :=
  match form.skip text with
  | c :: rest => if form.isUnicode && isCategory c then some (.property, form.skip rest) else none
  | [] => none

/-- What a character says behind a backslash. What is not a digit, a blank or a letter of a word
holds octets that are no text, and edges of words are only for octets. -/
def escaped? (form : Form) (c : Char) : Option Sign :=
  if c = 'd' || c = 's' || c = 'w' then some .property
  else if c = 'D' || c = 'S' || c = 'W' then if form.isUnicode then some .property else none
  else if c = 'A' || c = 'z' then some .edge
  else if c = 'b' || c = 'B' || c = '<' || c = '>' then
    if form.isUnicode then none else some .edge
  else
    match controls.lookup c with
    | some control => some (.character control)
    | none => if c ≤ '\x7f' && !c.isAlphanum then some (.character c) else none

def escape? (form : Form) : List Char → Option (Sign × List Char)
  | [] => none
  | c :: rest =>
    match codeLength? c with
    | some length => code? form length rest
    | none =>
      if c = 'p' || c = 'P' then category? form rest
      else (escaped? form c).map fun sign => (sign, rest)

/-- The depth of what is made up of parts of some depths: a single part counts as itself. -/
def depthOfAll : List Nat → Nat
  | [] => 0
  | [depth] => depth
  | depths => depths.foldl max 0 + 1

end SchemaLedger.Log.Pattern
