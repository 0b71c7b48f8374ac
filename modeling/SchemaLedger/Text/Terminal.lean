import SchemaLedger.Text.Octets
import SchemaLedger.Text.Quoted

/-! # Text on a terminal

A terminal takes some characters as commands. `strip` leaves out the commands of a text, and
`disarm` spells the characters that begin them. -/

namespace SchemaLedger.Text.Terminal

inductive Mode where
  | plain
  | escape
  | named
  | control
  | device
  | deviceParameter
  | deviceFiller
  /-- A string that is not for the screen, up to an escape character or its own end. -/
  | string
  /-- A string for the operating system, which a bell ends as well. -/
  | system
  deriving DecidableEq, Repr

/-- Blanks that move the cursor, and so are shown, in and between commands. -/
def isMotion (c : Char) : Bool := c = '\t' || c = '\n' || c = '\x0c' || c = '\r'

def Mode.afterEscape (c : Char) : Mode :=
  if ' ' ≤ c && c ≤ '/' then named
  else if c = '[' then control
  else if c = ']' then system
  else if c = 'P' then device
  else if c = 'X' || c = '^' || c = '_' then string
  else plain

/-- Whether a character beyond ASCII ends a string: one of its octets is the mark for that. -/
def endsString (c : Char) : Bool := (Text.octets (String.singleton c)).contains 0x9C

def Mode.afterOther (mode : Mode) (c : Char) : Mode :=
  if mode = string && endsString c then plain else mode

def Mode.within (mode : Mode) (c : Char) : Mode :=
  match mode with
  | plain => plain
  | escape => afterEscape c
  | named => if c ≤ '/' then named else plain
  | control => if c ≤ '?' then control else plain
  | device => if c ≤ '/' then deviceFiller else if c ≤ '?' then deviceParameter else string
  | deviceParameter =>
    if c ≤ '/' then deviceFiller else if c ≤ ';' then deviceParameter else string
  | deviceFiller => if c ≤ '/' then deviceFiller else string
  | string => string
  | system => system

def Mode.breaksOff (mode : Mode) : Bool :=
  mode = plain || mode = escape || mode = named || mode = control

/-- The mode after a character, and whether the character is shown. -/
def Mode.next (mode : Mode) (c : Char) : Mode × Bool :=
  -- Two control characters cancel a command, and an escape character begins another.
  if c = '\x18' || c = '\x1a' then (plain, false)
  else if c = '\x1b' then (escape, false)
  else if '\x7f' < c then (mode.afterOther c, mode = plain)
  else if c = '\x7f' then (mode, false)
  else if c < ' ' then
    if mode = system && c = '\x07' then (plain, false)
    else if mode.breaksOff && isMotion c then (plain, true)
    else (mode, false)
  else (mode.within c, mode = plain)

def stripFrom : Mode → List Char → List Char
  | _, [] => []
  | mode, c :: rest =>
    match mode.next c with
    | (after, true) => c :: stripFrom after rest
    | (after, false) => stripFrom after rest

def strip (s : String) : String := String.ofList (stripFrom .plain s.toList)

/-- Characters that may begin a command or act like one. -/
def isArmed (c : Char) : Bool :=
  c = '\x07' || c = '\x08' || c = '\x0c' || c = '\x1b' || c = '\x7f'

def disarmCharacter (c : Char) : List Char :=
  if isArmed c then
    let digits := Hexadecimal.digits c.toNat
    '\\' :: 'x' :: List.replicate (2 - digits.length) '0' ++ digits
  else if '\x80' ≤ c && c ≤ '\x9f' then
    ['\\', 'u', '\x7b'] ++ Hexadecimal.digits c.toNat ++ ['\x7d']
  else [c]

def disarm (s : String) : String := String.ofList (s.toList.flatMap disarmCharacter)

end SchemaLedger.Text.Terminal
