import SchemaLedger.Text.Combining
import SchemaLedger.Text.Hexadecimal
import SchemaLedger.Text.Unprintable

/-! # Quoted text

The form in which a message shows a text that may hold anything: in double quotes, with every
character that would not stand for itself on a screen escaped. -/

namespace SchemaLedger.Text

/-- The fillers of Hangul: letters, but blank ones. -/
def isFiller (c : Char) : Bool :=
  c = '\u115f' || c = '\u1160' || c = '\u3164' || c = '\uffa0'

/-- The voice marks of halfwidth Katakana: they combine, but take a place of their own. -/
def isVoiceMark (c : Char) : Bool := c = '\uff9e' || c = '\uff9f'

def isVisible (c : Char) : Bool :=
  isVoiceMark c || !(isCombining c || isUnprintable c || isFiller c)

def escape (c : Char) : List Char :=
  if c = '"' then ['\\', '"']
  else if c = '\\' then ['\\', '\\']
  else if c = '\n' then ['\\', 'n']
  else if c = '\r' then ['\\', 'r']
  else if c = '\t' then ['\\', 't']
  else if c = '\x00' then ['\\', '0']
  else if isVisible c then [c]
  else ['\\', 'u', '\x7b'] ++ Hexadecimal.digits c.toNat ++ ['\x7d']

def quoted (s : String) : String := String.ofList ('"' :: s.toList.flatMap escape ++ ['"'])

end SchemaLedger.Text
