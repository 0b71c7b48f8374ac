import SchemaLedger.Text.Canonical
import SchemaLedger.Text.Mark
import SchemaLedger.Text.Octets
import SchemaLedger.Text.Split
import SchemaLedger.Url.Direction
import SchemaLedger.Url.Joiner
import SchemaLedger.Url.Punycode
import SchemaLedger.Url.Spelling

/-! # Domain names

Labels with dots between them, in any script. A label that holds other characters than ASCII can
also be spelled in Punycode, behind a mark of its own. -/

namespace SchemaLedger.Url.Domain

abbrev Label := List Char

def written? (text : List Char) : Option (List Char) :=
  (text.mapM Spelling.of?).map fun spellings => Text.Canonical.form spellings.flatten

def isForeign (c : Char) : Bool := c < ' ' || c = '\x7f' || Spelling.isDelimiter c

def isAscii (label : Label) : Bool := label.all (· ≤ '\x7f')

/-- The most characters of a label that are spelled in Punycode. -/
def longestText : Nat := 1000

/-- The most characters that spell a label in Punycode. -/
def longestSpelling : Nat := 2000

/-- A label begins with no mark, and the joiners in it matter. -/
def isWellFormed (label : Label) : Bool :=
  !label.any isForeign &&
    (isAscii label ||
      !label.head?.any Text.isMark && Joiner.allMatter [] label && label.length ≤ longestText)

def mark : List Char := ['x', 'n', '-', '-']

/-- The label that is spelled in Punycode. It must be worth it, and written as labels are. -/
def spelled? (spelling : List Char) : Option Label :=
  if longestSpelling < spelling.length then none
  else
    match Punycode.decode? spelling with
    | some label => if !isAscii label && written? label = some label then some label else none
    | none => none

def read? (label : Label) : Option Label := do
  let text ← if mark.isPrefixOf label then spelled? (label.drop mark.length) else some label
  if isWellFormed text then some text else none

/-- The labels of a domain name, if it is one. -/
def labels? (name : Octets) : Option (List Label) := do
  let labels ← (Text.split '.' (← written? (← Text.ofOctets? name).toList)).mapM read?
  if Direction.agree labels then some labels else none

end SchemaLedger.Url.Domain
