import SchemaLedger.Text.Canonical.Class
import SchemaLedger.Text.Canonical.Composite

/-! # Canonical form

Texts that look the same are brought to one form: every character is taken apart, marks are put
in order, and what can be one character becomes one. -/

namespace SchemaLedger.Text.Canonical

/-! ## Syllables

The syllables of Hangul are composites by number: of a leading consonant, a vowel and perhaps a
trailing consonant. -/

def firstLead : Nat := 0x1100

def firstVowel : Nat := 0x1161

/-- The number before the first trailing consonant, which stands for none. -/
def noTrail : Nat := 0x11A7

def firstSyllable : Nat := 0xAC00

def leads : Nat := 19

def vowels : Nat := 21

def trails : Nat := 28

def syllableParts? (c : Char) : Option (List Char) :=
  let n := c.toNat - firstSyllable
  if firstSyllable ≤ c.toNat && n < leads * vowels * trails then
    let trail := n % trails
    some ([firstLead + n / (vowels * trails), firstVowel + n / trails % vowels].map Char.ofNat ++
      if trail = 0 then [] else [Char.ofNat (noTrail + trail)])
  else none

def syllable? (a b : Char) : Option Char :=
  let lead := a.toNat - firstLead
  let vowel := b.toNat - firstVowel
  let openPart := a.toNat - firstSyllable
  let trail := b.toNat - noTrail
  if firstLead ≤ a.toNat && lead < leads && firstVowel ≤ b.toNat && vowel < vowels then
    some (Char.ofNat (firstSyllable + (lead * vowels + vowel) * trails))
  else if firstSyllable ≤ a.toNat && openPart < leads * vowels * trails && openPart % trails = 0 &&
      noTrail < b.toNat && trail < trails then
    some (Char.ofNat (a.toNat + trail))
  else none

/-! ## Taking apart and putting together -/

/-- The parts of a character; `depth` bounds how often a first part is itself taken apart. -/
def parts : Nat → Char → List Char
  | 0, c => [c]
  | depth + 1, c =>
    match syllableParts? c, replacements.lookup c, allComposites.find? (·.whole = c) with
    | some parts, _, _ => parts
    | _, some other, _ => parts depth other
    | _, _, some composite => parts depth composite.first ++ [composite.second]
    | _, _, _ => [c]

def layers : Nat := 3

def decompose (c : Char) : List Char := if c < '\xc0' then [c] else parts layers c

/-- Puts a character in front of others: behind the marks that come before it by class. -/
def insert (c : Char) : List Char → List Char
  | [] => [c]
  | d :: rest =>
    if combiningClass d ≠ 0 && combiningClass d < combiningClass c then d :: insert c rest
    else c :: d :: rest

/-- Orders marks that stand together by their class, and otherwise keeps the order. -/
def ordered (text : List Char) : List Char := text.foldr insert []

def compose? (a b : Char) : Option Char :=
  match syllable? a b with
  | some c => some c
  | none => (composites.find? fun pair => pair.first = a && pair.second = b).map (·.whole)

/-- Puts together what follows a character that is no mark. Marks that stay on it are kept, last
one first, and block those of their class and all that comes behind them without a class. -/
def composeFrom (start : Char) (kept : List Char) : List Char → List Char
  | [] => start :: kept.reverse
  | c :: rest =>
    let isBlocked := kept.head?.any fun mark => combiningClass c ≤ combiningClass mark
    match if isBlocked then none else compose? start c with
    | some whole => composeFrom whole kept rest
    | none =>
      if combiningClass c = 0 then start :: kept.reverse ++ composeFrom c [] rest
      else composeFrom start (c :: kept) rest

def compose : List Char → List Char
  | [] => []
  | c :: rest => if combiningClass c = 0 then composeFrom c [] rest else c :: compose rest

/-- The canonical form of a text. -/
def form (text : List Char) : List Char := compose (ordered (text.flatMap decompose))

end SchemaLedger.Text.Canonical
