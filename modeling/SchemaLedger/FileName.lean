import SchemaLedger.Ident

/-! # File names

A migration file is called `<digits>-<slug>.sql`. The digits may be padded with zeros; the slug
holds any characters but a line feed. -/

namespace SchemaLedger.FileName

structure Parts where
  digits : String
  slug : String
  deriving DecidableEq, Repr

def suffix : List Char := ['.', 's', 'q', 'l']

def write (width : Nat) (id : Ident) (slug : String) : String :=
  String.ofList (Decimal.padded width id.digits ++ '-' :: slug.toList ++ suffix)

def dropSuffix? : List Char → Option (List Char)
  | [] => none
  | c :: cs => if c :: cs = suffix then some [] else (dropSuffix? cs).map (c :: ·)

/-- The slug in what follows the first dash. -/
def slug? (rest : List Char) : Option (List Char) :=
  match dropSuffix? rest with
  | some slug => if '\n' ∈ slug then none else some slug
  | none => none

/-- Splits a name at its first dash and its last `.sql`, if it fits the pattern. -/
def read? (name : String) : Option Parts :=
  let cs := name.toList
  match cs.takeWhile Decimal.isDigit, cs.dropWhile Decimal.isDigit with
  | d :: ds, '-' :: rest =>
    match slug? rest with
    | some slug => some ⟨String.ofList (d :: ds), String.ofList slug⟩
    | none => none
  | _, _ => none

end SchemaLedger.FileName
