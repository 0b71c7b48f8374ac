import SchemaLedger.Text.Blank

/-! # Slugs

The part of a file name that describes a migration. Runs of separators in a description become
one underscore each. -/

namespace SchemaLedger.Slug

def isSeparator (c : Char) : Bool :=
  c == '-' || c == '.' || c == '_' || c == '/' || Text.isBlank c

/-- Replaces runs of separators; `inside` says whether a run is under way. -/
def squeeze (inside : Bool) : List Char → List Char
  | [] => []
  | c :: cs =>
    if isSeparator c then
      if inside then squeeze true cs else '_' :: squeeze true cs
    else c :: squeeze false cs

def ofText (raw : String) : String := String.ofList (squeeze false raw.toList)

end SchemaLedger.Slug
