import SchemaLedger.Config.Quotation

/-! # Configuration files

A configuration file assigns texts to keys, one assignment a line. Anything else that its
general format knows, such as a table or a number, has no meaning as configuration and is
refused. -/

namespace SchemaLedger.Config

structure Assignment where
  key : String
  value : String
  deriving DecidableEq, Repr

def isKeyCharacter (c : Char) : Bool :=
  ('a' ≤ c && c ≤ 'z') || ('A' ≤ c && c ≤ 'Z') || ('0' ≤ c && c ≤ '9') || c = '_' || c = '-'

/-- A key, either bare or quoted. -/
def key : List Char → Found (List Char)
  | [] => none
  | c :: rest =>
    if isKeyCharacter c then
      some (c :: rest.takeWhile isKeyCharacter, rest.dropWhile isKeyCharacter)
    else inlineQuotation (c :: rest)

def dropGaps (cs : List Char) : List Char := cs.dropWhile isGap

def dropComment : List Char → List Char
  | '#' :: rest => rest.dropWhile isPlain
  | cs => cs

/-- What follows the end of a line, if nothing but a comment stands before it. -/
def lineEnd (cs : List Char) : Option (List Char) :=
  match dropComment (dropGaps cs) with
  | [] => some []
  | '\n' :: rest => some rest
  | '\r' :: '\n' :: rest => some rest
  | _ => none

def assignment (cs : List Char) : Option (Assignment × List Char) := do
  let (name, rest) ← key (dropGaps cs)
  match dropGaps rest with
  | '=' :: rest =>
    let (value, rest) ← quotation (dropGaps rest)
    let rest ← lineEnd rest
    some (⟨String.ofList name, String.ofList value⟩, rest)
  | _ => none

def assignmentsWithin : Nat → List Char → Option (List Assignment)
  | _, [] => some []
  | 0, _ => none
  | n + 1, cs =>
    match lineEnd cs with
    | some rest => assignmentsWithin n rest
    | none => do
      let (found, rest) ← assignment cs
      let others ← assignmentsWithin n rest
      some (found :: others)

/-- The assignments of a file, which may begin with a byte order mark. -/
def assignments (content : String) : Option (List Assignment) :=
  match content.toList with
  | '\uFEFF' :: cs => assignmentsWithin cs.length cs
  | cs => assignmentsWithin cs.length cs

end SchemaLedger.Config
