import SchemaLedger.Text.Hexadecimal

/-! # Quotations in a configuration file

A quotation is a text between quotes. Double quotes admit escapes, single quotes do not; three
quotes in place of one admit line feeds. Each reader starts after the opening quotes and returns
what is quoted and what follows the closing quotes. -/

namespace SchemaLedger.Config

/-- Characters that may stand for themselves: no control characters but the tab. -/
def isPlain (c : Char) : Bool := c = '\t' || (' ' ≤ c && c ≠ '\x7f')

def isGap (c : Char) : Bool := c = ' ' || c = '\t'

abbrev Found (α : Type) := Option (α × List Char)

def Found.cons (c : Char) (found : Found (List Char)) : Found (List Char) :=
  found.map fun (text, rest) => (c :: text, rest)

def escaped? : Char → Option Char
  | 'b' => some '\x08'
  | 't' => some '\t'
  | 'n' => some '\n'
  | 'f' => some '\x0c'
  | 'r' => some '\r'
  | '"' => some '"'
  | '\\' => some '\\'
  | _ => none

def basic : List Char → Found (List Char)
  | [] => none
  | '"' :: rest => some ([], rest)
  | '\\' :: 'u' :: a :: b :: c :: d :: rest =>
    match Text.Hexadecimal.character? [a, b, c, d] with
    | some found => (basic rest).cons found
    | none => none
  | '\\' :: 'U' :: a :: b :: c :: d :: e :: f :: g :: h :: rest =>
    match Text.Hexadecimal.character? [a, b, c, d, e, f, g, h] with
    | some found => (basic rest).cons found
    | none => none
  | '\\' :: c :: rest =>
    match escaped? c with
    | some found => (basic rest).cons found
    | none => none
  | c :: rest => if isPlain c && c ≠ '\\' then (basic rest).cons c else none

def literal : List Char → Found (List Char)
  | [] => none
  | '\'' :: rest => some ([], rest)
  | c :: rest => if isPlain c then (literal rest).cons c else none

/-- Whether only gaps stand before the end of the line. -/
def endsLine (cs : List Char) : Bool :=
  match cs.dropWhile isGap with
  | '\n' :: _ => true
  | '\r' :: '\n' :: _ => true
  | _ => false

/-- A quotation between three double quotes. Up to two quotes may stand right before the closing
ones. `trimming` skips gaps and line ends after a backslash at the end of a line. -/
def basicBlock (trimming : Bool) : List Char → Found (List Char)
  | [] => none
  | '"' :: '"' :: '"' :: '"' :: '"' :: rest => some (['"', '"'], rest)
  | '"' :: '"' :: '"' :: '"' :: rest => some (['"'], rest)
  | '"' :: '"' :: '"' :: rest => some ([], rest)
  | '\r' :: '\n' :: rest =>
    if trimming then basicBlock true rest else (basicBlock false rest).cons '\n'
  | '\n' :: rest => if trimming then basicBlock true rest else (basicBlock false rest).cons '\n'
  | '\\' :: 'u' :: a :: b :: c :: d :: rest =>
    match Text.Hexadecimal.character? [a, b, c, d] with
    | some found => (basicBlock false rest).cons found
    | none => none
  | '\\' :: 'U' :: a :: b :: c :: d :: e :: f :: g :: h :: rest =>
    match Text.Hexadecimal.character? [a, b, c, d, e, f, g, h] with
    | some found => (basicBlock false rest).cons found
    | none => none
  | '\\' :: c :: rest =>
    if endsLine (c :: rest) then basicBlock true (c :: rest)
    else
      match escaped? c with
      | some found => (basicBlock false rest).cons found
      | none => none
  | c :: rest =>
    if trimming && isGap c then basicBlock true rest
    else if isPlain c && c ≠ '\\' then (basicBlock false rest).cons c
    else none

/-- A quotation between three single quotes, with up to two more before the closing ones. -/
def literalBlock : List Char → Found (List Char)
  | [] => none
  | '\'' :: '\'' :: '\'' :: '\'' :: '\'' :: rest => some (['\'', '\''], rest)
  | '\'' :: '\'' :: '\'' :: '\'' :: rest => some (['\''], rest)
  | '\'' :: '\'' :: '\'' :: rest => some ([], rest)
  | '\r' :: '\n' :: rest => (literalBlock rest).cons '\n'
  | '\n' :: rest => (literalBlock rest).cons '\n'
  | c :: rest => if isPlain c then (literalBlock rest).cons c else none

/-- A line end right after the three opening quotes is not part of the quotation. -/
def dropLineEnd : List Char → List Char
  | '\r' :: '\n' :: rest => rest
  | '\n' :: rest => rest
  | cs => cs

def inlineQuotation : List Char → Found (List Char)
  | '"' :: rest => basic rest
  | '\'' :: rest => literal rest
  | _ => none

def quotation : List Char → Found (List Char)
  | '"' :: '"' :: '"' :: rest => basicBlock false (dropLineEnd rest)
  | '\'' :: '\'' :: '\'' :: rest => literalBlock (dropLineEnd rest)
  | cs => inlineQuotation cs

end SchemaLedger.Config
