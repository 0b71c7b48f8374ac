import SchemaLedger.Text.Split

/-! # Lines

Lines end at a line feed and at nothing else. In what a program prints, a carriage return right
before the line feed belongs to the end of the line. -/

namespace SchemaLedger.Text

/-- The lines of a text without their line feeds. What follows the last line feed is a line even
if it is empty. -/
def lines (text : List Char) : List (List Char) := split '\n' text

def withoutReturn (line : List Char) : List Char :=
  if line.getLast? = some '\r' then line.dropLast else line

/-- The lines of a text that is printed with a line feed after it. -/
def printedLines (s : String) : List String :=
  (lines s.toList).map fun line => String.ofList (withoutReturn line)

def firstLine (s : String) : String := (printedLines s).headD ""

end SchemaLedger.Text
