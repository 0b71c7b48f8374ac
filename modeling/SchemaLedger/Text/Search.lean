/-! # Searching text -/

namespace SchemaLedger.Text

def occursIn (needle : List Char) : List Char → Bool
  | [] => needle.isEmpty
  | c :: cs => needle.isPrefixOf (c :: cs) || occursIn needle cs

end SchemaLedger.Text
