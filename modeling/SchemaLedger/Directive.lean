import SchemaLedger.Text.Lines

/-! # The no-transaction directive

A migration that has a line beginning with the directive runs outside any transaction. -/

namespace SchemaLedger.Directive

def marker : String := "--drift:no-transaction"

/-- Whether some line of the content begins with the directive. -/
def skipsTransaction (content : String) : Bool :=
  (Text.lines content.toList).any fun line => marker.toList.isPrefixOf line

end SchemaLedger.Directive
