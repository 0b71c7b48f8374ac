import SchemaLedger.Event
import SchemaLedger.Log.Pattern
import SchemaLedger.Text.Blank
import SchemaLedger.Text.Octets
import SchemaLedger.Text.Split
import SchemaLedger.Text.Alphanumeric

/-! # Log filters

Which events are written. A filter is a list of rules, written with commas between them; of the
rules that apply to an event, the most specific decides. A rule reads
`part[span{field}]=level`, and all of it but one of its parts may be missing. -/

namespace SchemaLedger.Log

/-- Events are written up to a level; none without a level. -/
structure Rule where
  target? : Option String
  field? : Option String
  level? : Option Level
  deriving DecidableEq, Repr

abbrev Filter := List Rule

namespace Rule

def applies (rule : Rule) (event : Event) : Bool :=
  (rule.target?.all fun target => target.toList.isPrefixOf event.target.toList) &&
    rule.field?.all fun field => event.fieldNames.contains field

def reach (rule : Rule) : Nat :=
  match rule.target? with
  | some target => target.utf8ByteSize + 1
  | none => 0

/-- Whether a rule gives way to another if both apply to an event. Of two rules of one reach,
one with a field is more specific, and of two fields the one that comes later by name. -/
def givesWayTo (rule other : Rule) : Bool :=
  rule.reach < other.reach ||
    (rule.reach == other.reach &&
      match rule.field?, other.field? with
      | none, _ => true
      | some _, none => false
      | some a, some b => (Text.octets a).precedes (Text.octets b))

end Rule

namespace Filter

def moreSpecific (best? : Option Rule) (rule : Rule) : Option Rule :=
  match best? with
  | some best => if best.givesWayTo rule then some rule else some best
  | none => some rule

def allows (rules : Filter) (event : Event) : Bool :=
  match (rules.filter (·.applies event)).foldl moreSpecific none with
  | some rule => rule.level?.any fun most => event.level.detail ≤ most.detail
  | none => false

end Filter

/-! ## Filters as text -/

def numbered? : Nat → Option (Option Level)
  | 0 => some none
  | 1 => some (some .error)
  | 2 => some (some .warn)
  | 3 => some (some .info)
  | 4 => some (some .debug)
  | 5 => some (some .trace)
  | _ => none

/-- The level of a name in any case, or of its number; `off` is no level. -/
def level? (text : String) : Option (Option Level) :=
  match Decimal.readUnsigned Decimal.maxUInt64 text.toList with
  | .ok n => numbered? n
  | .error _ =>
    match String.ofList (text.toList.map Char.toLower) with
    | "off" => some none
    | "error" => some (some .error)
    | "warn" => some (some .warn)
    | "info" => some (some .info)
    | "debug" => some (some .debug)
    | "trace" => some (some .trace)
    | _ => none

/-- A rule being read. Its parts are found in the text without the blanks around it, but taken
from the same places of the text as it is given. -/
structure Cursor where
  trimmed : Octets
  given : Octets

namespace Cursor

def drop (cursor : Cursor) (n : Nat) : Cursor := ⟨cursor.trimmed.drop n, cursor.given.drop n⟩

def before (cursor : Cursor) (ends : List Char) : Octets × Cursor :=
  let n := (cursor.trimmed.takeWhile fun b => !(ends.map Text.octet).contains b).length
  (cursor.given.take n, cursor.drop n)

def past? (cursor : Cursor) (c : Char) : Option Cursor :=
  if cursor.trimmed.head? = some (Text.octet c) then some (cursor.drop 1) else none

/-- The level that the rest of a rule gives; every level is meant if it is missing. -/
def level? (cursor : Cursor) : Option (Option Level) :=
  if cursor.given = [] then some (some .trace)
  else do Log.level? (← Text.ofOctets? cursor.given)

def end? (cursor : Cursor) : Option (Option Level) :=
  if cursor.trimmed = [] then some (some .trace) else do (← cursor.past? '=').level?

end Cursor

structure Scope where
  span : Octets
  field? : Option Octets

namespace Scope

def isField (text : List Char) : Bool :=
  match Text.split '=' text with
  | _ :: value :: _ => Pattern.isValue value
  | _ => true

def read? (cursor : Cursor) : Option (Scope × Cursor) :=
  let (span, rest) := cursor.before [']', '\x7b']
  match rest.past? ']' with
  | some rest => some (⟨span, none⟩, rest)
  | none => do
    let (field, rest) := (← rest.past? '\x7b').before ['\x7d']
    if field = [] || !isField (← Text.ofOctets? field).toList then none
    else return (⟨span, some field⟩, ← (← rest.past? '\x7d').past? ']')

/-- The field that an event must have, unless the scope is about spans or values, which no event
has. -/
def field (scope : Scope) : Option Octets :=
  match scope.field? with
  | some field => if scope.span = [] && !field.contains (Text.octet '=') then field else none
  | none => none

end Scope

/-- Reads a scope and what follows it. No event falls under a rule about spans. -/
def scopedRule? (target? : Option String) (cursor : Cursor) : Option (Option Rule) := do
  let (scope, rest) ← Scope.read? cursor
  let level ← rest.end?
  match scope.field with
  | some field => return some ⟨target?, some (← Text.ofOctets? field), level⟩
  | none => return none

def beginsTarget (c : Char) : Bool :=
  c = '-' || c = ':' || c = '_' || Text.isAlphanumeric c

def trim (text : List Char) : List Char :=
  ((text.dropWhile Text.isBlank).reverse.dropWhile Text.isBlank).reverse

def targetedRule? (cursor : Cursor) : Option (Option Rule) := do
  let (target, rest) := cursor.before ['=', '[']
  match rest.past? '=', rest.past? '[' with
  | some rest, _ => return some ⟨some (← Text.ofOctets? target), none, ← rest.level?⟩
  | _, some rest => scopedRule? (some (← Text.ofOctets? target)) rest
  | _, _ =>
    let whole ← Text.ofOctets? cursor.given
    match level? whole with
    | some level => return some ⟨none, none, level⟩
    | none => return some ⟨some whole, none, some .trace⟩

/-- The rule of a text, if it can be read; a rule about spans counts but is none for events. -/
def rule? (text : List Char) : Option (Option Rule) :=
  let trimmed := trim text
  let cursor := Cursor.mk (Text.octets (String.ofList trimmed)) (Text.octets (String.ofList text))
  match trimmed with
  | [] => none
  | c :: _ =>
    if c = '[' then scopedRule? none (cursor.drop 1)
    else if beginsTarget c then targetedRule? cursor
    else none

/-- The filter of a text, if every rule in it can be read. Without rules, only errors are
written. -/
def filter? (text : String) : Option Filter := do
  let parts := (Text.split ',' text.toList).filter (· ≠ [])
  let rules ← parts.mapM rule?
  if rules.isEmpty then some [⟨none, none, some .error⟩] else some (rules.filterMap id)

end SchemaLedger.Log
