import SchemaLedger.Text.Octets
import SchemaLedger.Url.Address
import SchemaLedger.Url.Domain

/-! # URLs

A URL begins with a scheme. Behind two slashes an authority may follow: a user, a host and a port.
Then come a path and a query. The schemes of the web have stricter hosts and looser slashes. -/

namespace SchemaLedger

/-- What a URL says about a place: all of it but the scheme, the path and the fragment. -/
structure Url where
  user : Octets
  password : Octets
  /-- The host as it is written; empty if there is none. -/
  host : Octets
  port? : Option Nat
  query : List Char
  deriving DecidableEq, Repr

namespace Url

inductive Problem where
  | noScheme
  | emptyHost
  | hostCharacter
  | domainName
  | ipv4Address
  | ipv6Address
  | portNumber
  deriving DecidableEq, Repr

def Problem.message : Problem → String
  | noScheme => "relative URL without a base"
  | emptyHost => "empty host"
  | hostCharacter => "invalid domain character"
  | domainName => "invalid international domain name"
  | ipv4Address => "invalid IPv4 address"
  | ipv6Address => "invalid IPv6 address"
  | portNumber => "invalid port number"

/-! ## Schemes -/

def isSchemeCharacter (c : Char) : Bool :=
  c.isAlpha || Decimal.isDigit c || c = '+' || c = '-' || c = '.'

def splitScheme? (cs : List Char) : Option (List Char × List Char) :=
  if (cs.head?.map Char.isAlpha).getD false then
    match cs.dropWhile isSchemeCharacter with
    | ':' :: rest => some (cs.takeWhile isSchemeCharacter, rest)
    | _ => none
  else none

inductive Kind where
  | web
  | file
  | other
  deriving DecidableEq, Repr

def Kind.ofScheme (scheme : List Char) : Kind :=
  match String.ofList (scheme.map Char.toLower) with
  | "http" | "https" | "ws" | "wss" | "ftp" => web
  | "file" => file
  | _ => other

/-- A backslash is a slash, except where schemes are not known. -/
def Kind.isSlash (kind : Kind) (c : Char) : Bool := c = '/' || (c = '\\' && kind ≠ other)

/-! ## Paths and queries -/

def endsPath (c : Char) : Bool := c = '?' || c = '#'

def queryOf (cs : List Char) : List Char :=
  match cs.dropWhile fun c => !endsPath c with
  | '?' :: rest => rest.takeWhile (· ≠ '#')
  | _ => []

def decodedOctets (cs : List Char) : Octets := percentDecoded (Text.octets (String.ofList cs))

def withoutAuthority (cs : List Char) : Url := ⟨[], [], [], none, queryOf cs⟩

/-! ## Hosts -/

def isForbidden (c : Char) : Bool :=
  c = '\x00' || (Spelling.isDelimiter c && c ≠ '%')

def readDomain (cs : List Char) : Except Problem Octets :=
  match Domain.labels? (decodedOctets cs) with
  | none => .error .domainName
  | some labels =>
    let name := Text.unsplit '.' labels
    if name = [] then .error .emptyHost
    else if endsInNumber labels && !isNumericAddress labels then .error .ipv4Address
    else .ok (Text.octets (String.ofList name))

def Kind.readHost (kind : Kind) : List Char → Except Problem Octets
  | '[' :: cs =>
    if cs.getLast? = some ']' && isIpv6 cs.dropLast
    then .ok (Text.octets (String.ofList ('[' :: cs)))
    else .error .ipv6Address
  | cs =>
    if kind ≠ .other then readDomain cs
    else if cs.any isForbidden then .error .hostCharacter
    else .ok (decodedOctets cs)

/-! ## Authorities -/

def Kind.endsAuthority (kind : Kind) (c : Char) : Bool := kind.isSlash c || endsPath c

def splitUser? : List Char → Option (List Char × List Char)
  | [] => none
  | c :: cs =>
    match splitUser? cs with
    | some (user, rest) => some (c :: user, rest)
    | none => if c = '@' then some ([], cs) else none

/-- The host of an authority and what follows it; a colon between brackets is part of the host. -/
def splitHost (inBrackets : Bool) : List Char → List Char × List Char
  | [] => ([], [])
  | c :: cs =>
    if c = ':' && !inBrackets then ([], c :: cs)
    else
      let (host, rest) := splitHost ((inBrackets || c = '[') && c ≠ ']') cs
      (c :: host, rest)

def readPort (cs : List Char) : Except Problem (Option Nat × List Char) :=
  let digits := cs.takeWhile Decimal.isDigit
  let rest := cs.dropWhile Decimal.isDigit
  if Decimal.maxUInt16 < Decimal.value digits || rest.head?.any (· ≠ '\\') then .error .portNumber
  else .ok (if digits = [] then none else some (Decimal.value digits), rest)

/-- Reads a host and a port, and what follows a port inside the authority. Without a host there
is neither a port nor, unless it is empty, a user. -/
def Kind.readPlace (kind : Kind) (hasUser : Bool) (place : List Char) :
    Except Problem (Octets × Option Nat × List Char) := do
  let (written, rest) := splitHost false place
  if written = [] && kind = .web then throw .emptyHost
  let host ← kind.readHost written
  match rest with
  | ':' :: number =>
    if host = [] then throw .emptyHost
    let (port?, rest) ← readPort number
    return (host, port?, rest)
  | _ => if host = [] && hasUser then throw .emptyHost else return (host, none, rest)

def Kind.readAuthority (kind : Kind) (cs : List Char) : Except Problem Url := do
  let authority := cs.takeWhile fun c => !kind.endsAuthority c
  let rest := cs.dropWhile fun c => !kind.endsAuthority c
  let (user, place) := (splitUser? authority).getD ([], authority)
  if user = [] && place ≠ authority && place = [] && rest ≠ [] then throw .emptyHost
  let (host, port?, more) ← kind.readPlace (user ≠ [] && user ≠ [':']) place
  let name := user.takeWhile (· ≠ ':')
  let password := (user.dropWhile (· ≠ ':')).drop 1
  return { withoutAuthority (more ++ rest) with
    user := decodedOctets name, password := decodedOctets password, host := host, port? := port? }

/-- The name of a drive is a letter with a colon or a bar. -/
def isDrive : List Char → Bool
  | [letter, c] => letter.isAlpha && (c = ':' || c = '|')
  | _ => false

/-- Reads what follows the scheme of a file: after two slashes a host, unless that is a drive. -/
def readFile : List Char → Except Problem Url
  | first :: second :: rest =>
    let host := rest.takeWhile fun c => !Kind.file.endsAuthority c
    if !(Kind.file.isSlash first && Kind.file.isSlash second) || host = [] || isDrive host then
      .ok (withoutAuthority (first :: second :: rest))
    else do return { withoutAuthority rest with host := ← Kind.file.readHost host }
  | rest => .ok (withoutAuthority rest)

/-! ## Whole URLs -/

/-- Spaces and control characters around a URL are no part of it, nor are line ends and tabs
inside. -/
def trimmed (cs : List Char) : List Char :=
  let outer := (cs.dropWhile (· ≤ ' ')).reverse.dropWhile (· ≤ ' ') |>.reverse
  outer.filter fun c => c ≠ '\t' && c ≠ '\n' && c ≠ '\r'

def read (text : String) : Except Problem Url :=
  match splitScheme? (trimmed text.toList) with
  | none => .error .noScheme
  | some (scheme, rest) =>
    match Kind.ofScheme scheme, rest with
    | .web, _ => Kind.web.readAuthority (rest.dropWhile Kind.web.isSlash)
    | .file, _ => readFile rest
    | .other, '/' :: '/' :: rest => Kind.other.readAuthority rest
    | .other, _ => .ok (withoutAuthority rest)

end Url

end SchemaLedger
