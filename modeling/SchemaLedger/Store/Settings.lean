import SchemaLedger.Store.Error
import SchemaLedger.Text.Flaw
import SchemaLedger.Text.Quoted
import SchemaLedger.Url

/-! # Connection settings

What a URL says about a connection. The parameters of its query come last and take precedence;
settings that cannot be read are errors, of which the first counts. -/

namespace SchemaLedger.Store

structure Settings where
  /-- The directory of a socket, which takes precedence over a host in the network. -/
  socket? : Option String
  port : Nat
  deriving DecidableEq, Repr

namespace Settings

def default : Settings := ⟨none, 5432⟩

def encryptions : List String :=
  ["disable", "allow", "prefer", "require", "verify-ca", "verify-full"]

def checkEncryption (value : String) : Except DriverError Unit :=
  if encryptions.contains (String.ofList (value.toList.map Char.toLower)) then .ok ()
  else .error (.misconfigured
    (.configuration ("unknown value " ++ Text.quoted value ++ " for `ssl_mode`")))

def checkAddress (value : String) : Except DriverError Unit :=
  if Url.isIpv4 value.toList || Url.isIpv6 value.toList then .ok ()
  else .error (.configuration "invalid IP address syntax")

def readNumber (bound : Nat) (value : String) : Except DriverError Nat :=
  (Decimal.readUnsigned bound value.toList).mapError fun problem => .configuration problem.message

def readText (part : Octets) : Except DriverError String :=
  match Text.Flaw.find? part with
  | some flaw => .error (.configuration flaw.message)
  | none => .ok (Text.lossy part)

/-- Takes in a parameter. Those that have no say in where the server is are passed over once they
have been read. -/
def set (settings : Settings) (parameter : String × String) : Except DriverError Settings :=
  let (name, value) := parameter
  match name with
  | "sslmode" | "ssl-mode" => do
    checkEncryption value
    return settings
  | "statement-cache-capacity" => do
    let _ ← readNumber Decimal.maxUInt64 value
    return settings
  | "host" =>
    .ok (if value.startsWith "/" then { settings with socket? := some value } else settings)
  | "hostaddr" => do
    checkAddress value
    return settings
  | "port" => do return { settings with port := ← readNumber Decimal.maxUInt16 value }
  | _ => .ok settings

/-- The settings of a URL. A host that begins with a slash is the directory of a socket. -/
def ofUrl (url : Url) : Except DriverError Settings := do
  let socket? ← if url.host.head? = some (Text.octet '/') then some <$> readText url.host
    else pure none
  for part in [url.user, url.password] do
    let _ ← readText part
  (Url.parameters url.query).foldlM set ⟨socket?, url.port?.getD default.port⟩

/-! ## Sockets -/

/-- The longest path of a socket, in octets. -/
def longestPath : Nat := 107

def socketPath (settings : Settings) (dir : String) : Octets :=
  Text.octets (dir ++ "/.s.PGSQL." ++ Decimal.text settings.port)

def socketError (settings : Settings) (dir : String) : SocketError :=
  let path := settings.socketPath dir
  if 0 ∈ path then .nulInPath
  else if longestPath < path.length then .pathTooLong
  else .missing

end Settings

end SchemaLedger.Store
