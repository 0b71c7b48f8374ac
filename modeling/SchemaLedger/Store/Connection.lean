import SchemaLedger.Store.Settings

/-! # Connections

What becomes of a connection where no server can be reached. -/

namespace SchemaLedger.Store

/-- Why settings lead nowhere: a socket is missed at once, and a server in the network is waited
for in vain. -/
def Settings.failure (settings : Settings) : DriverError :=
  match settings.socket? with
  | some dir => .communication (settings.socketError dir)
  | none => .poolTimedOut

def unreachable (url : String) : StoreError :=
  match Url.read url with
  | .error problem => .database (.configuration problem.message)
  | .ok url =>
    match Settings.ofUrl url with
    | .error error => .database error
    | .ok settings => .database settings.failure

end SchemaLedger.Store
