import ShardFleet.Value.Plain

/-!
# Network addresses

Processes of a cluster are reached at a host and a port, which are kept as they were given: a port
is a number as a rule, and whatever else it is, it is written as a value. `Address.toText` is the
text of one address, and `Address.joined` that of a list of them, separated by commas and in order.
A replica set's address puts its name and a slash in front of its members' addresses; a connection
string puts a scheme in front of the routers' addresses. A number that is too long has no text, so
an address with such a one in it cannot be written, and neither can what it would stand in.
-/

namespace ShardFleet

structure Address where
  host : Value
  port : Value
deriving Inhabited

namespace Address

/-- The text of an address that can be written. -/
def toText (address : Address) : String :=
  address.host.toText ++ ":" ++ address.port.toText

/-- Whether hosts and ports are equal as values. -/
def equals (first second : Address) : Bool :=
  first.host.equals second.host && first.port.equals second.port

/-- The texts of addresses that can be written, in a list. -/
def joined (addresses : List Address) : String :=
  String.intercalate "," (addresses.map toText)

/-- The address, if it can be written, with its fields named. -/
def describe (address : Address) : String :=
  "Address(host=" ++ address.host.display ++ ", port=" ++ address.port.display ++ ")"

/-- The list of hosts to bind to: the loopback alias and the address's own host, if that can be
written. -/
def bindList (address : Address) : String :=
  "localhost," ++ address.host.toText

/-- The text of a replica set's address with its members at the addresses given, if all of it can be
written. -/
def ofReplicaSet (name : String) (members : List Address) : String :=
  name ++ "/" ++ joined members

def defaultScheme : String := "mongodb"

/-- The text of a cluster's connection string, if the addresses can be written; without routers
there is none. -/
def connectionString? (scheme : String) (routers : List Address) : Option String :=
  if routers.isEmpty then none else some (scheme ++ "://" ++ joined routers)

/-! ## What can be written -/

/-- Whether no number in the host or the port is too long. -/
def isWritable (address : Address) : Bool :=
  address.host.isWritable && address.port.isWritable

def checkWritable (address : Address) : Except Failure Unit :=
  if address.isWritable then .ok () else .error .integerTooLong

/-- Writes an address. -/
def write (address : Address) : Except Failure String := do
  address.checkWritable
  return address.toText

/-- Writes the address of a replica set. -/
def writeReplicaSet (name : Key) (members : List Address) : Except Failure String :=
  if name.isWritable && members.all isWritable then .ok (ofReplicaSet name.toText members)
  else .error .integerTooLong

/-- Writes the connection string of a cluster, which has to have a router. -/
def writeConnectionString (scheme : String) (routers : List Address) : Except Failure String :=
  match connectionString? scheme routers with
  | none => .error (.misconfigured .noRouters)
  | some text => if routers.all isWritable then .ok text else .error .integerTooLong

end Address

end ShardFleet
