import Mathlib.Data.List.DropRight
import ShardFleet.Proofs.Cluster.Introductions
import ShardFleet.Simulation.World

/-!
# Addresses read back

An address is written with separators that may be part of a host as well: a host can have colons in
it, and slashes. Still nothing is lost. A port is written without a colon, so an address is cut at
its last one; hosts have no commas in them, so a list is cut at every comma; and the address of a
replica set is cut at its first slash, as a name has none. Hence an address of a replica set tells
its name and where each of its members is reached, and a connection string tells the same of the
routers. All this goes for what has been written at all: a port that is too long is not.
-/

namespace ShardFleet

/-- Where a process is reached: its host as a text, its port as a number. -/
structure Endpoint where
  host : String
  port : ℤ
deriving DecidableEq, Repr

namespace Text

/-- The number that is written in decimal, after a minus sign if it is negative. -/
def readDecimal (chars : List Char) : ℤ :=
  if chars.head? = some '-' then -(Nat.ofDigitChars 10 chars.tail 0 : ℤ)
  else Nat.ofDigitChars 10 chars 0

/-- A number is written with digits and a minus sign only. -/
theorem not_mem_decimalChars {char : Char} (noDigit : char.isDigit = false) (noSign : char ≠ '-')
    (number : ℤ) : char ∉ decimalChars number := by
  have unwritten (size : ℕ) : char ∉ decimalDigits size := by
    intro member
    have digit := Nat.isDigit_of_mem_toDigits (by decide) (by decide) member
    rw [noDigit] at digit
    cases digit
  unfold decimalChars
  split
  · rw [List.mem_cons, not_or]
    exact ⟨noSign, unwritten _⟩
  · exact unwritten _

theorem head?_decimalDigits_ne_minus (size : ℕ) : (decimalDigits size).head? ≠ some '-' := by
  intro starts
  have digit : Char.isDigit '-' :=
    Nat.isDigit_of_mem_toDigits (by decide) (by decide) (List.mem_of_mem_head? starts)
  exact absurd digit (by decide)

theorem readDecimal_decimalChars (number : ℤ) : readDecimal (decimalChars number) = number := by
  unfold decimalChars
  split
  · rename_i negative
    rw [readDecimal, if_pos List.head?_cons, List.tail_cons, decimalDigits,
      Nat.ofDigitChars_ten_toDigits]
    omega
  · rename_i nonnegative
    rw [readDecimal, if_neg (head?_decimalDigits_ne_minus _), decimalDigits,
      Nat.ofDigitChars_ten_toDigits]
    omega

end Text

namespace Endpoint

def address (endpoint : Endpoint) : Address := ⟨.text endpoint.host, .int endpoint.port⟩

/-- The port has no more digits than can be written. -/
def IsShort (endpoint : Endpoint) : Prop := endpoint.port.natAbs < longIntegerStart

instance : DecidablePred IsShort := fun _ => Nat.decLt _ _

theorem isWritable_address_iff {endpoint : Endpoint} :
    endpoint.address.isWritable = true ↔ endpoint.IsShort := by
  simp [Address.isWritable, address, Value.isWritable, IsShort]

theorem all_isWritable_iff {endpoints : List Endpoint} :
    (∀ reached ∈ endpoints.map address, reached.isWritable = true) ↔
      ∀ endpoint ∈ endpoints, endpoint.IsShort := by
  rw [List.forall_mem_map]
  exact forall₂_congr fun endpoint _ => isWritable_address_iff

/-- The characters that an endpoint is written with. -/
def chars (endpoint : Endpoint) : List Char :=
  endpoint.host.toList ++ ':' :: Text.decimalChars endpoint.port

theorem toList_toText_address (endpoint : Endpoint) :
    endpoint.address.toText.toList = endpoint.chars := by
  simp [Address.toText, address, chars, Value.toText, Value.display, Text.decimal]

/-- The endpoint that is written with some characters: its port stands behind the last colon. -/
def read (chars : List Char) : Endpoint where
  host := String.ofList (chars.rdropWhile (· ≠ ':')).dropLast
  port := Text.readDecimal (chars.rtakeWhile (· ≠ ':'))

theorem read_chars (endpoint : Endpoint) : read endpoint.chars = endpoint := by
  have reversed : endpoint.chars.reverse =
      (Text.decimalChars endpoint.port).reverse ++ ':' :: endpoint.host.toList.reverse := by
    simp [chars]
  have clean : ∀ char ∈ (Text.decimalChars endpoint.port).reverse,
      decide (char ≠ ':') = true := by
    intro char member
    apply decide_eq_true
    rintro rfl
    exact Text.not_mem_decimalChars (by decide) (by decide) _ (List.mem_reverse.mp member)
  have port : endpoint.chars.rtakeWhile (· ≠ ':') = Text.decimalChars endpoint.port := by
    rw [List.rtakeWhile, reversed, List.takeWhile_append_of_pos clean]
    simp
  have host : endpoint.chars.rdropWhile (· ≠ ':') = endpoint.host.toList ++ [':'] := by
    rw [List.rdropWhile, reversed, List.dropWhile_append_of_pos clean]
    simp
  rw [read, port, host, List.dropLast_concat, String.ofList_toList,
    Text.readDecimal_decimalChars]

/-- The endpoints that are listed in a text, with commas between them. -/
def readAll (text : String) : List Endpoint := (text.toList.splitOn ',').map read

variable {endpoints : List Endpoint}

theorem comma_not_mem_chars {endpoint : Endpoint} (noComma : ',' ∉ endpoint.host.toList) :
    ',' ∉ endpoint.chars := by
  rw [chars, List.mem_append, List.mem_cons, not_or, not_or]
  exact ⟨noComma, by decide, Text.not_mem_decimalChars (by decide) (by decide) _⟩

theorem readAll_joined (occupied : endpoints ≠ [])
    (noComma : ∀ endpoint ∈ endpoints, ',' ∉ endpoint.host.toList) :
    readAll (Address.joined (endpoints.map address)) = endpoints := by
  have written : (Address.joined (endpoints.map address)).toList =
      List.intercalate [','] (endpoints.map chars) := by
    rw [Address.joined, String.toList_intercalate, List.map_map, List.map_map]
    congr 1
    exact List.map_congr_left fun endpoint _ => toList_toText_address endpoint
  have apart : ∀ part ∈ endpoints.map chars, ',' ∉ part := by
    intro part member
    rcases List.mem_map.mp member with ⟨endpoint, listed, rfl⟩
    exact comma_not_mem_chars (noComma endpoint listed)
  rw [readAll, written, List.splitOn_intercalate ',' apart (by simpa using occupied),
    List.map_map]
  exact (List.map_congr_left fun endpoint _ => read_chars endpoint).trans (List.map_id _)

end Endpoint

namespace Address

/-- What stands in a connection string behind the scheme and its separator. -/
def afterScheme (scheme text : String) : String :=
  String.ofList (text.toList.drop (scheme ++ "://").length)

theorem afterScheme_append (scheme rest : String) :
    afterScheme scheme (scheme ++ "://" ++ rest) = rest := by
  rw [afterScheme, String.toList_append, ← String.length_toList, List.drop_left,
    String.ofList_toList]

end Address

section shown

variable {ω : Type} [Outside ω]

/-! ## Replica sets -/

namespace ReplicaGroup

/-- The group is called by a name, and its members, some at least, are reached at endpoints: those
that peers resolve if `named`, else those that clients dial. -/
structure Shows (group : ReplicaGroup) (named : Bool) (session : Session ω) (name : String)
    (endpoints : List Endpoint) : Prop where
  called : group.name = .text name
  occupied : group.members ≠ []
  reached : (group.members.map fun member =>
      if named then Outside.namedAddress session.outside member
      else Outside.clientAddress session.outside member) = endpoints.map Endpoint.address
  noSlash : '/' ∉ name.toList
  noComma : ∀ endpoint ∈ endpoints, ',' ∉ endpoint.host.toList

variable {group : ReplicaGroup} {named : Bool} {session : Session ω} {name text : String}
  {endpoints : List Endpoint}

theorem Shows.endpoints_ne_nil (shows : group.Shows named session name endpoints) :
    endpoints ≠ [] := by
  rintro rfl
  exact shows.occupied (List.map_eq_nil_iff.mp shows.reached)

theorem Shows.shownAddress_eq (shows : group.Shows named session name endpoints) :
    group.shownAddress named session.outside =
      Address.writeReplicaSet (.text name) (endpoints.map Endpoint.address) := by
  rw [shownAddress, shows.called, shows.reached]

theorem Shows.written_iff (shows : group.Shows named session name endpoints) :
    group.replicaSetAddress named session = .ok text session ↔
      (∀ endpoint ∈ endpoints, endpoint.IsShort) ∧
        text = Address.ofReplicaSet name (endpoints.map Endpoint.address) := by
  rw [replicaSetAddress_eq, conclude_eq_ok, shows.shownAddress_eq,
    Address.writeReplicaSet_eq_ok_iff, Endpoint.all_isWritable_iff]
  simp [Key.isWritable, Key.toText, Key.toValue, Value.toText]

theorem Shows.replicaSetAddress_of_long (shows : group.Shows named session name endpoints)
    (long : ¬∀ endpoint ∈ endpoints, endpoint.IsShort) :
    group.replicaSetAddress named session = .error .integerTooLong session := by
  rw [replicaSetAddress_eq, conclude_eq_error, shows.shownAddress_eq,
    Address.writeReplicaSet_eq_error_iff, Endpoint.all_isWritable_iff]
  exact ⟨⟨fun writable => long writable.2, rfl⟩, rfl⟩

/-- What is read from the address of a group: its name and where its members are reached. -/
structure ToldBy (text name : String) (endpoints : List Endpoint) : Prop where
  name_eq : Address.setName text = name
  endpoints_eq : Endpoint.readAll (Address.setMembers text) = endpoints

theorem Shows.toldBy (shows : group.Shows named session name endpoints)
    (written : group.replicaSetAddress named session = .ok text session) :
    ToldBy text name endpoints := by
  rw [(shows.written_iff.mp written).2]
  constructor
  · exact Address.setName_ofReplicaSet shows.noSlash _
  · rw [Address.setMembers_ofReplicaSet shows.noSlash]
    exact Endpoint.readAll_joined shows.endpoints_ne_nil shows.noComma

end ReplicaGroup

/-! ## Routers -/

namespace Router

/-- The connection string over routers under a scheme, as the world outside shows them. -/
def addressUnder (scheme : String) (routers : List Router) (outside : ω) :
    Except Failure String :=
  Address.writeConnectionString scheme
    (routers.map fun router => Outside.clientAddress outside router.handle)

/-- Clients dial the routers, some at least, at endpoints. -/
structure Show (routers : List Router) (outside : ω) (endpoints : List Endpoint) : Prop where
  occupied : routers ≠ []
  reached : (routers.map fun router => Outside.clientAddress outside router.handle) =
    endpoints.map Endpoint.address
  noComma : ∀ endpoint ∈ endpoints, ',' ∉ endpoint.host.toList

variable {routers : List Router} {session : Session ω} {outside : ω} {scheme text : String}
  {endpoints : List Endpoint}

theorem Show.endpoints_ne_nil (shows : Show routers outside endpoints) : endpoints ≠ [] := by
  rintro rfl
  exact shows.occupied (List.map_eq_nil_iff.mp shows.reached)

theorem Show.written_iff (shows : Show routers outside endpoints) :
    addressUnder scheme routers outside = .ok text ↔
      (∀ endpoint ∈ endpoints, endpoint.IsShort) ∧
        text = scheme ++ "://" ++ Address.joined (endpoints.map Endpoint.address) := by
  rw [addressUnder, shows.reached, Address.writeConnectionString_eq_ok_iff,
    Endpoint.all_isWritable_iff,
    and_iff_right (mt List.map_eq_nil_iff.mp shows.endpoints_ne_nil)]

theorem Show.addressUnder_of_long (scheme : String) (shows : Show routers outside endpoints)
    (long : ¬∀ endpoint ∈ endpoints, endpoint.IsShort) :
    addressUnder scheme routers outside = .error .integerTooLong := by
  rw [addressUnder, shows.reached, Address.writeConnectionString_eq_error_iff,
    Endpoint.all_isWritable_iff]
  exact Or.inr ⟨mt List.map_eq_nil_iff.mp shows.endpoints_ne_nil, long, rfl⟩

theorem connectionString_eq_addressUnder (routers : List Router) (session : Session ω) :
    connectionString routers session =
      conclude (addressUnder Address.defaultScheme routers session.outside) session := rfl

/-- What is read from a connection string behind its scheme: where the routers are dialled. -/
structure ToldBy (scheme text : String) (endpoints : List Endpoint) : Prop where
  starts : (scheme ++ "://").toList <+: text.toList
  endpoints_eq : Endpoint.readAll (Address.afterScheme scheme text) = endpoints

theorem Show.toldBy (shows : Show routers outside endpoints)
    (written : addressUnder scheme routers outside = .ok text) : ToldBy scheme text endpoints := by
  rw [(shows.written_iff.mp written).2]
  constructor
  · exact ⟨_, String.toList_append.symm⟩
  · rw [Address.afterScheme_append]
    exact Endpoint.readAll_joined shows.endpoints_ne_nil shows.noComma

end Router

/-! ## Both -/

/-- The address of a group is written unless a port is too long, and then gives back its name and
where its members are reached, in order; no other group but one of that name and with members
reached there has the same address. -/
structure ReplicaGroup.ReadsBack (group : ReplicaGroup) (named : Bool) (session : Session ω)
    (name : String) (endpoints : List Endpoint) : Prop where
  written : (∀ endpoint ∈ endpoints, endpoint.IsShort) →
    ∃ text, group.replicaSetAddress named session = .ok text session ∧
      ToldBy text name endpoints ∧
      ∀ (other : ReplicaGroup) (others : Bool) (elsewhere : Session ω) (otherName : String)
          (reached : List Endpoint), other.Shows others elsewhere otherName reached →
        other.replicaSetAddress others elsewhere = .ok text elsewhere →
        otherName = name ∧ reached = endpoints
  unwritten : ¬(∀ endpoint ∈ endpoints, endpoint.IsShort) →
    group.replicaSetAddress named session = .error .integerTooLong session

/-- A connection string is written unless a port is too long, and then gives back where the routers
are dialled, in order; no other routers but some that are dialled there have the same under that
scheme. -/
structure Router.ReadBack (scheme : String) (routers : List Router) (session : Session ω)
    (endpoints : List Endpoint) : Prop where
  written : (∀ endpoint ∈ endpoints, endpoint.IsShort) →
    ∃ text, addressUnder scheme routers session.outside = .ok text ∧
      ToldBy scheme text endpoints ∧
      ∀ (others : List Router) (elsewhere : ω) (reached : List Endpoint),
        Show others elsewhere reached → addressUnder scheme others elsewhere = .ok text →
        reached = endpoints
  unwritten : ¬(∀ endpoint ∈ endpoints, endpoint.IsShort) →
    addressUnder scheme routers session.outside = .error .integerTooLong
  default : connectionString routers session =
    conclude (addressUnder Address.defaultScheme routers session.outside) session

/-- Addresses that can be written are told apart by what is read from them: the address of a replica
set gives back its name and where its members are reached, in order, and a connection string does so
for the routers; hence no two that differ in this have the same address. -/
theorem addresses_readBack :
    (∀ (group : ReplicaGroup) (named : Bool) (session : Session ω) (name : String)
        (endpoints : List Endpoint), group.Shows named session name endpoints →
      group.ReadsBack named session name endpoints) ∧
    (∀ (scheme : String) (routers : List Router) (session : Session ω)
        (endpoints : List Endpoint), Router.Show routers session.outside endpoints →
      Router.ReadBack scheme routers session endpoints) := by
  constructor
  · intro group named session name endpoints shows
    refine ⟨fun short => ?_, shows.replicaSetAddress_of_long⟩
    have written := shows.written_iff.mpr ⟨short, rfl⟩
    have told := shows.toldBy written
    refine ⟨_, written, told, ?_⟩
    intro other others elsewhere otherName reached otherShows same
    have otherTold := otherShows.toldBy same
    exact ⟨otherTold.name_eq.symm.trans told.name_eq,
      otherTold.endpoints_eq.symm.trans told.endpoints_eq⟩
  · intro scheme routers session endpoints shows
    refine ⟨fun short => ?_, shows.addressUnder_of_long scheme,
      Router.connectionString_eq_addressUnder routers session⟩
    have written : Router.addressUnder scheme routers session.outside = .ok _ :=
      shows.written_iff.mpr ⟨short, rfl⟩
    have told := shows.toldBy written
    refine ⟨_, written, told, ?_⟩
    intro others elsewhere reached otherShows same
    exact (otherShows.toldBy same).endpoints_eq.symm.trans told.endpoints_eq

end shown

/-! ## Hosts that are written like addresses -/

/-- A simulated session with three processes, the first two of which make up a replica set, at hosts
that have colons and slashes in them. -/
def slashedSession : Session Simulation.World :=
  .fresh {
    handles := #[
      { label := .text "a", name := .text "a", named := ⟨.text "fe80::1/64", .int (-1)⟩ },
      { label := .text "b", name := .text "b", named := ⟨.text "b/c:0", .int 27017⟩ },
      { label := .text "router", name := .text "router", client := ⟨.text "::1", .int 30001⟩ }] }

def slashedGroup : ReplicaGroup where
  serial := 0
  name := .text "shard1"
  handle := ⟨3⟩
  members := [⟨0⟩, ⟨1⟩]
  holdsConfig := false

def slashedRouter : Router where
  serial := 1
  name := .text "router"
  handle := ⟨2⟩

theorem slashedGroup_shows :
    slashedGroup.Shows true slashedSession "shard1" [⟨"fe80::1/64", -1⟩, ⟨"b/c:0", 27017⟩] where
  called := rfl
  occupied := nofun
  reached := rfl
  noSlash := by decide
  noComma := by decide

theorem slashedRouter_show :
    Router.Show [slashedRouter] slashedSession.outside [⟨"::1", 30001⟩] where
  occupied := nofun
  reached := rfl
  noComma := by decide

/-- The address of a group and a connection string over such hosts. -/
theorem addresses_readBack_slashed :
    (∃ text, slashedGroup.replicaSetAddress true slashedSession = .ok text slashedSession ∧
      ReplicaGroup.ToldBy text "shard1" [⟨"fe80::1/64", -1⟩, ⟨"b/c:0", 27017⟩]) ∧
    ∃ text, Router.addressUnder "mongodb+srv" [slashedRouter] slashedSession.outside = .ok text ∧
      Router.ToldBy "mongodb+srv" text [⟨"::1", 30001⟩] := by
  constructor
  · have reads := addresses_readBack.1 _ _ _ _ _ slashedGroup_shows
    rcases reads.written (by decide +kernel) with ⟨text, written, told, _⟩
    exact ⟨text, written, told⟩
  · have reads := addresses_readBack.2 "mongodb+srv" _ slashedSession _ slashedRouter_show
    rcases reads.written (by decide +kernel) with ⟨text, written, told, _⟩
    exact ⟨text, written, told⟩

/-! ## A port that is too long -/

/-- A simulated session with two processes; the second one is dialled at the first port that is too
long to be written. -/
def longPortSession : Session Simulation.World :=
  .fresh {
    handles := #[
      { label := .text "a", name := .text "a", client := ⟨.text "localhost", .int 30001⟩ },
      { label := .text "b", name := .text "b",
        client := ⟨.text "localhost", .int longIntegerStart⟩ }] }

def longPortGroup : ReplicaGroup where
  serial := 0
  name := .text "shard1"
  handle := ⟨2⟩
  members := [⟨0⟩, ⟨1⟩]
  holdsConfig := false

def longPortRouter : Router where
  serial := 1
  name := .text "router"
  handle := ⟨1⟩

/-- A group and a router at that port have no address. -/
theorem addresses_missing_at_longPort :
    (longPortGroup.Shows false longPortSession "shard1"
        [⟨"localhost", 30001⟩, ⟨"localhost", longIntegerStart⟩] ∧
      ∀ text after,
        longPortGroup.replicaSetAddress false longPortSession ≠ .ok text after) ∧
    Router.Show [longPortRouter] longPortSession.outside [⟨"localhost", longIntegerStart⟩] ∧
      ∀ scheme text,
        Router.addressUnder scheme [longPortRouter] longPortSession.outside ≠ .ok text := by
  have groupShows : longPortGroup.Shows false longPortSession "shard1"
      [⟨"localhost", 30001⟩, ⟨"localhost", longIntegerStart⟩] :=
    ⟨rfl, nofun, rfl, by decide, by decide +kernel⟩
  have routerShows : Router.Show [longPortRouter] longPortSession.outside
      [⟨"localhost", longIntegerStart⟩] := ⟨nofun, rfl, by decide +kernel⟩
  refine ⟨⟨groupShows, fun text after => ?_⟩, routerShows, fun scheme text => ?_⟩
  · rw [groupShows.replicaSetAddress_of_long (by decide +kernel)]
    nofun
  · rw [routerShows.addressUnder_of_long scheme (by decide +kernel)]
    nofun

end ShardFleet
