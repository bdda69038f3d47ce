import ShardFleet.Proofs.Cluster.Building
import ShardFleet.Proofs.Cluster.Joining

/-!
# What replica groups are called

A group takes the name and the members that its handle shows when it is given out; what the handle
shows later is not asked for. With that name the members are told at launch which replica set they
belong to, the admin namespace is told which shard it gets, the shard is looked for in what it lists,
and it is told to let the shard go. Addresses are not kept: members are named by the addresses that
they have when somebody is told of them.
-/

namespace ShardFleet

open ShardFleet.Action

variable {ω : Type}

/-! ## Reading what is told -/

/-- The launch argument that follows a flag. -/
def argumentAfter (flag : String) : List Value → Option Value
  | [] => none
  | argument :: rest => if argument.isText flag then rest.head? else argumentAfter flag rest

theorem argumentAfter_memberArguments (group : ReplicaGroup) (name : Value) (address : Address) :
    argumentAfter "--replSet" (memberArguments (.text group.roleFlag) name address) =
      some name := by
  unfold memberArguments ReplicaGroup.roleFlag
  split <;> rfl

theorem configdb_suffix_routerCommand (address : Address) (servers : String) :
    [.text "--configdb", .text servers] <:+ routerCommand address servers :=
  ⟨["mongos", "--port", address.port.toText, "--bind_ip", address.bindList].map .text, rfl⟩

namespace Address

/-- The name of a replica set at an address: what stands before the first slash. -/
def setName (text : String) : String := String.ofList (text.toList.takeWhile (· ≠ '/'))

/-- The members of a replica set at an address: what stands after the first slash. -/
def setMembers (text : String) : String := String.ofList (text.toList.dropWhile (· ≠ '/')).tail

section ofReplicaSet

variable {name : String} (noSlash : '/' ∉ name.toList) (members : List Address)

include noSlash

theorem clean_of_noSlash : ∀ char ∈ name.toList, (decide (char ≠ '/')) = true :=
  fun _ member => decide_eq_true fun same => noSlash (same ▸ member)

theorem setName_ofReplicaSet : setName (ofReplicaSet name members) = name := by
  rw [setName, ofReplicaSet, String.toList_append, String.toList_append, List.append_assoc,
    List.takeWhile_append_of_pos (clean_of_noSlash noSlash)]
  simp

theorem setMembers_ofReplicaSet : setMembers (ofReplicaSet name members) = joined members := by
  rw [setMembers, ofReplicaSet, String.toList_append, String.toList_append, List.append_assoc,
    List.dropWhile_append_of_pos (clean_of_noSlash noSlash)]
  simp

end ofReplicaSet

/-- A text gives a replica set: its name, unless that has a slash in it, and its members at the
addresses given, in order. -/
def Gives (text : String) (name : Key) (members : List Address) : Prop :=
  ∀ plain, name = .text plain → '/' ∉ plain.toList →
    setName text = plain ∧ setMembers text = joined members

theorem gives_ofReplicaSet (name : Key) (members : List Address) :
    Gives (ofReplicaSet name.toText members) name members := by
  rintro plain rfl noSlash
  exact ⟨setName_ofReplicaSet noSlash members, setMembers_ofReplicaSet noSlash members⟩

end Address

/-- The launch command that is set for a process. -/
def Event.launch? : Event → Option (Handle × List Value)
  | .called (.setCommand process arguments) _ => some (process, arguments)
  | _ => none

/-- Which processes have been told to belong to which replica set, in order. -/
def toldSets (events : List Event) : List (Handle × Option Value) :=
  (events.filterMap Event.launch?).map fun launch =>
    (launch.1, argumentAfter "--replSet" launch.2)

theorem toldSets_append (first second : List Event) :
    toldSets (first ++ second) = toldSets first ++ toldSets second := by
  rw [toldSets, List.filterMap_append, List.map_append, toldSets, toldSets]

theorem toldSets_setCommand (process : Handle) (arguments : List Value)
    (answer : Except Failure (Call.setCommand process arguments).Answer) :
    toldSets [.called (.setCommand process arguments) answer] =
      [(process, argumentAfter "--replSet" arguments)] := rfl

theorem toldSets_filter_isCall (events : List Event) :
    toldSets (events.filter Event.isCall) = toldSets events := by
  have same : (events.filter Event.isCall).filterMap Event.launch? =
      events.filterMap Event.launch? := by
    rw [List.filterMap_filter]
    apply List.filterMap_congr
    intro event _
    cases event <;> rfl
  rw [toldSets, same, toldSets]

theorem Key.eq_text_of_identity {key : Key} {name : String} (same : key.identity = .text name) :
    key = .text name := by
  cases key with
  | float value =>
      rw [identity] at same
      split at same <;> cases same
  | text value => exact same
  | _ => cases same

/-- Nothing but a text equals a text. -/
theorem Value.eq_text_of_equals {value : Value} {name : String}
    (same : value.equals (.text name) = true) : value = .text name := by
  have isKey : ∀ key, value.toKey? = some key → key = .text name := by
    intro key given
    apply Key.eq_text_of_identity
    have equal : key.equals (.text name) = true := by
      cases value <;> cases given <;> simpa only [Value.equals, Value.toKey?] using same
    exact eq_of_beq (Bool.and_eq_true_iff.mp equal).1
  cases value with
  | text given => exact congrArg Value.text (Key.text.inj (isKey _ rfl))
  | float number =>
      have text := isKey _ rfl
      split at text <;> cases text
  | null | bool | int | datum => exact nomatch isKey _ rfl
  | _ => simp [Value.equals, Value.toKey?] at same

namespace Admin

/-- A response to listShards lists a shard under the name given, as active. -/
def Lists (name : String) (response : Value) : Prop :=
  ∃ records entries, shardRecords response = .ok records ∧ .mapping entries ∈ records ∧
    entries.field? "_id" = some (.text name) ∧ (entries.field? "state").any (·.isOne) = true

theorem exists_of_anyActive {name : Value} {records : List Value}
    (active : anyActive name records = .ok true) :
    ∃ record ∈ records, isActiveRecord name record = .ok true := by
  induction records with
  | nil => cases active
  | cons record rest ih =>
      rw [anyActive] at active
      cases reads : isActiveRecord name record with
      | error failure =>
          rw [reads] at active
          cases active
      | ok found =>
          cases found with
          | true => exact ⟨record, List.mem_cons_self, reads⟩
          | false =>
              rw [reads] at active
              rcases ih active with ⟨other, otherMem, found⟩
              exact ⟨other, List.mem_cons_of_mem _ otherMem, found⟩

/-- The response that a wait for a shard ends with lists the shard. -/
theorem lists_of_readActive {name : String} {response : Value}
    (active : readActive (.text name) response = .ok true) : Lists name response := by
  unfold readActive at active
  split at active
  · rename_i records listed
    rcases exists_of_anyActive active with ⟨record, recordMem, found⟩
    cases record with
    | mapping entries =>
        rw [isActiveRecord, Except.ok.injEq, Bool.and_eq_true] at found
        refine ⟨records, entries, listed, recordMem, ?_, found.2⟩
        have named := Value.eq_text_of_equals found.1
        cases given : entries.field? "_id" with
        | none =>
            rw [given] at named
            cases named
        | some value =>
            rw [given] at named
            exact congrArg some named
    | _ => cases found
  · cases active

end Admin

/-! ## Making groups and routers -/

section making

variable [Outside ω] {session after : Session ω}

namespace ReplicaGroup

/-- The group has the name and the members that its handle showed when it was given out. -/
def Captured (group : ReplicaGroup) (before : Session ω) : Prop :=
  ∃ order world, Outside.respond (.buildReplicaSet order) before.outside = (.ok group.handle, world) ∧
    group.name = Outside.handleName world group.handle ∧
    group.members = Outside.members world group.handle

/-- What the members are to be told: the name of the group. -/
def launches (group : ReplicaGroup) (members : List Handle) : List (Handle × Option Value) :=
  members.map fun member => (member, some group.nameValue)

/-- A group has been made, and its members have been told its name. -/
structure Made (group : ReplicaGroup) (before : Session ω) (events : List Event)
    (after : Session ω) : Prop where
  evolves : before.Evolves events after
  captured : group.Captured before
  told : toldSets events = group.launches group.members
  builds : CalledOnly (Call.Constructs fun _ => True) events

/-- A group could not be made. If any of its members have been told a name, it is its name. -/
structure Unmade (before : Session ω) (events : List Event) (after : Session ω) : Prop where
  evolves : before.Evolves events after
  told : toldSets events = [] ∨
    ∃ group : ReplicaGroup, group.Captured before ∧
      toldSets events <+: group.launches group.members
  builds : CalledOnly (Call.Constructs fun _ => True) events

theorem configure_traces (group : ReplicaGroup) (members : List Handle) :
    Traces (fun calls result => toldSets calls <+: group.launches members ∧
        (result = .ok () → toldSets calls = group.launches members))
      (group.configure members : Action ω Unit) := by
  induction members with
  | nil => exact .pure () ⟨List.prefix_rfl, fun _ => rfl⟩
  | cons member rest ih =>
      unfold configure
      apply Traces.view_bind
      intro address
      apply Traces.conclude_bind
      · exact fun failure _ => ⟨List.nil_prefix, nofun⟩
      intro _ _
      apply (Traces.perform rfl).bind
      · rintro calls failure rfl
        rw [toldSets_setCommand, argumentAfter_memberArguments]
        exact ⟨List.prefix_append _ _, nofun⟩
      · rintro calls value rfl
        refine ih.mono fun later result ⟨prefixed, complete⟩ => ?_
        rw [toldSets_append, toldSets_setCommand, argumentAfter_memberArguments]
        exact ⟨(List.prefix_append_right_inj _).mpr prefixed,
          fun returned => congrArg ([_] ++ ·) (complete returned)⟩

/-- What comes of a handle that shows a name and members: no group, or one of that name, whose
members are told it one after another, until that fails. -/
inductive Tells (handle : Handle) (name : Key) (members : List Handle) :
    List Event → Except Failure ReplicaGroup → Prop where
  | memberless (failure : Failure) : Tells handle name members [] (.error failure)
  | halted {group : ReplicaGroup} {calls : List Event} {failure : Failure}
      (shown : group.handle = handle ∧ group.name = name ∧ group.members = members)
      (told : toldSets calls <+: group.launches members) :
      Tells handle name members calls (.error failure)
  | made {group : ReplicaGroup} {calls : List Event}
      (shown : group.handle = handle ∧ group.name = name ∧ group.members = members)
      (told : toldSets calls = group.launches members) :
      Tells handle name members calls (.ok group)

theorem afterOrder_traces (handle : Handle) (holdsConfig : Bool) (session : Session ω) :
    ∃ events result after,
      (do
        let group ← ofHandle handle holdsConfig
        group.configure group.members
        return group : Action ω ReplicaGroup) session = ShardFleet.conclude result after ∧
      session.Evolves events after ∧
      Tells handle (Outside.handleName session.outside handle)
        (Outside.members session.outside handle) (events.filter Event.isCall) result := by
  unfold ofHandle
  simp only [bind_assoc]
  -- Both looks at the handle are taken at once, before anything is called.
  generalize shownName : Outside.handleName session.outside handle = name
  generalize shownMembers : Outside.members session.outside handle = members
  have rest : Traces (Tells handle name members) ((if members.isEmpty then
        throw (emptyRefusal name)
      else do
        let component ← Component.make name handle
        return ReplicaGroup.mk component members holdsConfig) >>= fun group => do
          group.configure group.members
          return group : Action ω ReplicaGroup) := by
    split
    · exact .throw _ (.memberless _)
    · unfold Component.make
      simp only [bind_assoc, pure_bind]
      apply Traces.freshSerial_bind
      intro serial
      apply (configure_traces _ _).bind
      · intro calls failure told
        exact .halted ⟨rfl, rfl, rfl⟩ told.1
      · intro calls value told
        apply Traces.pure
        rw [List.append_nil]
        exact .made ⟨rfl, rfl, rfl⟩ (told.2 rfl)
  have run := rest session
  rw [← shownName, ← shownMembers] at run ⊢
  exact run

theorem made_of_build {order : ReplicaSetOrder} {group : ReplicaGroup}
    (built : build order session = .ok group after) :
    ∃ events, group.Made session events after := by
  have builds : CallsOnly (Call.Constructs fun _ => True) (build order : Action ω ReplicaGroup) :=
    build_callsOnly trivial
  rcases builds.evolves built with ⟨all, within⟩
  rcases bind_eq_ok.mp built with ⟨handle, ordered, performed, rest⟩
  rcases perform_eq_ok.mp performed with ⟨answer, rfl⟩
  have still : (Call.buildReplicaSet order).isTransition = false := rfl
  have asked := session.evolves_answered still
  rcases afterOrder_traces handle order.configServer (session.answered (.buildReplicaSet order))
    with ⟨events, result, final, run, evolves, tells⟩
  rcases conclude_inj.mp ((show _ = ShardFleet.conclude (.ok group) after from rest).symm.trans run)
    with ⟨rfl, rfl⟩
  have whole := asked.trans evolves
  generalize calls : events.filter Event.isCall = telling at tells
  cases tells with
  | made shown told =>
      rcases shown with ⟨rfl, name, members⟩
      refine ⟨_, whole, ⟨order, _, Prod.ext answer rfl, name, members⟩, ?_,
        within.evolves.unique whole ▸ within.calls⟩
      rw [toldSets_append, ← toldSets_filter_isCall events, calls, told, members]
      rfl

theorem unmade_of_build {order : ReplicaSetOrder} {failure : Failure}
    (failed : build order session = .error failure after) :
    ∃ events, Unmade session events after := by
  have builds : CallsOnly (Call.Constructs fun _ => True) (build order : Action ω ReplicaGroup) :=
    build_callsOnly trivial
  rcases builds.evolves_of_error failed with ⟨all, within⟩
  have still : (Call.buildReplicaSet order).isTransition = false := rfl
  have asked := session.evolves_answered still
  have performed := perform_eq (.buildReplicaSet order) session
  cases answer : (Outside.respond (.buildReplicaSet order) session.outside).1 with
  | error other =>
      rw [answer] at performed
      have stopped : build order session = .error other (session.answered _) :=
        bind_of_error performed _
      cases stopped.symm.trans failed
      exact ⟨_, asked, Or.inl rfl, within.evolves.unique asked ▸ within.calls⟩
  | ok handle =>
      rw [answer] at performed
      rcases afterOrder_traces handle order.configServer (session.answered (.buildReplicaSet order))
        with ⟨events, result, final, run, evolves, tells⟩
      have runs : build order session = ShardFleet.conclude result final :=
        (bind_of_ok performed _).trans run
      rcases conclude_inj.mp ((show _ = ShardFleet.conclude (.error failure) after from
        failed).symm.trans runs) with ⟨rfl, rfl⟩
      have whole := asked.trans evolves
      refine ⟨_, whole, ?_, within.evolves.unique whole ▸ within.calls⟩
      rw [toldSets_append, ← toldSets_filter_isCall events]
      generalize events.filter Event.isCall = telling at tells
      cases tells with
      | memberless => exact Or.inl rfl
      | halted shown told =>
          rename_i group
          rcases shown with ⟨rfl, name, members⟩
          exact Or.inr ⟨group, ⟨order, _, Prod.ext answer rfl, name, members⟩, members ▸ told⟩

namespace Made

variable {group : ReplicaGroup} {events : List Event} {entry : LogEntry}

theorem logged (made : group.Made session events after) (entry : LogEntry) :
    group.Made session (events ++ [.logged entry]) (after.record (.logged entry)) where
  evolves := made.evolves.trans (.logged after entry)
  captured := made.captured
  told := by
    rw [toldSets_append, made.told]
    exact List.append_nil _
  builds := made.builds.append (.quiet rfl)

theorem of_buildShard {blueprint : Blueprint} {index : ℕ}
    (built : blueprint.buildShard index session = .ok group after) :
    ∃ events, group.Made session events after := by
  rcases Blueprint.buildShard_course built with ⟨made, entry, building, rfl⟩
  rcases made_of_build building with ⟨events, isMade⟩
  exact ⟨_, isMade.logged entry⟩

theorem of_buildConfigServers {blueprint : Blueprint}
    (built : blueprint.buildConfigServers session = .ok group after) :
    ∃ events, group.Made session events after := by
  rcases Blueprint.buildConfigServers_course built with ⟨made, entry, _, building, rfl⟩
  rcases made_of_build building with ⟨events, isMade⟩
  exact ⟨_, isMade.logged entry⟩

end Made

theorem Unmade.of_buildShard {blueprint : Blueprint} {index : ℕ} {failure : Failure}
    (failed : blueprint.buildShard index session = .error failure after) :
    ∃ events, Unmade session events after := by
  unfold Blueprint.buildShard at failed
  rcases bind_eq_error.mp failed with unwritable | ⟨_, between, concluding, rest⟩
  · rcases conclude_eq_error.mp unwritable with ⟨_, rfl⟩
    exact ⟨[], .refl _, Or.inl rfl, .nil⟩
  · rcases conclude_eq_ok.mp concluding with ⟨_, rfl⟩
    rcases bind_eq_error.mp rest with unbuilt | ⟨shard, made, building, logging⟩
    · exact unmade_of_build unbuilt
    · cases logging

end ReplicaGroup

/-- A router has been made, and told to find the config servers at the addresses that they were named
by. -/
structure Router.Made (router : Router) (servers : ReplicaGroup) (before : Session ω)
    (events : List Event) (after : Session ω) : Prop where
  evolves : before.Evolves events after
  told : ∃ name world arguments,
    Outside.respond (.buildProcess name) before.outside = (.ok router.handle, world) ∧
    events.filterMap Event.launch? = [(router.handle, arguments)] ∧
    [.text "--configdb", .text (servers.name.toText ++ "/" ++
      Address.joined (servers.members.map (Outside.namedAddress world)))] <:+ arguments

theorem Router.Made.of_buildRouter {blueprint : Blueprint} {index : Value} {servers : ReplicaGroup}
    {shards : List ReplicaGroup} {router : Router}
    (built : blueprint.buildRouter index servers shards session = .ok router after) :
    ∃ events, router.Made servers session events after := by
  rcases Blueprint.buildRouter_course built with
    ⟨ordered, arguments, entry, rfl, answer, same, _, rfl⟩
  let ordering : Call := .buildProcess (blueprint.routerName index)
  let setting : Call := .setCommand router.handle arguments
  let numbered : Session ω :=
    { session.answered ordering with nextSerial := session.nextSerial + 1 }
  have asked : session.Evolves [.called ordering (Outside.respond ordering session.outside).1]
      (session.answered ordering) := session.evolves_answered rfl
  have numbers : (session.answered ordering).Evolves [] numbered := .numbered _
  have tells : numbered.Evolves [.called setting (Outside.respond setting numbered.outside).1]
      (numbered.answered setting) := numbered.evolves_answered rfl
  refine ⟨_, (asked.trans numbers).trans (tells.trans (.logged _ entry)),
    blueprint.routerName index, _, arguments, Prod.ext answer rfl, rfl, ?_⟩
  rw [same]
  exact configdb_suffix_routerCommand _ _

end making

/-! ## Registering and draining shards -/

section membership

variable [Outside ω] {cluster : Cluster} {shard : ReplicaGroup} {before after : Session ω}
  {events : List Event} {result : Except Failure Unit}

/-- A shard is registered: it is added with its name and its members, at the addresses that clients
reach them by at the moment, and looked for by its name in what is listed then. -/
structure Cluster.Enters (cluster : Cluster) (shard : ReplicaGroup) (before : Session ω)
    (events : List Event) (after : Session ω) (result : Except Failure Unit) : Prop where
  runs : cluster.register shard before = conclude result after
  evolves : before.Evolves events after
  registers : Registers cluster shard before.outside (events.filter Event.isCall) result
  commands : ∀ sent answer, .called (.command sent) answer ∈ events →
    sent = AdminCommand.listing ∨
      sent.name = .text "addShard" ∧ ∃ text, sent.argument = .text text ∧
        Address.Gives text shard.name
          (shard.members.map (Outside.clientAddress before.outside))
  found : result = .ok () → ∀ name, shard.name = .text name →
    ∃ response, .called (.command AdminCommand.listing) (.ok response) ∈ events ∧
      Admin.Lists name response
  untold : toldSets events = []

theorem toldSets_eq_nil {allowed : Call → Prop} (calls : CalledOnly allowed events)
    (others : ∀ process arguments, ¬allowed (.setCommand process arguments)) :
    toldSets events = [] := by
  apply List.map_eq_nil_iff.mpr
  apply List.filterMap_eq_nil_iff.mpr
  intro event member
  cases event with
  | called call answer =>
      have permitted := calls call answer member
      cases call <;> first | rfl | exact absurd permitted (others _ _)
  | _ => rfl

/-- A wait that returns has read what it waited for from a response. -/
theorem Polls.held_of_ok {sent : AdminCommand} {reading : Value → Except Failure Bool}
    {description : Value} {limit : ℕ} {calls : List Event}
    (polls : Polls sent reading description limit calls result) (returned : result = .ok ()) :
    ∃ response, .called (.command sent) (.ok response) ∈ calls ∧ reading response = .ok true := by
  induction polls with
  | held reads => exact ⟨_, List.mem_cons_self, reads⟩
  | again reads more ih =>
      rcases ih returned with ⟨response, member, holds⟩
      exact ⟨response, List.mem_append_right _ member, holds⟩
  | _ => cases returned

theorem Joins.read_of_ok {calls : List Event} (joins : Joins cluster shard calls (.ok ())) :
    ∃ response, .called (.command AdminCommand.listing) (.ok response) ∈ calls ∧
      Admin.readActive shard.nameValue response = .ok true := by
  cases joins with
  | unset unset =>
      rcases unset with ⟨failure, failed, _⟩
      cases failed
  | added waits =>
      rcases waits.held_of_ok rfl with ⟨response, member, holds⟩
      exact ⟨response, List.mem_append_right _ member, holds⟩

theorem Registers.read_of_ok {outside : ω} {calls : List Event}
    (registers : Registers cluster shard outside calls (.ok ())) :
    ∃ response, .called (.command AdminCommand.listing) (.ok response) ∈ calls ∧
      Admin.readActive shard.nameValue response = .ok true := by
  cases registers with
  | written written visits =>
      cases visits with
      | addressed shows during =>
          cases during with
          | closed joins =>
              rcases joins.read_of_ok with ⟨response, member, holds⟩
              exact ⟨response, List.mem_append_left _ (List.mem_append_right _ member), holds⟩

theorem Cluster.register_enters (cluster : Cluster) (shard : ReplicaGroup) (session : Session ω) :
    ∃ events result after, cluster.register shard session = conclude result after ∧
      cluster.Enters shard session events after result := by
  rcases cluster.register_tracesFrom shard session with
    ⟨events, result, after, run, evolves, registers⟩
  rcases cluster.register_callsOnly_at shard session with ⟨all, within⟩
  rw [finalState_of_conclude run] at within
  rw [within.evolves.unique evolves] at within
  refine ⟨events, result, after, run, run, evolves, registers, ?_, ?_, ?_⟩
  · intro sent answer member
    rcases within.calls _ _ member with isListing | rfl
    · exact Or.inl isListing
    · exact Or.inr ⟨rfl, _, rfl, Address.gives_ofReplicaSet _ _⟩
  · rintro rfl name named
    rcases registers.read_of_ok with ⟨response, member, holds⟩
    rw [Component.nameValue, named] at holds
    exact ⟨response, (List.mem_filter.mp member).1, Admin.lists_of_readActive holds⟩
  · exact toldSets_eq_nil within.calls fun _ _ => id

/-- Shards are registered one after another, up to the first that fails. -/
inductive Cluster.EntersAll (cluster : Cluster) :
    List ReplicaGroup → Session ω → List Event → Session ω → Except Failure Unit → Prop where
  | done (session : Session ω) : EntersAll cluster [] session [] session (.ok ())
  | failed {shard : ReplicaGroup} {rest : List ReplicaGroup} {before after : Session ω}
      {events : List Event} {failure : Failure}
      (enters : cluster.Enters shard before events after (.error failure)) :
      EntersAll cluster (shard :: rest) before events after (.error failure)
  | next {shard : ReplicaGroup} {rest : List ReplicaGroup} {before between after : Session ω}
      {events later : List Event} {result : Except Failure Unit}
      (enters : cluster.Enters shard before events between (.ok ()))
      (others : EntersAll cluster rest between later after result) :
      EntersAll cluster (shard :: rest) before (events ++ later) after result

theorem Cluster.registerAll_enters (cluster : Cluster) (shards : List ReplicaGroup)
    (session : Session ω) :
    ∃ events result after, cluster.registerAll shards session = conclude result after ∧
      cluster.EntersAll shards session events after result := by
  induction shards generalizing session with
  | nil => exact ⟨[], .ok (), session, rfl, .done session⟩
  | cons shard rest ih =>
      rcases cluster.register_enters shard session with ⟨events, result, between, run, enters⟩
      cases result with
      | error failure =>
          exact ⟨events, .error failure, between, bind_of_error run _, .failed enters⟩
      | ok value =>
          rcases ih between with ⟨later, result, after, runs, others⟩
          exact ⟨events ++ later, result, after, (bind_of_ok run _).trans runs,
            .next enters others⟩

/-- Whatever comes of registering shards, they have been registered in this way. -/
theorem Cluster.entersAll_of_registerAll {shards : List ReplicaGroup} {result : Except Failure Unit}
    (run : cluster.registerAll shards before = conclude result after) :
    ∃ events, cluster.EntersAll shards before events after result := by
  rcases cluster.registerAll_enters shards before with ⟨events, given, final, ran, enters⟩
  rcases conclude_inj.mp (run.symm.trans ran) with ⟨rfl, rfl⟩
  exact ⟨events, enters⟩

theorem Cluster.EntersAll.evolves {shards : List ReplicaGroup} {result : Except Failure Unit}
    (enters : cluster.EntersAll shards before events after result) :
    before.Evolves events after := by
  induction enters with
  | done session => exact .refl session
  | failed enters => exact enters.evolves
  | next enters others ih => exact enters.evolves.trans ih

/-- All that is said of the shard to the admin namespace is that it is to be removed. -/
def ReplicaGroup.Leaves (shard : ReplicaGroup) (events : List Event) : Prop :=
  (∀ sent answer, .called (.command sent) answer ∈ events →
    sent.name = .text "removeShard" ∧ sent.argument = shard.nameValue) ∧ toldSets events = []

end membership

end ShardFleet
