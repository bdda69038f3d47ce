import ShardFleet.Proofs.Cluster.Waiting
import ShardFleet.Simulation.World

/-!
# Which record tells that a shard is active

A response to listShards may list anything. What is listed is gone through in order, and the first
entry that settles the question decides it: a record of the shard that gives its state as one tells
that the shard is active, and an entry that is no record at all is a failure. Records of other
shards, and of the same shard in another state, settle nothing, and what follows an entry that
settles the question is not looked at.
-/

namespace ShardFleet

variable {ω : Type}

namespace Binary64

/-- An undefined number is no integer. -/
theorem toInt?_of_isUndefined {value : Binary64} (undefined : value.isUndefined = true) :
    value.toInt? = none := by
  unfold isUndefined at undefined
  unfold toInt?
  split at undefined
  · rename_i decoded
    rw [decoded]
  · cases undefined

end Binary64

namespace Value

/-- A value is the number one if it equals one, in whatever way it is written. -/
theorem isOne_eq_equals (value : Value) : value.isOne = value.equals (.int 1) := by
  cases value with
  | bool flag => cases flag <;> rfl
  | int number => simp [isOne, equals, toKey?, Key.equals, Key.identity, Bool.beq_eq_decide_eq]
  | float number =>
      simp only [isOne, equals, toKey?]
      split
      · rename_i undefined
        rw [Binary64.toInt?_of_isUndefined undefined]
        rfl
      · simp only [Key.equals, Key.identity]
        cases number.toInt? with
        | none => rfl
        | some whole => simp [Bool.beq_eq_decide_eq]
  | _ => simp [isOne, equals, toKey?, Key.equals, Key.identity]

end Value

namespace Admin

/-- A record of the shard with the name given, with its state equal to one. -/
def Activates (name : String) (entry : Value) : Prop :=
  ∃ fields id state, entry = .mapping fields ∧
    fields.field? "_id" = some id ∧ id.equals (.text name) = true ∧
    fields.field? "state" = some state ∧ state.equals (.int 1) = true

/-- An entry that has fields to ask for. -/
def IsRecord (entry : Value) : Prop := ∃ fields, entry = .mapping fields

/-- An entry after which no other is asked. -/
def Settles (name : String) (entry : Value) : Prop := ¬IsRecord entry ∨ Activates name entry

/-- What the first entry that settles the question makes of it. -/
inductive FirstSettles (name : String) : List Value → Except Failure Bool → Prop where
  | active {passed rest : List Value} {entry : Value}
      (passes : ∀ other ∈ passed, ¬Settles name other) (activates : Activates name entry) :
      FirstSettles name (passed ++ entry :: rest) (.ok true)
  | malformed {passed rest : List Value} {entry : Value}
      (passes : ∀ other ∈ passed, ¬Settles name other) (malformed : ¬IsRecord entry) :
      FirstSettles name (passed ++ entry :: rest) (.error .noFields)
  | unsettled {entries : List Value} (passes : ∀ other ∈ entries, ¬Settles name other) :
      FirstSettles name entries (.ok false)

section reading

variable {name : String} {entry : Value} {front back others : List Value}
  {result : Except Failure Bool}

theorem isActiveRecord_eq_true_iff :
    isActiveRecord (.text name) entry = .ok true ↔ Activates name entry := by
  cases entry with
  | mapping fields =>
      rw [isActiveRecord, Except.ok.injEq, Bool.and_eq_true]
      constructor
      · rintro ⟨named, active⟩
        rcases (Option.any_eq_true _ _).mp active with ⟨state, given, isOne⟩
        rw [Value.isOne_eq_equals] at isOne
        cases identified : fields.field? "_id" with
        | none =>
            rw [identified] at named
            cases named
        | some id =>
            rw [identified] at named
            exact ⟨fields, id, state, rfl, identified, named, given, isOne⟩
      · rintro ⟨_, id, state, same, identified, named, given, isOne⟩
        cases same
        rw [identified, given]
        exact ⟨named, (Value.isOne_eq_equals state).trans isOne⟩
  | _ =>
      constructor
      · exact nofun
      · rintro ⟨_, _, _, same, _⟩
        cases same

theorem isActiveRecord_of_not_isRecord (malformed : ¬IsRecord entry) :
    isActiveRecord (.text name) entry = .error .noFields := by
  cases entry with
  | mapping fields => exact absurd ⟨fields, rfl⟩ malformed
  | _ => rfl

theorem isActiveRecord_of_not_settles (unsettled : ¬Settles name entry) :
    isActiveRecord (.text name) entry = .ok false := by
  have inactive : isActiveRecord (.text name) entry ≠ .ok true :=
    fun active => unsettled (Or.inr (isActiveRecord_eq_true_iff.mp active))
  cases entry with
  | mapping fields =>
      rw [isActiveRecord] at inactive ⊢
      rw [Ne, Except.ok.injEq, Bool.not_eq_true] at inactive
      rw [inactive]
  | _ => exact absurd (Or.inl (by rintro ⟨fields, same⟩; cases same)) unsettled

theorem anyActive_append_of_not_settles (passes : ∀ other ∈ front, ¬Settles name other) :
    anyActive (.text name) (front ++ back) = anyActive (.text name) back := by
  induction front with
  | nil => rfl
  | cons first rest ih =>
      rw [List.cons_append, anyActive,
        isActiveRecord_of_not_settles (passes first List.mem_cons_self)]
      exact ih fun other otherMem => passes other (List.mem_cons_of_mem _ otherMem)

theorem FirstSettles.anyActive_eq (settles : FirstSettles name others result) :
    anyActive (.text name) others = result := by
  cases settles with
  | active passes activates =>
      rw [anyActive_append_of_not_settles passes, anyActive,
        isActiveRecord_eq_true_iff.mpr activates]
  | malformed passes malformed =>
      rw [anyActive_append_of_not_settles passes, anyActive,
        isActiveRecord_of_not_isRecord malformed]
  | unsettled passes =>
      rw [← List.append_nil others, anyActive_append_of_not_settles passes, anyActive]

/-- An entry that settles nothing can be put in front. -/
theorem FirstSettles.cons (unsettled : ¬Settles name entry)
    (settles : FirstSettles name others result) : FirstSettles name (entry :: others) result := by
  have longer {passed : List Value} (passes : ∀ other ∈ passed, ¬Settles name other) :
      ∀ other ∈ entry :: passed, ¬Settles name other := by
    intro other otherMem
    rcases List.mem_cons.mp otherMem with rfl | behind
    · exact unsettled
    · exact passes other behind
  cases settles with
  | active passes activates =>
      rw [← List.cons_append]
      exact .active (longer passes) activates
  | malformed passes malformed =>
      rw [← List.cons_append]
      exact .malformed (longer passes) malformed
  | unsettled passes => exact .unsettled (longer passes)

theorem firstSettles_anyActive (name : String) (entries : List Value) :
    FirstSettles name entries (anyActive (.text name) entries) := by
  induction entries with
  | nil => exact .unsettled nofun
  | cons entry rest ih =>
      by_cases activates : Activates name entry
      · rw [anyActive, isActiveRecord_eq_true_iff.mpr activates]
        exact show FirstSettles name ([] ++ entry :: rest) _ from .active nofun activates
      · by_cases isRecord : IsRecord entry
        · have unsettled : ¬Settles name entry :=
            not_or.mpr ⟨not_not_intro isRecord, activates⟩
          rw [anyActive, isActiveRecord_of_not_settles unsettled]
          exact ih.cons unsettled
        · rw [anyActive, isActiveRecord_of_not_isRecord isRecord]
          exact show FirstSettles name ([] ++ entry :: rest) _ from .malformed nofun isRecord

/-- There is one answer, and reading the entries in order gives it. -/
theorem firstSettles_iff :
    FirstSettles name others result ↔ result = anyActive (.text name) others := by
  constructor
  · exact fun settles => settles.anyActive_eq.symm
  · rintro rfl
    exact firstSettles_anyActive name others

theorem anyActive_append_congr {behind : List Value} (front : List Value)
    (same : anyActive (.text name) back = anyActive (.text name) behind) :
    anyActive (.text name) (front ++ back) = anyActive (.text name) (front ++ behind) := by
  induction front with
  | nil => exact same
  | cons first rest ih => rw [List.cons_append, List.cons_append, anyActive, anyActive, ih]

/-- An entry that settles nothing does not change the answer, wherever it stands. -/
theorem firstSettles_insert_iff (unsettled : ¬Settles name entry) :
    FirstSettles name (front ++ entry :: back) result ↔
      FirstSettles name (front ++ back) result := by
  have same : anyActive (.text name) (entry :: back) = anyActive (.text name) back := by
    rw [anyActive, isActiveRecord_of_not_settles unsettled]
  rw [firstSettles_iff, firstSettles_iff, anyActive_append_congr front same]

/-- What stands behind an entry that settles the question does not change the answer. -/
theorem firstSettles_behind_iff (settles : Settles name entry) (behind : List Value) :
    FirstSettles name (front ++ entry :: back) result ↔
      FirstSettles name (front ++ entry :: behind) result := by
  have same : anyActive (.text name) (entry :: back) =
      anyActive (.text name) (entry :: behind) := by
    rw [anyActive, anyActive]
    rcases settles with malformed | activates
    · rw [isActiveRecord_of_not_isRecord malformed]
    · rw [isActiveRecord_eq_true_iff.mpr activates]
  rw [firstSettles_iff, firstSettles_iff, anyActive_append_congr front same]

theorem shardRecords_eq_ok {fields : Mapping}
    (listed : fields.field? "shards" = some (.list others) ∨
      fields.field? "shards" = none ∧ others = []) :
    shardRecords (.mapping fields) = .ok others := by
  rw [shardRecords, Value.fieldOf]
  rcases listed with given | ⟨absent, rfl⟩
  · rw [given]
    rfl
  · rw [absent]

end reading

variable [Outside ω]

/-- A command that is answered comes to its answer on every channel, and is all that happens. -/
theorem command_of_answered (channel : Channel) {command : AdminCommand} {session : Session ω}
    {response : Value}
    (answered : (Outside.respond (.command command) session.outside).1 = .ok response) :
    channel.command command session = .ok response (session.answered (.command command)) := by
  have performs : (Action.perform (.command command) : Action ω Value) session =
      .ok response (session.answered (.command command)) :=
    Action.perform_eq_ok.mpr ⟨answered, rfl⟩
  cases channel with
  | supplied => exact performs
  | client selectionTimeout => exact bind_of_ok (attempt_of_ok performs) _

/-- Whether a shard is active is asked by one listing, and decided by the first of the entries
listed that settles it. Neither entries that settle nothing nor those behind one that settles it
change the answer. -/
theorem isShardActive_settledByFirst (channel : Channel) (name : String) {session : Session ω}
    {fields : Mapping} {entries : List Value}
    (answered : (Outside.respond (.command AdminCommand.listing) session.outside).1 =
      .ok (.mapping fields))
    (listed : fields.field? "shards" = some (.list entries) ∨
      fields.field? "shards" = none ∧ entries = []) :
    (∃ result after, isShardActive channel (.text name) session = conclude result after ∧
      session.Evolves [.called (.command AdminCommand.listing) (.ok (.mapping fields))] after ∧
      ∀ other, FirstSettles name entries other ↔ other = result) ∧
    (∀ front entry back result, ¬Settles name entry →
      (FirstSettles name (front ++ entry :: back) result ↔
        FirstSettles name (front ++ back) result)) ∧
    ∀ front entry back behind result, Settles name entry →
      (FirstSettles name (front ++ entry :: back) result ↔
        FirstSettles name (front ++ entry :: behind) result) := by
  refine ⟨⟨anyActive (.text name) entries, session.answered (.command AdminCommand.listing), ?_, ?_,
    fun other => firstSettles_iff⟩, ?_, ?_⟩
  · rw [isShardActive_eq, bind_of_ok (command_of_answered channel answered), readActive,
      shardRecords_eq_ok listed]
  · rw [← answered]
    exact session.evolves_answered rfl
  · exact fun _ _ _ _ unsettled => firstSettles_insert_iff unsettled
  · exact fun _ _ _ behind _ settles => firstSettles_behind_iff settles behind

/-- Another shard, the shard itself as inactive and then, by a truth value, as active, and something
that is no record. -/
def mixedEntries : List Value :=
  [.mapping (.ofFields [("_id", .text "shard2"), ("state", .int 1)]),
    .mapping (.ofFields [("_id", .text "shard1"), ("state", .int 0)]),
    .mapping (.ofFields [("_id", .text "shard1"), ("state", .bool true)]), .int 5]

/-- A simulated session in which the next listing is answered with the entries given. -/
def sessionListing (entries : List Value) : Session Simulation.World :=
  .fresh { admin := { scripts :=
    [(.text "listShards", [.mapping (.ofFields [("shards", .list entries)])])] } }

/-- The shard is active: its own record as active comes before what is no record. -/
theorem isShardActive_settledByFirst_mixed :
    (Outside.respond (.command AdminCommand.listing) (sessionListing mixedEntries).outside).1 =
      .ok (.mapping (.ofFields [("shards", .list mixedEntries)])) ∧
    ∃ after, isShardActive .supplied (.text "shard1") (sessionListing mixedEntries) =
      .ok true after := by
  have answered :
      (Outside.respond (.command AdminCommand.listing) (sessionListing mixedEntries).outside).1 =
        .ok (.mapping (.ofFields [("shards", .list mixedEntries)])) := rfl
  refine ⟨answered, ?_⟩
  rcases (isShardActive_settledByFirst .supplied "shard1" answered (Or.inl rfl)).1 with
    ⟨result, after, run, _, decided⟩
  have active : FirstSettles "shard1" mixedEntries (.ok true) :=
    firstSettles_iff.mpr rfl
  rw [← (decided _).mp active] at run
  exact ⟨after, run⟩

end Admin

end ShardFleet
