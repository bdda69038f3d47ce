import Mathlib.Logic.Function.Basic
import ShardFleet.Proofs.Cluster.Membership
import ShardFleet.Simulation.AdminNamespace

/-!
# Shard names and commands

Shards are named by their numbers in decimal, and no two numbers give the same name. A name has no
slash in it, so the admin namespace reads it back from the address that a shard is added by. Hence a
command tells the number of the shard that it is about.
-/

namespace ShardFleet

namespace Text

theorem toList_decimal (number : ℕ) : (decimal number).toList = Nat.toDigits 10 number := by
  rw [decimal, String.toList_ofList, decimalChars,
    if_neg (Int.not_lt.mpr (Int.natCast_nonneg number))]
  rfl

theorem toDigits_injective : Function.Injective (Nat.toDigits 10) := by
  intro first second same
  rw [← Nat.ofDigitChars_ten_toDigits (n := first), same, Nat.ofDigitChars_ten_toDigits]

end Text

namespace Blueprint

theorem shardName_injective : Function.Injective shardName := by
  intro first second same
  have digits := congrArg String.toList same
  simp only [shardName, String.toList_append, Text.toList_decimal, List.append_cancel_left_eq]
    at digits
  exact Text.toDigits_injective digits

theorem shardName_ne_configName (number : ℕ) : shardName number ≠ configName := by
  intro same
  have start : ("shard" ++ Text.decimal number).toList.head? = configName.toList.head? :=
    congrArg (fun name => name.toList.head?) same
  simp [configName] at start

theorem slash_not_mem_shardName (number : ℕ) : '/' ∉ (shardName number).toList := by
  rw [shardName, String.toList_append, Text.toList_decimal, List.mem_append, not_or]
  refine ⟨by decide, ?_⟩
  intro member
  exact absurd (Nat.isDigit_of_mem_toDigits (by decide) (by decide) member) (by decide)

theorem shardAt_shardName (number : ℕ) (members : String) :
    Simulation.AdminNamespace.shardAt (shardName number ++ "/" ++ members) = shardName number := by
  have clean : ∀ char ∈ (shardName number).toList, (char != '/') = true := by
    intro char member
    rw [bne_iff_ne]
    rintro rfl
    exact slash_not_mem_shardName number member
  rw [Simulation.AdminNamespace.shardAt, String.toList_append, String.toList_append,
    List.append_assoc, List.takeWhile_append_of_pos clean]
  simp

end Blueprint

namespace AdminCommand

/-- The command adds the shard named: it gives an address of that name. -/
def Adds (name : String) (command : AdminCommand) : Prop :=
  command.name = .text "addShard" ∧ ∃ members, command.argument = .text (name ++ "/" ++ members)

def Removes (name : String) (command : AdminCommand) : Prop :=
  command.name = .text "removeShard" ∧ command.argument = .text name

/-- The command adds or removes no shard but those with numbers up to the limit. -/
def NumberedUpTo (limit : ℕ) (command : AdminCommand) : Prop :=
  command.name = .text "addShard" ∨ command.name = .text "removeShard" →
    ∃ number ≤ limit, command.Adds (Blueprint.shardName number) ∨
      command.Removes (Blueprint.shardName number)

theorem adds_adding (name : String) (members : List Address) : (adding name members).Adds name :=
  ⟨rfl, Address.joined members, rfl⟩

theorem Adds.number_eq {command : AdminCommand} {first second : ℕ}
    (one : command.Adds (Blueprint.shardName first))
    (other : command.Adds (Blueprint.shardName second)) : first = second := by
  rcases one with ⟨_, members, argument⟩
  rcases other with ⟨_, others, same⟩
  rw [argument, Value.text.injEq] at same
  have names := congrArg Simulation.AdminNamespace.shardAt same
  rw [Blueprint.shardAt_shardName, Blueprint.shardAt_shardName] at names
  exact Blueprint.shardName_injective names

theorem Removes.number_eq {command : AdminCommand} {first second : ℕ}
    (one : command.Removes (Blueprint.shardName first))
    (other : command.Removes (Blueprint.shardName second)) : first = second := by
  rw [Removes, other.2, Value.text.injEq] at one
  exact (Blueprint.shardName_injective one.2).symm

theorem Adds.not_removes {command : AdminCommand} {name other : String}
    (adds : command.Adds name) : ¬command.Removes other := by
  rintro ⟨removes, _⟩
  rw [adds.1] at removes
  simp at removes

theorem NumberedUpTo.number_le {command : AdminCommand} {limit number : ℕ}
    (upTo : command.NumberedUpTo limit)
    (concerns : command.Adds (Blueprint.shardName number) ∨
      command.Removes (Blueprint.shardName number)) : number ≤ limit := by
  rcases concerns with adds | removes
  · rcases upTo (Or.inl adds.1) with ⟨other, le, adds' | removes'⟩
    · rw [adds.number_eq adds']
      exact le
    · exact absurd removes' adds.not_removes
  · rcases upTo (Or.inr removes.1) with ⟨other, le, adds' | removes'⟩
    · exact absurd removes adds'.not_removes
    · rw [removes.number_eq removes']
      exact le

end AdminCommand

end ShardFleet
