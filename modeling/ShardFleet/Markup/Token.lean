/-!
# Tokens of a settings document

A document is read in three steps: its text as tokens, the tokens as numbered nodes,
and the nodes as pieces of a value. Block structure, which the text shows by
indentation, is explicit in the tokens.
-/

namespace ShardFleet.Markup

inductive Directive where
  | version (major minor : Nat)
  | tagHandle (handle expansion : String)
  | unknown
deriving DecidableEq, Repr

inductive Token where
  | directive (directive : Directive)
  | documentStart
  | documentEnd
  | blockSequenceStart
  | blockMappingStart
  | blockEnd
  | flowSequenceStart
  | flowMappingStart
  | flowSequenceEnd
  | flowMappingEnd
  | key
  | value
  | blockEntry
  | flowEntry
  | reference (name : String)
  | anchor (name : String)
  | tag (handle : Option String) (suffix : String)
  | scalar (text : String) (plain : Bool)
deriving DecidableEq, Repr

end ShardFleet.Markup
