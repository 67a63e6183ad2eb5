import FacetFilter.Fault

/-!
# Events

Every stage of filtering tells what it did, by sizes and names and never by the
records themselves.  A journaled computation may fail and keeps the events it
told before it did.
-/

namespace FacetFilter

inductive Event where
  | symbolsEmitted (siblings symbols : Nat)
  | programBuilt (symbols instructions : Nat)
  | expansionRefused (position projected limit : Nat)
  | expanded (junctions input output : Nat)
  | emptyQuery
  | planCompiled (leaves symbols instructions : Nat) (inverted : Bool)
  | unknownColumn (column : String)
  | labelMissed (kind : LabelKind) (label : String)
  | programEvaluated (instructions : Nat) (inverted : Bool) (matched : Nat)
  | invariantViolated (fault : MachineFault)
  deriving DecidableEq

namespace Event

inductive Level where
  | debug
  | warn
  deriving DecidableEq

def Level.text : Level → String
  | .debug => "DEBUG"
  | .warn => "WARN"

/-- Events that name something wrong are warnings. -/
def level : Event → Level
  | .expansionRefused _ _ _ => .warn
  | .unknownColumn _ => .warn
  | .invariantViolated _ => .warn
  | _ => .debug

/-- What a field of an event holds. -/
inductive Datum where
  | text (value : String)
  | count (value : Nat)
  | flag (value : Bool)
  deriving DecidableEq

def stage : Event → String
  | .symbolsEmitted _ _ => "tokenizer"
  | .programBuilt _ _ => "parser"
  | .expansionRefused _ _ _ => "desugar"
  | .expanded _ _ _ => "desugar"
  | .emptyQuery => "engine"
  | .planCompiled _ _ _ _ => "engine"
  | .unknownColumn _ => "engine"
  | .labelMissed _ _ => "evaluator"
  | .programEvaluated _ _ _ => "evaluator"
  | .invariantViolated _ => "evaluator"

def name : Event → String
  | .symbolsEmitted _ _ => "tokens_emitted"
  | .programBuilt _ _ => "postfix_built"
  | .expansionRefused _ _ _ => "expansion_limit_exceeded"
  | .expanded _ _ _ => "xor_expanded"
  | .emptyQuery => "empty_filter"
  | .planCompiled _ _ _ _ => "plan_compiled"
  | .unknownColumn _ => "unknown_column"
  | .labelMissed _ _ => "lookup_miss"
  | .programEvaluated _ _ _ => "program_evaluated"
  | .invariantViolated _ => "invariant_violated"

def details : Event → List (String × Datum)
  | .symbolsEmitted siblings symbols => [("siblings", .count siblings), ("tokens", .count symbols)]
  | .programBuilt symbols instructions =>
      [("tokens", .count symbols), ("instructions", .count instructions)]
  | .expansionRefused position projected limit =>
      [("position", .count position), ("projected", .count projected), ("limit", .count limit)]
  | .expanded junctions input output =>
      [("xor_count", .count junctions), ("input", .count input), ("output", .count output)]
  | .emptyQuery => []
  | .planCompiled leaves symbols instructions inverted =>
      [("leaves", .count leaves), ("tokens", .count symbols),
        ("instructions", .count instructions), ("inverted", .flag inverted)]
  | .unknownColumn column => [("column", .text column)]
  | .labelMissed kind label => [("relation", .text kind.name), ("name", .text label)]
  | .programEvaluated instructions inverted matched =>
      [("instructions", .count instructions), ("inverted", .flag inverted),
        ("matched", .count matched)]
  | .invariantViolated fault => [("error", .text fault.message)]

/-- The fields of an event in their order, the stage and the name first. -/
def fields (event : Event) : List (String × Datum) :=
  ("component", .text event.stage) :: ("event", .text event.name) :: event.details

end Event

/-- A computation that may fail and tells events; the state holds them, the latest first. -/
abbrev Journaled (α : Type) := ExceptT Fault (StateM (List Event)) α

namespace Journaled

def tell (event : Event) : Journaled Unit := modify (event :: ·)

/-- The result together with the events in the order in which they were told. -/
def outcome {α : Type} (computation : Journaled α) : Except Fault α × List Event :=
  let (result, events) := computation.run.run []
  (result, events.reverse)

end Journaled

end FacetFilter
