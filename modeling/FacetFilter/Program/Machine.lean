import FacetFilter.Event
import FacetFilter.Program.Basic

/-!
# The stack machine

A program is read from left to right over a stack: a condition puts a value on
it, an operator takes its operands off and puts its result back.  What the
values are is left open, so one machine serves every reading of a program.
-/

namespace FacetFilter

/-- What the instructions of a program do to values. -/
structure Interpretation (α : Type) where
  leaf : Condition → Journaled α
  negation : α → α
  /-- What a junction makes of its operands, or the fault of one that has no reading, which is
  told before its operands are looked for. -/
  join : Junction → Nat → Except MachineFault (α → α → Journaled α)

namespace Interpretation

variable {α : Type}

/-- Performs the instruction at `position`; the top of the stack comes first. -/
def step (reading : Interpretation α) (position : Nat) (stack : List α) :
    Instruction → Journaled (List α)
  | .leaf condition => do
      let value ← reading.leaf condition
      pure (value :: stack)
  | .operator .not =>
      match stack with
      | operand :: rest => pure (reading.negation operand :: rest)
      | [] => throw (.machine (.underflow .not position))
  | .operator (.join junction) =>
      match reading.join junction position with
      | .error fault => throw (.machine fault)
      | .ok operation =>
          match stack with
          | right :: left :: rest => do
              let value ← operation left right
              pure (value :: rest)
          | _ => throw (.machine (.underflow (.join junction) position))

/-- Performs a program whose first instruction stands at `position`. -/
def perform (reading : Interpretation α) :
    Nat → List α → Program → Journaled (List α)
  | _, stack, [] => pure stack
  | position, stack, instruction :: program => do
      let stack ← reading.step position stack instruction
      reading.perform (position + 1) stack program

/-- The one value that a program leaves. -/
def run (reading : Interpretation α) (program : Program) : Journaled α := do
  let stack ← reading.perform 0 [] program
  match stack with
  | [value] => pure value
  | stack => throw (.machine (.imbalance stack.length))

end Interpretation

end FacetFilter
