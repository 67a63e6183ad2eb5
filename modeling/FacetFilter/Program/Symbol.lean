import FacetFilter.Program.Basic

/-!
# Symbols of an expression

An expression as it is written by hand: conditions, operators between and before
operands, and parentheses.  It becomes a program by keeping operators back until
their operands are complete.
-/

namespace FacetFilter

inductive Symbol where
  | leaf (condition : Condition)
  | operator (operator : Operator)
  | opening
  | closing
  deriving BEq

def Symbol.render : Symbol → String
  | .leaf condition => condition.render
  | .operator operation => operation.text
  | .opening => "("
  | .closing => ")"

/-- What is kept back: an operator without its last operand, or a group without its end. -/
inductive Pending where
  | operator (operator : Operator)
  | opening (position : Nat)
  deriving DecidableEq

/-- How far an expression has been read.  Both lists hold the latest entry first. -/
structure Arrangement where
  output : Program
  pending : List Pending
  expectsOperand : Bool

namespace Arrangement

def start : Arrangement := ⟨[], [], true⟩

/-- Puts out the operators on top that bind at least as tightly as a junction that follows. -/
def release (junction : Junction) : Program → List Pending → Program × List Pending
  | output, .operator top :: pending =>
      if (Operator.join junction).level ≤ top.level then
        release junction (.operator top :: output) pending
      else (output, .operator top :: pending)
  | output, pending => (output, pending)

/-- Puts out the operators of the innermost group and forgets where it began. -/
def closeGroup (position : Nat) :
    Program → List Pending → Except StructureFault (Program × List Pending)
  | output, .operator top :: pending => closeGroup position (.operator top :: output) pending
  | output, .opening _ :: pending => .ok (output, pending)
  | _, [] => .error (.unmatchedClosing position)

/-- The fault of a closing parenthesis where an operand is due. -/
def closingFault (position : Nat) : List Pending → StructureFault
  | .opening opened :: _ => .emptyGroup opened
  | .operator operation :: _ => .missingOperand operation position
  | [] => .unmatchedClosing position

def accept (state : Arrangement) (position : Nat) (symbol : Symbol) :
    Except StructureFault Arrangement :=
  match symbol, state.expectsOperand with
  | .leaf condition, true =>
      .ok { state with output := .leaf condition :: state.output, expectsOperand := false }
  | .operator .not, true =>
      .ok { state with pending := .operator .not :: state.pending }
  | .opening, true =>
      .ok { state with pending := .opening position :: state.pending }
  | .operator (.join junction), false =>
      let (output, pending) := release junction state.output state.pending
      .ok ⟨output, .operator (.join junction) :: pending, true⟩
  | .closing, false => do
      let (output, pending) ← closeGroup position state.output state.pending
      pure ⟨output, pending, false⟩
  | .operator (.join junction), true => .error (.missingOperand (.join junction) position)
  | .closing, true => .error (closingFault position state.pending)
  | symbol, false => .error (.unexpected symbol.render position)

/-- Reads symbols, the first of which stands at `position`. -/
def acceptAll (state : Arrangement) (position : Nat) :
    List Symbol → Except StructureFault Arrangement
  | [] => .ok state
  | symbol :: symbols =>
      match state.accept position symbol with
      | .ok state => state.acceptAll (position + 1) symbols
      | .error fault => .error fault

/-- Puts out what is still kept back; every group has to be closed. -/
def drain : Program → List Pending → Except StructureFault Program
  | output, [] => .ok output.reverse
  | output, .operator operation :: pending => drain (.operator operation :: output) pending
  | _, .opening position :: _ => .error (.unclosedGroup position)

/-- Ends an expression of `count` symbols. -/
def finish (state : Arrangement) (count : Nat) : Except StructureFault Program :=
  match state.expectsOperand, state.pending with
  | true, .operator operation :: _ => .error (.missingOperand operation count)
  | _, pending => drain state.output pending

end Arrangement

/-- The program of an expression. -/
def Program.ofSymbols (symbols : List Symbol) : Except StructureFault Program :=
  if symbols.isEmpty then .error .noSymbols
  else do
    let state ← Arrangement.start.acceptAll 0 symbols
    state.finish symbols.length

end FacetFilter
