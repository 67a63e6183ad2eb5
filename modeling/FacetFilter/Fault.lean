import FacetFilter.Json.Defect
import FacetFilter.Record
import FacetFilter.Operator

/-!
# Faults of filtering

A filter is refused for what its query says, for how its symbols stand, for a
name that the catalog does not know, or because a program leaves its stack in
disorder.  Each fault holds its cause, and the wording is in one function a kind.
-/

namespace FacetFilter

/-- What a fault of a leaf is about. -/
inductive Subject where
  | text
  | number
  | boolean
  | label (kind : LabelKind)
  | membership
  deriving DecidableEq

def Subject.name : Subject → String
  | .text => "text"
  | .number => "number"
  | .boolean => "boolean"
  | .label kind => kind.name
  | .membership => "membership"

/-- Symbols that do not form an expression.  Positions count symbols from zero. -/
inductive StructureFault where
  | unmatchedClosing (position : Nat)
  | unclosedGroup (position : Nat)
  | emptyGroup (position : Nat)
  | missingOperand (operator : Operator) (position : Nat)
  | unexpected (symbol : String) (position : Nat)
  | noSymbols
  deriving DecidableEq

/-- A query that cannot become a program. -/
inductive QueryFault where
  | document (defect : Json.Defect)
  | missingColumn (subject : Subject)
  | missingOperation (subject : Subject)
  | unknownOperation (subject : Subject) (given : String)
  | invalidValue (subject : Subject) (given : String)
  | missingLink (position : Nat)
  | tooLarge (limit position : Nat)
  | structural (fault : StructureFault)
  deriving DecidableEq

/-- A name that the catalog does not know. -/
inductive NameFault where
  | unknownColumn (column : String)
  | unknownLabel (kind : LabelKind) (label : String)
  deriving DecidableEq

/-- A program that does not keep its stack.  Positions count instructions from zero. -/
inductive MachineFault where
  | underflow (operator : Operator) (position : Nat)
  | imbalance (remaining : Nat)
  | exclusive (position : Nat)
  deriving DecidableEq

inductive Fault where
  | query (fault : QueryFault)
  | name (fault : NameFault)
  | machine (fault : MachineFault)
  deriving DecidableEq

def StructureFault.message : StructureFault → String
  | .unmatchedClosing position =>
      "Unmatched closing parenthesis at token " ++ toString position
  | .unclosedGroup position => "Unclosed group opened at token " ++ toString position
  | .emptyGroup position => "Empty group at token " ++ toString position
  | .missingOperand operator position =>
      "Operator " ++ operator.text ++ " at token " ++ toString position ++
        " is missing an operand"
  | .unexpected symbol position => "Unexpected " ++ symbol ++ " at token " ++ toString position
  | .noSymbols => "Empty expression"

def QueryFault.message : QueryFault → String
  | .document defect => "Malformed filter document: " ++ defect.message
  | .missingColumn subject => "Filter of type " ++ subject.name ++ " requires a column name"
  | .missingOperation subject => "Filter of type " ++ subject.name ++ " requires an operation"
  | .unknownOperation subject given => "Unknown " ++ subject.name ++ " operation: " ++ given
  | .invalidValue subject given => "Invalid " ++ subject.name ++ " value: " ++ given
  | .missingLink position => "Missing operator before token " ++ toString position
  | .tooLarge limit position =>
      "XOR at instruction " ++ toString position ++ " expands past the " ++ toString limit ++
        " instruction limit"
  | .structural fault => fault.message

def NameFault.message : NameFault → String
  | .unknownColumn column => "Unknown column: " ++ column
  | .unknownLabel kind label => "No " ++ kind.name ++ " named " ++ Text.quote label

def MachineFault.message : MachineFault → String
  | .underflow operator position =>
      "Operator " ++ operator.text ++ " at instruction " ++ toString position ++
        " found too few operands"
  | .imbalance remaining =>
      "Program left " ++ toString remaining ++ " result sets on the stack, expected exactly one"
  | .exclusive position => "XOR instruction at " ++ toString position ++ " reached the evaluator"

def Fault.message : Fault → String
  | .query fault => fault.message
  | .name fault => fault.message
  | .machine fault => fault.message

end FacetFilter
