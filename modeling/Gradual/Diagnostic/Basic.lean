import Gradual.Ty
import Gradual.Position

/-!
# Diagnostics

What the checker can find wrong, as data. Causes leave all wording to others.
-/

namespace Gradual

/-! ## Requirements on operands -/

inductive Requirement where
  | number
  | integer
  | boolean
  | character
  | array
  | string
  | sequence
  deriving DecidableEq, Repr

namespace Requirement

def all : List Requirement := [number, integer, boolean, character, array, string, sequence]

/-- The types that meet the requirement by what they are. The wildcard is not among them. -/
def holds : Requirement → Ty → Bool
  | number, t => t.isArithmetic
  | integer, t => t.isInteger
  | boolean, t => t == .boolean
  | character, t => t == .character
  | array, t => t.isArray
  | string, t => t == .string
  | sequence, t => t.isSequence

/-- The types that an operand may have. The wildcard passes everywhere: whatever hid the type has
been reported where it happened. -/
def admits (r : Requirement) (t : Ty) : Bool :=
  t.isAny || r.holds t

end Requirement

/-! ## Causes -/

inductive Site where
  | initialization
  | assignment
  | element
  deriving DecidableEq, Repr

def Site.all : List Site := [.initialization, .assignment, .element]

inductive Cause where
  | operand (required : Requirement) (operator : String) (found : Ty)
  /-- A type without an order stands on the left of an order comparison. -/
  | unordered (operator : String) (found : Ty)
  /-- Two values that no equality comparison can bring together. -/
  | incomparable (operator : String) (left right : Ty)
  /-- A declaration that says neither a type nor a value. -/
  | untyped (name : String)
  | mismatch (site : Site) (expected received : Ty)
  | notWritable
  | unknownType (name : String)
  | undeclared (name : String)
  /-- A second declaration of a name in one scope. -/
  | redeclared (name : String)
  deriving DecidableEq, Repr

structure Diagnostic where
  cause : Cause
  position : Position
  deriving DecidableEq, Repr

end Gradual
