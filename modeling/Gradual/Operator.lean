import Gradual.Ty
import Gradual.Text.Quoted

/-!
# Operators

The family of a binary operator alone decides the typing rule and the type of the result.
-/

namespace Gradual

/-! ## Binary operators -/

inductive Family where
  | arithmetic
  | shift
  | relational
  | equality
  | logical
  deriving DecidableEq, Repr

def Family.result : Family → Ty
  | .arithmetic | .shift => .number
  | .relational | .equality | .logical => .boolean

inductive BinaryOp where
  | plus | minus | times | divide
  | shiftLeft | shiftRight
  | less | lessEqual | greater | greaterEqual
  | equal | notEqual
  | and | or
  deriving DecidableEq, Repr

namespace BinaryOp

def all : List BinaryOp :=
  [plus, minus, times, divide, shiftLeft, shiftRight, less, lessEqual, greater, greaterEqual,
    equal, notEqual, and, or]

def family : BinaryOp → Family
  | plus | minus | times | divide => .arithmetic
  | shiftLeft | shiftRight => .shift
  | less | lessEqual | greater | greaterEqual => .relational
  | equal | notEqual => .equality
  | and | or => .logical

def token : BinaryOp → String
  | plus => "+"
  | minus => "-"
  | times => "*"
  | divide => "/"
  | shiftLeft => "<<"
  | shiftRight => ">>"
  | less => "<"
  | lessEqual => "<="
  | greater => ">"
  | greaterEqual => ">="
  | equal => "=="
  | notEqual => "!="
  | and => "&&"
  | or => "||"

end BinaryOp

/-! ## Unary operators -/

inductive UnaryOp where
  | negate
  | not
  | length
  deriving DecidableEq, Repr

namespace UnaryOp

def all : List UnaryOp := [negate, not, length]

def token : UnaryOp → String
  | negate => "-"
  | not => "!"
  | length => "#"

def result : UnaryOp → Ty
  | negate | length => .number
  | not => .boolean

end UnaryOp

/-! ## Reading operators -/

/-- A token that is no operator. -/
structure UnknownOperator where
  token : String
  deriving DecidableEq, Repr

def UnknownOperator.message (e : UnknownOperator) : String :=
  "unknown operator " ++ Text.quote e.token

def BinaryOp.ofToken (token : String) : Except UnknownOperator BinaryOp :=
  match all.find? (·.token = token) with
  | some op => .ok op
  | none => .error ⟨token⟩

def UnaryOp.ofToken (token : String) : Except UnknownOperator UnaryOp :=
  match all.find? (·.token = token) with
  | some op => .ok op
  | none => .error ⟨token⟩

theorem BinaryOp.ofToken_token (op : BinaryOp) : ofToken op.token = .ok op := by
  cases op <;> rfl

theorem UnaryOp.ofToken_token (op : UnaryOp) : ofToken op.token = .ok op := by
  cases op <;> rfl

end Gradual
