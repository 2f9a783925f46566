import Gradual.Diagnostic.Basic
import Gradual.Text.Quoted

/-!
# The wording of diagnostics

A message holds all data of its cause. It quotes names and operators, so that two different causes
never read alike; a tip shows them as they are.
-/

namespace Gradual

/-! ## Parts -/

namespace Requirement

def key : Requirement → String
  | number => "non_arithmetic"
  | integer => "non_integer"
  | boolean => "non_boolean"
  | character => "non_char"
  | array => "non_array"
  | string => "non_string"
  | sequence => "non_array_or_string"

def failureName : Requirement → String
  | number => "NonArithmetic"
  | integer => "NonInteger"
  | boolean => "NonBoolean"
  | character => "NonChar"
  | array => "NonArray"
  | string => "NonString"
  | sequence => "NonArrayOrString"

/-- The requirement as the object of a sentence. -/
def phrase : Requirement → String
  | number => "a number"
  | integer => "an integer"
  | boolean => "a boolean"
  | character => "a char"
  | array => "an array"
  | string => "a string"
  | sequence => "an array or a string"

end Requirement

namespace Site

def key : Site → String
  | initialization => "variable_initialization_type_mismatch"
  | assignment => "assignment_type_mismatch"
  | element => "array_element_type_mismatch"

def phrase : Site → String
  | initialization => "variable initialization"
  | assignment => "assignment"
  | element => "array element"

end Site

/-! ## Causes -/

namespace Cause

/-- The key that a program knows the diagnostic by. Each site of a mismatch has one of its own. -/
def key : Cause → String
  | operand required _ _ => required.key
  | unordered _ _ => "non_comparable"
  | incomparable _ _ _ => "eq.type.error"
  | untyped _ => "initializer_or_type_required"
  | mismatch site _ _ => site.key
  | notWritable => "non_writable_lvalue"
  | unknownType _ => "unknown_type"
  | undeclared _ => "variable_not_declared"
  | redeclared _ => "variable_already_declared"

def name : Cause → String
  | operand required _ _ => required.failureName
  | unordered _ _ => "NonComparable"
  | incomparable _ _ _ => "EqualityTypeMismatch"
  | untyped _ => "InitializerOrTypeRequired"
  | mismatch _ _ _ => "TypeMismatch"
  | notWritable => "NonWritableLValue"
  | unknownType _ => "UnknownType"
  | undeclared _ => "VariableNotDeclared"
  | redeclared _ => "VariableAlreadyDeclared"

/-- A word of the program inside a tip, as it is. -/
def ticked (s : String) : String :=
  "`" ++ s ++ "`"

/-- A sentence that helps a reader. Only a target that cannot be written to has none. -/
def tip? : Cause → Option String
  | operand required operator found =>
      some ("Operator " ++ ticked operator ++ " expects " ++ required.phrase ++ ", found "
        ++ ticked found.name)
  | unordered operator found =>
      some ("Values of type " ++ ticked found.name ++ " cannot be ordered with "
        ++ ticked operator)
  | incomparable operator left right =>
      some ("Cannot compare " ++ ticked left.name ++ " and " ++ ticked right.name ++ " with "
        ++ ticked operator)
  | untyped name => some ("Variable " ++ ticked name ++ " needs a type or an initial value")
  | mismatch _ expected received =>
      some ("Expected type " ++ ticked expected.name ++ ", received " ++ ticked received.name)
  | notWritable => none
  | unknownType name => some ("Unknown type " ++ ticked name ++ " found")
  | undeclared name => some ("Variable " ++ ticked name ++ " not declared")
  | redeclared name => some ("Variable " ++ ticked name ++ " already declared")

/-- The cause in one sentence. Names and operators are quoted, types are not. -/
def message : Cause → String
  | operand required operator found =>
      "operator " ++ Text.quote operator ++ " requires " ++ required.phrase ++ ", found "
        ++ found.name
  | unordered operator found =>
      "operator " ++ Text.quote operator ++ " cannot order values of type " ++ found.name
  | incomparable operator left right =>
      "operator " ++ Text.quote operator ++ " cannot compare " ++ left.name ++ " with "
        ++ right.name
  | untyped name =>
      "variable " ++ Text.quote name ++ " has neither a type nor an initializer"
  | mismatch site expected received =>
      "types do not match in " ++ site.phrase ++ ": expected " ++ expected.name ++ ", received "
        ++ received.name
  | notWritable => "expression is not assignable"
  | unknownType name => "unknown type " ++ Text.quote name
  | undeclared name => "variable " ++ Text.quote name ++ " not declared"
  | redeclared name => "variable " ++ Text.quote name ++ " already declared"

def text (c : Cause) : String :=
  c.key ++ ": " ++ c.message

end Cause

end Gradual
