/-!
# Types

The wildcard `any` stands for a type that nobody knows. It agrees with every type, so a value whose
type is lost is never blamed a second time. Agreement looks inside arrays: `[]any` and `[]number`
agree while `[]number` and `[]string` do not.
-/

namespace Gradual

inductive Ty where
  | number
  | character
  | string
  | boolean
  | any
  | array (element : Ty)
  deriving DecidableEq, Repr, Inhabited

namespace Ty

/-! ## Names -/

def name : Ty → String
  | number => "number"
  | character => "char"
  | string => "string"
  | boolean => "boolean"
  | any => "<arbitrary>"
  | array element => "[]" ++ element.name

/-- The type that a word names in every program. The wildcard has no such word. -/
def builtin? (word : String) : Option Ty :=
  [number, character, string, boolean].find? (·.name = word)

/-- An array of arrays … of `t`, with `n` levels. -/
def nest : Nat → Ty → Ty
  | 0, t => t
  | n + 1, t => array (nest n t)

@[simp] theorem nest_zero (t : Ty) : nest 0 t = t := rfl

def ofName? (text : String) : Option Ty :=
  go text.toList
where
  go : List Char → Option Ty
    | '[' :: ']' :: rest => (go rest).map array
    | word => [number, character, string, boolean, any].find? (·.name = String.ofList word)

theorem ofName?_go_name (t : Ty) : ofName?.go t.name.toList = some t := by
  induction t with
  | array element ih => simp [name, ofName?.go, ih]
  | _ => rfl

/-- Written forms are read back, so no two types share one. -/
theorem ofName?_name (t : Ty) : ofName? t.name = some t :=
  ofName?_go_name t

/-! ## Kinds of types -/

def isPrimitive : Ty → Bool
  | number | character | string | boolean => true
  | any | array _ => false

def isArithmetic : Ty → Bool
  | number => true
  | _ => false

/-- There is one type of numbers, so these are the arithmetic types. -/
def isInteger : Ty → Bool
  | number => true
  | _ => false

def isAny : Ty → Bool
  | any => true
  | _ => false

def isArray : Ty → Bool
  | array _ => true
  | _ => false

/-- Types that have a length and can be indexed. -/
def isSequence (t : Ty) : Bool :=
  t.isArray || t == string

def element? : Ty → Option Ty
  | array element => some element
  | _ => none

/-- The type that indexing gives. -/
def item : Ty → Ty
  | array element => element
  | string => character
  | _ => any

/-! ## Agreement -/

/-- `t.assignable u`: a value of type `t` may stand where a `u` is expected. The wildcard agrees
with all types, on either side and at every depth of an array. -/
def assignable : Ty → Ty → Bool
  | any, _ => true
  | _, any => true
  | array t, array u => assignable t u
  | t, u => t == u

def compatible (t u : Ty) : Bool :=
  t.assignable u || u.assignable t

@[simp] theorem any_assignable (t : Ty) : any.assignable t = true := by
  simp [assignable]

@[simp] theorem assignable_any (t : Ty) : t.assignable any = true := by
  cases t <;> rfl

@[simp] theorem array_assignable_array (t u : Ty) :
    (array t).assignable (array u) = t.assignable u := rfl

end Ty

end Gradual
