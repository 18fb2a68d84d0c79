import TableQuery.Error
import TableQuery.Literal

/-!
# Conditions

A condition is an operator with its operands, to be applied to a column.  `Condition.ofOperand`
builds one from the single operand that a JSON filter gives: a list serves as the values of
a membership or the bounds of a range, and any other literal counts as a list of one.
-/

namespace TableQuery

/-- An operator and its operands. -/
inductive Condition where
  | compare (comparison : Comparison) (operand : Literal)
  | among (negated : Bool) (values : List Literal)
  | between (negated : Bool) (low high : Literal)

namespace Condition

/-- The operator of a condition. -/
def operator : Condition → Operator
  | compare comparison _ => .compare comparison
  | among negated _ => .among negated
  | between negated _ _ => .between negated

/-- What follows the operator in a statement. -/
def operandSql : Condition → String
  | compare _ operand => operand.sql
  | among _ values => "(" ++ String.intercalate ", " (values.map Literal.sql) ++ ")"
  | between _ low high => low.sql ++ " AND " ++ high.sql

/-- The text of a condition, without its column. -/
def sql (condition : Condition) : String :=
  condition.operator.sql ++ " " ++ condition.operandSql

/-- Whether the condition is a membership in no values, which no statement can express. -/
def isVoid : Condition → Bool
  | among _ values => values.isEmpty
  | _ => false

/-- Refuses a membership in no values. -/
def check (condition : Condition) : Except Error Unit :=
  if condition.isVoid then .error (.invalidFilter (.noValues condition.operator)) else .ok ()

/-- The condition of an operator and its operand.  A membership needs a value or more, a range
exactly two bounds. -/
def ofOperand : Operator → Literal → Except Error Condition
  | .compare comparison, operand => .ok (compare comparison operand)
  | .among negated, operand =>
    if operand.elements.isEmpty then .error (.invalidFilter (.noValues (.among negated)))
    else .ok (among negated operand.elements)
  | .between negated, operand =>
    match operand.elements with
    | [low, high] => .ok (between negated low high)
    | other => .error (.invalidFilter (.notTwoValues (.between negated) other.length))

/-- The condition that an operator key and a JSON operand stand for; none when the key names no
operator. -/
def ofJson? (key : String) (operand : Json) : Except Error (Option Condition) :=
  match Operator.ofKey? key with
  | some operator => (ofOperand operator (Literal.ofJson operand)).map some
  | none => .ok none

end Condition

end TableQuery
