/-!
# Operators of conditions

The twelve operators that a filter may apply to a column: eight comparisons with one operand,
membership in a list, and a range between two bounds, the last two each with its negation.  An
operator has a key, by which a JSON filter names it, and a word, by which a statement does.
-/

namespace TableQuery

/-- A comparison of a column with one operand. -/
inductive Comparison where
  | eq | ne | gt | ge | lt | le | like | notLike
  deriving DecidableEq, Repr

namespace Comparison

/-- The key in a JSON filter. -/
def key : Comparison → String
  | eq => "$eq"
  | ne => "$neq"
  | gt => "$gt"
  | ge => "$gte"
  | lt => "$lt"
  | le => "$lte"
  | like => "$like"
  | notLike => "$nlike"

/-- The word in a statement. -/
def sql : Comparison → String
  | eq => "="
  | ne => "!="
  | gt => ">"
  | ge => ">="
  | lt => "<"
  | le => "<="
  | like => "LIKE"
  | notLike => "NOT LIKE"

end Comparison

/-- What a condition does with its column. -/
inductive Operator where
  | compare (comparison : Comparison)
  /-- Whether the column is among the values of a list. -/
  | among (negated : Bool)
  /-- Whether the column lies between two bounds. -/
  | between (negated : Bool)
  deriving DecidableEq, Repr

namespace Operator

/-- The key in a JSON filter. -/
def key : Operator → String
  | compare comparison => comparison.key
  | among negated => if negated then "$nin" else "$in"
  | between negated => if negated then "$nbetween" else "$between"

/-- The word in a statement. -/
def sql : Operator → String
  | compare comparison => comparison.sql
  | among negated => if negated then "NOT IN" else "IN"
  | between negated => if negated then "NOT BETWEEN" else "BETWEEN"

/-- Every operator. -/
def all : List Operator :=
  [compare .eq, compare .ne, compare .gt, compare .ge, compare .lt, compare .le, compare .like,
    compare .notLike, among false, among true, between false, between true]

/-- The operator with the given key. -/
def ofKey? (key : String) : Option Operator :=
  all.find? (fun operator => operator.key = key)

theorem mem_all (operator : Operator) : operator ∈ all := by
  cases operator with
  | compare comparison => cases comparison <;> decide
  | among negated => cases negated <;> decide
  | between negated => cases negated <;> decide

/-- Every key names its operator and no other. -/
theorem ofKey?_key (operator : Operator) : ofKey? operator.key = some operator := by
  cases operator with
  | compare comparison => cases comparison <;> decide
  | among negated => cases negated <;> decide
  | between negated => cases negated <;> decide

end Operator

/-- How the members of a group are joined. -/
inductive Connective where
  | and | or
  deriving DecidableEq, Repr

namespace Connective

/-- The key in a JSON filter. -/
def key : Connective → String
  | and => "$and"
  | or => "$or"

/-- The word in a statement. -/
def sql : Connective → String
  | and => "AND"
  | or => "OR"

/-- What stands between two members in a statement. -/
def separator (connective : Connective) : String :=
  " " ++ connective.sql ++ " "

/-- The connective with the given key. -/
def ofKey? (key : String) : Option Connective :=
  if key = Connective.and.key then some .and
  else if key = Connective.or.key then some .or
  else none

end Connective

end TableQuery
