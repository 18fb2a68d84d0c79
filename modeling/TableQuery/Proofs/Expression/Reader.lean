import TableQuery.Proofs.Expression.Token

/-!
# Reading a condition

The second step of reading: tokens become an `Expression`, a tree of comparisons under disjunctions
of conjunctions.  `AND` binds tighter than `OR`, brackets group, and the `AND` of a range belongs to
its comparison.

`Reader` is a machine over tokens.  It keeps one `Frame` for every bracket that is open and one for
the whole: the conjunctions that an `OR` has ended, and the factors of the one being read.  That an
`OR` ends the conjunction at hand while an `AND` goes on with it is the whole of precedence.
Inside a comparison the machine is in one of the states of `Clause`.

`Expression.read` reads a text to its end or fails; `Expression.holds` is the truth value of what was
read when every comparison has one.
-/

namespace TableQuery

/-- An operand as it stands in a text. -/
inductive Operand where
  /-- A constant or a number. -/
  | word (content : String)
  | text (content : String)
  | blob (digits : String)
  deriving DecidableEq, Repr

/-- A comparison as it stands in a text. -/
structure Atom where
  column : ColumnRef
  operator : Operator
  operands : List Operand
  deriving DecidableEq, Repr

/-- A condition as it is read: comparisons under disjunctions of conjunctions. -/
inductive Expression where
  | comparison (atom : Atom)
  | group (alternatives : List (List Expression))

namespace Expression

mutual

/-- The truth value of an expression, given one for every comparison. -/
def holds (truth : Atom → Bool) : Expression → Bool
  | .comparison atom => truth atom
  | .group alternatives => anyHolds truth alternatives
termination_by structural expression => expression

/-- Whether one of several conjunctions holds. -/
def anyHolds (truth : Atom → Bool) : List (List Expression) → Bool
  | [] => false
  | factors :: rest => allHold truth factors || anyHolds truth rest
termination_by structural alternatives => alternatives

/-- Whether all factors of a conjunction hold. -/
def allHold (truth : Atom → Bool) : List Expression → Bool
  | [] => true
  | factor :: rest => factor.holds truth && allHold truth rest
termination_by structural factors => factors

end

@[simp] theorem allHold_eq_all (truth : Atom → Bool) (factors : List Expression) :
    allHold truth factors = factors.all (holds truth) := by
  induction factors with
  | nil => rfl
  | cons factor rest ih => rw [allHold, ih, List.all_cons]

@[simp] theorem anyHolds_eq_any (truth : Atom → Bool) (alternatives : List (List Expression)) :
    anyHolds truth alternatives = alternatives.any (fun factors => factors.all (holds truth)) := by
  induction alternatives with
  | nil => rfl
  | cons factors rest ih => rw [anyHolds, ih, allHold_eq_all, List.any_cons]

end Expression

/-! ## Operands and operators -/

/-- One digit or more. -/
def isDigits (chars : List Char) : Bool :=
  !chars.isEmpty && chars.all Char.isDigit

/-- A whole number, with a minus sign or without. -/
def isNumeral : List Char → Bool
  | '-' :: digits => isDigits digits
  | digits => isDigits digits

/-- The words that are operands. -/
def isConstant (content : String) : Bool :=
  content = "NULL" || content = "true" || content = "false" || isNumeral content.toList

/-- The operand that a token is, if it is one. -/
def Operand.ofToken? : Token → Option Operand
  | .quoted .text content => some (.text content)
  | .quoted .blob digits => some (.blob digits)
  | .word content => if isConstant content then some (.word content) else none
  | _ => none

/-- The comparison that is written with a sign. -/
def Comparison.ofSign? (content : String) : Option Comparison :=
  if content = "=" then some .eq
  else if content = "!=" then some .ne
  else if content = ">" then some .gt
  else if content = ">=" then some .ge
  else if content = "<" then some .lt
  else if content = "<=" then some .le
  else none

/-! ## Inside a comparison -/

/-- How far a comparison has been read. -/
inductive Clause where
  | table (table : String)
  | point (table : String)
  | column (column : ColumnRef)
  | negation (column : ColumnRef)
  /-- The operand of a comparison is next. -/
  | value (column : ColumnRef) (comparison : Comparison)
  /-- The list of a membership is next. -/
  | list (column : ColumnRef) (negated : Bool)
  | element (column : ColumnRef) (negated : Bool) (read : List Operand)
  | elementEnd (column : ColumnRef) (negated : Bool) (read : List Operand)
  /-- The lower bound of a range is next. -/
  | low (column : ColumnRef) (negated : Bool)
  | lowEnd (column : ColumnRef) (negated : Bool) (low : Operand)
  | high (column : ColumnRef) (negated : Bool) (low : Operand)
  deriving DecidableEq, Repr

namespace Clause

/-- What follows the keyword of an operator, with `NOT` in front of it or without. -/
def ofKeyword? (column : ColumnRef) (negated : Bool) (keyword : String) : Option Clause :=
  if keyword = "LIKE" then some (value column (if negated then .notLike else .like))
  else if keyword = "IN" then some (list column negated)
  else if keyword = "BETWEEN" then some (low column negated)
  else none

/-- Reads one more token of a comparison, which may be its last. -/
def advance : Clause → Token → Option (Clause ⊕ Atom)
  | table name, .point => some (.inl (point name))
  | point name, .quoted .name content => some (.inl (column ⟨name, content⟩))
  | point name, .star => some (.inl (column ⟨name, wildcard⟩))
  | column ref, .sign content => (Comparison.ofSign? content).map (fun c => .inl (value ref c))
  | column ref, .word content =>
    if content = "NOT" then some (.inl (negation ref))
    else (ofKeyword? ref false content).map .inl
  | negation ref, .word content => (ofKeyword? ref true content).map .inl
  | value ref comparison, token =>
    (Operand.ofToken? token).map (fun operand => .inr ⟨ref, .compare comparison, [operand]⟩)
  | list ref negated, .opening => some (.inl (element ref negated []))
  | element ref negated read, token =>
    (Operand.ofToken? token).map (fun operand => .inl (elementEnd ref negated (read ++ [operand])))
  | elementEnd ref negated read, .comma => some (.inl (element ref negated read))
  | elementEnd ref negated read, .closing => some (.inr ⟨ref, .among negated, read⟩)
  | low ref negated, token =>
    (Operand.ofToken? token).map (fun operand => .inl (lowEnd ref negated operand))
  | lowEnd ref negated first, .word content =>
    if content = "AND" then some (.inl (high ref negated first)) else none
  | high ref negated first, token =>
    (Operand.ofToken? token).map (fun operand => .inr ⟨ref, .between negated, [first, operand]⟩)
  | _, _ => none

end Clause

/-! ## Between comparisons -/

/-- What has been read inside one pair of brackets. -/
structure Frame where
  /-- The conjunctions that an `OR` has ended. -/
  alternatives : List (List Expression)
  /-- The factors so far of the conjunction being read. -/
  factors : List Expression

namespace Frame

/-- Nothing has been read. -/
def empty : Frame := ⟨[], []⟩

/-- Adds factors to the conjunction being read. -/
def add (frame : Frame) (factors : List Expression) : Frame :=
  ⟨frame.alternatives, frame.factors ++ factors⟩

theorem add_add (frame : Frame) (first next : List Expression) :
    (frame.add first).add next = frame.add (first ++ next) := by
  simp [add]

/-- Ends the conjunction being read. -/
def endFactors (frame : Frame) : Frame :=
  ⟨frame.alternatives ++ [frame.factors], []⟩

/-- The expression that has been read. -/
def close (frame : Frame) : Expression :=
  .group (frame.alternatives ++ [frame.factors])

end Frame

/-- What a reader expects next. -/
inductive Position where
  /-- A comparison or an opening bracket. -/
  | operand
  | within (clause : Clause)
  /-- A connective, a closing bracket or the end. -/
  | connective

/-- The state of reading: the frames of the brackets that are open, innermost first. -/
structure Reader where
  outer : List Frame
  frame : Frame
  position : Position

namespace Reader

/-- Nothing has been read. -/
def start : Reader := ⟨[], .empty, .operand⟩

/-- Reads one token. -/
def step : Reader → Token → Option Reader
  | ⟨outer, frame, .operand⟩, .opening => some ⟨frame :: outer, .empty, .operand⟩
  | ⟨outer, frame, .operand⟩, .quoted .name table => some ⟨outer, frame, .within (.table table)⟩
  | ⟨outer, frame, .within clause⟩, token =>
    match clause.advance token with
    | some (.inl next) => some ⟨outer, frame, .within next⟩
    | some (.inr atom) => some ⟨outer, frame.add [.comparison atom], .connective⟩
    | none => none
  | ⟨outer, frame, .connective⟩, .word content =>
    if content = "AND" then some ⟨outer, frame, .operand⟩
    else if content = "OR" then some ⟨outer, frame.endFactors, .operand⟩
    else none
  | ⟨enclosing :: outer, frame, .connective⟩, .closing =>
    some ⟨outer, enclosing.add [frame.close], .connective⟩
  | _, _ => none

/-- The expression read when the text ends: no bracket is open and no operand is missing. -/
def finish : Reader → Option Expression
  | ⟨[], frame, .connective⟩ => some frame.close
  | _ => none

end Reader

/-- The expression that a text is read as, all of it. -/
def Expression.read (text : String) : Option Expression := do
  let tokens ← Token.scan text
  let reader ← tokens.foldlM Reader.step Reader.start
  reader.finish

end TableQuery
