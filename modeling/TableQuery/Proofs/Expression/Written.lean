import TableQuery.Proofs.Expression.Reader

/-!
# Reading what is written

Every predicate that statements hold has a text, and this file says what that text is read as.
`Predicate.tokens` stands between the two: `yields_sql` is the scanner's half and `foldlM_tokens`
the reader's, each by induction on the predicate.  `read_conjunctionSql` joins them.

Two things have to be right for a predicate to be read at all, and `Predicate.Legible` names them.
A quotation must not hold its own mark, since quotations are written without escapes; and no group,
member or list may be empty, since nothing is written for it.
-/

namespace TableQuery

/-! ## Operands -/

namespace Literal

/-- The operand that a literal is read as. -/
def operand : Literal → Operand
  | .text value => .text value
  | .blob bytes => .blob (Text.upperHex bytes)
  | literal => .word literal.sql

/-- Literals that are written as one operand: no reals, no lists, and no text with a quote in it. -/
def isScalar : Literal → Bool
  | .null => true
  | .bool _ => true
  | .int _ => true
  | .uint _ => true
  | .real _ => false
  | .text value => !value.toList.contains '\''
  | .blob _ => true
  | .list _ => false

end Literal

/-- The token that an operand is. -/
def Operand.token : Operand → Token
  | .word content => .word content
  | .text content => .quoted .text content
  | .blob digits => .quoted .blob digits

/-! ### Numbers -/

theorem isDigits_repr (n : Nat) : isDigits n.repr.toList := by
  have hdigits : ∀ c ∈ n.repr.toList, c.isDigit := by
    intro c hc
    rw [Nat.toList_repr] at hc
    exact Nat.isDigit_of_mem_toDigits (by decide) (by decide) hc
  have hne : n.repr.toList ≠ [] := by
    rw [Nat.toList_repr]
    exact Nat.toDigits_ne_nil
  simpa [isDigits, hne] using hdigits

/-- Digits are a numeral, with or without a minus sign in front of them. -/
theorem isNumeral_of_isDigits {chars : List Char} (h : isDigits chars) : isNumeral chars := by
  unfold isNumeral
  split
  · rename_i digits
    exact absurd h (by simp [isDigits, show '-'.isDigit = false from rfl])
  · exact h

/-- The text of a whole number is a numeral. -/
theorem isNumeral_toString (n : Int) : isNumeral (toString n).toList := by
  rw [Int.toString_eq_repr, Int.repr_eq_if]
  split
  · exact isNumeral_of_isDigits (isDigits_repr _)
  · rw [String.toList_append]
    exact isDigits_repr _

/-- A numeral is written with the characters of a word. -/
theorem isWordChar_of_isNumeral {chars : List Char} (h : isNumeral chars) :
    chars ≠ [] ∧ ∀ c ∈ chars, Scan.isWordChar c := by
  have hdigits : ∀ {digits : List Char}, isDigits digits →
      digits ≠ [] ∧ ∀ c ∈ digits, Scan.isWordChar c := by
    intro digits hd
    simp only [isDigits, Bool.and_eq_true, Bool.not_eq_true', List.isEmpty_eq_false_iff,
      List.all_eq_true] at hd
    exact ⟨hd.1, fun c hc => by simp [Scan.isWordChar, Char.isAlphanum, hd.2 c hc]⟩
  unfold isNumeral at h
  split at h
  · rename_i digits
    exact ⟨List.cons_ne_nil _ _, List.forall_mem_cons.2 ⟨rfl, (hdigits h).2⟩⟩
  · exact hdigits h

theorem isConstant_of_isNumeral {content : String} (h : isNumeral content.toList) :
    isConstant content := by
  simp [isConstant, h]

/-- A byte in hexadecimal holds no quote. -/
theorem quote_notMem_upperHex (bytes : List UInt8) : '\'' ∉ (Text.upperHex bytes).toList := by
  have hdigit : ∀ d : Fin 16, (Nat.digitChar d).toUpper ≠ '\'' := by decide
  unfold Text.upperHex
  rw [String.toList_ofList, List.mem_map]
  intro hquoted
  obtain ⟨c, hc, hquote⟩ := hquoted
  obtain ⟨byte, -, hbyte⟩ := List.mem_flatMap.1 hc
  have hlt : byte.toNat < 256 := byte.toNat_lt
  simp only [Text.hexByte, List.mem_cons, List.not_mem_nil, or_false] at hbyte
  rcases hbyte with rfl | rfl
  · exact hdigit ⟨byte.toNat / 16, by omega⟩ hquote
  · exact hdigit ⟨byte.toNat % 16, by omega⟩ hquote

/-! ### Operands as tokens -/

namespace Literal

/-- A scalar that is no quotation is a constant. -/
theorem isConstant_of_operand_eq_word {literal : Literal} (hscalar : literal.isScalar)
    {content : String} (hword : literal.operand = .word content) : isConstant content := by
  cases literal with
  | null => cases hword; rfl
  | bool value => cases hword; cases value <;> rfl
  | int value =>
    cases hword
    exact isConstant_of_isNumeral (isNumeral_toString value.toInt)
  | uint value =>
    cases hword
    exact isConstant_of_isNumeral (isNumeral_of_isDigits (isDigits_repr value.toNat))
  | real value => cases hscalar
  | text value => cases hword
  | blob bytes => cases hword
  | list items => cases hscalar

/-- The text of a scalar is one token. -/
theorem yields_sql {literal : Literal} (hscalar : literal.isScalar) :
    Token.Yields literal.sql [literal.operand.token] := by
  cases literal with
  | null => exact Token.yields_word (by decide) (List.all_eq_true.1 rfl)
  | bool value => cases value <;> exact Token.yields_word (by decide) (List.all_eq_true.1 rfl)
  | int value =>
    obtain ⟨hne, hword⟩ := isWordChar_of_isNumeral (isNumeral_toString value.toInt)
    exact Token.yields_word hne hword
  | uint value =>
    have hnumeral := isNumeral_of_isDigits (isDigits_repr value.toNat)
    obtain ⟨hne, hword⟩ := isWordChar_of_isNumeral hnumeral
    exact Token.yields_word hne hword
  | real value => cases hscalar
  | text value =>
    have hplain : Quotation.text.mark ∉ value.toList := by
      simpa [isScalar, Quotation.mark] using hscalar
    exact (Token.closes_quoted rfl rfl hplain).yields
  | blob bytes =>
    have hplain : Quotation.blob.mark ∉ (Text.upperHex bytes).toList := quote_notMem_upperHex bytes
    exact (Token.closes_quoted rfl rfl hplain).yields
  | list items => cases hscalar

/-- The token of a scalar is its operand again. -/
theorem ofToken?_token_operand {literal : Literal} (hscalar : literal.isScalar) :
    Operand.ofToken? literal.operand.token = some literal.operand := by
  cases hoperand : literal.operand with
  | word content =>
    simp [Operand.token, Operand.ofToken?, isConstant_of_operand_eq_word hscalar hoperand]
  | text content => rfl
  | blob digits => rfl

end Literal

/-! ## Columns and conditions -/

/-- The tokens of a column reference. -/
def ColumnRef.tokens (column : ColumnRef) : List Token :=
  [.quoted .name column.table, .point,
    if column.column = wildcard then .star else .quoted .name column.column]

/-- Neither name holds a backtick. -/
def ColumnRef.isQuotable (column : ColumnRef) : Bool :=
  !column.table.toList.contains '`' && !column.column.toList.contains '`'

theorem closes_quoteIdentifier {name : String} (hplain : '`' ∉ name.toList) :
    Token.Closes (quoteIdentifier name) [.quoted .name name] := by
  have hmark : Quotation.name.mark ∉ name.toList := hplain
  exact Token.closes_quoted rfl rfl hmark

/-- The text of a column reference. -/
theorem ColumnRef.closes_sql {column : ColumnRef} (hquotable : column.isQuotable) :
    Token.Closes column.sql column.tokens := by
  simp only [isQuotable, Bool.and_eq_true, Bool.not_eq_true', List.contains_eq_mem,
    decide_eq_false_iff_not] at hquotable
  obtain ⟨htable, hcolumn⟩ := hquotable
  unfold sql tokens
  split
  · have hstar : Token.Closes ".*" [.point, .star] := rfl
    exact (closes_quoteIdentifier htable).append hstar
  · have hpoint : Token.Closes "." [.point] := rfl
    exact ((closes_quoteIdentifier htable).append hpoint).append (closes_quoteIdentifier hcolumn)

namespace Operator

/-- The tokens of an operator. -/
def tokens : Operator → List Token
  | compare .like => [.word "LIKE"]
  | compare .notLike => [.word "NOT", .word "LIKE"]
  | compare comparison => [.sign comparison.sql]
  | among negated => (if negated then [.word "NOT"] else []) ++ [.word "IN"]
  | between negated => (if negated then [.word "NOT"] else []) ++ [.word "BETWEEN"]

/-- The word of an operator between blanks. -/
theorem closes_sql (operator : Operator) :
    Token.Closes (" " ++ operator.sql ++ " ") operator.tokens := by
  cases operator with
  | compare comparison => cases comparison <;> rfl
  | among negated => cases negated <;> rfl
  | between negated => cases negated <;> rfl

end Operator

namespace Condition

/-- The literals that a condition compares its column with. -/
def operands : Condition → List Literal
  | compare _ operand => [operand]
  | among _ values => values
  | between _ low high => [low, high]

/-- The comparison that a condition on a column is read as. -/
def atom (column : ColumnRef) (condition : Condition) : Atom :=
  ⟨column, condition.operator, condition.operands.map Literal.operand⟩

/-- The tokens behind the operator of a condition. -/
def operandTokens : Condition → List Token
  | compare _ operand => [operand.operand.token]
  | among _ values =>
    .opening :: List.intercalate [.comma] (values.map (fun value => [value.operand.token])) ++
      [.closing]
  | between _ low high => [low.operand.token, .word "AND", high.operand.token]

/-- All operands are scalars, and a membership has one at least. -/
def Legible (condition : Condition) : Prop :=
  condition.isVoid = false ∧ ∀ operand ∈ condition.operands, operand.isScalar

/-- The text behind the operator of a condition. -/
theorem yields_operandSql {condition : Condition} (hlegible : condition.Legible) :
    Token.Yields condition.operandSql condition.operandTokens := by
  obtain ⟨-, hscalar⟩ := hlegible
  cases condition with
  | compare comparison operand =>
    exact Literal.yields_sql (hscalar operand List.mem_cons_self)
  | among negated values =>
    exact (Token.closes_brackets fun value hvalue =>
      Literal.yields_sql (hscalar value hvalue)).yields
  | between negated low high =>
    have hlow := Literal.yields_sql (hscalar low List.mem_cons_self)
    have hhigh := Literal.yields_sql (hscalar high (List.mem_cons_of_mem low List.mem_cons_self))
    have hand : Token.Closes " AND " [.word "AND"] := rfl
    exact (hlow.append_closes ⟨' ', _, rfl, rfl⟩ hand).append_yields hhigh

end Condition

/-! ## Predicates -/

namespace Predicate

mutual

/-- The tokens of a predicate. -/
def tokens : Predicate → List Token
  | .comparison column condition =>
    column.tokens ++ condition.operator.tokens ++ condition.operandTokens
  | .group connective members =>
    .opening :: List.intercalate [.word connective.sql] (memberTokens members) ++ [.closing]
termination_by structural predicate => predicate

/-- The tokens of the members of a group. -/
def memberTokens : List (List Predicate) → List (List Token)
  | [] => []
  | member :: rest => List.intercalate [.word "AND"] (tokenLists member) :: memberTokens rest
termination_by structural members => members

/-- The tokens of several predicates. -/
def tokenLists : List Predicate → List (List Token)
  | [] => []
  | predicate :: rest => predicate.tokens :: tokenLists rest
termination_by structural predicates => predicates

end

mutual

/-- The expression that a predicate is read as.  An `AND` group is one conjunction of the
predicates of all its members. -/
def expression : Predicate → Expression
  | .comparison column condition => .comparison (condition.atom column)
  | .group .and members => .group [(memberExpressions members).flatten]
  | .group .or members => .group (memberExpressions members)
termination_by structural predicate => predicate

/-- The conjunctions that the members of a group are read as. -/
def memberExpressions : List (List Predicate) → List (List Expression)
  | [] => []
  | member :: rest => expressions member :: memberExpressions rest
termination_by structural members => members

/-- The expressions that several predicates are read as. -/
def expressions : List Predicate → List Expression
  | [] => []
  | predicate :: rest => predicate.expression :: expressions rest
termination_by structural predicates => predicates

end

/-- The tokens of predicates that all have to hold. -/
def conjunctionTokens (predicates : List Predicate) : List Token :=
  List.intercalate [.word "AND"] (predicates.map tokens)

@[simp] theorem tokenLists_eq_map (predicates : List Predicate) :
    tokenLists predicates = predicates.map tokens := by
  induction predicates with
  | nil => rfl
  | cons predicate rest ih => rw [tokenLists, ih, List.map_cons]

@[simp] theorem memberTokens_eq_map (members : List (List Predicate)) :
    memberTokens members = members.map conjunctionTokens := by
  induction members with
  | nil => rfl
  | cons member rest ih => rw [memberTokens, ih, List.map_cons, tokenLists_eq_map]; rfl

@[simp] theorem expressions_eq_map (predicates : List Predicate) :
    expressions predicates = predicates.map expression := by
  induction predicates with
  | nil => rfl
  | cons predicate rest ih => rw [expressions, ih, List.map_cons]

@[simp] theorem memberExpressions_eq_map (members : List (List Predicate)) :
    memberExpressions members = members.map (List.map expression) := by
  induction members with
  | nil => rfl
  | cons member rest ih => rw [memberExpressions, ih, List.map_cons, expressions_eq_map]

theorem memberSqls_eq_map (members : List (List Predicate)) :
    memberSqls members = members.map conjunctionSql := by
  induction members with
  | nil => rfl
  | cons member rest ih => rw [memberSqls, ih, List.map_cons]; rfl

/-- A predicate whose text can be read: names and operands keep to their quotation marks, and
nothing in it is empty. -/
inductive Legible : Predicate → Prop where
  | comparison {column : ColumnRef} {condition : Condition} (hcolumn : column.isQuotable)
      (hcondition : condition.Legible) : Legible (.comparison column condition)
  | group {connective : Connective} {members : List (List Predicate)} (hmembers : members ≠ [])
      (hne : ∀ member ∈ members, member ≠ [])
      (hlegible : ∀ member ∈ members, ∀ predicate ∈ member, Legible predicate) :
      Legible (.group connective members)

theorem closes_separator (connective : Connective) :
    Token.Closes connective.separator [.word connective.sql] := by
  cases connective <;> rfl

theorem delimited_separator (connective : Connective) : Token.Delimited connective.separator := by
  cases connective <;> exact ⟨' ', _, rfl, rfl⟩

/-- Predicates with texts of known tokens have a conjunction with the tokens of all. -/
theorem yields_conjunctionSql_of {predicates : List Predicate} (hne : predicates ≠ [])
    (hyields : ∀ predicate ∈ predicates, Token.Yields predicate.sql predicate.tokens) :
    Token.Yields (conjunctionSql predicates) (conjunctionTokens predicates) := by
  unfold conjunctionSql
  rw [sqls_eq_map]
  exact Token.yields_intercalate (closes_separator .and) (delimited_separator .and) hne hyields

/-- The scanner's half: the text of a predicate has its tokens. -/
theorem yields_sql {predicate : Predicate} (hlegible : predicate.Legible) :
    Token.Yields predicate.sql predicate.tokens := by
  induction hlegible with
  | @comparison column condition hcolumn hcondition =>
    have hsql : (comparison column condition).sql =
        column.sql ++ (" " ++ condition.operator.sql ++ " ") ++ condition.operandSql := by
      simp [sql, Condition.sql, String.append_assoc]
    rw [hsql, tokens]
    exact ((ColumnRef.closes_sql hcolumn).append (Operator.closes_sql _)).append_yields
      (Condition.yields_operandSql hcondition)
  | @group connective members hmembers hne hlegible ih =>
    have hinner : ∀ member ∈ members,
        Token.Yields (conjunctionSql member) (conjunctionTokens member) :=
      fun member hmember => yields_conjunctionSql_of (hne member hmember) (ih member hmember)
    have hopening : Token.Closes "(" [.opening] := rfl
    have hclosing : Token.Closes ")" [.closing] := rfl
    rw [sql, memberSqls_eq_map, tokens, memberTokens_eq_map]
    have hbody := Token.yields_intercalate (closes_separator connective)
      (delimited_separator connective) hmembers hinner
    exact ((hopening.append_yields hbody).append_closes ⟨')', [], rfl, rfl⟩ hclosing).yields

end Predicate

/-! ## The reader's half -/

section Reading

variable (outer : List Frame) (frame : Frame)

/-- A run of the reader over tokens in a row is one run after the other. -/
theorem foldlM_append_of_eq_some {front back : List Token} {reader middle last : Reader}
    (hfront : front.foldlM Reader.step reader = some middle)
    (hback : back.foldlM Reader.step middle = some last) :
    (front ++ back).foldlM Reader.step reader = some last := by
  rw [List.foldlM_append, hfront]
  exact hback

/-- A column reference opens a comparison. -/
theorem ColumnRef.foldlM_tokens (column : ColumnRef) :
    column.tokens.foldlM Reader.step ⟨outer, frame, .operand⟩ =
      some ⟨outer, frame, .within (.column column)⟩ := by
  unfold tokens
  split
  · rename_i hstar
    obtain ⟨table, name⟩ := column
    cases hstar
    rfl
  · rfl

/-- The elements of a list are read one after the other. -/
theorem foldlM_elements (column : ColumnRef) (negated : Bool) (read : List Operand)
    {values : List Literal} (hne : values ≠ []) (hscalar : ∀ value ∈ values, value.isScalar) :
    (List.intercalate [.comma] (values.map (fun value => [value.operand.token]))).foldlM
        Reader.step ⟨outer, frame, .within (.element column negated read)⟩ =
      some ⟨outer, frame,
        .within (.elementEnd column negated (read ++ values.map Literal.operand))⟩ := by
  induction values generalizing read with
  | nil => exact absurd rfl hne
  | cons value values ih =>
    rw [List.forall_mem_cons] at hscalar
    have hvalue := Literal.ofToken?_token_operand hscalar.1
    have hfirst : [value.operand.token].foldlM Reader.step
        ⟨outer, frame, .within (.element column negated read)⟩ =
        some ⟨outer, frame, .within (.elementEnd column negated (read ++ [value.operand]))⟩ := by
      simp [Reader.step, Clause.advance, hvalue]
    cases values with
    | nil => exact hfirst
    | cons next values =>
      have hcomma : [Token.comma].foldlM Reader.step
          ⟨outer, frame, .within (.elementEnd column negated (read ++ [value.operand]))⟩ =
          some ⟨outer, frame, .within (.element column negated (read ++ [value.operand]))⟩ := rfl
      have hrest := ih (read ++ [value.operand]) (List.cons_ne_nil next values) hscalar.2
      rw [List.append_assoc] at hrest
      simp only [List.map_cons] at hrest ⊢
      rw [List.intercalate_cons_cons]
      exact foldlM_append_of_eq_some (foldlM_append_of_eq_some hfirst hcomma) hrest

/-- The operator of a condition and what follows it end the comparison. -/
theorem Condition.foldlM_tokens (column : ColumnRef) {condition : Condition}
    (hlegible : condition.Legible) :
    (condition.operator.tokens ++ condition.operandTokens).foldlM Reader.step
        ⟨outer, frame, .within (.column column)⟩ =
      some ⟨outer, frame.add [.comparison (condition.atom column)], .connective⟩ := by
  obtain ⟨hvoid, hscalar⟩ := hlegible
  cases condition with
  | compare comparison operand =>
    have hoperand := Literal.ofToken?_token_operand (hscalar operand List.mem_cons_self)
    cases comparison <;>
      simp [Operator.tokens, Condition.operator, operandTokens, Reader.step, Clause.advance,
        Comparison.ofSign?, Clause.ofKeyword?, Comparison.sql, hoperand, atom, operands]
  | among negated values =>
    have hne : values ≠ [] := by
      rintro rfl
      cases hvoid
    have hopening : ((among negated values).operator.tokens ++ [Token.opening]).foldlM Reader.step
        ⟨outer, frame, .within (.column column)⟩ =
        some ⟨outer, frame, .within (.element column negated [])⟩ := by
      cases negated <;> rfl
    have helements := foldlM_elements outer frame column negated [] hne hscalar
    have hclosing : [Token.closing].foldlM Reader.step ⟨outer, frame,
        .within (.elementEnd column negated ([] ++ values.map Literal.operand))⟩ =
        some ⟨outer, frame.add [.comparison ((among negated values).atom column)],
          .connective⟩ := rfl
    have hwhole := foldlM_append_of_eq_some
      (foldlM_append_of_eq_some hopening helements) hclosing
    simpa [operandTokens] using hwhole
  | between negated low high =>
    have hlow := Literal.ofToken?_token_operand (hscalar low List.mem_cons_self)
    have hhigh := Literal.ofToken?_token_operand
      (hscalar high (List.mem_cons_of_mem low List.mem_cons_self))
    cases negated <;>
      simp [Operator.tokens, Condition.operator, operandTokens, Reader.step, Clause.advance,
        Clause.ofKeyword?, hlow, hhigh, atom, operands]

end Reading

/-- Where an operand is expected, `tokens` are read as factors of the conjunction at hand. -/
def Reads (tokens : List Token) (factors : List Expression) : Prop :=
  ∀ outer frame, tokens.foldlM Reader.step ⟨outer, frame, .operand⟩ =
    some ⟨outer, frame.add factors, .connective⟩

/-- An `AND` between tokens goes on with the conjunction. -/
theorem reads_intercalate_and {α : Type} {tokens : α → List Token}
    {factors : α → List Expression} {xs : List α} (hne : xs ≠ [])
    (hreads : ∀ x ∈ xs, Reads (tokens x) (factors x)) :
    Reads (List.intercalate [.word "AND"] (xs.map tokens)) (xs.flatMap factors) := by
  intro outer frame
  induction xs generalizing frame with
  | nil => exact absurd rfl hne
  | cons x xs ih =>
    rw [List.forall_mem_cons] at hreads
    cases xs with
    | nil => simpa using hreads.1 outer frame
    | cons y xs =>
      have hand : [Token.word "AND"].foldlM Reader.step
          ⟨outer, frame.add (factors x), .connective⟩ =
          some ⟨outer, frame.add (factors x), .operand⟩ := rfl
      have hrest := ih (List.cons_ne_nil y xs) hreads.2 (frame.add (factors x))
      rw [Frame.add_add, List.map_cons] at hrest
      rw [List.map_cons, List.map_cons, List.intercalate_cons_cons, List.flatMap_cons]
      exact foldlM_append_of_eq_some
        (foldlM_append_of_eq_some (hreads.1 outer frame) hand) hrest

/-- An `OR` between tokens ends the conjunction. -/
theorem foldlM_intercalate_or {α : Type} {tokens : α → List Token}
    {factors : α → List Expression} {xs : List α} (hne : xs ≠ [])
    (hreads : ∀ x ∈ xs, Reads (tokens x) (factors x)) (outer : List Frame)
    (alternatives : List (List Expression)) :
    ∃ frame, (List.intercalate [.word "OR"] (xs.map tokens)).foldlM Reader.step
        ⟨outer, ⟨alternatives, []⟩, .operand⟩ = some ⟨outer, frame, .connective⟩ ∧
      frame.close = .group (alternatives ++ xs.map factors) := by
  induction xs generalizing alternatives with
  | nil => exact absurd rfl hne
  | cons x xs ih =>
    rw [List.forall_mem_cons] at hreads
    cases xs with
    | nil =>
      refine ⟨⟨alternatives, factors x⟩, ?_, rfl⟩
      rw [List.map_singleton, List.intercalate_singleton]
      exact hreads.1 outer ⟨alternatives, []⟩
    | cons y xs =>
      have hor : [Token.word "OR"].foldlM Reader.step
          ⟨outer, ⟨alternatives, [] ++ factors x⟩, .connective⟩ =
          some ⟨outer, ⟨alternatives ++ [factors x], []⟩, .operand⟩ := rfl
      obtain ⟨frame, hrest, hclose⟩ :=
        ih (List.cons_ne_nil y xs) hreads.2 (alternatives ++ [factors x])
      rw [List.map_cons] at hrest
      refine ⟨frame, ?_, ?_⟩
      · rw [List.map_cons, List.map_cons, List.intercalate_cons_cons]
        exact foldlM_append_of_eq_some
          (foldlM_append_of_eq_some (hreads.1 outer ⟨alternatives, []⟩) hor) hrest
      · rw [hclose, List.append_assoc]
        rfl

namespace Predicate

/-- Predicates that are read as they should be have a conjunction that is. -/
theorem reads_conjunctionTokens_of {predicates : List Predicate} (hne : predicates ≠ [])
    (hreads : ∀ predicate ∈ predicates, Reads predicate.tokens [predicate.expression]) :
    Reads (conjunctionTokens predicates) (predicates.map expression) := by
  have hall := reads_intercalate_and hne hreads
  rwa [← List.map_eq_flatMap] at hall

/-- The reader's half: the tokens of a predicate are read as its expression. -/
theorem reads_tokens {predicate : Predicate} (hlegible : predicate.Legible) :
    Reads predicate.tokens [predicate.expression] := by
  induction hlegible with
  | @comparison column condition hcolumn hcondition =>
    intro outer frame
    rw [tokens, List.append_assoc]
    exact foldlM_append_of_eq_some (ColumnRef.foldlM_tokens outer frame column)
      (Condition.foldlM_tokens outer frame column hcondition)
  | @group connective members hmembers hne hlegible ih =>
    have hinner : ∀ member ∈ members,
        Reads (conjunctionTokens member) (member.map expression) :=
      fun member hmember => reads_conjunctionTokens_of (hne member hmember) (ih member hmember)
    intro outer frame
    have hopening : [Token.opening].foldlM Reader.step ⟨outer, frame, .operand⟩ =
        some ⟨frame :: outer, .empty, .operand⟩ := rfl
    have hclosing : ∀ inner, [Token.closing].foldlM Reader.step
        ⟨frame :: outer, inner, .connective⟩ =
        some ⟨outer, frame.add [inner.close], .connective⟩ := fun _ => rfl
    cases connective with
    | and =>
      have hbody := reads_intercalate_and hmembers hinner (frame :: outer) .empty
      rw [tokens, memberTokens_eq_map, expression, memberExpressions_eq_map, ← List.flatMap_def]
      exact foldlM_append_of_eq_some (foldlM_append_of_eq_some hopening hbody) (hclosing _)
    | or =>
      obtain ⟨inner, hbody, hclose⟩ := foldlM_intercalate_or hmembers hinner (frame :: outer) []
      rw [List.nil_append, ← memberExpressions_eq_map] at hclose
      rw [tokens, memberTokens_eq_map, expression, ← hclose]
      exact foldlM_append_of_eq_some (foldlM_append_of_eq_some hopening hbody) (hclosing inner)

/-- Legible predicates that all have to hold are read as one conjunction of their expressions. -/
theorem read_conjunctionSql {predicates : List Predicate} (hne : predicates ≠ [])
    (hlegible : ∀ predicate ∈ predicates, predicate.Legible) :
    Expression.read (conjunctionSql predicates) =
      some (.group [predicates.map expression]) := by
  have hscan := Token.scan_of_yields
    (yields_conjunctionSql_of hne (fun predicate h => yields_sql (hlegible predicate h)))
  have hread := reads_conjunctionTokens_of hne
    (fun predicate h => reads_tokens (hlegible predicate h)) [] .empty
  rw [Expression.read, hscan]
  simp only [Option.bind_eq_bind, Option.bind_some]
  rw [Reader.start, hread]
  rfl

end Predicate

end TableQuery
