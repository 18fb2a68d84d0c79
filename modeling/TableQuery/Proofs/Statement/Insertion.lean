import TableQuery.Proofs.Literal.Whole
import TableQuery.Proofs.Statement.Values

/-!
# What the text of an insertion says

The text of an insertion is two lists in brackets, of names and of values, and nothing in it is
escaped.  It says what is inserted all the same, as long as no quotation holds its own mark: the
scanner then cuts it into the tokens of the row (`closes_rowSql`), whatever commas, brackets or
clauses names and texts hold.  The tokens say the two lists (`eq_of_rowTokens_eq`), and the operand
of a literal says the literal (`eq_of_operand_eq`), if a whole number has one literal only.
-/

namespace TableQuery

/-! ## Literals by their operands -/

/-- Bytes are told apart by their hexadecimal digits. -/
theorem upperHex_injective : Function.Injective Text.upperHex := by
  have hdigit : ∀ d e : Fin 16, (Nat.digitChar d).toUpper = (Nat.digitChar e).toUpper → d = e := by
    decide
  intro bytes others hsame
  have hchars := String.ofList_injective hsame
  clear hsame
  induction bytes generalizing others with
  | nil =>
    cases others with
    | nil => rfl
    | cons other others => cases hchars
  | cons byte bytes ih =>
    cases others with
    | nil => cases hchars
    | cons other others =>
      simp only [List.flatMap_cons, Text.hexByte, List.map_cons, List.cons_append,
        List.nil_append, List.cons.injEq] at hchars
      obtain ⟨hhigh, hlow, hrest⟩ := hchars
      have hlt := byte.toNat_lt
      have hlt' := other.toNat_lt
      have hhigh' := hdigit ⟨byte.toNat / 16, by omega⟩ ⟨other.toNat / 16, by omega⟩ hhigh
      have hlow' := hdigit ⟨byte.toNat % 16, by omega⟩ ⟨other.toNat % 16, by omega⟩ hlow
      simp only [Fin.mk.injEq] at hhigh' hlow'
      have hbyte : byte.toNat = other.toNat := by omega
      rw [UInt8.toNat_inj.1 hbyte, ih hrest]

namespace Literal

/-- The scalars, with unsigned words for those numbers only that no signed word holds. -/
def isCanonical : Literal → Bool
  | .uint value => 0x8000000000000000 ≤ value.toNat
  | literal => literal.isScalar

/-- The whole number that a literal is. -/
def whole? : Literal → Option Json.Whole
  | .int value => some (.ofInt64 value)
  | .uint value => some (.ofUInt64 value)
  | _ => none

/-- The constant that a word stands for. -/
def constant? (content : String) : Option Literal :=
  if content = "NULL" then some .null
  else if content = "true" then some (.bool true)
  else if content = "false" then some (.bool false)
  else none

variable {literal other : Literal}

theorem isScalar_of_isCanonical (hcanonical : literal.isCanonical) : literal.isScalar := by
  cases literal with
  | uint value => rfl
  | _ => exact hcanonical

/-- A whole number has one canonical literal. -/
theorem eq_ofWhole (hcanonical : literal.isCanonical) {n : Json.Whole}
    (hwhole : literal.whole? = some n) : literal = ofWhole n := by
  cases literal with
  | int value =>
    cases hwhole
    exact (ofWhole_ofInt64 value).symm
  | uint value =>
    cases hwhole
    have hlarge : 0x8000000000000000 ≤ value.toNat := by simpa [isCanonical] using hcanonical
    rw [ofWhole_ofUInt64]
    exact (if_neg (Nat.not_lt.2 hlarge)).symm
  | _ => cases hwhole

/-- A number is none of the constants. -/
theorem constant?_of_isNumeral {content : String} (hnumeral : isNumeral content.toList) :
    constant? content = none := by
  unfold constant?
  split_ifs with hnull htrue hfalse
  · subst hnull
    exact absurd hnumeral (by decide)
  · subst htrue
    exact absurd hnumeral (by decide)
  · subst hfalse
    exact absurd hnumeral (by decide)
  · rfl

/-- A scalar that is no quotation is written as its number, or is a constant. -/
theorem word_cases (hscalar : literal.isScalar) {content : String}
    (hword : literal.operand = .word content) :
    (∃ n, literal.whole? = some n ∧ content = toString n.val) ∨ constant? content = some literal := by
  cases literal with
  | null =>
    cases hword
    exact .inr rfl
  | bool value =>
    cases hword
    cases value <;> exact .inr rfl
  | int value =>
    cases hword
    exact .inl ⟨.ofInt64 value, rfl, rfl⟩
  | uint value =>
    cases hword
    exact .inl ⟨.ofUInt64 value, rfl, rfl⟩
  | real value => cases hscalar
  | text value => cases hword
  | blob bytes => cases hword
  | list items => cases hscalar

theorem eq_text_of_operand {content : String} (htext : literal.operand = .text content) :
    literal = .text content := by
  cases literal <;> cases htext
  rfl

theorem exists_blob_of_operand {digits : String} (hblob : literal.operand = .blob digits) :
    ∃ bytes, literal = .blob bytes ∧ Text.upperHex bytes = digits := by
  cases literal <;> cases hblob
  exact ⟨_, rfl, rfl⟩

/-- Canonical literals are told apart by what they are written as. -/
theorem eq_of_operand_eq (hcanonical : literal.isCanonical) (hother : other.isCanonical)
    (hsame : literal.operand = other.operand) : literal = other := by
  have hscalar := isScalar_of_isCanonical hcanonical
  have hscalar' := isScalar_of_isCanonical hother
  cases hoperand : literal.operand with
  | word content =>
    have hoperand' := hsame.symm.trans hoperand
    rcases word_cases hscalar hoperand with ⟨n, hn, rfl⟩ | hconstant
    · rcases word_cases hscalar' hoperand' with ⟨m, hm, htext⟩ | hconstant'
      · have hval : n.val = m.val :=
          (decimalText_toString n.val).unique (decimalText_iff.2 htext)
        have hwhole : n = m := by
          cases n
          cases m
          cases hval
          rfl
        rw [eq_ofWhole hcanonical hn, eq_ofWhole hother hm, hwhole]
      · rw [constant?_of_isNumeral (isNumeral_toString n.val)] at hconstant'
        cases hconstant'
    · rcases word_cases hscalar' hoperand' with ⟨m, hm, rfl⟩ | hconstant'
      · rw [constant?_of_isNumeral (isNumeral_toString m.val)] at hconstant
        cases hconstant
      · exact Option.some.inj (hconstant.symm.trans hconstant')
  | text content =>
    rw [eq_text_of_operand hoperand, eq_text_of_operand (hsame.symm.trans hoperand)]
  | blob digits =>
    obtain ⟨bytes, rfl, rfl⟩ := exists_blob_of_operand hoperand
    obtain ⟨others, rfl, hdigits⟩ := exists_blob_of_operand (hsame.symm.trans hoperand)
    rw [upperHex_injective hdigits]

end Literal

/-! ## Rows by their tokens -/

/-- Single elements with separators between are told from the separators. -/
theorem filter_intercalate {α : Type} [DecidableEq α] {separator : α} {elements : List α}
    (hplain : separator ∉ elements) :
    (List.intercalate [separator] (elements.map fun a => [a])).filter (· ≠ separator) =
      elements := by
  induction elements with
  | nil => rfl
  | cons a rest ih =>
    rw [List.mem_cons, not_or] at hplain
    have ha : a ≠ separator := Ne.symm hplain.1
    cases rest with
    | nil => simp [ha]
    | cons b rest =>
      have hrest := ih hplain.2
      simp only [List.map_cons] at hrest ⊢
      rw [List.intercalate_cons_cons, List.filter_append, hrest]
      simp [ha]

/-- What stands between single elements is nothing but separators. -/
theorem mem_of_mem_intercalate {α : Type} [DecidableEq α] {separator a : α} {elements : List α}
    (hplain : separator ∉ elements) (ha : a ≠ separator)
    (hmem : a ∈ List.intercalate [separator] (elements.map fun b => [b])) : a ∈ elements := by
  rw [← filter_intercalate hplain, List.mem_filter]
  exact ⟨hmem, by simpa using ha⟩

/-- The tokens of the names in a row. -/
def nameTokens (entries : List (String × Literal)) : List Token :=
  entries.map fun entry => .quoted .name entry.1

/-- The tokens of the values in a row. -/
def valueTokens (entries : List (String × Literal)) : List Token :=
  entries.map fun entry => entry.2.operand.token

/-- Two lists of tokens, each in brackets, with a word between. -/
def rowOf (front back : List Token) : List Token :=
  Token.opening :: front ++ [Token.closing] ++ [Token.word "VALUES"] ++
    (Token.opening :: back ++ [Token.closing])

/-- The tokens of a row: its names and its values, both with commas between. -/
def rowTokens (entries : List (String × Literal)) : List Token :=
  rowOf (List.intercalate [.comma] ((nameTokens entries).map fun token => [token]))
    (List.intercalate [.comma] ((valueTokens entries).map fun token => [token]))

/-- The entries can be read: no name holds a backtick, and the values are canonical. -/
structure LegibleRow (entries : List (String × Literal)) : Prop where
  names : ∀ entry ∈ entries, '`' ∉ entry.1.toList
  values : ∀ entry ∈ entries, entry.2.isCanonical

variable {entries others : List (String × Literal)}

theorem LegibleRow.tail {entry : String × Literal} (hlegible : LegibleRow (entry :: entries)) :
    LegibleRow entries :=
  ⟨fun other hother => hlegible.names other (List.mem_cons_of_mem entry hother),
    fun other hother => hlegible.values other (List.mem_cons_of_mem entry hother)⟩

/-- The text of a row gives the tokens of it. -/
theorem closes_rowSql (hlegible : LegibleRow entries) :
    Token.Closes (Statement.rowSql entries) (rowTokens entries) := by
  have hnames := Token.closes_brackets fun entry hentry =>
    (closes_quoteIdentifier (hlegible.names entry hentry)).yields
  have hvalues := Token.closes_brackets fun entry hentry =>
    Literal.yields_sql (Literal.isScalar_of_isCanonical (hlegible.values entry hentry))
  have hword : Token.Closes " VALUES " [.word "VALUES"] := rfl
  have htext : Statement.rowSql entries =
      "(" ++ String.intercalate ", " (entries.map fun entry => quoteIdentifier entry.1) ++ ")" ++
        " VALUES " ++
        ("(" ++ String.intercalate ", " (entries.map fun entry => entry.2.sql) ++ ")") := by
    apply String.toList_injective
    simp [Statement.rowSql]
  rw [htext, rowTokens, nameTokens, valueTokens, List.map_map, List.map_map]
  exact (hnames.append hword).append hvalues

theorem Operand.token_injective : Function.Injective Operand.token := by
  intro operand other hsame
  cases operand <;> cases other <;> cases hsame <;> rfl

/-- The list between the first two brackets ends at the first closing one. -/
theorem rowOf_inj {front back front' back' : List Token} (hfront : .closing ∉ front)
    (hfront' : .closing ∉ front') (hsame : rowOf front back = rowOf front' back') :
    front = front' ∧ back = back' := by
  have htake : ∀ {front rest : List Token}, .closing ∉ front →
      (front ++ .closing :: rest).takeWhile (· ≠ .closing) = front := by
    intro front rest hplain
    have hpass : ∀ token ∈ front, decide (token ≠ .closing) = true := by
      intro token hmem
      exact decide_eq_true fun h => hplain (h ▸ hmem)
    rw [List.takeWhile_append_of_pos hpass]
    simp
  simp only [rowOf, List.cons_append, List.append_assoc, List.nil_append, List.cons.injEq,
    true_and] at hsame
  have hnames : front = front' := by
    rw [← htake hfront, hsame, htake hfront']
  subst hnames
  have hrest := List.append_cancel_left hsame
  simp only [List.cons.injEq, true_and] at hrest
  exact ⟨rfl, List.append_cancel_right hrest⟩

theorem plain_nameTokens {token : Token} (hmem : token ∈ nameTokens entries) :
    token ≠ .comma ∧ token ≠ .closing := by
  obtain ⟨entry, -, rfl⟩ := List.mem_map.1 hmem
  exact ⟨nofun, nofun⟩

theorem plain_valueTokens {token : Token} (hmem : token ∈ valueTokens entries) :
    token ≠ .comma := by
  obtain ⟨entry, -, rfl⟩ := List.mem_map.1 hmem
  cases entry.2.operand <;> nofun

/-- Rows with the same tokens have the same names and the same values. -/
theorem eq_of_rowTokens_eq (hlegible : LegibleRow entries) (hlegible' : LegibleRow others)
    (hsame : rowTokens entries = rowTokens others) : entries = others := by
  have hcomma : ∀ row, .comma ∉ nameTokens row := fun _ hmem => (plain_nameTokens hmem).1 rfl
  have hcomma' : ∀ row, .comma ∉ valueTokens row := fun _ hmem => plain_valueTokens hmem rfl
  -- Names come first, and no name is a closing bracket.
  have hclosing : ∀ row, .closing ∉
      List.intercalate [Token.comma] ((nameTokens row).map fun token => [token]) := by
    intro row hmem
    have hne : Token.closing ≠ .comma := nofun
    exact (plain_nameTokens (mem_of_mem_intercalate (hcomma row) hne hmem)).2 rfl
  obtain ⟨hnames, hvalues⟩ := rowOf_inj (hclosing entries) (hclosing others) hsame
  replace hnames : nameTokens entries = nameTokens others := by
    rw [← filter_intercalate (hcomma entries), hnames, filter_intercalate (hcomma others)]
  replace hvalues : valueTokens entries = valueTokens others := by
    rw [← filter_intercalate (hcomma' entries), hvalues, filter_intercalate (hcomma' others)]
  clear hsame
  induction entries generalizing others with
  | nil => exact (List.map_eq_nil_iff.1 hnames.symm).symm
  | cons entry entries ih =>
    cases others with
    | nil => cases hnames
    | cons other others =>
      obtain ⟨hname, hnames⟩ := List.cons.inj hnames
      obtain ⟨hvalue, hvalues⟩ := List.cons.inj hvalues
      have hentry : entry = other :=
        Prod.ext (Token.quoted.inj hname).2
          (Literal.eq_of_operand_eq (hlegible.values entry List.mem_cons_self)
            (hlegible'.values other List.mem_cons_self) (Operand.token_injective hvalue))
      rw [hentry, ih hlegible.tail hlegible'.tail hnames hvalues]

/-! ## Insertions by their texts -/

namespace Statement

/-- Rows with the same text are the same. -/
theorem eq_of_rowSql_eq (hlegible : LegibleRow entries) (hlegible' : LegibleRow others)
    (hsame : rowSql entries = rowSql others) : entries = others := by
  have hcloses := closes_rowSql hlegible
  rw [hsame] at hcloses
  exact eq_of_rowTokens_eq hlegible hlegible' (hcloses.unique (closes_rowSql hlegible'))

/-- An insertion into a declared table always has a text, and two such insertions have the same text
only if they set the same columns to the same values in the same order.  Names without backticks may
hold anything else, and so may texts without single quotes; whole numbers have to be signed words
where they can. -/
theorem createOne_sql_inj {schema : Schema} {root : String} {table : Table}
    (htable : schema.table? root = some table) {item other : Item}
    (hitem : LegibleRow item.entries) (hother : LegibleRow other.entries) :
    ∃ text text', (createOne schema root item).map sql = .ok text ∧
      (createOne schema root other).map sql = .ok text' ∧ (text = text' ↔ item = other) := by
  rw [createOne_of_table? htable, createOne_of_table? htable]
  refine ⟨_, _, rfl, rfl, ?_, ?_⟩
  · intro hsame
    rw [sql_of_insertion, sql_of_insertion] at hsame
    have hchars := congrArg String.toList hsame
    simp only [String.toList_append] at hchars
    have hrows := String.toList_injective (List.append_cancel_left hchars)
    have hentries := eq_of_rowSql_eq hitem hother hrows
    cases item
    cases other
    cases hentries
    rfl
  · rintro rfl
    rfl

/-- A table whose name reads like the end of an insertion. -/
def trapSchema : Schema :=
  Schema.empty.insert ⟨"a` (`b`) VALUES (1)", [⟨"id", .int8, true, true, true, none⟩], []⟩

/-- A column whose name reads like more columns and values, with a text that reads like a blob, and
the greatest unsigned word. -/
def trapItem : Item :=
  ((Item.empty.set ") VALUES (NULL, 'x" (.text "X00, ), (")).set ", " (.uint 0xFFFFFFFFFFFFFFFF)).set
    "" (.blob [0, 255])

/-- The same columns with a blob in place of the text, and a text in place of the blob. -/
def trapOther : Item :=
  ((Item.empty.set ") VALUES (NULL, 'x" (.blob [0])).set ", " (.uint 0xFFFFFFFFFFFFFFFF)).set
    "" (.text "00FF")

theorem createOne_sql_inj_trapItem :
    LegibleRow trapItem.entries ∧ LegibleRow trapOther.entries ∧
      ∃ text text', (createOne trapSchema "a` (`b`) VALUES (1)" trapItem).map sql = .ok text ∧
        text = "INSERT INTO `a` (`b`) VALUES (1)` (`) VALUES (NULL, 'x`, `, `, ``) " ++
          "VALUES ('X00, ), (', 18446744073709551615, X'00FF')" ∧
        (createOne trapSchema "a` (`b`) VALUES (1)" trapOther).map sql = .ok text' ∧
        text ≠ text' := by
  have htable : trapSchema.table? "a` (`b`) VALUES (1)" = some _ := rfl
  have hlegible : LegibleRow trapItem.entries :=
    ⟨by decide, by decide⟩
  have hother : LegibleRow trapOther.entries :=
    ⟨by decide, by decide⟩
  have hne : trapItem ≠ trapOther := by
    intro h
    cases congrArg Item.values h
  obtain ⟨text, text', htext, htext', hiff⟩ := createOne_sql_inj htable hlegible hother
  refine ⟨hlegible, hother, text, text', htext, ?_, htext', fun h => hne (hiff.1 h)⟩
  rw [createOne_of_table? htable] at htext
  exact (Except.ok.inj htext).symm.trans (by decide +kernel)

end Statement

end TableQuery
