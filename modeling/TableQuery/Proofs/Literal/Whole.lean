import Mathlib.Data.List.Basic
import Mathlib.Data.List.Induction
import TableQuery.Proofs.Expression.Written

/-!
# Whole numbers as literals

A whole number comes from JSON or from a word of one of four types.  Wherever it comes from, it is the
same literal: a signed word if one holds it, and an unsigned word if not
(`exists_whole_of_convertedFrom`).

`DecimalText` is the text of a number in decimal digits.  A number has one such text
(`decimalText_iff`) and a text stands for one number (`DecimalText.unique`).  What is written of
a whole number is its decimal text, so no two numbers are written alike.
-/

namespace TableQuery

/-! ## Decimal texts -/

/-- Decimal digits, at least one, without a zero in front that could be left out. -/
structure IsDecimal (digits : List Char) : Prop where
  numeral : isDigits digits
  leading : digits.head? = some '0' → digits = ['0']

/-- The text is the number in decimal digits, behind a minus sign if it is negative. -/
def DecimalText (n : Int) (text : String) : Prop :=
  ∃ digits, IsDecimal digits ∧
    (n = Decimal.ofDigits digits ∧ text.toList = digits ∨
      n = -Decimal.ofDigits digits ∧ n ≠ 0 ∧ text.toList = '-' :: digits)

theorem toNat_of_isDigit {c : Char} (hdigit : c.isDigit) : 48 ≤ c.toNat ∧ c.toNat ≤ 57 := by
  simp only [Char.isDigit, Bool.and_eq_true, decide_eq_true_eq] at hdigit
  exact hdigit

theorem digitValue_lt {c : Char} (hdigit : c.isDigit) : Decimal.digitValue c < 10 := by
  have hrange := toNat_of_isDigit hdigit
  show c.toNat - 48 < 10
  omega

theorem digitChar_digitValue {c : Char} (hdigit : c.isDigit) :
    (Decimal.digitValue c).digitChar = c := by
  have hrange := toNat_of_isDigit hdigit
  apply Char.toNat_inj.1
  rw [Nat.toNat_digitChar_of_lt_ten (digitValue_lt hdigit)]
  show 48 + (c.toNat - 48) = c.toNat
  omega

theorem ofDigits_toDigits (n : Nat) : Decimal.ofDigits (Nat.toDigits 10 n) = n :=
  Nat.ofDigitChars_ten_toDigits

theorem ofDigits_concat (digits : List Char) (c : Char) :
    Decimal.ofDigits (digits ++ [c]) = 10 * Decimal.ofDigits digits + Decimal.digitValue c := by
  simp [Decimal.ofDigits]

theorem head?_toDigits_ne_zero {n : Nat} (hpos : 0 < n) :
    (Nat.toDigits 10 n).head? ≠ some '0' := by
  induction n using Nat.strongRecOn with
  | ind n ih =>
    rw [Nat.toDigits_eq_if (by decide)]
    split
    · simp
      omega
    · rw [List.head?_append_of_ne_nil _ Nat.toDigits_ne_nil]
      exact ih (n / 10) (by omega) (by omega)

theorem isDecimal_toDigits (n : Nat) : IsDecimal (Nat.toDigits 10 n) where
  numeral := by
    have hdigits := isDigits_repr n
    rwa [Nat.toList_repr] at hdigits
  leading := by
    intro hzero
    cases n with
    | zero => rfl
    | succ n => exact absurd hzero (head?_toDigits_ne_zero n.succ_pos)

/-- Digits are the ones of the number that they say. -/
theorem toDigits_ofDigits {digits : List Char} (hdecimal : IsDecimal digits) :
    Nat.toDigits 10 (Decimal.ofDigits digits) = digits := by
  induction digits using List.reverseRecOn with
  | nil => cases hdecimal.numeral
  | append_singleton init c ih =>
    have hall : ∀ d ∈ init ++ [c], d.isDigit := by
      have hdigits := hdecimal.numeral
      simp only [isDigits, Bool.and_eq_true, List.all_eq_true] at hdigits
      exact hdigits.2
    have hc : c.isDigit := hall c (List.mem_append_right _ List.mem_cons_self)
    have hlast : Nat.toDigits 10 (Decimal.digitValue c) = [c] := by
      rw [Nat.toDigits_of_lt_base (digitValue_lt hc), digitChar_digitValue hc]
    rw [ofDigits_concat]
    by_cases hinit : init = []
    · subst hinit
      simpa [Decimal.ofDigits] using hlast
    · -- A zero in front of further digits could be left out, so the others have none in front.
      have hzero : init.head? ≠ some '0' := by
        intro hhead
        have hfront := hdecimal.leading (by rw [List.head?_append_of_ne_nil _ hinit, hhead])
        cases init with
        | nil => exact hinit rfl
        | cons d rest => cases rest <;> cases hfront
      have hbefore := ih {
        numeral := by
          simp only [isDigits, Bool.and_eq_true, List.all_eq_true]
          exact ⟨by simpa using hinit, fun d hd => hall d (List.mem_append_left _ hd)⟩
        leading := fun hhead => absurd hhead hzero }
      have hpos : 0 < Decimal.ofDigits init := by
        rw [Nat.pos_iff_ne_zero]
        intro hnone
        rw [hnone] at hbefore
        exact hzero (hbefore ▸ rfl)
      rw [← Nat.toDigits_append_toDigits (by decide) hpos (digitValue_lt hc), hbefore, hlast]

/-- Every number has a decimal text. -/
theorem decimalText_toString (n : Int) : DecimalText n (toString n) := by
  rw [Int.toString_eq_repr, Int.repr_eq_if]
  split
  · rename_i hpos
    refine ⟨Nat.toDigits 10 n.toNat, isDecimal_toDigits _, .inl ⟨?_, Nat.toList_repr⟩⟩
    rw [ofDigits_toDigits]
    omega
  · rename_i hneg
    refine ⟨Nat.toDigits 10 (-n).toNat, isDecimal_toDigits _, .inr ⟨?_, by omega, ?_⟩⟩
    · rw [ofDigits_toDigits]
      omega
    · rw [String.toList_append, Nat.toList_repr]
      rfl

/-- A sign is no digit. -/
theorem IsDecimal.ne_signed {digits others : List Char} (hdecimal : IsDecimal digits) :
    digits ≠ '-' :: others := by
  rintro rfl
  have hdigits := hdecimal.numeral
  simp [isDigits, show '-'.isDigit = false from rfl] at hdigits

namespace DecimalText

variable {n m : Int} {text other : String}

/-- A text is the decimal text of one number. -/
theorem unique (hn : DecimalText n text) (hm : DecimalText m text) : n = m := by
  obtain ⟨digits, hdecimal, ⟨rfl, htext⟩ | ⟨rfl, -, htext⟩⟩ := hn
  · obtain ⟨digits', -, ⟨rfl, htext'⟩ | ⟨-, -, htext'⟩⟩ := hm
    · rw [← htext, htext']
    · exact absurd (htext.symm.trans htext') hdecimal.ne_signed
  · obtain ⟨digits', hdecimal', ⟨-, htext'⟩ | ⟨rfl, -, htext'⟩⟩ := hm
    · exact absurd (htext'.symm.trans htext) hdecimal'.ne_signed
    · rw [(List.cons.inj (htext.symm.trans htext')).2]

/-- Two decimal texts of a number are the same. -/
theorem text_unique (htext : DecimalText n text) (hother : DecimalText n other) : text = other := by
  apply String.toList_injective
  obtain ⟨digits, hdecimal, ⟨hn, hchars⟩ | ⟨hn, hne, hchars⟩⟩ := htext
  · obtain ⟨digits', hdecimal', ⟨hn', hchars'⟩ | ⟨hn', hne', hchars'⟩⟩ := hother
    · have hsame : Decimal.ofDigits digits = Decimal.ofDigits digits' := by omega
      rw [hchars, hchars', ← toDigits_ofDigits hdecimal, hsame, toDigits_ofDigits hdecimal']
    · omega
  · obtain ⟨digits', hdecimal', ⟨hn', hchars'⟩ | ⟨hn', hne', hchars'⟩⟩ := hother
    · omega
    · have hsame : Decimal.ofDigits digits = Decimal.ofDigits digits' := by omega
      rw [hchars, hchars', ← toDigits_ofDigits hdecimal, hsame, toDigits_ofDigits hdecimal']

end DecimalText

/-- A number has one decimal text. -/
theorem decimalText_iff {n : Int} {text : String} : DecimalText n text ↔ text = toString n := by
  constructor
  · intro htext
    exact htext.text_unique (decimalText_toString n)
  · rintro rfl
    exact decimalText_toString n

/-! ## Conversions -/

namespace Literal

/-- The literal is made of the whole number, as it comes from JSON or from a word. -/
inductive ConvertedFrom : Int → Literal → Prop where
  | json (n : Json.Whole) : ConvertedFrom n.val (toLiteral (Json.whole n))
  | int64 (n : Int64) : ConvertedFrom n.toInt (toLiteral n)
  | int32 (n : Int32) : ConvertedFrom n.toInt (toLiteral n)
  | uint32 (n : UInt32) : ConvertedFrom n.toNat (toLiteral n)
  | uint64 (n : UInt64) : ConvertedFrom n.toNat (toLiteral n)

theorem ofWhole_of_lt {n : Json.Whole} (hfits : n.val < 0x8000000000000000) :
    ofWhole n = .int (Int64.ofInt n.val) ∧ (Int64.ofInt n.val).toInt = n.val := by
  refine ⟨if_pos hfits, ?_⟩
  exact Int64.toInt_ofInt_of_le n.lower hfits

theorem ofWhole_of_le {n : Json.Whole} (hlarge : 0x8000000000000000 ≤ n.val) :
    ofWhole n = .uint (UInt64.ofNat n.val.toNat) ∧
      ((UInt64.ofNat n.val.toNat).toNat : Int) = n.val := by
  have hupper := n.upper
  refine ⟨if_neg (by omega), ?_⟩
  have hword : n.val.toNat < UInt64.size := by
    show n.val.toNat < 0x10000000000000000
    omega
  rw [UInt64.toNat_ofNat_of_lt' hword]
  omega

/-- A signed word stays as it is. -/
theorem ofWhole_ofInt64 (n : Int64) : ofWhole (.ofInt64 n) = .int n := by
  have hfits : (Json.Whole.ofInt64 n).val < 0x8000000000000000 := n.toInt_lt
  rw [(ofWhole_of_lt hfits).1]
  exact congrArg Literal.int (Int64.ofInt_toInt n)

/-- An unsigned word becomes a signed one if it can. -/
theorem ofWhole_ofUInt64 (n : UInt64) : ofWhole (.ofUInt64 n) = toLiteral n := by
  have hval : (Json.Whole.ofUInt64 n).val = n.toNat := rfl
  show _ = if n.toNat < 0x8000000000000000 then Literal.int (Int64.ofNat n.toNat) else .uint n
  split
  · rw [(ofWhole_of_lt (by omega)).1]
    rfl
  · rw [(ofWhole_of_le (by omega)).1, hval, Int.toNat_natCast, UInt64.ofNat_toNat]

/-- Wherever a whole number comes from, it is the literal that it would be in JSON. -/
theorem exists_whole_of_convertedFrom {i : Int} {literal : Literal}
    (hliteral : ConvertedFrom i literal) :
    ∃ n : Json.Whole, n.val = i ∧ literal = ofJson (.whole n) := by
  cases hliteral with
  | json n => exact ⟨n, rfl, rfl⟩
  | int64 n => exact ⟨.ofInt64 n, rfl, (ofWhole_ofInt64 n).symm⟩
  | int32 n => exact ⟨.ofInt64 n.toInt64, n.toInt_toInt64, (ofWhole_ofInt64 n.toInt64).symm⟩
  | uint32 n =>
    have hword : n.toNat < 2 ^ 63 := by
      have := n.toNat_lt
      omega
    exact ⟨.ofInt64 (Int64.ofNat n.toNat), Int64.toInt_ofNat_of_lt hword,
      (ofWhole_ofInt64 (Int64.ofNat n.toNat)).symm⟩
  | uint64 n => exact ⟨.ofUInt64 n, rfl, (ofWhole_ofUInt64 n).symm⟩

/-- A whole number is written in decimal digits. -/
theorem decimalText_sql_ofWhole (n : Json.Whole) : DecimalText n.val (ofWhole n).sql := by
  rw [decimalText_iff]
  by_cases hfits : n.val < 0x8000000000000000
  · obtain ⟨hliteral, hval⟩ := ofWhole_of_lt hfits
    rw [hliteral, sql, hval]
  · obtain ⟨hliteral, hval⟩ := ofWhole_of_le (Int.not_lt.1 hfits)
    rw [hliteral, sql]
    show toString ((UInt64.ofNat n.val.toNat).toNat : Int) = toString n.val
    rw [hval]

/-- A whole number is a signed word if one holds it, and an unsigned word of the same value if not.
It is written as its decimal text, and it is the same literal from wherever it comes.  So what is
written of two whole numbers is the same only if the numbers are. -/
theorem whole_canonical :
    (∀ n : Json.Whole,
      (n.val < 0x8000000000000000 →
        ∃ word : Int64, ofJson (.whole n) = .int word ∧ word.toInt = n.val) ∧
      (0x8000000000000000 ≤ n.val →
        ∃ word : UInt64, ofJson (.whole n) = .uint word ∧ (word.toNat : Int) = n.val) ∧
      ∀ text, (ofJson (.whole n)).sql = text ↔ DecimalText n.val text) ∧
    (∀ i literal, ConvertedFrom i literal →
      ∃ n : Json.Whole, n.val = i ∧ literal = ofJson (.whole n)) ∧
    ∀ i j literal other, ConvertedFrom i literal → ConvertedFrom j other →
      (literal.sql = other.sql ↔ i = j) := by
  refine ⟨fun n => ⟨?_, ?_, fun text => ?_⟩, fun i literal => exists_whole_of_convertedFrom, ?_⟩
  · intro hfits
    exact ⟨_, ofWhole_of_lt hfits⟩
  · intro hlarge
    exact ⟨_, ofWhole_of_le hlarge⟩
  · have hsql : DecimalText n.val (ofJson (.whole n)).sql := decimalText_sql_ofWhole n
    constructor
    · rintro rfl
      exact hsql
    · exact hsql.text_unique
  · intro i j literal other hliteral hother
    obtain ⟨n, rfl, rfl⟩ := exists_whole_of_convertedFrom hliteral
    obtain ⟨m, rfl, rfl⟩ := exists_whole_of_convertedFrom hother
    have hn : DecimalText n.val (ofJson (.whole n)).sql := decimalText_sql_ofWhole n
    have hm : DecimalText m.val (ofJson (.whole m)).sql := decimalText_sql_ofWhole m
    constructor
    · intro hsame
      exact hn.unique (hsame ▸ hm)
    · intro hval
      exact hn.text_unique (hval ▸ hm)

theorem whole_canonical_wordBounds :
    (∃ word : Int64, ofJson (.whole (.ofInt64 Int64.minValue)) = .int word ∧
      word.toInt = -0x8000000000000000) ∧
    (∃ word : UInt64, ofJson (.whole (.ofUInt64 0x8000000000000000)) = .uint word ∧
      (word.toNat : Int) = 0x8000000000000000) ∧
    DecimalText (-0x8000000000000000) "-9223372036854775808" ∧
    (toLiteral (0x8000000000000000 : UInt64)).sql ≠ (toLiteral Int64.minValue).sql ∧
    (toLiteral (0xFFFFFFFF : UInt32)).sql = (toLiteral (0xFFFFFFFF : UInt64)).sql := by
  obtain ⟨hwhole, -, hsame⟩ := whole_canonical
  have hleast := hwhole (.ofInt64 Int64.minValue)
  have hlarge := hwhole (.ofUInt64 0x8000000000000000)
  refine ⟨hleast.1 (by decide), hlarge.2.1 (by decide), (hleast.2.2 _).1 rfl, ?_, ?_⟩
  · intro htexts
    have hequal := (hsame _ _ _ _ (.uint64 0x8000000000000000) (.int64 Int64.minValue)).1 htexts
    exact absurd hequal (by decide)
  · exact (hsame _ _ _ _ (.uint32 0xFFFFFFFF) (.uint64 0xFFFFFFFF)).2 rfl

end Literal

end TableQuery
