import TableQuery.Filter.Predicate

/-!
# The tokens of a condition

A condition is read in two steps.  This file is the first of them: it cuts a text into tokens.
A name between backticks and a text between single quotes are single tokens, whatever they hold;
a blob is such a text behind an `X`.  Words are the longest runs of letters, digits and minus signs,
so that keywords, the constants `NULL`, `true` and `false`, and numbers are words.  Blanks separate
tokens and are not tokens themselves.

The scanner is a machine that takes one character at a time.  `Scan` is what it is in the middle of
and `Scan.scanFrom` is its run.  A word ends only where the next character says so, so two judgements
describe what a piece of text does to the machine:

* `Closes text tokens`: from the idle state, `text` gives `tokens` and leaves the machine idle;
* `Yields text tokens`: the same, but a last word or sign may still wait for its end.

The lemmas below them put pieces together, and `scan_of_yields` is the result for a whole text.
-/

namespace TableQuery

/-- What stands between quotation marks. -/
inductive Quotation where
  | name | text | blob
  deriving DecidableEq, Repr

/-- The mark that ends a quotation. -/
def Quotation.mark : Quotation → Char
  | name => '`'
  | text => '\''
  | blob => '\''

/-- A piece of a condition. -/
inductive Token where
  /-- A name, a text or a blob, without its marks. -/
  | quoted (kind : Quotation) (content : String)
  /-- A run of letters, digits and minus signs. -/
  | word (content : String)
  /-- A run of the signs `=`, `!`, `<` and `>`. -/
  | sign (content : String)
  | point | star | comma | opening | closing
  deriving DecidableEq, Repr

/-- What the scanner is in the middle of, with the characters read of it. -/
inductive Scan where
  | idle
  | quoted (kind : Quotation) (read : List Char)
  | word (read : List Char)
  | sign (read : List Char)
  deriving DecidableEq, Repr

namespace Scan

def isWordChar (c : Char) : Bool :=
  c.isAlphanum || c = '-'

def isSignChar (c : Char) : Bool :=
  c = '=' || c = '!' || c = '<' || c = '>'

/-- The tokens that a character completes by itself, and what it begins. -/
def start (c : Char) : Option (List Token × Scan) :=
  if c = ' ' then some ([], idle)
  else if c = '`' then some ([], quoted .name [])
  else if c = '\'' then some ([], quoted .text [])
  else if c = '.' then some ([.point], idle)
  else if c = '*' then some ([.star], idle)
  else if c = ',' then some ([.comma], idle)
  else if c = '(' then some ([.opening], idle)
  else if c = ')' then some ([.closing], idle)
  else if isWordChar c then some ([], word [c])
  else if isSignChar c then some ([], sign [c])
  else none

/-- Ends a token and begins anew with the next character. -/
def startAfter (token : Token) (c : Char) : Option (List Token × Scan) :=
  (start c).map (fun (tokens, next) => (token :: tokens, next))

/-- The tokens that a character completes, and what the scanner is in the middle of after it. -/
def step : Scan → Char → Option (List Token × Scan)
  | idle, c => start c
  | quoted kind read, c =>
    if c = kind.mark then some ([.quoted kind (String.ofList read)], idle)
    else some ([], quoted kind (read ++ [c]))
  | word read, c =>
    if isWordChar c then some ([], word (read ++ [c]))
    else if c = '\'' ∧ read = ['X'] then some ([], quoted .blob [])
    else startAfter (.word (String.ofList read)) c
  | sign read, c =>
    if isSignChar c then some ([], sign (read ++ [c]))
    else startAfter (.sign (String.ofList read)) c

/-- The tokens that the end of the text completes.  A quotation has to be ended before. -/
def finish : Scan → Option (List Token)
  | idle => some []
  | word read => some [.word (String.ofList read)]
  | sign read => some [.sign (String.ofList read)]
  | quoted _ _ => none

/-- The tokens that a text completes, and what the scanner is in the middle of after it. -/
def scanFrom (state : Scan) : List Char → Option (List Token × Scan)
  | [] => some ([], state)
  | c :: rest => do
    let (tokens, next) ← state.step c
    let (more, last) ← scanFrom next rest
    return (tokens ++ more, last)

end Scan

/-- The tokens of a text. -/
def Token.scan (text : String) : Option (List Token) := do
  let (tokens, last) ← Scan.idle.scanFrom text.toList
  return tokens ++ (← last.finish)

namespace Scan

/-! ## Runs of the scanner -/

/-- A run over two texts is a run over the first and then one over the second. -/
theorem scanFrom_append {state middle last : Scan} {front back : List Char}
    {tokens more : List Token} (hfront : state.scanFrom front = some (tokens, middle))
    (hback : middle.scanFrom back = some (more, last)) :
    state.scanFrom (front ++ back) = some (tokens ++ more, last) := by
  induction front generalizing state tokens with
  | nil =>
    cases hfront
    exact hback
  | cons c front ih =>
    simp only [scanFrom, Option.bind_eq_bind, Option.bind_eq_some_iff] at hfront
    obtain ⟨⟨first, next⟩, hstep, ⟨later, reached⟩, hrest, heq⟩ := hfront
    cases heq
    simp [scanFrom, hstep, ih hrest]

/-- A quotation is read up to its mark, whatever stands before it. -/
theorem scanFrom_quoted {kind : Quotation} {read content : List Char}
    (hplain : kind.mark ∉ content) :
    (quoted kind read).scanFrom (content ++ [kind.mark]) =
      some ([.quoted kind (String.ofList (read ++ content))], idle) := by
  induction content generalizing read with
  | nil => simp [scanFrom, step]
  | cons c content ih =>
    rw [List.mem_cons, not_or] at hplain
    have hc : c ≠ kind.mark := Ne.symm hplain.1
    simp [scanFrom, step, hc, ih hplain.2]

/-- A word takes in every word character. -/
theorem scanFrom_word {read content : List Char} (hword : ∀ c ∈ content, isWordChar c) :
    (word read).scanFrom content = some ([], word (read ++ content)) := by
  induction content generalizing read with
  | nil => simp [scanFrom]
  | cons c content ih =>
    have hc : isWordChar c := hword c List.mem_cons_self
    have hrest : ∀ d ∈ content, isWordChar d := fun d hd => hword d (List.mem_cons_of_mem c hd)
    simp [scanFrom, step, hc, ih hrest]

/-- A word character begins a word. -/
theorem start_wordChar {c : Char} (hc : isWordChar c) : start c = some ([], word [c]) := by
  have hne : ∀ d, isWordChar d = false → c ≠ d := by
    rintro d hd rfl
    exact absurd (hc.symm.trans hd) (by decide)
  simp [start, hc, hne ' ' rfl, hne '`' rfl, hne '\'' rfl, hne '.' rfl, hne '*' rfl, hne ',' rfl,
    hne '(' rfl, hne ')' rfl]

/-- The characters that end whatever waits for its end. -/
def isDelimiter (c : Char) : Bool :=
  c = ' ' || c = ',' || c = ')'

/-- A delimiter completes what is waiting and is then read by an idle machine. -/
theorem step_delimiter {state next : Scan} {waiting tokens : List Token} {c : Char}
    (hfinish : state.finish = some waiting) (hc : isDelimiter c)
    (hidle : idle.step c = some (tokens, next)) :
    state.step c = some (waiting ++ tokens, next) := by
  have hstart : start c = some (tokens, next) := hidle
  cases state with
  | idle =>
    cases hfinish
    exact hidle
  | quoted kind read => cases hfinish
  | word read =>
    cases hfinish
    have hword : isWordChar c = false ∧ c ≠ '\'' := by
      simp only [isDelimiter, Bool.or_eq_true, decide_eq_true_eq] at hc
      rcases hc with (rfl | rfl) | rfl <;> decide
    simp [step, hword, startAfter, hstart]
  | sign read =>
    cases hfinish
    have hsign : isSignChar c = false := by
      simp only [isDelimiter, Bool.or_eq_true, decide_eq_true_eq] at hc
      rcases hc with (rfl | rfl) | rfl <;> decide
    simp [step, hsign, startAfter, hstart]

end Scan

/-! ## What a text gives -/

namespace Token

/-- From the idle state `text` gives `tokens`, and the machine is idle again. -/
def Closes (text : String) (tokens : List Token) : Prop :=
  Scan.idle.scanFrom text.toList = some (tokens, .idle)

/-- From the idle state `text` gives `tokens`, the last of which may wait for its end. -/
def Yields (text : String) (tokens : List Token) : Prop :=
  ∃ front state waiting, Scan.idle.scanFrom text.toList = some (front, state) ∧
    state.finish = some waiting ∧ tokens = front ++ waiting

/-- The text begins with a character that ends whatever waits for its end. -/
def Delimited (text : String) : Prop :=
  ∃ c rest, text.toList = c :: rest ∧ Scan.isDelimiter c

theorem Closes.yields {text : String} {tokens : List Token} (h : Closes text tokens) :
    Yields text tokens :=
  ⟨tokens, .idle, [], h, rfl, (List.append_nil tokens).symm⟩

/-- A text gives its tokens only. -/
theorem Closes.unique {text : String} {tokens others : List Token} (h : Closes text tokens)
    (hother : Closes text others) : tokens = others :=
  congrArg Prod.fst (Option.some.inj (h.symm.trans hother))

theorem Closes.append {front back : String} {tokens more : List Token}
    (hfront : Closes front tokens) (hback : Closes back more) :
    Closes (front ++ back) (tokens ++ more) := by
  unfold Closes
  rw [String.toList_append]
  exact Scan.scanFrom_append hfront hback

theorem Closes.append_yields {front back : String} {tokens more : List Token}
    (hfront : Closes front tokens) (hback : Yields back more) :
    Yields (front ++ back) (tokens ++ more) := by
  obtain ⟨first, state, waiting, hrun, hfinish, rfl⟩ := hback
  refine ⟨tokens ++ first, state, waiting, ?_, hfinish, (List.append_assoc ..).symm⟩
  rw [String.toList_append]
  exact Scan.scanFrom_append hfront hrun

/-- A text that begins with a delimiter closes what stands before it. -/
theorem Yields.append_closes {front back : String} {tokens more : List Token}
    (hfront : Yields front tokens) (hdelimited : Delimited back) (hback : Closes back more) :
    Closes (front ++ back) (tokens ++ more) := by
  obtain ⟨first, state, waiting, hrun, hfinish, rfl⟩ := hfront
  obtain ⟨c, rest, htext, hc⟩ := hdelimited
  unfold Closes at hback ⊢
  rw [htext] at hback
  simp only [Scan.scanFrom, Option.bind_eq_bind, Option.bind_eq_some_iff] at hback
  obtain ⟨⟨now, next⟩, hstep, ⟨later, last⟩, hrest, heq⟩ := hback
  cases heq
  have hwhole : state.scanFrom (c :: rest) = some (waiting ++ now ++ later, .idle) := by
    simp [Scan.scanFrom, Scan.step_delimiter hfinish hc hstep, hrest]
  rw [String.toList_append, htext, Scan.scanFrom_append hrun hwhole]
  simp

/-- What a whole text yields are its tokens. -/
theorem scan_of_yields {text : String} {tokens : List Token} (h : Yields text tokens) :
    scan text = some tokens := by
  obtain ⟨front, state, waiting, hrun, hfinish, rfl⟩ := h
  simp [scan, hrun, hfinish]

/-- A quotation that does not hold its own mark is one token. -/
theorem closes_quoted {kind : Quotation} {opening content mark : String}
    (hopening : Scan.idle.scanFrom opening.toList = some ([], .quoted kind []))
    (hmark : mark.toList = [kind.mark]) (hplain : kind.mark ∉ content.toList) :
    Closes (opening ++ content ++ mark) [.quoted kind content] := by
  have hread : (Scan.quoted kind []).scanFrom (content.toList ++ [kind.mark]) =
      some ([.quoted kind content], .idle) := by
    rw [Scan.scanFrom_quoted hplain, List.nil_append, String.ofList_toList]
  unfold Closes
  rw [String.toList_append, String.toList_append, hmark, List.append_assoc]
  exact Scan.scanFrom_append hopening hread

/-- A text of word characters is one word. -/
theorem yields_word {content : String} (hne : content.toList ≠ [])
    (hword : ∀ c ∈ content.toList, Scan.isWordChar c) : Yields content [.word content] := by
  obtain ⟨c, rest, hcontent⟩ := List.exists_cons_of_ne_nil hne
  rw [hcontent, List.forall_mem_cons] at hword
  refine ⟨[], .word (c :: rest), [.word content], ?_, ?_, rfl⟩
  · rw [hcontent]
    simp [Scan.scanFrom, Scan.step, Scan.start_wordChar hword.1, Scan.scanFrom_word hword.2]
  · rw [Scan.finish, ← hcontent, String.ofList_toList]

/-- Texts with separators between give their tokens with the separator's token between. -/
theorem yields_intercalate {α : Type} {separator : String} {token : Token} {text : α → String}
    {tokens : α → List Token} {xs : List α} (hcloses : Closes separator [token])
    (hdelimited : Delimited separator) (hne : xs ≠ [])
    (hyields : ∀ x ∈ xs, Yields (text x) (tokens x)) :
    Yields (String.intercalate separator (xs.map text))
      (List.intercalate [token] (xs.map tokens)) := by
  induction xs with
  | nil => exact absurd rfl hne
  | cons x xs ih =>
    rw [List.forall_mem_cons] at hyields
    cases xs with
    | nil => simpa using hyields.1
    | cons y xs =>
      have hrest := ih (List.cons_ne_nil y xs) hyields.2
      simp only [List.map_cons] at hrest ⊢
      rw [String.intercalate_cons_cons, List.intercalate_cons_cons]
      exact (hyields.1.append_closes hdelimited hcloses).append_yields hrest

/-- A list in brackets gives the tokens of its elements with commas between, in brackets. -/
theorem closes_brackets {α : Type} {text : α → String} {tokens : α → List Token} {xs : List α}
    (hyields : ∀ x ∈ xs, Yields (text x) (tokens x)) :
    Closes ("(" ++ String.intercalate ", " (xs.map text) ++ ")")
      (.opening :: List.intercalate [.comma] (xs.map tokens) ++ [.closing]) := by
  by_cases hne : xs = []
  · have hempty : Closes "()" [.opening, .closing] := rfl
    subst hne
    exact hempty
  · have hcomma : Closes ", " [.comma] := rfl
    have hopening : Closes "(" [.opening] := rfl
    have hclosing : Closes ")" [.closing] := rfl
    have helements := yields_intercalate hcomma ⟨',', [' '], rfl, rfl⟩ hne hyields
    exact (hopening.append_yields helements).append_closes ⟨')', [], rfl, rfl⟩ hclosing

end Token

end TableQuery
