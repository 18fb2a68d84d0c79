import TableQuery.Proofs.Except
import TableQuery.Proofs.Keyed
import TableQuery.Row

/-!
# What a row keeps of the columns of a result

A row is keyed by the names of columns, while the columns of a result go by their places and may
share a name.  `ofCells_keepsLast` says what comes of it: every name stands where it comes up first,
with the value of the last column of that name, so that a column is lost exactly where a later one
has its name.  Decoding fails only for a value that has no JSON form, and the first one counts.
-/

namespace TableQuery.Row

/-- The entry has the name and the decoded value of the column. -/
def Decodes (column : String × Cell) (entry : String × Json) : Prop :=
  entry.1 = column.1 ∧ column.2.toJson = .ok entry.2

/-- The entry of a column. -/
def decode (column : String × Cell) : Except CellFault (String × Json) :=
  column.2.toJson.map (Prod.mk column.1)

theorem decode_eq_ok {column : String × Cell} {entry : String × Json} :
    decode column = .ok entry ↔ Decodes column entry := by
  rw [decode, Except.map_eq_ok]
  constructor
  · intro hdecode
    obtain ⟨value, hvalue, rfl⟩ := hdecode
    exact ⟨rfl, hvalue⟩
  · intro hentry
    exact ⟨entry.2, hentry.2, Prod.ext hentry.1.symm rfl⟩

theorem exists_decode_iff {column : String × Cell} :
    (∃ entry, decode column = .ok entry) ↔ ∃ value, column.2.toJson = .ok value := by
  simp only [decode, Except.map_eq_ok]
  constructor
  · intro hdecode
    obtain ⟨_, value, hvalue, -⟩ := hdecode
    exact ⟨value, hvalue⟩
  · intro hvalue
    obtain ⟨value, hvalue⟩ := hvalue
    exact ⟨_, value, hvalue, rfl⟩

theorem decode_eq_error {column : String × Cell} {fault : CellFault} :
    decode column = .error fault ↔ column.2.toJson = .error fault :=
  Except.map_eq_error

/-- A row is made of the entries of its columns, put one after the other. -/
theorem ofCells_eq_map_mapM (cells : List (String × Cell)) :
    ofCells cells =
      (cells.mapM decode).map (List.foldl (fun row entry => Keyed.put Prod.fst entry row) []) := by
  rw [← Except.foldlM_eq_map_mapM, ofCells]
  congr 1
  funext row column
  obtain ⟨name, cell⟩ := column
  rw [decode]
  dsimp only
  cases cell.toJson <;> rfl

theorem names_of_decodes {cells : List (String × Cell)} {entries : List (String × Json)}
    (hentries : List.Forall₂ Decodes cells entries) :
    entries.map Prod.fst = cells.map Prod.fst := by
  induction hentries with
  | nil => rfl
  | cons hfirst hrest ih => rw [List.map_cons, List.map_cons, hfirst.1, ih]

/-- A row decodes if the value of each of its columns does.  It then has every name once, where the
name comes up first, with the value of the last column of that name; and it has every column, in
order, exactly when no two of them share a name.  Otherwise it fails as the first column does whose
value has no JSON form. -/
theorem ofCells_keepsLast (cells : List (String × Cell)) :
    (∀ entries, List.Forall₂ Decodes cells entries →
      ∃ row, ofCells cells = .ok row ∧ Keyed.KeepsLast Prod.fst entries row ∧
        (row = entries ↔ (cells.map Prod.fst).Nodup)) ∧
    ∀ fault, ofCells cells = .error fault ↔ ∃ before column after,
      cells = before ++ column :: after ∧
      (∀ earlier ∈ before, ∃ value, earlier.2.toJson = .ok value) ∧
      column.2.toJson = .error fault := by
  constructor
  · intro entries hentries
    have hdecoded : cells.mapM decode = .ok entries :=
      Except.mapM_eq_ok.2 (hentries.imp fun _ _ => decode_eq_ok.2)
    have hkept := Keyed.keepsLast_foldl Prod.fst entries
    refine ⟨_, ?_, hkept, ?_⟩
    · rw [ofCells_eq_map_mapM, hdecoded]
      rfl
    · rw [hkept.eq_iff, names_of_decodes hentries]
  · intro fault
    rw [ofCells_eq_map_mapM, Except.map_eq_error, Except.mapM_eq_error]
    simp only [exists_decode_iff, decode_eq_error]

/-- Two columns that are both called `id`. -/
def twoIds : List (String × Cell) :=
  [("id", .integer 3), ("id", .integer 7)]

/-- Of two columns of one name only the later one is left. -/
theorem ofCells_twoIds :
    ofCells twoIds = .ok [("id", .whole (.ofInt64 7))] ∧
      ¬∃ row, ofCells twoIds = .ok row ∧ List.Forall₂ Decodes twoIds row := by
  have hrow : ofCells twoIds = .ok [("id", .whole (.ofInt64 7))] := rfl
  refine ⟨hrow, ?_⟩
  intro hkept
  obtain ⟨row, hother, hentries⟩ := hkept
  rw [hrow] at hother
  cases hother
  exact absurd hentries.length_eq (by decide)

/-- A result with a name that comes up again between others. -/
def shipCells : List (String × Cell) :=
  [("id", .integer 3), ("name", .null), ("id", .integer 7), ("crew", .blob [1, 2])]

theorem ofCells_keepsLast_shipCells : ∃ entries row,
    List.Forall₂ Decodes shipCells entries ∧ ofCells shipCells = .ok row ∧
      Keyed.KeepsLast Prod.fst entries row ∧ row ≠ entries := by
  have hentries : List.Forall₂ Decodes shipCells
      [("id", .whole (.ofInt64 3)), ("name", .null), ("id", .whole (.ofInt64 7)),
        ("crew", .arr [.whole (.ofUInt64 1), .whole (.ofUInt64 2)])] :=
    .cons ⟨rfl, rfl⟩ (.cons ⟨rfl, rfl⟩ (.cons ⟨rfl, rfl⟩ (.cons ⟨rfl, rfl⟩ .nil)))
  obtain ⟨row, hrow, hkept, hall⟩ := (ofCells_keepsLast shipCells).1 _ hentries
  exact ⟨_, row, hentries, hrow, hkept, fun hsame => absurd (hall.1 hsame) (by decide)⟩

end TableQuery.Row
