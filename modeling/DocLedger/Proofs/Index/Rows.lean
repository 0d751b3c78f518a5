import DocLedger.Index.Reader

/-!
# Rows of a table

A query of some columns under a condition on one column gives the rows that meet the
condition, in the order of the table, and of each the cells in these columns.  It fails
just where there is no such table, or the table lacks one of the columns.
-/

namespace DocLedger.Index

/-! ## Names -/

theorem sameName_iff {a b : String} : sameName a b = true ↔ foldedName a = foldedName b := by
  simp [sameName]

theorem sameName_refl (a : String) : sameName a a = true := by
  simp [sameName]

theorem Database.sameName_of_table? {db : Database} {name : String} {t : Table}
    (h : db.table? name = some t) : sameName t.name name = true := by
  have hfound := List.find?_some h
  exact hfound

theorem cellEq_text_iff {cell : Value} {s : String} :
    cellEq cell (.text s) = true ↔ cell = .text s := by
  unfold cellEq
  cases cell <;> simp [cellRank]

/-! ## Cells -/

namespace Table

variable {t : Table} {column : String} {columns : List String} {v : Value} {row : List Value}

def Has (t : Table) (column : String) : Prop := ∃ place, t.column? column = some place

instance (t : Table) (column : String) : Decidable (t.Has column) :=
  decidable_of_iff ((t.column? column).isSome = true) Option.isSome_iff_exists

/-- The cell of a row in a column; null if there is no such column. -/
def cell (t : Table) (row : List Value) (column : String) : Value :=
  match t.column? column with
  | some place => cellAt row place
  | none => .null

/-- The rows whose cell in a column equals a value. -/
def rowsWith (t : Table) (column : String) (v : Value) : List (List Value) :=
  t.rows.filter fun row => cellEq (t.cell row column) v

/-- The name of a column as the table spells it. -/
def spelled (t : Table) (column : String) : String :=
  match t.column? column with
  | some place => t.columns[place]?.getD column
  | none => column

/-- The cells of a row in some columns. -/
def shown (t : Table) (columns : List String) (row : List Value) : Row :=
  columns.map fun column => (t.spelled column, t.cell row column)

theorem mem_rowsWith_text {s : String} :
    row ∈ t.rowsWith column (.text s) ↔ row ∈ t.rows ∧ t.cell row column = .text s := by
  rw [rowsWith, List.mem_filter, cellEq_text_iff]

theorem sameName_spelled (t : Table) (column : String) :
    sameName (t.spelled column) column = true := by
  unfold spelled
  cases hplace : t.column? column with
  | none => exact sameName_refl column
  | some place =>
      obtain ⟨hlt, hsame, -⟩ := List.findIdx?_eq_some_iff_getElem.mp hplace
      simpa [List.getElem?_eq_getElem hlt] using hsame

/-- What a row shows under the name of a column is its cell there. -/
theorem cell_shown (hcolumn : column ∈ columns)
    (hdistinct : columns.Pairwise fun a b => sameName a b = false) :
    Row.cell (t.shown columns row) column = t.cell row column := by
  induction columns with
  | nil => cases hcolumn
  | cons first rest ih =>
      obtain ⟨hfirst, hrest⟩ := List.pairwise_cons.mp hdistinct
      by_cases heq : first = column
      · subst heq
        simp [Row.cell, shown, t.sameName_spelled first]
      · have hmem : column ∈ rest := by
          rcases List.mem_cons.mp hcolumn with rfl | hmem
          · exact absurd rfl heq
          · exact hmem
        have hother : sameName (t.spelled first) column = false := by
          rw [← hfirst column hmem, Bool.eq_iff_iff, sameName_iff, sameName_iff,
            sameName_iff.mp (t.sameName_spelled first)]
        have hlater := ih hmem hrest
        simpa [Row.cell, shown, hother] using hlater

theorem place_of_has (h : t.Has column) : ∃ place, t.place column = .ok place ∧
    t.column? column = some place := by
  obtain ⟨place, hplace⟩ := h
  exact ⟨place, by rw [Table.place, hplace], hplace⟩

theorem place_of_not_has (h : ¬ t.Has column) : t.place column = .error (.noColumn column) := by
  rw [Table.place]
  cases hplace : t.column? column with
  | none => rfl
  | some place => exact absurd ⟨place, hplace⟩ h

end Table

/-! ## Queries -/

section

variable {db : Database} {t : Table} {name key : String} {columns : List String} {v : Value}

theorem select_of_noTable (h : db.table? name = none) (condition : Option Condition) :
    db.select ⟨some columns, name, condition, none⟩ = .error (.noTable name) := by
  rw [Database.select]
  simp only [h]
  rfl

theorem mapM_place (hcolumns : ∀ column ∈ columns, t.Has column) :
    ∃ places : List (String × Nat),
      (columns.mapM fun column => do
        let place ← t.place column
        return (t.columns[place]?.getD column, place)) = Except.ok (ε := QueryFault) places ∧
      ∀ row, (places.map fun (name, place) => (name, cellAt row place)) = t.shown columns row := by
  induction columns with
  | nil => exact ⟨[], rfl, fun row => rfl⟩
  | cons first rest ih =>
      obtain ⟨hfirst, hrest⟩ := List.forall_mem_cons.mp hcolumns
      obtain ⟨place, hplace, hcolumn⟩ := Table.place_of_has hfirst
      obtain ⟨places, hplaces, hshown⟩ := ih hrest
      refine ⟨(t.columns[place]?.getD first, place) :: places, ?_, ?_⟩
      · rw [List.mapM_cons, hplaces, hplace]
        rfl
      · intro row
        rw [List.map_cons, hshown row]
        simp [Table.shown, Table.spelled, Table.cell, hcolumn]

theorem mapM_place_error {column : String} (hmem : column ∈ columns) (hnone : ¬ t.Has column) :
    ∃ missing, (columns.mapM fun column => do
        let place ← t.place column
        return (t.columns[place]?.getD column, place)) =
      Except.error (QueryFault.noColumn missing) := by
  induction columns with
  | nil => cases hmem
  | cons first rest ih =>
      rw [List.mapM_cons]
      by_cases hfirst : t.Has first
      · obtain ⟨place, hplace, -⟩ := Table.place_of_has hfirst
        have hlater : column ∈ rest := by
          rcases List.mem_cons.mp hmem with rfl | hlater
          · exact absurd hfirst hnone
          · exact hlater
        obtain ⟨missing, hmissing⟩ := ih hlater
        refine ⟨missing, ?_⟩
        rw [hplace, hmissing]
        rfl
      · refine ⟨first, ?_⟩
        rw [Table.place_of_not_has hfirst]
        rfl

theorem select_of_has (htable : db.table? name = some t) (hkey : t.Has key)
    (hcolumns : ∀ column ∈ columns, t.Has column) :
    db.select ⟨some columns, name, some ⟨key, v⟩, none⟩ =
      .ok ((t.rowsWith key v).map (t.shown columns)) := by
  obtain ⟨places, hplaces, hshown⟩ := mapM_place hcolumns
  obtain ⟨place, hplace, hcolumn⟩ := Table.place_of_has hkey
  have hcell : (fun row => cellEq (cellAt row place) v) = fun row => cellEq (t.cell row key) v := by
    funext row
    simp only [Table.cell, hcolumn]
  unfold Database.select
  simp only [htable, Option.getD_some, pure_bind]
  rw [hplaces, hplace]
  simp only [bind, Except.bind, pure, Except.pure, hcell, hshown]
  rfl

/-- Nothing else of the table can be missing. -/
theorem select_of_not_has (htable : db.table? name = some t)
    (hmissing : ∃ column ∈ key :: columns, ¬ t.Has column) :
    ∃ column, db.select ⟨some columns, name, some ⟨key, v⟩, none⟩ = .error (.noColumn column) := by
  by_cases hcolumns : ∀ column ∈ columns, t.Has column
  · obtain ⟨places, hplaces, -⟩ := mapM_place hcolumns
    have hkey : ¬ t.Has key := by
      obtain ⟨column, hmem, hnone⟩ := hmissing
      rcases List.mem_cons.mp hmem with rfl | hmem
      · exact hnone
      · exact absurd (hcolumns column hmem) hnone
    refine ⟨key, ?_⟩
    unfold Database.select
    simp only [htable, Option.getD_some, pure_bind]
    rw [hplaces, Table.place_of_not_has hkey]
    rfl
  · rw [Classical.not_forall] at hcolumns
    obtain ⟨column, hcolumn⟩ := hcolumns
    obtain ⟨hmem, hnone⟩ := Classical.not_imp.mp hcolumn
    obtain ⟨missing, hplaces⟩ := mapM_place_error hmem hnone
    refine ⟨missing, ?_⟩
    unfold Database.select
    simp only [htable, Option.getD_some, pure_bind]
    rw [hplaces]
    rfl

end

end DocLedger.Index
