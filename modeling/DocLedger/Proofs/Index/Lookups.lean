import DocLedger.Proofs.Index.Rows

/-!
# Lookups in the index

A lookup takes two steps: the registry names the table of the collection, and that table
has the row of the document.  Each step looks for the first row with a text in a column,
and what a lookup comes to follows from the two rows that it finds.
-/

namespace DocLedger.Index

/-! ## One step -/

/-- The first row of a table with a text in a column, and the table. -/
def Database.row? (db : Database) (name key s : String) : Option (Table × List Value) :=
  (db.table? name).bind fun t => (t.rowsWith key (.text s)).head?.map fun row => (t, row)

/-- A table is there, but not with all of some columns. -/
def Database.Lacks (db : Database) (name : String) (columns : List String) : Prop :=
  ∃ t, db.table? name = some t ∧ ∃ column ∈ columns, ¬ t.Has column

/-- A table that is there is the one that may lack a column. -/
theorem Database.lacks_iff_of_table? {db : Database} {name : String} {columns : List String}
    {t : Table} (h : db.table? name = some t) :
    db.Lacks name columns ↔ ∃ column ∈ columns, ¬ t.Has column := by
  constructor
  · rintro ⟨other, hother, hmissing⟩
    rw [h] at hother
    cases hother
    exact hmissing
  · intro hmissing
    exact ⟨t, h, hmissing⟩

theorem Database.row?_eq_some_iff {db : Database} {name key s : String} {t : Table}
    {row : List Value} :
    db.row? name key s = some (t, row) ↔
      db.table? name = some t ∧ (t.rowsWith key (.text s)).head? = some row := by
  unfold Database.row?
  cases db.table? name with
  | none => simp
  | some other =>
      simp only [Option.bind_some, Option.map_eq_some_iff, Prod.mk.injEq, Option.some.injEq]
      constructor
      · rintro ⟨found, hfound, rfl, rfl⟩
        exact ⟨rfl, hfound⟩
      · rintro ⟨rfl, hfound⟩
        exact ⟨row, hfound, rfl, rfl⟩

/-- The row that a step finds is a row of the table and has the text. -/
theorem Database.mem_of_row? {db : Database} {name key s : String} {t : Table}
    {row : List Value} (h : db.row? name key s = some (t, row)) :
    row ∈ t.rows ∧ t.cell row key = .text s :=
  Table.mem_rowsWith_text.mp (List.mem_of_head? (Database.row?_eq_some_iff.mp h).2)

theorem Database.row?_eq_none_iff {db : Database} {name key s : String} :
    db.row? name key s = none ↔
      ∀ t, db.table? name = some t → ∀ row ∈ t.rows, t.cell row key ≠ .text s := by
  unfold Database.row?
  cases db.table? name with
  | none => simp
  | some t =>
      have hempty : t.rowsWith key (.text s) = [] ↔ ∀ row ∈ t.rows, t.cell row key ≠ .text s := by
        rw [List.eq_nil_iff_forall_not_mem]
        simp only [Table.mem_rowsWith_text, not_and, ne_eq]
      simp [hempty]

theorem Database.lacks_cons_iff {db : Database} {name key : String} {columns : List String}
    (hkey : key ∈ columns) : db.Lacks name (key :: columns) ↔ db.Lacks name columns := by
  have hmem (column : String) : column ∈ key :: columns ↔ column ∈ columns := by
    rw [List.mem_cons, or_iff_right_iff_imp]
    rintro rfl
    exact hkey
  simp only [Database.Lacks, hmem]

namespace Reader

section

variable {statement name key : String} {db : Database} {columns : List String}

theorem fetch_of_nul (hnul : hasNul statement = true) (path : String)
    (image : Image) (q : Query) :
    (fetch ⟨path, image, false⟩ statement q).1 =
      .error (.fault (.database QueryFault.nulCharacter.message)) := by
  simp [fetch, hnul]

/-- A table without a column that is asked for is an error of the library. -/
theorem fetch_of_lacks (path s : String) (hnul : hasNul statement = false)
    (hlacks : db.Lacks name (key :: columns)) :
    ∃ e, (fetch ⟨path, .database db, false⟩ statement
      ⟨some columns, name, some ⟨key, .text s⟩, none⟩).1 = .error (.ledger e) := by
  obtain ⟨t, htable, hmissing⟩ := hlacks
  obtain ⟨column, hselect⟩ := select_of_not_has (v := .text s) htable hmissing
  exact ⟨_, by simp only [fetch, hnul, Image.select, hselect, Bool.false_eq_true, if_false]; rfl⟩

/-- Otherwise the first row of the result shows the row that the step finds. -/
theorem fetch_of_not_lacks (path s : String) (hnul : hasNul statement = false)
    (hlacks : ¬ db.Lacks name (key :: columns)) :
    ∃ rows, (fetch ⟨path, .database db, false⟩ statement
        ⟨some columns, name, some ⟨key, .text s⟩, none⟩).1 = .ok rows ∧
      rows.head? = (db.row? name key s).map fun found => found.1.shown columns found.2 := by
  cases htable : db.table? name with
  | none =>
      refine ⟨[], ?_, ?_⟩
      · simp only [fetch, hnul, Image.select, select_of_noTable htable, Bool.false_eq_true,
          if_false]
      · simp [Database.row?, htable]
  | some t =>
      have hcolumns : ∀ column ∈ key :: columns, t.Has column := by
        intro column hmem
        apply Classical.byContradiction
        intro hnone
        exact hlacks ⟨t, htable, column, hmem, hnone⟩
      obtain ⟨hkey, hrest⟩ := List.forall_mem_cons.mp hcolumns
      refine ⟨(t.rowsWith key (.text s)).map (t.shown columns), ?_, ?_⟩
      · simp only [fetch, hnul, Image.select, select_of_has htable hkey hrest,
          Bool.false_eq_true, if_false]
      · cases hrows : t.rowsWith key (.text s) <;> simp [Database.row?, htable, hrows]

end

/-! ## The registry -/

end Reader

/-- The cell of the registry that names the table of a collection; null if there is
none. -/
def Database.tableCell (db : Database) (collection : String) : Value :=
  match db.row? registryTable "collection" collection with
  | some (t, row) => t.cell row "table_name"
  | none => .null

def registryColumns : List String := ["collection", "table_name"]

def registryQuery (collection : String) : Query :=
  ⟨some ["table_name"], registryTable, some ⟨"collection", .text collection⟩, none⟩

theorem hasNul_registryQuery (collection : String) :
    hasNul (registryQuery collection).text = false := by
  show hasNul (Query.mk (some ["table_name"]) registryTable (some ⟨"collection", .null⟩) none).text
    = false
  decide

namespace Reader

variable {path : String} {db : Database} {collection docId : String}

theorem tableFor_fst (r : Reader) (collection : String) :
    (r.tableFor (.text collection)).1 =
      (r.fetch (registryQuery collection).text (registryQuery collection)).1.map fun rows =>
        match rows with
        | [] => .null
        | row :: _ => Row.cell row "table_name" := by
  unfold tableFor
  rfl

theorem tableFor_of_lacks (path collection : String) (h : db.Lacks registryTable registryColumns) :
    ∃ e, (tableFor ⟨path, .database db, false⟩ (.text collection)).1 = .error (.ledger e) := by
  obtain ⟨e, he⟩ := fetch_of_lacks path collection (hasNul_registryQuery collection) h
  refine ⟨e, ?_⟩
  rw [tableFor_fst]
  have hquery : (fetch ⟨path, .database db, false⟩ (registryQuery collection).text
      (registryQuery collection)).1 = .error (.ledger e) := he
  rw [hquery]
  rfl

theorem tableFor_of_not_lacks (h : ¬ db.Lacks registryTable registryColumns) :
    (tableFor ⟨path, .database db, false⟩ (.text collection)).1 = .ok (db.tableCell collection) := by
  obtain ⟨rows, hrows, hhead⟩ := fetch_of_not_lacks path collection
    (hasNul_registryQuery collection) h
  have hquery : (fetch ⟨path, .database db, false⟩ (registryQuery collection).text
      (registryQuery collection)).1 = .ok rows := hrows
  rw [tableFor_fst, hquery, Except.map, Database.tableCell]
  cases hfound : db.row? registryTable "collection" collection with
  | none =>
      rw [hfound, Option.map_none, List.head?_eq_none_iff] at hhead
      rw [hhead]
  | some found =>
      rw [hfound, Option.map_some] at hhead
      cases rows with
      | nil => cases hhead
      | cons row rest =>
          rw [List.head?_cons, Option.some.injEq] at hhead
          rw [hhead]
          exact congrArg Except.ok (Table.cell_shown (List.mem_singleton_self _)
            (List.pairwise_singleton _ _))

end Reader

/-! ## The table of a collection -/

def documentQuery (name docId : String) : Query :=
  ⟨some Reader.documentColumns, name, some ⟨"doc_id", .text docId⟩, none⟩

/-- Its text, with the name between quotes. -/
def documentStatement (name docId : String) : String :=
  { documentQuery name docId with table := quoteIdentifier name }.text

/-- What stands before the name in the text. -/
def documentFront : String := "SELECT " ++ Text.joined ", " Reader.documentColumns ++ " FROM "

/-- What stands behind the name in the text. -/
def documentBack : String := " WHERE " ++ "doc_id" ++ " = ?" ++ ""

theorem documentStatement_eq (name docId : String) :
    documentStatement name docId = documentFront ++ quoteIdentifier name ++ documentBack := by
  rw [documentBack, ← String.append_assoc]
  rfl

theorem mem_doubledMarks {c : Char} (hc : c ≠ identifierMark) {cs : List Char} :
    c ∈ doubledMarks cs ↔ c ∈ cs := by
  induction cs with
  | nil => rfl
  | cons d rest ih =>
      by_cases hd : d = identifierMark
      · subst hd
        simp [doubledMarks, ih, hc]
      · simp [doubledMarks, hd, ih]

/-- A statement has a NUL character just if the name of the table does. -/
theorem hasNul_documentStatement (name docId : String) :
    hasNul (documentStatement name docId) = hasNul name := by
  have hquoted : Char.ofNat 0 ∈ (quoteIdentifier name).toList ↔ Char.ofNat 0 ∈ name.toList := by
    have hmark : Char.ofNat 0 ≠ identifierMark := by decide
    simp [quoteIdentifier, mem_doubledMarks hmark, hmark]
  have hfront : Char.ofNat 0 ∉ documentFront.toList := by decide
  have hback : Char.ofNat 0 ∉ documentBack.toList := by decide
  rw [Bool.eq_iff_iff]
  simp only [hasNul, List.contains_iff_mem, documentStatement_eq, String.toList_append,
    List.mem_append, hfront, hback, hquoted, false_or, or_false]

namespace Reader

variable {path name collection docId : String} {db : Database} {t : Table} {row : List Value}

theorem lacks_documentColumns_iff :
    db.Lacks name ("doc_id" :: documentColumns) ↔ db.Lacks name documentColumns :=
  Database.lacks_cons_iff (by decide)

theorem get_fst (r : Reader) (collection docId : String) :
    (r.get (.text collection) (.text docId)).1 =
      match (r.tableFor (.text collection)).1 with
      | .error failure => .error failure
      | .ok table =>
        if table.isNull then .error (.ledger (.documentNotFound (.text collection) (.text docId)))
        else
          match quotedTable table with
          | .error fault => .error (.fault fault)
          | .ok quoted =>
            let q := documentQuery table.plain docId
            match (r.fetch { q with table := quoted }.text q).1 with
            | .error failure => .error failure
            | .ok [] => .error (.ledger (.documentNotFound (.text collection) (.text docId)))
            | .ok (row :: _) => documentOf row := by
  unfold get
  rcases r.tableFor (.text collection) with ⟨found, log⟩
  cases found with
  | error failure => rfl
  | ok table =>
      dsimp only
      split
      · rfl
      · cases quotedTable table with
        | error fault => rfl
        | ok quoted =>
            dsimp only
            simp only [documentQuery, stored]
            generalize r.fetch _ _ = found
            rcases found with ⟨failure | _ | _, more⟩ <;> rfl

/-- What a lookup comes to that finds no row. -/
def notFound (collection docId : String) : Except Failure Value :=
  .error (.ledger (.documentNotFound (.text collection) (.text docId)))

section

variable (hregistry : ¬ db.Lacks registryTable registryColumns)

include hregistry

theorem get_of_null (h : db.tableCell collection = .null) :
    (get ⟨path, .database db, false⟩ (.text collection) (.text docId)).1 =
      notFound collection docId := by
  rw [get_fst, tableFor_of_not_lacks hregistry, h]
  rfl

/-- A cell of the registry that is neither null nor a text names no table. -/
theorem get_of_notText (hnull : db.tableCell collection ≠ .null)
    (htext : ∀ s, db.tableCell collection ≠ .text s) :
    ∃ fault, (get ⟨path, .database db, false⟩ (.text collection) (.text docId)).1 =
      .error (.fault fault) := by
  rw [get_fst, tableFor_of_not_lacks hregistry]
  revert hnull htext
  generalize db.tableCell collection = cell
  intro hnull htext
  cases cell with
  | null => exact absurd rfl hnull
  | text s => exact absurd rfl (htext s)
  | _ => exact ⟨_, rfl⟩

variable (hname : db.tableCell collection = .text name)

include hname

theorem get_of_name (docId : String) :
    (get ⟨path, .database db, false⟩ (.text collection) (.text docId)).1 =
      match (fetch ⟨path, .database db, false⟩ (documentStatement name docId)
        (documentQuery name docId)).1 with
      | .error failure => .error failure
      | .ok [] => notFound collection docId
      | .ok (row :: _) => documentOf row := by
  have hnull : (Value.text name).isNull = false := rfl
  have hquoted : quotedTable (.text name) = .ok (quoteIdentifier name) := rfl
  have hplain : (Value.text name).plain = name := rfl
  rw [get_fst, tableFor_of_not_lacks hregistry, hname]
  simp only [hnull, hquoted, hplain, Bool.false_eq_true, if_false, documentStatement]
  generalize (fetch _ _ _).1 = found
  rcases found with _ | _ | _ <;> rfl

theorem get_of_nul (hnul : hasNul name = true) :
    ∃ fault, (get ⟨path, .database db, false⟩ (.text collection) (.text docId)).1 =
      .error (.fault fault) := by
  rw [← hasNul_documentStatement name docId] at hnul
  rw [get_of_name hregistry hname, fetch_of_nul hnul]
  exact ⟨_, rfl⟩

variable (hnul : hasNul name = false)

include hnul

theorem get_of_lacks (path docId : String) (hlacks : db.Lacks name documentColumns) :
    ∃ e, (get ⟨path, .database db, false⟩ (.text collection) (.text docId)).1 =
      .error (.ledger e) := by
  rw [← hasNul_documentStatement name docId] at hnul
  rw [← lacks_documentColumns_iff] at hlacks
  obtain ⟨e, he⟩ := fetch_of_lacks path docId hnul hlacks
  refine ⟨e, ?_⟩
  rw [get_of_name hregistry hname, documentQuery, he]

theorem get_of_not_lacks (hlacks : ¬ db.Lacks name documentColumns) :
    (get ⟨path, .database db, false⟩ (.text collection) (.text docId)).1 =
      match db.row? name "doc_id" docId with
      | none => notFound collection docId
      | some (t, row) => documentOf (t.shown documentColumns row) := by
  rw [← hasNul_documentStatement name docId] at hnul
  rw [← lacks_documentColumns_iff] at hlacks
  obtain ⟨rows, hrows, hhead⟩ := fetch_of_not_lacks path docId hnul hlacks
  rw [get_of_name hregistry hname, documentQuery, hrows]
  cases hfound : db.row? name "doc_id" docId with
  | none =>
      rw [hfound, Option.map_none, List.head?_eq_none_iff] at hhead
      rw [hhead]
  | some found =>
      rw [hfound, Option.map_some] at hhead
      cases rows with
      | nil => cases hhead
      | cons row rest =>
          rw [List.head?_cons, Option.some.injEq] at hhead
          rw [hhead]

end

end Reader

/-! ## The document of a row -/

section

variable {t : Table} {row : List Value} {payload : Value}

/-- The entries of the document of a row, with what its payload has been read as. -/
def Table.entries (t : Table) (row : List Value) (payload : Value) : List (Value × Value) := [
  (.text "doc_id", t.cell row "doc_id"),
  (.text "payload", payload),
  (.text "tx_hash", t.cell row "tx_hash"),
  (.text "tx_id", t.cell row "tx_id"),
  (.text "op", t.cell row "op"),
  (.text "schema_version", t.cell row "schema_version"),
  (.text "updated_at", t.cell row "updated_at"),
  (.text "deleted", .bool (t.cell row "deleted").truthy)]

theorem cell_shown_document (t : Table) (row : List Value) {column : String}
    (hcolumn : column ∈ Reader.documentColumns) :
    Row.cell (t.shown Reader.documentColumns row) column = t.cell row column :=
  Table.cell_shown hcolumn (by decide)

theorem documentOf_of_error {fault : Fault}
    (h : Reader.decodePayload (t.cell row "payload") = .error fault) :
    Reader.documentOf (t.shown Reader.documentColumns row) = .error (.fault fault) := by
  rw [Reader.documentOf, cell_shown_document t row (by decide), h]
  rfl

theorem documentOf_of_ok (h : Reader.decodePayload (t.cell row "payload") = .ok payload) :
    Reader.documentOf (t.shown Reader.documentColumns row) =
      match Report.read .indexedDoc (.mapping (t.entries row payload)) with
      | .ok doc => .ok doc
      | .error problems => .error (.fault (.misshapen
          (Report.Model.indexedDoc.name ++ ": " ++ Report.summary problems))) := by
  have hentries : (Reader.documentColumns.map fun column =>
      let v := Row.cell (t.shown Reader.documentColumns row) column
      ((Value.text column : Value),
        if column == "payload" then payload
        else if column == "deleted" then .bool v.truthy
        else v)) = t.entries row payload := by
    have hcell : ∀ column ∈ Reader.documentColumns,
        Row.cell (t.shown Reader.documentColumns row) column = t.cell row column := by
      intro column hcolumn
      exact cell_shown_document t row hcolumn
    simp only [Reader.documentColumns, List.forall_mem_cons] at hcell
    simp [Reader.documentColumns, Table.entries, hcell]
  rw [Reader.documentOf, cell_shown_document t row (by decide), h, ← hentries]
  show (match Report.read .indexedDoc _ with | .ok doc => _ | .error problems => _) = _
  cases Report.read .indexedDoc _ <;> rfl

end

end DocLedger.Index
