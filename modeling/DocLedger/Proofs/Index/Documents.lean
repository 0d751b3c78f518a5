import DocLedger.Proofs.Index.Faults
import DocLedger.Proofs.Index.Statements

/-!
# The documents of an index

The engine lays the index out so that the registry names one table for each collection,
with no two names that are the same, and each of these tables has at most one row for a
document.  From such an index a lookup gives the document of the row in the table of the
collection.  It says that the document is not found just where there is no such row.

A payload with an integer that has too many digits is JSON, but it is not read.
-/

namespace DocLedger.Index

/-! ## The layout of the engine -/

/-- The registry names a table for a collection. -/
def Database.Registers (db : Database) (collection name : String) : Prop :=
  ∃ t row, db.table? registryTable = some t ∧ row ∈ t.rows ∧
    t.cell row "collection" = .text collection ∧ t.cell row "table_name" = .text name

/-- What a row keeps of a document.  The payload is as it is stored. -/
structure Entry where
  docId : String
  payload : Value
  txHash : String
  txId : String
  op : String
  schemaVersion : Option String
  updatedAt : Int
  deleted : Int

def optionalCell : Option String → Value
  | some s => .text s
  | none => .null

/-- The document of an entry, with what its payload is read as. -/
def Entry.document (e : Entry) (payload : Value) : Value := .mapping [
  (.text "doc_id", .text e.docId),
  (.text "payload", payload),
  (.text "tx_hash", .text e.txHash),
  (.text "tx_id", .text e.txId),
  (.text "op", .text e.op),
  (.text "schema_version", optionalCell e.schemaVersion),
  (.text "updated_at", .int e.updatedAt),
  (.text "deleted", .bool (e.deleted != 0))]

/-- A row of a table keeps an entry. -/
structure Table.Keeps (t : Table) (row : List Value) (e : Entry) : Prop where
  mem : row ∈ t.rows
  docId : t.cell row "doc_id" = .text e.docId
  payload : t.cell row "payload" = e.payload
  txHash : t.cell row "tx_hash" = .text e.txHash
  txId : t.cell row "tx_id" = .text e.txId
  op : t.cell row "op" = .text e.op
  schemaVersion : t.cell row "schema_version" = optionalCell e.schemaVersion
  updatedAt : t.cell row "updated_at" = .int e.updatedAt
  deleted : t.cell row "deleted" = .int e.deleted

/-- What a stored payload is read as. -/
inductive Entry.Reads (e : Entry) : Value → Prop
  | null (hnull : e.payload = .null) : Reads e .null
  | text {s : String} {v : Value} (hspells : Spells e.payload s)
      (hread : Json.readDocument s.toList = .ok v) : Reads e v

/-- A stored payload with an integer that has too many digits. -/
def Entry.Overlong (e : Entry) (count : Nat) : Prop :=
  ∃ s, Spells e.payload s ∧ Json.readDocument s.toList = .error (.tooManyDigits count)

/-- A payload as the engine stores it: null, or JSON in a text that it spells. -/
def Entry.Stored (e : Entry) : Prop :=
  e.payload = .null ∨ ∃ s, Spells e.payload s ∧
    ∀ complaint left, Json.readDocument s.toList ≠ .error (.malformed complaint left)

/-- A table of documents.  A row without an identifier is of no document. -/
structure Table.Documents (t : Table) : Prop where
  columns : ∀ column ∈ Reader.documentColumns, t.Has column
  rows : ∀ row ∈ t.rows, ∀ docId, t.cell row "doc_id" = .text docId →
    ∃ e, t.Keeps row e ∧ e.Stored
  once : ∀ docId, (t.rowsWith "doc_id" (.text docId)).length ≤ 1

/-- The layout that the engine gives an index. -/
structure Database.Layout (db : Database) : Prop where
  columns : ∀ t, db.table? registryTable = some t → ∀ column ∈ registryColumns, t.Has column
  named : ∀ t, db.table? registryTable = some t → ∀ row ∈ t.rows, ∀ collection,
    t.cell row "collection" = .text collection → ∃ name, t.cell row "table_name" = .text name
  once : ∀ {collection name other}, db.Registers collection name →
    db.Registers collection other → name = other
  apart : ∀ {collection other name name'}, db.Registers collection name →
    db.Registers other name' → sameName name name' = true → collection = other
  noNul : ∀ {collection name}, db.Registers collection name → hasNul name = false
  documents : ∀ {collection name t}, db.Registers collection name → db.table? name = some t →
    t.Documents

/-! ## The registry -/

section

variable {db : Database} {collection name : String}

theorem Database.Layout.not_lacks_registry (h : db.Layout) :
    ¬ db.Lacks registryTable registryColumns := by
  rintro ⟨t, htable, column, hmem, hnone⟩
  exact hnone (h.columns t htable column hmem)

/-- The cell that names the table of a registered collection. -/
theorem Database.Layout.tableCell_of_registers (h : db.Layout)
    (hregistered : db.Registers collection name) : db.tableCell collection = .text name := by
  unfold Database.tableCell
  cases hfound : db.row? registryTable "collection" collection with
  | none =>
      obtain ⟨t, row, htable, hmem, hcollection, -⟩ := hregistered
      exact absurd hcollection (Database.row?_eq_none_iff.mp hfound t htable row hmem)
  | some found =>
      obtain ⟨t, row⟩ := found
      obtain ⟨htable, -⟩ := Database.row?_eq_some_iff.mp hfound
      obtain ⟨hmem, hcollection⟩ := Database.mem_of_row? hfound
      obtain ⟨other, hother⟩ := h.named t htable row hmem collection hcollection
      have hsame : name = other := h.once hregistered ⟨t, row, htable, hmem, hcollection, hother⟩
      rw [hsame]
      exact hother

theorem Database.Layout.tableCell_of_not_registers (h : db.Layout)
    (hnone : ∀ name, ¬ db.Registers collection name) : db.tableCell collection = .null := by
  unfold Database.tableCell
  cases hfound : db.row? registryTable "collection" collection with
  | none => rfl
  | some found =>
      obtain ⟨t, row⟩ := found
      obtain ⟨htable, -⟩ := Database.row?_eq_some_iff.mp hfound
      obtain ⟨hmem, hcollection⟩ := Database.mem_of_row? hfound
      obtain ⟨name, hname⟩ := h.named t htable row hmem collection hcollection
      exact absurd ⟨t, row, htable, hmem, hcollection, hname⟩ (hnone name)

theorem Database.Layout.not_lacks_documents (h : db.Layout)
    (hregistered : db.Registers collection name) :
    ¬ db.Lacks name Reader.documentColumns := by
  rintro ⟨t, htable, column, hmem, hnone⟩
  exact hnone ((h.documents hregistered htable).columns column hmem)

end

/-! ## Entries -/

section

variable {t : Table} {row : List Value} {e : Entry} {payload : Value} {docId : String}

theorem Table.Documents.head?_rowsWith (h : t.Documents) (hmem : row ∈ t.rows)
    (hrow : t.cell row "doc_id" = .text docId) :
    (t.rowsWith "doc_id" (.text docId)).head? = some row := by
  have hfound : row ∈ t.rowsWith "doc_id" (.text docId) := Table.mem_rowsWith_text.mpr ⟨hmem, hrow⟩
  have hlength := h.once docId
  generalize t.rowsWith "doc_id" (.text docId) = rows at hfound hlength
  match rows, hfound, hlength with
  | [only], hfound, _ =>
      rw [List.mem_singleton] at hfound
      rw [hfound]
      rfl

theorem Table.length_rowsWith_le
    (h : t.rows.Pairwise fun a b => t.cell a "doc_id" ≠ t.cell b "doc_id") (docId : String) :
    (t.rowsWith "doc_id" (.text docId)).length ≤ 1 := by
  have hsame : ∀ row ∈ t.rowsWith "doc_id" (.text docId), t.cell row "doc_id" = .text docId := by
    intro row hmem
    exact (Table.mem_rowsWith_text.mp hmem).2
  have hapart : (t.rowsWith "doc_id" (.text docId)).Pairwise
      fun a b => t.cell a "doc_id" ≠ t.cell b "doc_id" := h.filter _
  match hrows : t.rowsWith "doc_id" (.text docId) with
  | [] => exact Nat.zero_le 1
  | [_] => exact Nat.le_refl 1
  | a :: b :: rest =>
      rw [hrows] at hsame hapart
      have hne := (List.pairwise_cons.mp hapart).1 b List.mem_cons_self
      exact absurd ((hsame a List.mem_cons_self).trans
        (hsame b (List.mem_cons_of_mem _ List.mem_cons_self)).symm) hne

theorem Entry.decodePayload_of_reads (h : e.Reads payload) :
    Reader.decodePayload e.payload = .ok payload := by
  cases h with
  | null hnull =>
      rw [hnull]
      rfl
  | text hspells hread =>
      rw [decodePayload_of_spells hspells, hread]
      rfl

theorem Entry.decodePayload_of_overlong {count : Nat} (h : e.Overlong count) :
    Reader.decodePayload e.payload = .error (.tooManyDigitsRead count) := by
  obtain ⟨s, hspells, hread⟩ := h
  rw [decodePayload_of_spells hspells, hread]
  rfl

theorem Entry.Reads.stored (h : e.Reads payload) : e.Stored := by
  cases h with
  | null hnull => exact .inl hnull
  | text hspells hread =>
      refine .inr ⟨_, hspells, ?_⟩
      intro complaint left hmalformed
      rw [hread] at hmalformed
      cases hmalformed

/-- A stored payload is read, unless an integer in it has too many digits. -/
theorem Entry.Stored.cases (h : e.Stored) :
    (∃ payload, e.Reads payload) ∨ ∃ count, e.Overlong count := by
  rcases h with hnull | ⟨s, hspells, hjson⟩
  · exact .inl ⟨.null, .null hnull⟩
  · cases hread : Json.readDocument s.toList with
    | ok v => exact .inl ⟨v, .text hspells hread⟩
    | error fault =>
        cases fault with
        | malformed complaint left => exact absurd hread (hjson complaint left)
        | tooManyDigits count => exact .inr ⟨count, s, hspells, hread⟩

/-- The entries of a row are those of the document of its entry, which is in normal
form. -/
theorem Table.Keeps.read_entries (h : t.Keeps row e) (payload : Value) :
    Report.read .indexedDoc (.mapping (t.entries row payload)) = .ok (e.document payload) := by
  have htruth : (t.cell row "deleted").truthy = (e.deleted != 0) := by
    rw [h.deleted]
    rfl
  rw [Table.entries, h.docId, h.txHash, h.txId, h.op, h.schemaVersion, h.updatedAt, htruth]
  cases hversion : e.schemaVersion with
  | none =>
      rw [Entry.document, hversion]
      rfl
  | some version =>
      rw [Entry.document, hversion]
      rfl

theorem Table.Keeps.documentOf_of_reads (h : t.Keeps row e) (hreads : e.Reads payload) :
    Reader.documentOf (t.shown Reader.documentColumns row) = .ok (e.document payload) := by
  have hpayload : Reader.decodePayload (t.cell row "payload") = .ok payload := by
    rw [h.payload]
    exact Entry.decodePayload_of_reads hreads
  rw [documentOf_of_ok hpayload, h.read_entries payload]

theorem Table.Keeps.documentOf_of_overlong {count : Nat} (h : t.Keeps row e)
    (hoverlong : e.Overlong count) :
    Reader.documentOf (t.shown Reader.documentColumns row) =
      .error (.fault (.tooManyDigitsRead count)) := by
  apply documentOf_of_error
  rw [h.payload]
  exact Entry.decodePayload_of_overlong hoverlong

end

/-! ## Lookups -/

def Database.KeepsEntry (db : Database) (collection : String) (e : Entry) : Prop :=
  ∃ name t row, db.Registers collection name ∧ db.table? name = some t ∧ t.Keeps row e

/-- There is no row of a document: the registry is missing, or does not name a table for
the collection, or there is no table of that name, or none of its rows is the one. -/
inductive Database.NoRow (db : Database) (collection docId : String) : Prop
  | noRegistry (h : db.table? registryTable = none) : NoRow db collection docId
  | notRegistered (h : ∀ name, ¬ db.Registers collection name) : NoRow db collection docId
  | noTable {name : String} (hname : db.Registers collection name)
      (htable : db.table? name = none) : NoRow db collection docId
  | noRow {name : String} {t : Table} (hname : db.Registers collection name)
      (htable : db.table? name = some t)
      (hrows : ∀ row ∈ t.rows, t.cell row "doc_id" ≠ .text docId) : NoRow db collection docId

/-- What the statement of a lookup comes to when the database runs it. -/
def lookupOf (collection docId : String) (statement : String) :
    Except QueryFault (List Row) → Except Failure Value
  | .ok [] => Reader.notFound collection docId
  | .ok (row :: _) => Reader.documentOf row
  | .error (.noTable _) => Reader.notFound collection docId
  | .error fault => .error (queryFailed fault statement)

/-- A lookup answers with the one row of the document in the table of its collection. -/
structure Database.Answers (db : Database) (collection docId : String)
    (answer : Except Failure Value) : Prop where
  /-- The statement names the table between quotes, and the database runs it. -/
  statement : ∀ {name}, db.Registers collection name →
    answer = lookupOf collection docId (documentStatement name docId)
      (db.run (documentStatement name docId) [.text docId])
  document : ∀ {e payload}, db.KeepsEntry collection e → e.docId = docId → e.Reads payload →
    answer = .ok (e.document payload)
  overlong : ∀ {e count}, db.KeepsEntry collection e → e.docId = docId → e.Overlong count →
    answer = .error (.fault (.tooManyDigitsRead count))
  notFound : answer = Reader.notFound collection docId ↔ db.NoRow collection docId
  /-- A document comes from a table that is of no other collection. -/
  own : ∀ {doc}, answer = .ok doc → ∃ name t row e payload, db.Registers collection name ∧
    db.table? name = some t ∧ t.Keeps row e ∧ e.docId = docId ∧ e.Reads payload ∧
    doc = e.document payload ∧
    ∀ {other name'}, other ≠ collection → db.Registers other name' → sameName t.name name' = false

section

variable {db : Database} {path collection docId name : String} {t : Table} {row : List Value}

theorem plain_documentQuery (name docId : String) : (documentQuery name docId).Plain := by
  constructor
  · rintro names ⟨⟩
    decide
  · rintro c ⟨⟩
    show IsWord "doc_id"
    decide
  · nofun

/-- The lookup is what its statement comes to. -/
theorem Database.Layout.get_statement (h : db.Layout) (hname : db.Registers collection name) :
    (Reader.get ⟨path, .database db, false⟩ (.text collection) (.text docId)).1 =
      lookupOf collection docId (documentStatement name docId)
        (db.run (documentStatement name docId) [.text docId]) := by
  have hrun : db.run (documentStatement name docId) [.text docId] =
      db.select (documentQuery name docId) := db.run_text (plain_documentQuery name docId) rfl
  have hnul : hasNul (documentStatement name docId) = false := by
    rw [hasNul_documentStatement]
    exact h.noNul hname
  rw [Reader.get_of_name h.not_lacks_registry (h.tableCell_of_registers hname), hrun,
    Reader.fetch, hnul]
  simp only [Image.select, Bool.false_eq_true, if_false]
  cases hselect : db.select (documentQuery name docId) with
  | ok rows => cases rows <;> rfl
  | error fault =>
      have hoperational := operational_select db _ fault hselect
      cases fault with
      | notDatabase | malformed | nulCharacter => cases hoperational
      | _ => rfl

/-- The lookup in the table that the registry names. -/
theorem Database.Layout.get_of_registers (h : db.Layout) (hname : db.Registers collection name) :
    (Reader.get ⟨path, .database db, false⟩ (.text collection) (.text docId)).1 =
      match db.row? name "doc_id" docId with
      | none => Reader.notFound collection docId
      | some (t, row) => Reader.documentOf (t.shown Reader.documentColumns row) :=
  Reader.get_of_not_lacks h.not_lacks_registry (h.tableCell_of_registers hname) (h.noNul hname)
    (h.not_lacks_documents hname)

theorem Database.Layout.get_of_mem (h : db.Layout) (hname : db.Registers collection name)
    (htable : db.table? name = some t) (hmem : row ∈ t.rows)
    (hrow : t.cell row "doc_id" = .text docId) :
    (Reader.get ⟨path, .database db, false⟩ (.text collection) (.text docId)).1 =
      Reader.documentOf (t.shown Reader.documentColumns row) := by
  have hfound : db.row? name "doc_id" docId = some (t, row) :=
    Database.row?_eq_some_iff.mpr ⟨htable, (h.documents hname htable).head?_rowsWith hmem hrow⟩
  rw [h.get_of_registers hname, hfound]

theorem Database.Layout.get_of_noRow (h : db.Layout) (hnone : db.NoRow collection docId) :
    (Reader.get ⟨path, .database db, false⟩ (.text collection) (.text docId)).1 =
      Reader.notFound collection docId := by
  cases hnone with
  | noRegistry hregistry =>
      apply Reader.get_of_null h.not_lacks_registry
      apply h.tableCell_of_not_registers
      rintro name ⟨t, row, htable, -⟩
      rw [hregistry] at htable
      cases htable
  | notRegistered hnone =>
      exact Reader.get_of_null h.not_lacks_registry (h.tableCell_of_not_registers hnone)
  | noTable hname htable =>
      rw [h.get_of_registers hname, Database.row?, htable]
      rfl
  | noRow hname htable hrows =>
      have hfound := Database.row?_eq_none_iff.mpr fun t' htable' => by
        rw [htable] at htable'
        cases htable'
        exact hrows
      rw [h.get_of_registers hname, hfound]

theorem Database.Layout.cases (h : db.Layout) (collection docId : String) :
    db.NoRow collection docId ∨
    ∃ name t row e, db.Registers collection name ∧ db.table? name = some t ∧ t.Keeps row e ∧
      e.docId = docId ∧ e.Stored := by
  by_cases hregistered : ∃ name, db.Registers collection name
  · obtain ⟨name, hname⟩ := hregistered
    cases htable : db.table? name with
    | none => exact .inl (.noTable hname htable)
    | some t =>
        by_cases hrows : ∃ row ∈ t.rows, t.cell row "doc_id" = .text docId
        · obtain ⟨row, hmem, hrow⟩ := hrows
          obtain ⟨e, hkeeps, hstored⟩ := (h.documents hname htable).rows row hmem docId hrow
          have hid : Value.text e.docId = .text docId := hkeeps.docId.symm.trans hrow
          exact .inr ⟨name, t, row, e, hname, htable, hkeeps, Value.text.inj hid, hstored⟩
        · apply Or.inl
          apply Database.NoRow.noRow hname htable
          intro row hmem hrow
          exact hrows ⟨row, hmem, hrow⟩
  · exact .inl (.notRegistered fun name hname => hregistered ⟨name, hname⟩)

/-- The table of a collection is of no other collection. -/
theorem Database.Layout.own_table (h : db.Layout) (hname : db.Registers collection name)
    (htable : db.table? name = some t) {other name' : String} (hother : other ≠ collection)
    (hname' : db.Registers other name') : sameName t.name name' = false := by
  rw [← Bool.not_eq_true]
  intro hsame
  have hnames : sameName name name' = true := by
    rw [sameName_iff] at hsame ⊢
    rw [← hsame]
    exact (sameName_iff.mp (Database.sameName_of_table? htable)).symm
  exact hother (h.apart hname hname' hnames).symm

end

/-- From an index in the layout of the engine, whatever characters the names of its tables
have, a lookup answers with the one row of the document in the table of its collection, and
says that the document is not found just where there is none.  Only a payload with an
integer that has too many digits is not read. -/
theorem get_answers {db : Database} (h : db.Layout) (path collection docId : String) :
    db.Answers collection docId
      (Reader.get ⟨path, .database db, false⟩ (.text collection) (.text docId)).1 := by
  constructor
  · intro name hname
    exact h.get_statement hname
  · rintro e payload ⟨name, t, row, hname, htable, hkeeps⟩ rfl hreads
    rw [h.get_of_mem hname htable hkeeps.mem hkeeps.docId]
    exact hkeeps.documentOf_of_reads hreads
  · rintro e count ⟨name, t, row, hname, htable, hkeeps⟩ rfl hoverlong
    rw [h.get_of_mem hname htable hkeeps.mem hkeeps.docId]
    exact hkeeps.documentOf_of_overlong hoverlong
  · constructor
    · intro hanswer
      rcases h.cases collection docId with
        hnone | ⟨name, t, row, e, hname, htable, hkeeps, rfl, hstored⟩
      · exact hnone
      · rw [h.get_of_mem hname htable hkeeps.mem hkeeps.docId] at hanswer
        rcases hstored.cases with ⟨payload, hreads⟩ | ⟨count, hoverlong⟩
        · rw [hkeeps.documentOf_of_reads hreads] at hanswer
          cases hanswer
        · rw [hkeeps.documentOf_of_overlong hoverlong] at hanswer
          cases hanswer
    · intro hnone
      exact h.get_of_noRow hnone
  · intro doc hanswer
    rcases h.cases collection docId with
      hnone | ⟨name, t, row, e, hname, htable, hkeeps, rfl, hstored⟩
    · rw [h.get_of_noRow hnone] at hanswer
      cases hanswer
    · rw [h.get_of_mem hname htable hkeeps.mem hkeeps.docId] at hanswer
      rcases hstored.cases with ⟨payload, hreads⟩ | ⟨count, hoverlong⟩
      · rw [hkeeps.documentOf_of_reads hreads] at hanswer
        cases hanswer
        exact ⟨name, t, row, e, payload, hname, htable, hkeeps, rfl, hreads, rfl,
          h.own_table hname htable⟩
      · rw [hkeeps.documentOf_of_overlong hoverlong] at hanswer
        cases hanswer

def quotedName : String := "select \"from\""

/-- An index of two collections.  The database spells the name of the first one's table in
other letters, and the table of the second one is not there. -/
def quotedIndex : Database := ⟨[
  ⟨registryTable, registryColumns,
    [[.text "users", .text quotedName], [.text "orders", .text "orders"]]⟩,
  ⟨"SELECT \"From\"", Reader.documentColumns, [
    [.text "u1", .bytes [0x5b, 0x31, 0x5d], .text "h1", .text "t1", .text "put", .null, .int 5,
      .int 0],
    [.text "u2", .null, .text "h2", .text "t2", .text "delete", .text "2", .int 6,
      .int 1]]⟩]⟩

/-- The entries of the first collection. -/
def quotedPut : Entry := ⟨"u1", .bytes [0x5b, 0x31, 0x5d], "h1", "t1", "put", none, 5, 0⟩

@[inherit_doc quotedPut]
def quotedDelete : Entry := ⟨"u2", .null, "h2", "t2", "delete", some "2", 6, 1⟩

theorem registers_quotedIndex {collection name : String} :
    quotedIndex.Registers collection name ↔
      (collection = "users" ∧ name = quotedName) ∨ (collection = "orders" ∧ name = "orders") := by
  constructor
  · rintro ⟨t, row, ⟨⟩, hmem, hcollection, hname⟩
    simp only [List.mem_cons, List.not_mem_nil, or_false] at hmem
    rcases hmem with rfl | rfl
    · cases hcollection
      cases hname
      exact .inl ⟨rfl, rfl⟩
    · cases hcollection
      cases hname
      exact .inr ⟨rfl, rfl⟩
  · rintro (⟨rfl, rfl⟩ | ⟨rfl, rfl⟩)
    · exact ⟨_, _, rfl, List.mem_cons_self, rfl, rfl⟩
    · exact ⟨_, _, rfl, List.mem_cons_of_mem _ List.mem_cons_self, rfl, rfl⟩

theorem reads_quotedPut : quotedPut.Reads (.list [.int 1]) := by
  apply Entry.Reads.text
  · show Spells _ "[1]"
    exact .bytes rfl
  · rfl

theorem reads_quotedDelete : quotedDelete.Reads .null := .null rfl

theorem layout_quotedIndex : quotedIndex.Layout := by
  constructor
  · rintro t ⟨⟩
    decide
  · rintro t ⟨⟩ row hmem collection -
    simp only [List.mem_cons, List.not_mem_nil, or_false] at hmem
    rcases hmem with rfl | rfl
    · exact ⟨quotedName, rfl⟩
    · exact ⟨"orders", rfl⟩
  · intro collection name other hname hother
    rw [registers_quotedIndex] at hname hother
    rcases hname with ⟨rfl, rfl⟩ | ⟨rfl, rfl⟩
    · rcases hother with ⟨-, rfl⟩ | ⟨hcollection, -⟩
      · rfl
      · exact absurd hcollection (by decide)
    · rcases hother with ⟨hcollection, -⟩ | ⟨-, rfl⟩
      · exact absurd hcollection (by decide)
      · rfl
  · intro collection other name name' hname hname' hsame
    rw [registers_quotedIndex] at hname hname'
    rcases hname with ⟨rfl, rfl⟩ | ⟨rfl, rfl⟩
    · rcases hname' with ⟨rfl, -⟩ | ⟨-, rfl⟩
      · rfl
      · exact absurd hsame (by decide)
    · rcases hname' with ⟨-, rfl⟩ | ⟨rfl, -⟩
      · exact absurd hsame (by decide)
      · rfl
  · intro collection name hname
    rw [registers_quotedIndex] at hname
    rcases hname with ⟨rfl, rfl⟩ | ⟨rfl, rfl⟩ <;> decide
  · intro collection name t hname htable
    rw [registers_quotedIndex] at hname
    rcases hname with ⟨rfl, rfl⟩ | ⟨rfl, rfl⟩
    · cases htable
      constructor
      · decide
      · intro row hmem docId hrow
        have hmem' := hmem
        simp only [List.mem_cons, List.not_mem_nil, or_false] at hmem'
        rcases hmem' with rfl | rfl
        · exact ⟨quotedPut, ⟨hmem, rfl, rfl, rfl, rfl, rfl, rfl, rfl, rfl⟩, reads_quotedPut.stored⟩
        · exact ⟨quotedDelete, ⟨hmem, rfl, rfl, rfl, rfl, rfl, rfl, rfl, rfl⟩,
            reads_quotedDelete.stored⟩
      · apply Table.length_rowsWith_le
        refine .cons ?_ (.cons nofun .nil)
        intro row hrow
        rw [List.mem_singleton] at hrow
        subst hrow
        show Value.text "u1" ≠ Value.text "u2"
        simp
    · cases htable

theorem get_answers_quotedIndex :
    let get (collection docId : String) :=
      (Reader.get ⟨"/i", .database quotedIndex, false⟩ (.text collection) (.text docId)).1
    get "users" "u1" = .ok (quotedPut.document (.list [.int 1])) ∧
    get "users" "u2" = .ok (quotedDelete.document .null) ∧
    get "users" "u3" = Reader.notFound "users" "u3" ∧
    get "orders" "u1" = Reader.notFound "orders" "u1" ∧
    get "items" "u1" = Reader.notFound "items" "u1" := by
  have husers : quotedIndex.Registers "users" quotedName :=
    registers_quotedIndex.mpr (.inl ⟨rfl, rfl⟩)
  have hanswers (collection docId : String) :=
    get_answers layout_quotedIndex "/i" collection docId
  refine ⟨?_, ?_, ?_, ?_, ?_⟩
  · apply (hanswers "users" "u1").document _ rfl reads_quotedPut
    exact ⟨quotedName, _, _, husers, rfl, List.mem_cons_self, rfl, rfl, rfl, rfl, rfl, rfl, rfl,
      rfl⟩
  · apply (hanswers "users" "u2").document _ rfl reads_quotedDelete
    exact ⟨quotedName, _, _, husers, rfl, List.mem_cons_of_mem _ List.mem_cons_self, rfl, rfl, rfl,
      rfl, rfl, rfl, rfl, rfl⟩
  · apply (hanswers "users" "u3").notFound.mpr
    apply Database.NoRow.noRow husers rfl
    intro row hmem
    simp only [List.mem_cons, List.not_mem_nil, or_false] at hmem
    rcases hmem with rfl | rfl
    · show Value.text "u1" ≠ Value.text "u3"
      simp
    · show Value.text "u2" ≠ Value.text "u3"
      simp
  · apply (hanswers "orders" "u1").notFound.mpr
    exact .noTable (registers_quotedIndex.mpr (.inr ⟨rfl, rfl⟩)) rfl
  · apply (hanswers "items" "u1").notFound.mpr
    apply Database.NoRow.notRegistered
    intro name hname
    rw [registers_quotedIndex] at hname
    revert hname
    simp

end DocLedger.Index
