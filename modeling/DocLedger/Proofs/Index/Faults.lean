import DocLedger.Proofs.Index.Lookups
import DocLedger.Proofs.Report.Accepted

/-!
# Faults of reading the index

Whatever lies at its path, the index is opened or an error of the library says why not,
and a closed reader answers every call with one.  An open reader has faults of another
kind: of a file that is no database all calls are at fault, and of a database just the
lookups whose rows are not what the engine writes.
-/

namespace DocLedger.Index

open Report (MeansInteger readText readInteger)

/-! ## Rows as the engine writes them -/

/-- The text that a cell spells, itself or in UTF-8. -/
inductive Spells : Value → String → Prop
  | text (s : String) : Spells (.text s) s
  | bytes {bs : List UInt8} {s : String} (hdecode : Text.Utf8.decodeStrict bs = .ok s) :
      Spells (.bytes bs) s

/-- A cell stands for an integer, by itself, in UTF-8 or as a decimal that is whole. -/
inductive Counts : Value → Prop
  | plain {v : Value} {n : Int} (h : MeansInteger v n) : Counts v
  | bytes {bs : List UInt8} {s : String} {n : Int} (hdecode : Text.Utf8.decodeStrict bs = .ok s)
      (h : MeansInteger (.text s) n) : Counts (.bytes bs)
  | decimal {d : Number.Places} {n : Int} {m : Nat} (hexact : d.exact = .fraction n m)
      (hwhole : (m : Int) ∣ n) : Counts (.decimal d)

/-- A row whose cells are what the document of a row asks for. -/
structure Table.Sound (t : Table) (row : List Value) : Prop where
  payload : t.cell row "payload" = .null ∨
    ∃ s v, Spells (t.cell row "payload") s ∧ Json.readDocument s.toList = .ok v
  texts : ∀ column ∈ ["doc_id", "tx_hash", "tx_id", "op"], ∃ s, Spells (t.cell row column) s
  version : t.cell row "schema_version" = .null ∨ ∃ s, Spells (t.cell row "schema_version") s
  updated : Counts (t.cell row "updated_at")

section

variable {v : Value}

theorem exists_readText_iff : (∃ r, readText v = .ok r) ↔ ∃ s, Spells v s := by
  constructor
  · rintro ⟨r, hread⟩
    cases v with
    | text s => exact ⟨s, .text s⟩
    | bytes bs =>
        rw [readText] at hread
        cases hdecode : Text.Utf8.decodeStrict bs with
        | ok s => exact ⟨s, .bytes hdecode⟩
        | error m => rw [hdecode] at hread; cases hread
    | _ => cases hread
  · rintro ⟨s, hspells⟩
    cases hspells with
    | text => exact ⟨.text s, rfl⟩
    | bytes hdecode => exact ⟨.text s, by rw [readText, hdecode]⟩

/-- A payload that spells a text is what the text is read as. -/
theorem decodePayload_of_spells {s : String} (h : Spells v s) :
    Reader.decodePayload v = (Json.readDocument s.toList).mapError (·.toFault s.toList) := by
  cases h with
  | text => rfl
  | bytes hdecode => rw [Reader.decodePayload, hdecode]

theorem exists_integerOfExact_iff {number : Number.Exact} :
    (∃ n, Report.integerOfExact number = .ok n) ↔
      ∃ (n : Int) (m : Nat), number = .fraction n m ∧ (m : Int) ∣ n := by
  cases number with
  | undefined | infinite => simp [Report.integerOfExact]
  | fraction n m =>
      by_cases hwhole : (m : Int) ∣ n
      · simp [Report.integerOfExact, hwhole, Int.emod_eq_zero_of_dvd hwhole]
      · have hpart : ¬ n % (m : Int) = 0 := fun h => hwhole (Int.dvd_of_emod_eq_zero h)
        simp [Report.integerOfExact, hwhole, hpart]

theorem exists_readInteger_iff : (∃ r, readInteger v = .ok r) ↔ Counts v := by
  have hdatum (hv : Report.Datum v) :
      (∃ r, readInteger v = .ok r) ↔ ∃ n, MeansInteger v n := by
    simp [Report.readInteger_eq_ok_iff hv]
  have hmap {x : Except Report.Misfit Int} :
      (∃ r, x.map Value.int = .ok r) ↔ ∃ n, x = .ok n := by
    simp [Report.map_eq_ok_iff]
  cases v with
  | bool | int | float | text =>
      rw [hdatum (by constructor)]
      constructor
      · rintro ⟨n, h⟩
        exact .plain h
      · intro h
        cases h with
        | plain h => exact ⟨_, h⟩
  | bytes bs =>
      cases hdecode : Text.Utf8.decodeStrict bs with
      | ok s =>
          simp only [readInteger, hdecode, hmap, Report.integerOfText_toList_eq_ok_iff]
          constructor
          · rintro ⟨n, h⟩
            exact .bytes hdecode h
          · intro h
            cases h with
            | plain h => cases h
            | bytes hother h =>
                rw [hdecode] at hother
                cases hother
                exact ⟨_, h⟩
      | error fault =>
          simp only [readInteger, hdecode, reduceCtorEq, exists_false, false_iff]
          intro h
          cases h with
          | plain h => cases h
          | bytes hother =>
              rw [hdecode] at hother
              cases hother
  | decimal d =>
      simp only [readInteger, hmap, exists_integerOfExact_iff]
      constructor
      · rintro ⟨n, m, hexact, hwhole⟩
        exact .decimal hexact hwhole
      · intro h
        cases h with
        | plain h => cases h
        | decimal hexact hwhole => exact ⟨_, _, hexact, hwhole⟩
  | null | list | tuple | set | mapping | moment | record | loop =>
      simp only [readInteger, reduceCtorEq, exists_false, false_iff]
      intro h
      cases h with
      | plain h => cases h

theorem exists_decodePayload_iff : (∃ payload, Reader.decodePayload v = .ok payload) ↔
    v = .null ∨ ∃ s payload, Spells v s ∧ Json.readDocument s.toList = .ok payload := by
  have hmap {x : Except Json.ParseFault Value} {f : Json.ParseFault → Fault} {payload : Value} :
      x.mapError f = .ok payload ↔ x = .ok payload := by
    constructor
    · intro h
      cases x <;> cases h
      rfl
    · rintro rfl
      rfl
  constructor
  · rintro ⟨payload, hread⟩
    cases v with
    | null => exact .inl rfl
    | text s => exact .inr ⟨s, payload, .text s, hmap.mp hread⟩
    | bytes bs =>
        rw [Reader.decodePayload] at hread
        cases hdecode : Text.Utf8.decodeStrict bs with
        | ok s =>
            rw [hdecode] at hread
            exact .inr ⟨s, payload, .bytes hdecode, hmap.mp hread⟩
        | error m =>
            rw [hdecode] at hread
            cases hread
    | _ => cases hread
  · rintro (rfl | ⟨s, payload, hspells, hread⟩)
    · exact ⟨.null, rfl⟩
    · refine ⟨payload, ?_⟩
      rw [decodePayload_of_spells hspells]
      exact hmap.mpr hread

end

section

variable {t : Table} {row : List Value} {payload : Value}

theorem exists_read_cons_iff {name : String} {shape : Report.Shape} {default : Option Value}
    {rest : Report.Fields} {path : List Report.Step} {entries : List (Value × Value)} {v : Value}
    (hlookup : Value.lookup name entries = some v) :
    (∃ rs, (Report.Fields.cons name shape default rest).read path entries = .ok rs) ↔
      (∃ r, shape.read (path ++ [.field name]) v = .ok r) ∧
        ∃ rs, rest.read path entries = .ok rs := by
  simp only [Report.Fields.read, hlookup, Report.joinRead_eq_ok_iff]
  constructor
  · rintro ⟨rs, r, more, hfirst, hrest, -⟩
    exact ⟨⟨r, hfirst⟩, more, hrest⟩
  · rintro ⟨⟨r, hfirst⟩, more, hrest⟩
    exact ⟨_, r, more, hfirst, hrest, rfl⟩

theorem exists_read_text_iff {path : List Report.Step} {v : Value} :
    (∃ r, Report.Shape.text.read path v = .ok r) ↔ ∃ s, Spells v s := by
  simp only [Report.Shape.read, Report.atPath_eq_ok_iff, exists_readText_iff]

theorem exists_read_optional_iff {path : List Report.Step} {v : Value} :
    (∃ r, (Report.Shape.optional .text).read path v = .ok r) ↔ v = .null ∨ ∃ s, Spells v s := by
  by_cases hnull : v = .null
  · subst hnull
    exact iff_of_true ⟨.null, rfl⟩ (.inl rfl)
  · have hsome : v.isNull = false := by
      cases v with
      | null => exact absurd rfl hnull
      | _ => rfl
    rw [Report.Shape.read, hsome, or_iff_right hnull]
    exact exists_read_text_iff

/-- The document of a row asks for nothing of the payload and of the mark of deletion. -/
theorem exists_read_entries_iff (payload : Value) :
    (∃ doc, Report.read .indexedDoc (.mapping (t.entries row payload)) = .ok doc) ↔
      (∀ column ∈ ["doc_id", "tx_hash", "tx_id", "op"], ∃ s, Spells (t.cell row column) s) ∧
      (t.cell row "schema_version" = .null ∨ ∃ s, Spells (t.cell row "schema_version") s) ∧
      Counts (t.cell row "updated_at") := by
  have hanything : ∃ r, Report.Shape.anything.read ([] ++ [.field "payload"]) payload = .ok r :=
    ⟨payload, rfl⟩
  have htruth (b : Bool) :
      ∃ r, Report.Shape.truth.read ([] ++ [.field "deleted"]) (.bool b) = .ok r :=
    ⟨.bool b, rfl⟩
  have hnil : ∃ rs, Report.Fields.nil.read [] (t.entries row payload) = .ok rs := ⟨[], rfl⟩
  have hinteger (path : List Report.Step) (v : Value) :
      (∃ r, Report.Shape.integer.read path v = .ok r) ↔ Counts v := by
    simp only [Report.Shape.read, Report.atPath_eq_ok_iff, exists_readInteger_iff]
  have hrecord {fields : Report.Fields} : (∃ doc, (fields.read [] (t.entries row payload)).map
      Value.mapping = .ok doc) ↔ ∃ rs, fields.read [] (t.entries row payload) = .ok rs := by
    constructor
    · rintro ⟨doc, hdoc⟩
      obtain ⟨rs, hrs, -⟩ := Report.map_eq_ok_iff.mp hdoc
      exact ⟨rs, hrs⟩
    · rintro ⟨rs, hrs⟩
      exact ⟨.mapping rs, by rw [hrs]; rfl⟩
  refine hrecord.trans ?_
  unfold Report.Model.required Report.Model.withDefault Report.Model.nullable
  rw [exists_read_cons_iff rfl, exists_read_cons_iff rfl, exists_read_cons_iff rfl,
    exists_read_cons_iff rfl, exists_read_cons_iff rfl, exists_read_cons_iff rfl,
    exists_read_cons_iff rfl, exists_read_cons_iff rfl, hinteger]
  simp only [exists_read_text_iff, exists_read_optional_iff, hanything, htruth, hnil, true_and,
    and_true, List.forall_mem_cons, List.not_mem_nil, false_implies, implies_true, and_assoc]

end

/-! ## Faults of lookups -/

/-- A result that is a fault, and neither a value nor an error of the library. -/
def Faults {α : Type} (x : Except Failure α) : Prop := ∃ fault, x = .error (.fault fault)

theorem not_faults_ok {α : Type} {a : α} : ¬ Faults (.ok a : Except Failure α) := by
  rintro ⟨fault, h⟩
  cases h

theorem not_faults_ledger {α : Type} {e : LedgerError} :
    ¬ Faults (.error (.ledger e) : Except Failure α) := by
  rintro ⟨fault, h⟩
  cases h

theorem faults_map_iff {α β : Type} {f : α → β} {x : Except Failure α} :
    Faults (x.map f) ↔ Faults x := by
  unfold Faults
  cases x <;> simp [Except.map]

/-- A row has a document just if it is what the engine writes. -/
theorem faults_documentOf_iff {t : Table} {row : List Value} :
    Faults (Reader.documentOf (t.shown Reader.documentColumns row)) ↔ ¬ t.Sound row := by
  cases hpayload : Reader.decodePayload (t.cell row "payload") with
  | error fault =>
      constructor
      · intro _ hsound
        obtain ⟨payload, hread⟩ := exists_decodePayload_iff.mpr hsound.payload
        rw [hpayload] at hread
        cases hread
      · intro _
        exact ⟨fault, documentOf_of_error hpayload⟩
  | ok payload =>
      rw [documentOf_of_ok hpayload]
      cases hread : Report.read .indexedDoc (.mapping (t.entries row payload)) with
      | ok doc =>
          obtain ⟨htexts, hversion, hupdated⟩ := (exists_read_entries_iff payload).mp ⟨doc, hread⟩
          constructor
          · intro h
            exact absurd h not_faults_ok
          · intro hunsound
            exact absurd ⟨exists_decodePayload_iff.mp ⟨payload, hpayload⟩, htexts, hversion,
              hupdated⟩ hunsound
      | error problems =>
          constructor
          · intro _ hsound
            obtain ⟨doc, hdoc⟩ := (exists_read_entries_iff payload).mpr
              ⟨hsound.texts, hsound.version, hsound.updated⟩
            rw [hread] at hdoc
            cases hdoc
          · intro _
            exact ⟨_, rfl⟩

/-- A lookup that a database cannot serve: the registry names the table by something that
is no name of a table, or the row is not what the engine writes. -/
inductive Database.Unreadable (db : Database) (collection docId : String) : Prop
  | name (hregistry : ¬ db.Lacks registryTable registryColumns)
      (hcell : db.tableCell collection ≠ .null)
      (hname : ∀ name, db.tableCell collection = .text name → hasNul name = true) :
      Unreadable db collection docId
  | row {name : String} {t : Table} {row : List Value}
      (hregistry : ¬ db.Lacks registryTable registryColumns)
      (hname : db.tableCell collection = .text name) (hnul : hasNul name = false)
      (hcolumns : ¬ db.Lacks name Reader.documentColumns)
      (hrow : db.row? name "doc_id" docId = some (t, row)) (hunsound : ¬ t.Sound row) :
      Unreadable db collection docId

section

variable {db : Database} {name collection docId : String}

/-- Where the registry names a table, what counts is the row that is found there. -/
theorem Database.unreadable_iff_of_name (hregistry : ¬ db.Lacks registryTable registryColumns)
    (hname : db.tableCell collection = .text name) (hnul : hasNul name = false) :
    db.Unreadable collection docId ↔ ¬ db.Lacks name Reader.documentColumns ∧
      ∃ t row, db.row? name "doc_id" docId = some (t, row) ∧ ¬ t.Sound row := by
  constructor
  · intro h
    cases h with
    | name _ _ hother =>
        have hnulName := hother name hname
        rw [hnul] at hnulName
        cases hnulName
    | row _ hother _ hcolumns hrow hunsound =>
        rw [hname] at hother
        cases hother
        exact ⟨hcolumns, _, _, hrow, hunsound⟩
  · rintro ⟨hcolumns, t, row, hrow, hunsound⟩
    exact .row hregistry hname hnul hcolumns hrow hunsound

/-- An empty cell of the registry is that of a collection without a table. -/
theorem Database.not_unreadable_of_null (hnull : db.tableCell collection = .null) :
    ¬ db.Unreadable collection docId := by
  intro h
  cases h with
  | name _ hcell _ => exact hcell hnull
  | row _ hname _ _ _ _ =>
      rw [hnull] at hname
      cases hname

theorem Database.not_unreadable_of_lacks (hlacks : db.Lacks registryTable registryColumns) :
    ¬ db.Unreadable collection docId := by
  intro h
  cases h with
  | name hregistry _ _ => exact hregistry hlacks
  | row hregistry _ _ _ _ _ => exact hregistry hlacks

end

namespace Reader

variable {path : String} {db : Database} {name collection docId : String}

/-- A lookup in the table of a collection is at fault just if the row is. -/
theorem faults_get_of_name (hregistry : ¬ db.Lacks registryTable registryColumns)
    (hname : db.tableCell collection = .text name) (hnul : hasNul name = false) :
    Faults (get ⟨path, .database db, false⟩ (.text collection) (.text docId)).1 ↔
      ¬ db.Lacks name documentColumns ∧
        ∃ t row, db.row? name "doc_id" docId = some (t, row) ∧ ¬ t.Sound row := by
  by_cases hcolumns : db.Lacks name documentColumns
  · obtain ⟨e, he⟩ := get_of_lacks hregistry hname hnul path docId hcolumns
    rw [he]
    constructor
    · intro h
      exact absurd h not_faults_ledger
    · rintro ⟨hnot, -⟩
      exact absurd hcolumns hnot
  · rw [get_of_not_lacks hregistry hname hnul hcolumns]
    cases hrow : db.row? name "doc_id" docId with
    | none =>
        constructor
        · intro h
          exact absurd h not_faults_ledger
        · rintro ⟨-, t, row, hfound, -⟩
          cases hfound
    | some found =>
        refine faults_documentOf_iff.trans ?_
        constructor
        · intro hunsound
          exact ⟨hcolumns, found.1, found.2, rfl, hunsound⟩
        · rintro ⟨-, t, row, hfound, hunsound⟩
          cases hfound
          exact hunsound

theorem faults_get_iff (collection docId : String) :
    Faults (get ⟨path, .database db, false⟩ (.text collection) (.text docId)).1 ↔
      db.Unreadable collection docId := by
  by_cases hregistry : db.Lacks registryTable registryColumns
  · obtain ⟨e, he⟩ := tableFor_of_lacks path collection hregistry
    rw [get_fst, he]
    exact iff_of_false not_faults_ledger (Database.not_unreadable_of_lacks hregistry)
  · by_cases hnull : db.tableCell collection = .null
    · rw [get_of_null hregistry hnull]
      exact iff_of_false not_faults_ledger (Database.not_unreadable_of_null hnull)
    · by_cases hnames : ∀ name, db.tableCell collection = .text name → hasNul name = true
      · apply iff_of_true _ (.name hregistry hnull hnames)
        by_cases htext : ∀ s, db.tableCell collection ≠ .text s
        · exact get_of_notText hregistry hnull htext
        · obtain ⟨s, hs⟩ := not_forall_not.mp htext
          exact get_of_nul hregistry hs (hnames s hs)
      · obtain ⟨name, hboth⟩ := not_forall.mp hnames
        obtain ⟨hname, hnul⟩ := Classical.not_imp.mp hboth
        rw [Bool.not_eq_true] at hnul
        rw [faults_get_of_name hregistry hname hnul,
          Database.unreadable_iff_of_name hregistry hname hnul]

end Reader

/-! ## All calls -/

/-- The query of the commit to which the index was last advanced. -/
def commitQuery : Query := ⟨some ["last_commit"], stateTable, some ⟨"id", .int 1⟩, none⟩

def collectionsQuery : Query := ⟨some ["collection"], registryTable, none, some "collection"⟩

namespace Image

/-- A query is not answered: the file is no database, or the query meets the damage. -/
def GivesUp : Image → Query → Prop
  | notDatabase, _ => True
  | database _, _ => False
  | damaged _ meets, q => meets q = true

/-- The database that a file holds, sound or not. -/
def Holds : Image → Database → Prop
  | notDatabase, _ => False
  | database db, other => other = db
  | damaged db _, other => other = db

theorem Holds.unique {image : Image} {db other : Database} (h : image.Holds db)
    (hother : image.Holds other) : other = db := by
  cases image with
  | notDatabase => exact h.elim
  | database | damaged => exact Eq.trans hother h.symm

theorem givesUp_or_holds (image : Image) (q : Query) : image.GivesUp q ∨ ∃ db, image.Holds db := by
  cases image with
  | notDatabase => exact .inl trivial
  | database db | damaged db => exact .inr ⟨db, rfl⟩

theorem select_of_givesUp {image : Image} {q : Query} (h : image.GivesUp q) :
    ∃ fault, image.select q = .error fault ∧ fault.operational = false := by
  cases image with
  | notDatabase => exact ⟨.notDatabase, rfl, rfl⟩
  | database db => exact h.elim
  | damaged db meets => exact ⟨.malformed, if_pos h, rfl⟩

theorem select_of_holds {image : Image} {q : Query} {db : Database} (h : ¬ image.GivesUp q)
    (hdb : image.Holds db) : image.select q = db.select q := by
  cases image with
  | notDatabase => exact hdb.elim
  | database other =>
      obtain rfl : db = other := hdb
      rfl
  | damaged other meets =>
      obtain rfl : db = other := hdb
      exact if_neg h

/-- A lookup that a file cannot serve: the registry or the table is not readable, or what
is read there is not what the engine writes. -/
inductive Fails (image : Image) (collection docId : String) : Prop
  | registry (h : image.GivesUp (registryQuery collection)) : Fails image collection docId
  | table {db : Database} {name : String} (hdb : image.Holds db)
      (hregistry : ¬ db.Lacks registryTable registryColumns)
      (hname : db.tableCell collection = .text name) (hnul : hasNul name = false)
      (h : image.GivesUp (documentQuery name docId)) : Fails image collection docId
  | row {db : Database} (hdb : image.Holds db) (h : db.Unreadable collection docId) :
      Fails image collection docId

/-- Of a sound database these are the lookups that it cannot serve. -/
theorem fails_database_iff {db : Database} {collection docId : String} :
    (database db).Fails collection docId ↔ db.Unreadable collection docId := by
  constructor
  · intro h
    cases h with
    | registry h | table _ _ _ _ h => exact h.elim
    | row hdb h =>
        cases hdb
        exact h
  · exact .row rfl

end Image

/-- A result that is a value or a fault of operation. -/
def Operational {α : Type} (x : Except QueryFault α) : Prop :=
  ∀ fault, x = .error fault → fault.operational = true

section

variable {α β : Type}

theorem operational_pure (a : α) : Operational (pure a : Except QueryFault α) :=
  nofun

theorem Operational.bind {x : Except QueryFault α} {f : α → Except QueryFault β}
    (hx : Operational x) (hf : ∀ a, Operational (f a)) : Operational (x >>= f) := by
  intro fault h
  cases x with
  | error other =>
      cases h
      exact hx _ rfl
  | ok a => exact hf a fault h

theorem Operational.mapM {f : α → Except QueryFault β} (hf : ∀ a, Operational (f a))
    (items : List α) : Operational (items.mapM f) := by
  induction items with
  | nil => exact operational_pure []
  | cons a rest ih =>
      rw [List.mapM_cons]
      exact (hf a).bind fun b => ih.bind fun bs => operational_pure (b :: bs)

theorem operational_place (t : Table) (column : String) : Operational (t.place column) := by
  intro fault h
  rw [Table.place] at h
  split at h
  · cases h
  · cases h
    rfl

end

/-- A database has rows for a query, or it says what is missing. -/
theorem operational_select (db : Database) (q : Query) : Operational (db.select q) := by
  unfold Database.select
  cases db.table? q.table with
  | none =>
      rintro fault ⟨⟩
      rfl
  | some t =>
      refine .bind (operational_pure t) fun t => ?_
      refine .bind (.mapM (fun column =>
        (operational_place t column).bind fun _ => operational_pure _) _) fun places => ?_
      extract_lets shown ordered
      have hordered (rows : List (List Value)) : Operational (ordered rows) := by
        unfold ordered
        cases q.order with
        | none => exact operational_pure _
        | some column => exact (operational_place t column).bind fun _ => operational_pure _
      cases q.condition with
      | none => exact hordered t.rows
      | some c => exact (operational_place t c.column).bind fun place => hordered _

namespace Reader

variable {path : String} {image : Image} {db : Database} {collection docId : String}

/-- A call of an open reader by itself is at fault just if its query is not answered. -/
theorem faults_fetch_iff (path : String) {statement : String} (hnul : hasNul statement = false)
    (q : Query) :
    Faults (fetch ⟨path, image, false⟩ statement q).1 ↔ image.GivesUp q := by
  by_cases hgives : image.GivesUp q
  · obtain ⟨fault, hselect, hforeign⟩ := Image.select_of_givesUp hgives
    apply iff_of_true _ hgives
    refine ⟨.database fault.message, ?_⟩
    cases fault with
    | notDatabase | malformed | nulCharacter =>
        simp only [fetch, hnul, hselect, Bool.false_eq_true, if_false]
        rfl
    | _ => cases hforeign
  · obtain ⟨db, hdb⟩ := (image.givesUp_or_holds q).resolve_left hgives
    apply iff_of_false _ hgives
    simp only [fetch, hnul, Image.select_of_holds hgives hdb, Bool.false_eq_true, if_false]
    cases hselect : db.select q with
    | ok rows => exact not_faults_ok
    | error fault =>
        have hoperational := operational_select db q fault hselect
        cases fault with
        | noTable name => exact not_faults_ok
        | notDatabase | malformed | nulCharacter => cases hoperational
        | _ => exact not_faults_ledger

theorem faults_lastCommit_iff :
    Faults (lastCommit ⟨path, image, false⟩).1 ↔ image.GivesUp commitQuery := by
  have hnul : hasNul ("SELECT last_commit FROM " ++ stateTable ++ " WHERE id = 1") = false := by
    decide
  rw [← faults_fetch_iff path hnul commitQuery]
  exact faults_map_iff

theorem faults_collections_iff :
    Faults (collections ⟨path, image, false⟩).1 ↔ image.GivesUp collectionsQuery := by
  have hnul : hasNul collectionsQuery.text = false := by decide
  rw [← faults_fetch_iff path hnul collectionsQuery]
  exact faults_map_iff

/-- A query that does not meet the damage is answered as if there were none. -/
theorem fetch_of_holds {q : Query} (h : ¬ image.GivesUp q) (hdb : image.Holds db)
    (statement : String) :
    (fetch ⟨path, image, false⟩ statement q).1 =
      (fetch ⟨path, .database db, false⟩ statement q).1 := by
  have hselect : image.select q = (Image.database db).select q := Image.select_of_holds h hdb
  simp only [fetch, hselect, Bool.false_eq_true, if_false]

theorem tableFor_of_holds (h : ¬ image.GivesUp (registryQuery collection)) (hdb : image.Holds db) :
    (tableFor ⟨path, image, false⟩ (.text collection)).1 =
      (tableFor ⟨path, .database db, false⟩ (.text collection)).1 := by
  rw [tableFor_fst, tableFor_fst, fetch_of_holds h hdb]

/-- So is a lookup, if the query of the table does not meet the damage either. -/
theorem get_of_holds (h : ¬ image.GivesUp (registryQuery collection)) (hdb : image.Holds db)
    (hdocument : ∀ name, (tableFor ⟨path, .database db, false⟩ (.text collection)).1 =
      .ok (.text name) → hasNul name = false → ¬ image.GivesUp (documentQuery name docId)) :
    (get ⟨path, image, false⟩ (.text collection) (.text docId)).1 =
      (get ⟨path, .database db, false⟩ (.text collection) (.text docId)).1 := by
  rw [get_fst, get_fst, tableFor_of_holds h hdb]
  cases hfound : (tableFor ⟨path, .database db, false⟩ (.text collection)).1 with
  | error failure => rfl
  | ok table =>
      cases table with
      | text name =>
          have hplain : (Value.text name).plain = name := rfl
          have hnull : (Value.text name).isNull = false := rfl
          have hquoted : quotedTable (.text name) = .ok (quoteIdentifier name) := rfl
          have hfetch : (fetch ⟨path, image, false⟩ (documentStatement name docId)
              (documentQuery name docId)).1 =
              (fetch ⟨path, .database db, false⟩ (documentStatement name docId)
                (documentQuery name docId)).1 := by
            by_cases hnul : hasNul name = true
            · rw [← hasNul_documentStatement name docId] at hnul
              rw [fetch_of_nul hnul, fetch_of_nul hnul]
            · exact fetch_of_holds (hdocument name hfound (Bool.eq_false_iff.mpr hnul)) hdb _
          rw [documentStatement] at hfetch
          simp only [hnull, hplain, hquoted, hfetch]
      | _ => rfl

/-- Just the lookups that a file cannot serve are at fault. -/
theorem faults_get_image_iff (collection docId : String) :
    Faults (get ⟨path, image, false⟩ (.text collection) (.text docId)).1 ↔
      image.Fails collection docId := by
  by_cases hgives : image.GivesUp (registryQuery collection)
  · apply iff_of_true _ (.registry hgives)
    obtain ⟨fault, hfault⟩ := (faults_fetch_iff path
      (hasNul_registryQuery collection) (registryQuery collection)).mpr hgives
    rw [get_fst, tableFor_fst, hfault]
    exact ⟨fault, rfl⟩
  obtain ⟨db, hdb⟩ := (image.givesUp_or_holds (registryQuery collection)).resolve_left hgives
  by_cases htable : ∃ name, ¬ db.Lacks registryTable registryColumns ∧
      db.tableCell collection = .text name ∧ hasNul name = false ∧
      image.GivesUp (documentQuery name docId)
  · obtain ⟨name, hregistry, hname, hnul, hdocument⟩ := htable
    apply iff_of_true _ (.table hdb hregistry hname hnul hdocument)
    rw [← hasNul_documentStatement name docId] at hnul
    obtain ⟨fault, hfault⟩ :=
      (faults_fetch_iff path hnul (documentQuery name docId)).mpr hdocument
    have hplain : (Value.text name).plain = name := rfl
    have hnull : (Value.text name).isNull = false := rfl
    have hquoted : quotedTable (.text name) = .ok (quoteIdentifier name) := rfl
    rw [documentStatement] at hfault
    rw [get_fst, tableFor_of_holds hgives hdb, tableFor_of_not_lacks hregistry, hname]
    simp only [hnull, hplain, hquoted, hfault]
    exact ⟨fault, rfl⟩
  · have hdocument : ∀ name, (tableFor ⟨path, .database db, false⟩ (.text collection)).1 =
        .ok (.text name) → hasNul name = false → ¬ image.GivesUp (documentQuery name docId) := by
      intro name hfound hnul hdocument
      by_cases hregistry : db.Lacks registryTable registryColumns
      · obtain ⟨e, he⟩ := tableFor_of_lacks path collection hregistry
        rw [he] at hfound
        cases hfound
      · rw [tableFor_of_not_lacks hregistry] at hfound
        exact htable ⟨name, hregistry, Except.ok.inj hfound, hnul, hdocument⟩
    rw [get_of_holds hgives hdb hdocument, faults_get_iff]
    constructor
    · exact .row hdb
    · intro h
      cases h with
      | registry h => exact absurd h hgives
      | table hother hregistry hname hnul h =>
          rw [hdb.unique hother] at hregistry hname
          exact absurd ⟨_, hregistry, hname, hnul, h⟩ htable
      | row hother h => rwa [hdb.unique hother] at h

theorem closed_calls (r : Reader) (collection docId : String) :
    r.close.lastCommit.1 = .error r.closedFailure ∧
    r.close.collections.1 = .error r.closedFailure ∧
    (r.close.get (.text collection) (.text docId)).1 = .error r.closedFailure := by
  refine ⟨rfl, rfl, ?_⟩
  rw [get_fst, tableFor_fst]
  rfl

end Reader

/-- What lies at the path of the index is opened, or an error of the library says why not.
Of the calls of an open reader just those are at fault that are not answered, because the
file is no database or is damaged, and the lookups that meet what the engine does not
write.  A closed reader answers every call with an error of the library. -/
theorem reads_faults_iff (path : String) (contents : Contents) :
    ¬ Faults (Reader.open (.text path) contents) ∧
    ∀ r, Reader.open (.text path) contents = .ok r → ∃ image, contents = .file image ∧
      (Faults r.lastCommit.1 ↔ image.GivesUp commitQuery) ∧
      (Faults r.collections.1 ↔ image.GivesUp collectionsQuery) ∧
      (∀ collection docId : String,
        Faults (r.get (.text collection) (.text docId)).1 ↔ image.Fails collection docId) ∧
      ∃ e, ∀ collection docId : String,
        r.close.lastCommit.1 = .error (.ledger e) ∧
        r.close.collections.1 = .error (.ledger e) ∧
        (r.close.get (.text collection) (.text docId)).1 = .error (.ledger e) := by
  cases contents with
  | missing | directory =>
      constructor
      · exact not_faults_ledger
      · intro r hr
        cases hr
  | file image =>
      constructor
      · exact not_faults_ok
      · rintro r ⟨⟩
        exact ⟨image, rfl, Reader.faults_lastCommit_iff, Reader.faults_collections_iff,
          Reader.faults_get_image_iff, _, Reader.closed_calls _⟩

/-- A database of one table.  The document `a` has a text that is no JSON, `b` has no
transaction, and `c` is as the engine writes it. -/
def garbledIndex : Database := ⟨[
  ⟨registryTable, registryColumns, [[.text "users", .text "t"]]⟩,
  ⟨"t", Reader.documentColumns, [
    [.text "a", .text "[", .text "h", .text "i", .text "put", .null, .int 1, .int 0],
    [.text "b", .null, .null, .text "i", .text "put", .null, .int 1, .int 0],
    [.text "c", .text "[]", .text "h", .text "i", .text "put", .null, .int 1, .int 0]]⟩]⟩

/-- The same with a damaged page in the table of documents. -/
def hurtIndex : Image := .damaged garbledIndex fun q => q.table == "t"

theorem reads_faults_iff_garbledIndex :
    let r : Reader := ⟨"/i", .database garbledIndex, false⟩
    ¬ Faults r.lastCommit.1 ∧ ¬ Faults r.collections.1 ∧
    Faults (r.get (.text "users") (.text "a")).1 ∧
    Faults (r.get (.text "users") (.text "b")).1 ∧
    ¬ Faults (r.get (.text "users") (.text "c")).1 ∧
    ¬ Faults (r.get (.text "orders") (.text "a")).1 ∧
    ∀ d, Reader.open (.text "/i") (.file hurtIndex) = .ok d →
      ¬ Faults d.collections.1 ∧ Faults (d.get (.text "users") (.text "c")).1 := by
  intro r
  obtain ⟨-, hcalls⟩ := reads_faults_iff "/i" (.file (.database garbledIndex))
  obtain ⟨image, himage, hcommit, hcollections, hget, -⟩ := hcalls r rfl
  cases himage
  have hregistry : ¬ garbledIndex.Lacks registryTable registryColumns := by
    rw [Database.lacks_iff_of_table? rfl]
    decide
  have hcolumns : ¬ garbledIndex.Lacks "t" Reader.documentColumns := by
    rw [Database.lacks_iff_of_table? rfl]
    decide
  have husers (docId : String) : Faults (r.get (.text "users") (.text docId)).1 ↔
      ∃ t row, garbledIndex.row? "t" "doc_id" docId = some (t, row) ∧ ¬ t.Sound row := by
    rw [hget, Image.fails_database_iff]
    have hname : garbledIndex.tableCell "users" = .text "t" := rfl
    simp [Database.unreadable_iff_of_name hregistry hname (by decide), hcolumns]
  refine ⟨?_, ?_, ?_, ?_, ?_, ?_, ?_⟩
  · rw [hcommit]
    exact id
  · rw [hcollections]
    exact id
  · refine (husers "a").mpr ⟨_, _, rfl, ?_⟩
    intro hsound
    rcases hsound.payload with hnull | ⟨s, v, hspells, hread⟩
    · cases hnull
    · cases hspells
      cases hread
  · refine (husers "b").mpr ⟨_, _, rfl, ?_⟩
    intro hsound
    obtain ⟨s, hspells⟩ := hsound.texts "tx_hash" (by decide)
    cases hspells
  · rw [husers]
    rintro ⟨t, row, hrow, hunsound⟩
    cases hrow
    apply hunsound
    constructor
    · exact .inr ⟨"[]", .list [], .text "[]", rfl⟩
    · intro column hcolumn
      simp only [List.mem_cons, List.not_mem_nil, or_false] at hcolumn
      rcases hcolumn with rfl | rfl | rfl | rfl
      · exact ⟨"c", .text "c"⟩
      · exact ⟨"h", .text "h"⟩
      · exact ⟨"i", .text "i"⟩
      · exact ⟨"put", .text "put"⟩
    · exact .inl rfl
    · exact .plain (.int 1)
  · rw [hget, Image.fails_database_iff]
    exact Database.not_unreadable_of_null rfl
  · intro d hd
    obtain ⟨hurt, hhurt, -, hlist, hlookup, -⟩ := (reads_faults_iff "/i" (.file hurtIndex)).2 d hd
    cases hhurt
    rw [hlist, hlookup]
    exact ⟨nofun, .table rfl hregistry rfl (by decide) rfl⟩

end DocLedger.Index
