import DocLedger.Log.Event
import DocLedger.Proofs.Json.RoundTrip
import DocLedger.Report.Model

/-!
# Passes as the engine writes them

The report of a pass has the shape of its model, and the pass is read off it
again.  Written in any plain style it is one document, as long as its counts are
within the limit on digits.
-/

namespace DocLedger.Report.SyncPass

def toValue (p : SyncPass) : Value :=
  .mapping [
    (.text "reset", .bool p.reset),
    (.text "fetched", .bool p.fetched),
    (.text "commits", .int p.commits),
    (.text "txs_applied", .int p.txsApplied),
    (.text "docs_upserted", .int p.docsUpserted),
    (.text "docs_deleted", .int p.docsDeleted),
    (.text "collections", .int p.collections),
    (.text "last_commit", Log.optionalText p.lastCommit)]

/-- The counts of a pass are within the limit on digits. -/
def Short (p : SyncPass) : Prop :=
  ∀ n ∈ [p.commits, p.txsApplied, p.docsUpserted, p.docsDeleted, p.collections],
    Number.tooLong n = false

theorem short_of_natAbs_lt {p : SyncPass}
    (h : ∀ n ∈ [p.commits, p.txsApplied, p.docsUpserted, p.docsDeleted, p.collections],
      n.natAbs < Nat.pow 10 19) : p.Short :=
  fun n hn => Number.tooLong_of_natAbs_lt (h n hn)

/-- The report of a pass is in normal form. -/
theorem read_toValue (p : SyncPass) : Report.read .indexSync p.toValue = .ok p.toValue := by
  cases hcommit : p.lastCommit <;>
    simp [Report.read, toValue, Model.shape, Model.required, Model.nullable, Shape.read,
      Fields.read, Value.lookup, joinRead, atPath, readTruth, readInteger, readText, hcommit,
      Log.optionalText, Value.isNull, Except.map, Except.mapError]

theorem validate_toValue (p : SyncPass) (command : List Value) (stderr : String) :
    validate .indexSync command stderr p.toValue = .ok p.toValue := by
  rw [validate, p.read_toValue]

theorem ofReport_toValue (p : SyncPass) : ofReport p.toValue = p := by
  cases p with
  | mk reset fetched commits txsApplied docsUpserted docsDeleted collections lastCommit =>
      cases lastCommit <;>
        simp [ofReport, toValue, truthField, integerField, optionalText, Value.get?, Value.lookup,
          Log.optionalText]

theorem storable_toValue {p : SyncPass} (h : p.Short) : p.toValue.Storable := by
  have hcommit : (Log.optionalText p.lastCommit).Storable := by
    cases p.lastCommit with
    | none => exact .null
    | some s => exact .text s
  simp only [Short, List.forall_mem_cons] at h
  obtain ⟨hcommits, happlied, hupserted, hdeleted, hcollections, -⟩ := h
  refine .mapping ?_ ?_ (by simp [Value.keyName])
  · simp only [List.forall_mem_cons]
    exact ⟨.text _, .text _, .text _, .text _, .text _, .text _, .text _, .text _,
      List.forall_mem_nil _⟩
  · simp only [List.forall_mem_cons]
    exact ⟨.bool _, .bool _, .int hcommits, .int happlied, .int hupserted, .int hdeleted,
      .int hcollections, hcommit,
      List.forall_mem_nil _⟩

theorem readFront_render {p : SyncPass} (h : p.Short) {style : Json.Style}
    (hstyle : style.Plain) {text : List Char} (htext : Json.render style p.toValue = .ok text) :
    (∃ tail, text = '\x7b' :: tail) ∧ Json.readFront text = .ok (p.toValue, []) := by
  obtain ⟨tail, hrender, hread⟩ := Json.readFront_of_storable hstyle (storable_toValue h)
  obtain rfl : text = '\x7b' :: tail := Except.ok.inj (htext.symm.trans hrender)
  refine ⟨⟨tail, rfl⟩, ?_⟩
  have hstored : Value.stored (Log.optionalText p.lastCommit) = Log.optionalText p.lastCommit := by
    cases p.lastCommit <;> rfl
  rw [hread]
  simp [toValue, Value.storedEntries, Value.stored, Value.keyName, hstored]

end DocLedger.Report.SyncPass
