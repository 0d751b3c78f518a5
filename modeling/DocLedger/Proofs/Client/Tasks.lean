import DocLedger.Proofs.Client.OneCall
import DocLedger.Proofs.Client.StartWatch
import DocLedger.Proofs.Command.Words

/-!
# Tasks

A client has the engine carry out operations and passes over the index.  For each of
these tasks it makes an argument vector, which consists of words.  There is none for a
payload that cannot be encoded, a blank path or bad options, which are refused, and
none where the words would have to spell an integer beyond the limit on digits.
-/

namespace DocLedger

open Command (IsWords isWords_words isWords_flagIf)

/-! ## The words of an operation -/

namespace Operation

open Client (bind_eq_ok)

theorem isWords_filledFlag (flag : String) {v : Value} (h : OptionalText v) :
    IsWords (Command.filledFlag flag v) := by
  rw [Command.filledFlag]
  split
  · cases h with
    | null => cases ‹Value.truthy .null = true›
    | text s => exact isWords_words [flag, s]
  · exact isWords_words []

theorem isWords_valueFlag {flag : String} {v : Value} {args : Command.Vector}
    (h : Command.valueFlag flag v = .ok args) : IsWords args := by
  rw [Command.valueFlag] at h
  split at h
  · cases h
    exact isWords_words []
  · obtain ⟨text, -, h⟩ := bind_eq_ok h
    cases h
    exact isWords_words [flag, text]

theorem isWords_applyCollection {name schema : String} {indexes : Value} {args : Command.Vector}
    (h : Command.applyCollection (.text name) (.text schema) indexes = .ok args) :
    IsWords args := by
  rw [Command.applyCollection] at h
  split at h
  · obtain ⟨items, -, h⟩ := bind_eq_ok h
    obtain ⟨names, -, h⟩ := bind_eq_ok h
    cases h
    exact isWords_words ["collection", "apply", name, "--schema", schema, "--indexes",
      Text.joined "," names]
  · cases h
    exact isWords_words ["collection", "apply", name, "--schema", schema]

theorem isWords {op : Operation} (hop : op.Typed) {room : Nat} {args : Command.Vector}
    (h : op.words room = .ok args) : IsWords args := by
  cases hop with
  | get collection docId | delete collection docId | log collection docId =>
      cases h
      exact isWords_words ["doc", _, collection, docId]
  | put collection docId payload | patch collection docId payload =>
      obtain ⟨text, -, h⟩ := bind_eq_ok h
      cases h
      exact isWords_words ["doc", _, collection, docId, _, text]
  | revert collection docId hid hhash =>
      cases h
      exact (isWords_words ["doc", "revert", collection, docId]).append
        ((isWords_filledFlag _ hid).append (isWords_filledFlag _ hhash))
  | push | status =>
      cases h
      exact isWords_words [_]
  | applyCollection name schema hindexes =>
      obtain ⟨-, -, h⟩ := bind_eq_ok h
      exact isWords_applyCollection (mapError_eq_ok h)
  | verify deep =>
      cases h
      exact (isWords_words ["integrity", "verify"]).append (isWords_flagIf deep _)
  | gc hprune =>
      cases h
      exact (isWords_words ["maintenance", "gc"]).append (isWords_filledFlag _ hprune)
  | snapshot hthreshold hmost dryRun =>
      obtain ⟨limits, hlimits, h⟩ := bind_eq_ok (mapError_eq_ok h)
      obtain ⟨bounds, hbounds, h⟩ := bind_eq_ok h
      cases h
      exact (((isWords_words ["maintenance", "snapshot"]).append
        (isWords_valueFlag hlimits)).append (isWords_valueFlag hbounds)).append
          (isWords_flagIf dryRun _)

end Operation

/-! ## The settings and the words of a pass -/

namespace Index

/-- Options of a call are refused with a configuration error or give what their layer
gives. -/
theorem Layer.coerce_overrides_cases {layer : Layer} (h : layer.Typed) :
    (∃ message field value,
      layer.coerce .overrides = .error (.ledger (.configuration message field value))) ∨
    ∃ options, layer.coerce .overrides = .ok options ∧ options.settings = layer.given := by
  cases h with
  | nothing | overrides | watch => exact .inr ⟨_, rfl, rfl⟩
  | @mapping entries hkeys hgiven hstdio =>
      rcases checkKnown_cases .overrides hkeys with ⟨-, hcheck⟩ |
        ⟨-, message, field, value, hcheck⟩
      · exact .inr ⟨.overrides (given (.value (.mapping entries))), by rw [coerce, hcheck]; rfl, rfl⟩
      · exact .inl ⟨message, field, value, by rw [coerce, hcheck]; rfl⟩
  | loop => exact .inl ⟨_, _, _, rfl⟩
  | @other v hother =>
      refine .inl ⟨"overrides must be IndexOverrides or a mapping, got " ++ v.typeName,
        some "overrides", .null, ?_⟩
      cases v with
      | null | mapping => exact hother.elim
      | loop isMapping =>
          obtain rfl : isMapping = false := hother
          rfl
      | _ => rfl

/-- Options on top of a configuration are refused with a configuration error or give
the settings of both. -/
theorem Config.resolve_cases {base : Config} (hbase : base.Made) {layer : Layer}
    (hlayer : layer.Typed) :
    (∃ message field value,
      base.resolve layer = .error (.ledger (.configuration message field value))) ∨
    base.resolve layer = .ok ⟨base.settings.overlay layer.given⟩ := by
  rcases Layer.coerce_overrides_cases hlayer with ⟨message, field, value, hcoerce⟩ |
    ⟨options, hcoerce, hgiven⟩
  · exact .inl ⟨message, field, value, by rw [resolve, hcoerce]; rfl⟩
  · have hresolve : base.resolve layer =
        if layer.given.isUnset then .ok base else make (base.settings.overlay layer.given) := by
      rw [resolve, hcoerce, ← hgiven]
      rfl
    rw [hresolve]
    split
    · next hunset => exact .inr (by rw [Settings.overlay_of_isUnset hunset])
    · rcases make_cases (hbase.filled.overlay hlayer.given) with
        ⟨-, message, field, value, hmake⟩ | ⟨-, hmake⟩
      · exact .inl ⟨message, field, value, hmake⟩
      · exact .inr hmake

end Index

/-- The words of a pass are texts, unless the bound on commits would have to be
spelled and is beyond the limit. -/
theorem Command.index_sync_cases {config : Index.Config} (h : config.settings.Filled) :
    ((∃ n, config.settings .batchCommits = .int n ∧ 0 < n ∧ Number.tooLong n = true) ∧
      index .sync config = .error (.fault .tooManyDigits)) ∨
    ((¬ ∃ n, config.settings .batchCommits = .int n ∧ 0 < n ∧ Number.tooLong n = true) ∧
      ∃ args, index .sync config = .ok args ∧ IsWords args) := by
  obtain ⟨path, hpath⟩ := h .dbPath
  obtain ⟨n, hbatch⟩ := h .batchCommits
  have hlong : (∃ n, config.settings .batchCommits = .int n ∧ 0 < n ∧ Number.tooLong n = true) ↔
      0 < n ∧ Number.tooLong n = true := by
    simp [hbatch]
  rw [hlong]
  rcases batchWords_cases hbatch with ⟨hlong, hwords⟩ | ⟨hshort, batch, hwords⟩
  · exact .inl ⟨hlong, by rw [index, hwords]; rfl⟩
  · refine .inr ⟨hshort, _, by rw [index, hwords]; rfl, ?_⟩
    rw [Index.Config.path, hpath]
    exact ((((isWords_words ["index", "sync", "--db", path, "--mode", config.mode]).append
      (isWords_words [])).append (isWords_words batch)).append (isWords_flagIf _ _)).append
        (isWords_flagIf _ _)

/-! ## Tasks -/

/-- What a client has the engine carry out in one run. -/
inductive Task
  | operation (op : Operation)
  /-- One pass over the index. -/
  | sync (layer : Index.Layer)

namespace Task

/-- The tasks whose arguments are of the kinds that they ask for. -/
inductive Typed : Task → Prop
  | operation {op : Operation} (hop : op.Typed) : Typed (.operation op)
  | sync {layer : Index.Layer} (hlayer : layer.Typed) : Typed (.sync layer)

/-- The model of the report that answers a task, if a report does. -/
def model? : Task → Option Report.Model
  | operation op => op.model?
  | sync _ => some .indexSync

/-- The payload that a task sends, if it sends one. -/
def payload? : Task → Option Value
  | operation (.put _ _ payload) => some payload
  | operation (.patch _ _ ops) => some ops
  | _ => none

end Task

namespace Client

def carryOut (c : Client) : Task → Engine.Action Answer
  | .operation op => c.perform op
  | .sync layer => do return .report .indexSync (← c.sync layer)

/-- The argument vector of a task. -/
def plan (c : Client) : Task → Except Failure Command.Vector
  | .operation op => c.operationVector op
  | .sync layer => (c.syncPlan layer).map Prod.snd

/-- Whether the words of a task would have to spell an integer beyond the limit on
digits. -/
def HoldsLongInteger (c : Client) : Task → Prop
  | .operation op => op.holdsLongInteger = true
  | .sync layer => ∃ config n, c.resolve layer = .ok config ∧
      config.settings .batchCommits = .int n ∧ 0 < n ∧ Number.tooLong n = true

/-- Whether the containers of the payload of a task have room inside one another. -/
def HasRoom (c : Client) : Task → Prop
  | .operation op => op.depth ≤ c.room
  | .sync _ => True

theorem plan_operation (c : Client) {op : Operation} {words : Command.Vector}
    (h : op.words c.room = .ok words) :
    c.plan (.operation op) = .ok (c.vector words op.writes op.model?.isSome) := by
  rw [plan, operationVector, h]
  rfl

theorem syncPlan_of_plan_eq_ok {c : Client} {layer : Index.Layer} {args : Command.Vector}
    (h : c.plan (.sync layer) = .ok args) : ∃ config, c.syncPlan layer = .ok (config, args) := by
  rw [plan] at h
  cases hsync : c.syncPlan layer with
  | error failure =>
      rw [hsync] at h
      cases h
  | ok planned =>
      rw [hsync] at h
      exact ⟨planned.1, congrArg Except.ok (Prod.ext rfl (Except.ok.inj h))⟩

theorem syncPlan_of_plan_eq_error {c : Client} {layer : Index.Layer} {failure : Failure}
    (h : c.plan (.sync layer) = .error failure) : c.syncPlan layer = .error failure := by
  rw [plan] at h
  cases hsync : c.syncPlan layer with
  | ok planned =>
      rw [hsync] at h
      cases h
  | error f =>
      rw [hsync] at h
      exact congrArg Except.error (Except.error.inj h)

theorem syncPlan_cases {c : Client} (hindex : c.index.Made) {layer : Index.Layer}
    (hlayer : layer.Typed) :
    (¬ c.HoldsLongInteger (.sync layer) ∧ ∃ config ws,
      c.syncPlan layer = .ok (config, Command.words ws)) ∨
    (¬ c.HoldsLongInteger (.sync layer) ∧ ∃ message field value,
      c.syncPlan layer = .error (.ledger (.configuration message field value))) ∨
    (c.HoldsLongInteger (.sync layer) ∧ c.syncPlan layer = .error (.fault .tooManyDigits)) := by
  rcases Index.Config.resolve_cases hindex hlayer with ⟨message, field, value, hresolve⟩ | hresolve
  · have hresolve : c.resolve layer = .error (.ledger (.configuration message field value)) :=
      hresolve
    refine .inr (.inl ⟨?_, message, field, value, by rw [syncPlan, hresolve]; rfl⟩)
    rintro ⟨config, n, hother, -⟩
    rw [hresolve] at hother
    cases hother
  · have hresolve : c.resolve layer = .ok ⟨c.settingsFor layer⟩ := hresolve
    have hlong : c.HoldsLongInteger (.sync layer) ↔ ∃ n,
        c.settingsFor layer .batchCommits = .int n ∧ 0 < n ∧ Number.tooLong n = true := by
      simp [HoldsLongInteger, hresolve]
    have hfilled : (Index.Config.mk (c.settingsFor layer)).settings.Filled :=
      hindex.filled.overlay hlayer.given
    have hplan : c.syncPlan layer = (do
        let words ← Command.index .sync ⟨c.settingsFor layer⟩
        return (⟨c.settingsFor layer⟩, Command.base (.text c.repo) true false true ++ words)) := by
      rw [syncPlan, hresolve]
      simp only [bind, Except.bind, indexVector]
      cases Command.index .sync ⟨c.settingsFor layer⟩ <;> rfl
    rw [hlong]
    rcases Command.index_sync_cases hfilled with ⟨hlong, hindexed⟩ | ⟨hshort, args, hindexed, hargs⟩
    · exact .inr (.inr ⟨hlong, by rw [hplan, hindexed]; rfl⟩)
    · obtain ⟨ws, hws⟩ := (Command.isWords_base c.repo true false true).append hargs
      exact .inl ⟨hshort, _, ws, by rw [hplan, hindexed, ← hws]; rfl⟩

/-- A typed task has a vector of words, or is refused with a configuration error, or
has an integer beyond the limit, or no room. -/
theorem plan_cases {c : Client} (hindex : c.index.Made) {task : Task} (htask : task.Typed) :
    (¬ c.HoldsLongInteger task ∧ c.HasRoom task ∧ ∃ ws, c.plan task = .ok (Command.words ws)) ∨
    (¬ c.HoldsLongInteger task ∧ c.HasRoom task ∧ ∃ message field value,
      c.plan task = .error (.ledger (.configuration message field value))) ∨
    (c.HoldsLongInteger task ∧ c.plan task = .error (.fault .tooManyDigits)) ∨
    (¬ c.HasRoom task ∧ ∃ f, c.plan task = .error (.fault f)) := by
  cases htask with
  | @operation op hop =>
      rw [HoldsLongInteger, Bool.not_eq_true]
      rcases Operation.words_cases hop c.room with ⟨⟨hshort, hroom⟩, args, hwords⟩ |
        ⟨⟨hshort, hroom⟩, -, message, field, value, hwords⟩ | ⟨-, fault, hobstructs, hwords⟩
      · obtain ⟨ws, hws⟩ := (Command.isWords_base c.repo op.model?.isSome op.writes
          c.autoSync.truthy).append (Operation.isWords hop hwords)
        exact .inl ⟨hshort, hroom, ws, by rw [plan_operation c hwords, ← hws]; rfl⟩
      · exact .inr (.inl ⟨hshort, hroom, message, field, value,
          by rw [plan, operationVector, hwords]; rfl⟩)
      · have hplan : c.plan (.operation op) = .error (.fault fault) := by
          rw [plan, operationVector, hwords]
          rfl
        cases hobstructs with
        | digits hlong => exact .inr (.inr (.inl ⟨hlong, hplan⟩))
        | depth hdeep => exact .inr (.inr (.inr ⟨Nat.not_le.mpr hdeep, _, hplan⟩))
  | sync hlayer =>
      rcases syncPlan_cases hindex hlayer with ⟨hshort, config, ws, hplan⟩ |
        ⟨hshort, message, field, value, hplan⟩ | ⟨hlong, hplan⟩
      · exact .inl ⟨hshort, trivial, ws, by rw [plan, hplan]; rfl⟩
      · exact .inr (.inl ⟨hshort, trivial, message, field, value, by rw [plan, hplan]; rfl⟩)
      · exact .inr (.inr (.inl ⟨hlong, by rw [plan, hplan]; rfl⟩))

/-- A payload that cannot be encoded. -/
def Unencodable (payload : Value) : Prop :=
  ∀ field text, Command.payloadText field payload ≠ .ok text

theorem plan_of_unencodable (c : Client) {task : Task} {payload : Value}
    (hpayload : task.payload? = some payload) (hbad : Unencodable payload)
    (hshort : payload.overlong = false) (hroom : c.HasRoom task) : ∃ message field value,
      c.plan task = .error (.ledger (.configuration message field value)) := by
  have hrefused (field : String) (hfits : Room.Fits (some c.room) payload.depth) :
      ∃ message, Command.payloadWithin (some c.room) field payload =
        .error (.ledger (.configuration message (some field) payload)) := by
    rcases Command.payloadWithin_cases (some c.room) field payload with ⟨-, -, text, htext⟩ |
      ⟨-, -, hmessage⟩ | ⟨fault, hobstructs, -⟩
    · exact absurd (Command.payloadText_of_payloadWithin htext field) (hbad field text)
    · exact hmessage
    · exact absurd hobstructs (Value.not_obstructs_of_fits hshort hfits fault)
  cases task with
  | sync layer => cases hpayload
  | operation op =>
      cases op with
      | put collection docId given =>
          obtain rfl : given = payload := Option.some.inj hpayload
          obtain ⟨message, herror⟩ := hrefused "payload" hroom
          exact ⟨message, _, _, by rw [plan, operationVector, Operation.words, herror]; rfl⟩
      | patch collection docId given =>
          obtain rfl : given = payload := Option.some.inj hpayload
          obtain ⟨message, herror⟩ := hrefused "ops" hroom
          exact ⟨message, _, _, by rw [plan, operationVector, Operation.words, herror]; rfl⟩
      | _ => cases hpayload

end Client

end DocLedger
