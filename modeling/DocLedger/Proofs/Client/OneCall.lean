import DocLedger.Client.Basic
import DocLedger.Proofs.Client.ReadBack
import DocLedger.Proofs.Engine.Calls

/-!
# One call for each operation

A client refuses an operation before anything happens, or it calls the engine once
with a vector from which the operation can be read back.  An integer beyond the
limit on digits is neither sent nor refused: the call ends in a fault, for the
error about it would have to quote it.  So it does where the containers of a payload
have no room inside one another.
-/

namespace DocLedger

open Client (bind_eq_ok)
open Engine (Action Call Scene)

namespace Operation

/-- Whether an operation puts an integer beyond the limit on digits into its
words. -/
def holdsLongInteger : Operation → Bool
  | put _ _ payload => payload.overlong
  | patch _ _ ops => ops.overlong
  | snapshot threshold most _ => threshold.overlong || most.overlong
  | _ => false

/-- How many containers stand inside one another in the payload of an operation. -/
def depth : Operation → Nat
  | put _ _ payload => payload.depth
  | patch _ _ ops => ops.depth
  | _ => 0

/-- A fault says what keeps the words of an operation, and the error about them, from
being written. -/
inductive Obstructs (op : Operation) (room : Nat) : Fault → Prop
  | digits (hlong : op.holdsLongInteger = true) : Obstructs op room .tooManyDigits
  | depth (hdeep : room < op.depth) (doing : String) : Obstructs op room (.tooDeep doing)

variable {room : Nat}

theorem Obstructs.of_payload {op : Operation} {payload : Value} {fault : Fault}
    (hlong : op.holdsLongInteger = payload.overlong) (hdepth : op.depth = payload.depth)
    (h : payload.Obstructs (some room) fault) : op.Obstructs room fault := by
  cases h with
  | digits h => exact .digits (hlong.trans h)
  | depth hdeep doing => exact .depth (hdepth ▸ Nat.not_le.mp hdeep) doing

/-! ## The words of an operation -/

/-- Every operation begins with one of the words that the engine knows. -/
theorem exists_firstWord {op : Operation} {words : Command.Vector}
    (h : op.words room = .ok words) :
    ∃ word rest, words = .text word :: rest ∧
      word ∈ ["doc", "push", "status", "collection", "integrity", "maintenance"] := by
  cases op with
  | get | delete | log | revert | push | status | verify | gc =>
      cases h
      exact ⟨_, _, rfl, by decide⟩
  | put | patch =>
      obtain ⟨text, -, h⟩ := bind_eq_ok h
      cases h
      exact ⟨_, _, rfl, by decide⟩
  | applyCollection name schema indexes =>
      obtain ⟨-, -, h⟩ := bind_eq_ok h
      have h := mapError_eq_ok h
      rw [Command.applyCollection] at h
      split at h
      · obtain ⟨items, -, h⟩ := bind_eq_ok h
        obtain ⟨names, -, h⟩ := bind_eq_ok h
        cases h
        exact ⟨_, _, rfl, by decide⟩
      · cases h
        exact ⟨_, _, rfl, by decide⟩
  | snapshot threshold most dryRun =>
      obtain ⟨limits, -, h⟩ := bind_eq_ok (mapError_eq_ok h)
      obtain ⟨bounds, -, h⟩ := bind_eq_ok h
      cases h
      exact ⟨_, _, rfl, by decide⟩

theorem notFlagged_words {op : Operation} {words : Command.Vector}
    (h : op.words room = .ok words) {flag : String}
    (hflag : flag ∈ ["--json", "--sync=false"]) : NotFlagged flag words := by
  obtain ⟨word, rest, rfl, hword⟩ := exists_firstWord h
  intro tail heq
  obtain rfl : word = flag := Value.text.inj (List.cons.inj heq).1
  have hdisjoint : ∀ w ∈ ["doc", "push", "status", "collection", "integrity", "maintenance"],
      w ∉ ["--json", "--sync=false"] := by decide
  exact hdisjoint word hword hflag

theorem filledFlag_filled (flag : String) (v : Value) :
    Command.filledFlag flag (filled v) = Command.filledFlag flag v := by
  unfold filled
  split
  · rfl
  · next h =>
      rw [Command.filledFlag, Command.filledFlag, if_neg h]
      rfl

theorem words_canonical {op : Operation} (hop : op.Typed) {words : Command.Vector}
    (h : op.words room = .ok words) : op.canonical.words room = .ok words := by
  cases hop with
  | get | delete | log | push | status | verify | snapshot => exact h
  | put | patch =>
      obtain ⟨text, htext, h⟩ := bind_eq_ok h
      rw [canonical, payloadAsText_eq htext]
      exact h
  | revert collection docId hid hhash =>
      rw [← h, canonical, Operation.words, Operation.words, Command.revert, Command.revert,
        filledFlag_filled, filledFlag_filled]
  | gc hprune => rw [← h, canonical, Operation.words, Operation.words, Command.gc, Command.gc,
      filledFlag_filled]
  | applyCollection name schema hindexes =>
      obtain ⟨checked, hschema, h⟩ := bind_eq_ok h
      rw [canonical, Operation.words, hschema, applyCollection_joinedNames _ _ hindexes]
      exact h

theorem writes_canonical (op : Operation) : op.canonical.writes = op.writes := by
  cases op <;> rfl

theorem model?_canonical (op : Operation) : op.canonical.model? = op.model? := by
  cases op <;> rfl

theorem checkSchema_cases (schema : String) :
    checkSchema (.text schema) = .ok () ∨
    checkSchema (.text schema) = .error (.ledger
      (.configuration "collection schema path is required" (some "schema") .null)) := by
  simp only [checkSchema]
  split
  · exact .inr rfl
  · split
    · exact .inr rfl
    · exact .inl rfl

theorem exists_applyCollection (name schema : Value) {indexes : Value}
    (hindexes : OptionalNames indexes) :
    ∃ words, Command.applyCollection name schema indexes = .ok words := by
  rw [← applyCollection_joinedNames name schema hindexes]
  rcases joinedNames_cases indexes with hnone | ⟨text, hone⟩
  · exact ⟨_, by rw [hnone]; rfl⟩
  · exact ⟨_, by rw [hone]; rfl⟩

theorem valueFlag_cases (flag : String) (v : Value) :
    (v.overlong = false ∧ ∃ words, Command.valueFlag flag v = .ok words) ∨
    (v.overlong = true ∧ Command.valueFlag flag v = .error .tooManyDigits) := by
  rw [Command.valueFlag, Value.spelled]
  cases hnull : v.isNull with
  | true =>
      have hshort : v.overlong = false := by
        cases v with
        | null => rfl
        | _ => cases hnull
      exact .inl ⟨hshort, _, rfl⟩
  | false =>
      cases v.overlong with
      | false => exact .inl ⟨rfl, _, rfl⟩
      | true => exact .inr ⟨rfl, rfl⟩

/-- Whether an operation can be written in so much room, or an error about it. -/
def IsWritable (op : Operation) (room : Nat) : Prop :=
  op.holdsLongInteger = false ∧ op.depth ≤ room

theorem Obstructs.not_isWritable {op : Operation} {fault : Fault} (h : op.Obstructs room fault) :
    ¬ op.IsWritable room := by
  rintro ⟨hshort, hfits⟩
  cases h with
  | digits hlong => exact Bool.false_ne_true (hshort.symm.trans hlong)
  | depth hdeep => exact Nat.not_lt.mpr hfits hdeep

/-- A typed operation has words, or is refused, or something keeps it from being
written at all. -/
theorem words_cases {op : Operation} (hop : op.Typed) (room : Nat) :
    (op.IsWritable room ∧ ∃ words, op.words room = .ok words) ∨
    (op.IsWritable room ∧ op.warning? = none ∧ ∃ message field value,
      op.words room = .error (.ledger (.configuration message field value))) ∨
    (op.warning? = none ∧ ∃ fault, op.Obstructs room fault ∧
      op.words room = .error (.fault fault)) := by
  cases hop with
  | get | delete | log | revert | push | status | verify | gc =>
      exact .inl ⟨⟨rfl, Nat.zero_le _⟩, _, rfl⟩
  | put collection docId payload =>
      rcases Command.payloadWithin_cases (some room) "payload" payload with
        ⟨hshort, hfits, text, htext⟩ | ⟨hshort, hfits, message, herror⟩ |
        ⟨fault, hobstructs, herror⟩
      · exact .inl ⟨⟨hshort, hfits⟩, _, by rw [words, htext]; rfl⟩
      · exact .inr (.inl ⟨⟨hshort, hfits⟩, rfl, _, _, _, by rw [words, herror]; rfl⟩)
      · exact .inr (.inr ⟨rfl, fault, .of_payload rfl rfl hobstructs, by rw [words, herror]; rfl⟩)
  | patch collection docId ops =>
      rcases Command.payloadWithin_cases (some room) "ops" ops with
        ⟨hshort, hfits, text, htext⟩ | ⟨hshort, hfits, message, herror⟩ |
        ⟨fault, hobstructs, herror⟩
      · exact .inl ⟨⟨hshort, hfits⟩, _, by rw [words, htext]; rfl⟩
      · exact .inr (.inl ⟨⟨hshort, hfits⟩, rfl, _, _, _, by rw [words, herror]; rfl⟩)
      · exact .inr (.inr ⟨rfl, fault, .of_payload rfl rfl hobstructs, by rw [words, herror]; rfl⟩)
  | @applyCollection name schema indexes hindexes =>
      have hwritable : (applyCollection (.text name) (.text schema) indexes).IsWritable room :=
        ⟨rfl, Nat.zero_le _⟩
      rcases checkSchema_cases schema with hschema | hschema
      · obtain ⟨applied, hwords⟩ := exists_applyCollection (.text name) (.text schema) hindexes
        exact .inl ⟨hwritable, applied, by rw [words, hschema, hwords]; rfl⟩
      · exact .inr (.inl ⟨hwritable, rfl, _, _, _, by rw [words, hschema]; rfl⟩)
  | @snapshot threshold most hthreshold hmost dryRun =>
      rw [words, Command.snapshot]
      rcases valueFlag_cases "--threshold" threshold with ⟨hshort, limits, hlimits⟩ |
        ⟨hlong, herror⟩
      · rcases valueFlag_cases "--max" most with ⟨hshort', bounds, hbounds⟩ | ⟨hlong, herror⟩
        · exact .inl ⟨⟨by rw [holdsLongInteger, hshort, hshort']; rfl, Nat.zero_le _⟩, _,
            by rw [hlimits, hbounds]; rfl⟩
        · exact .inr (.inr ⟨rfl, _, .digits (by rw [holdsLongInteger, hshort, hlong]; rfl),
            by rw [hlimits, herror]; rfl⟩)
      · exact .inr (.inr ⟨rfl, _, .digits (by rw [holdsLongInteger, hlong]; rfl),
          by rw [herror]; rfl⟩)

end Operation

namespace Client

/-- The words behind a flag, or all of them when they do not begin with it. -/
def behindFlag (flag : String) : Command.Vector → Command.Vector
  | .text word :: rest => if word == flag then rest else .text word :: rest
  | words => words

/-- The operation that an argument vector asks for. -/
def operationOf? (args : Command.Vector) : Option Operation :=
  Operation.ofWords? (behindFlag "--sync=false" (behindFlag "--json" (args.drop 2)))

/-- Carrying out an operation calls the engine once, with an argument vector. -/
def CallsOnce (c : Client) (op : Operation) (s : Scene) (args : Command.Vector) : Prop :=
  ((c.perform op).runIn s).2.calls = s.calls ++ [⟨c.invocation args, none⟩]

theorem behindFlag_flagIf {flag : String} {words : Command.Vector}
    (h : Operation.NotFlagged flag words) (given : Bool) :
    behindFlag flag (Command.flagIf given flag ++ words) = words := by
  cases given with
  | true => simp [Command.flagIf, Command.words, behindFlag]
  | false =>
      change behindFlag flag words = words
      rw [behindFlag.eq_def]
      split
      · next word rest =>
          have hother : word ≠ flag := fun heq => h rest (by rw [heq])
          simp [hother]
      · rfl

/-- The vector of an operation asks for the operation. -/
theorem operationOf?_vector (c : Client) {op : Operation} (hop : op.Typed)
    {room : Nat} {words : Command.Vector} (hwords : op.words room = .ok words)
    (write json : Bool) :
    operationOf? (c.vector words write json) = some op.canonical := by
  have hsync : Operation.NotFlagged "--sync=false" words :=
    Operation.notFlagged_words hwords (by decide)
  have hjson : Operation.NotFlagged "--json"
      (Command.flagIf (write && !c.autoSync.truthy) "--sync=false" ++ words) := by
    cases write && !c.autoSync.truthy with
    | true => exact fun rest heq => absurd (Value.text.inj (List.cons.inj heq).1) (by decide)
    | false => exact Operation.notFlagged_words hwords (by decide)
  have hdrop : (c.vector words write json).drop 2 = Command.flagIf json "--json" ++
      (Command.flagIf (write && !c.autoSync.truthy) "--sync=false" ++ words) := by
    simp [vector, Command.base]
  rw [operationOf?, hdrop, behindFlag_flagIf hjson, behindFlag_flagIf hsync,
    Operation.ofWords?_words hop hwords]

theorem operationVector_canonical (c : Client) {op : Operation} (hop : op.Typed)
    {words : Command.Vector} (hwords : op.words c.room = .ok words) :
    c.operationVector op.canonical = c.operationVector op := by
  rw [operationVector, operationVector, Operation.words_canonical hop hwords, hwords,
    Operation.writes_canonical, Operation.model?_canonical]

/-! ## Carrying out an operation -/

theorem runIn_perform_of_error (c : Client) {op : Operation} {failure : Failure}
    (hquiet : op.warning? = none) (hwords : op.words c.room = .error failure) (s : Scene) :
    (c.perform op).runIn s = (.error failure, s) := by
  have hvector : c.operationVector op = .error failure := by
    rw [operationVector, hwords]
    rfl
  rw [perform, hquiet, hvector]
  rfl

theorem callsOnce_of_words (c : Client) (hrecords : c.transport.Records) {op : Operation}
    {words : Command.Vector} (hwords : op.words c.room = .ok words) (s : Scene) :
    c.CallsOnce op s (c.vector words op.writes op.model?.isSome) := by
  have hvector : c.operationVector op = .ok (c.vector words op.writes op.model?.isSome) := by
    rw [operationVector, hwords]
    rfl
  have hrun (s : Scene) : ((do
      let run ← c.transport.run (c.invocation (c.vector words op.writes op.model?.isSome))
      Action.ofExcept (decode op run) : Action Answer).runIn s).2.calls =
        s.calls ++ [⟨c.invocation (c.vector words op.writes op.model?.isSome), none⟩] := by
    rw [← hrecords.run_calls, Action.runIn_bind]
    rcases (c.transport.run _).runIn s with ⟨failure | run, s'⟩
    · rfl
    · simp only [Action.runIn_ofExcept]
  rw [CallsOnce, perform, hvector]
  cases op.warning? with
  | none => exact hrun s
  | some warning =>
      exact hrun { s with journal := s.journal.log (.note Log.warning logger warning) }

/-- A client whose transport keeps account of its calls refuses a typed operation
and leaves everything as it was, or calls the engine once.  The vector names the
repository, asks for JSON just in case a report answers the operation, and leaves
out the exchange with the remote just in case the operation writes and the client
was made so; the words of the operation follow.  Two operations have one vector
just in case they have one form.  Only an operation that cannot be written, for an
integer beyond the limit on digits or for want of room, is neither refused nor sent;
it too leaves everything as it was. -/
theorem perform_callsOnce (c : Client) (hrecords : c.transport.Records) :
    (∀ op : Operation, op.Typed → ∀ s : Scene,
      if op.holdsLongInteger ∨ c.room < op.depth then
        ∃ fault, op.Obstructs c.room fault ∧ (c.perform op).runIn s = (.error (.fault fault), s)
      else
        (∃ message field value, (c.perform op).runIn s =
          (.error (.ledger (.configuration message field value)), s)) ∨
        ∃ words, op.words c.room = .ok words ∧
          c.CallsOnce op s ([.text "--repo", .text c.repo] ++
            Command.flagIf op.model?.isSome "--json" ++
            Command.flagIf (op.writes && !c.autoSync.truthy) "--sync=false" ++ words)) ∧
    ∀ op op' : Operation, op.Typed → op'.Typed → ∀ s s' args args',
      c.CallsOnce op s args → c.CallsOnce op' s' args' →
        (args = args' ↔ op.canonical = op'.canonical) := by
  have hvector {op : Operation} (hop : op.Typed) {s : Scene} {args : Command.Vector}
      (hcalls : c.CallsOnce op s args) :
      ∃ words, op.words c.room = .ok words ∧
        args = c.vector words op.writes op.model?.isSome := by
    rcases Operation.words_cases hop c.room with ⟨-, words, hwords⟩ |
      ⟨-, hquiet, _, _, _, hwords⟩ | ⟨hquiet, _, -, hwords⟩
    · refine ⟨words, hwords, ?_⟩
      have hsame := hcalls.symm.trans (callsOnce_of_words c hrecords hwords s)
      have hcall := List.singleton_inj.mp (List.append_cancel_left hsame)
      injection hcall with hinv
      injection hinv
    · rw [CallsOnce, runIn_perform_of_error c hquiet hwords] at hcalls
      simp at hcalls
    · rw [CallsOnce, runIn_perform_of_error c hquiet hwords] at hcalls
      simp at hcalls
  have hwritable {op : Operation} (h : op.IsWritable c.room) :
      ¬ (op.holdsLongInteger = true ∨ c.room < op.depth) := by
    rintro (hlong | hdeep)
    · exact (Operation.Obstructs.digits hlong).not_isWritable h
    · exact Nat.not_lt.mpr h.2 hdeep
  refine ⟨?_, ?_⟩
  · intro op hop s
    rcases Operation.words_cases hop c.room with ⟨hwrite, words, hwords⟩ |
      ⟨hwrite, hquiet, message, field, value, hwords⟩ | ⟨hquiet, fault, hobstructs, hwords⟩
    · rw [if_neg (hwritable hwrite)]
      exact .inr ⟨words, hwords, callsOnce_of_words c hrecords hwords s⟩
    · rw [if_neg (hwritable hwrite)]
      exact .inl ⟨message, field, value, runIn_perform_of_error c hquiet hwords s⟩
    · have hcondition : op.holdsLongInteger = true ∨ c.room < op.depth := by
        cases hobstructs with
        | digits hlong => exact .inl hlong
        | depth hdeep => exact .inr hdeep
      rw [if_pos hcondition]
      exact ⟨fault, hobstructs, runIn_perform_of_error c hquiet hwords s⟩
  · intro op op' hop hop' s s' args args' hcalls hcalls'
    obtain ⟨words, hwords, rfl⟩ := hvector hop hcalls
    obtain ⟨words', hwords', rfl⟩ := hvector hop' hcalls'
    constructor
    · intro hsame
      have hread := operationOf?_vector c hop hwords op.writes op.model?.isSome
      rw [hsame, operationOf?_vector c hop' hwords'] at hread
      exact (Option.some.inj hread).symm
    · intro hform
      have hsame := operationVector_canonical c hop hwords
      rw [hform, operationVector_canonical c hop' hwords', operationVector, operationVector,
        hwords, hwords'] at hsame
      exact (Except.ok.inj hsame).symm

/-- A document whose name spells flags is deleted by one call, which no other
operation makes.  A payload with an integer beyond the limit is neither sent nor
refused, and neither is one of three lists where there is room for two. -/
theorem perform_callsOnce_spelled_flags :
    let c : Client := ⟨"--json", .scripted "engine", .bool false, [], ⟨Index.Setting.standard⟩, 2⟩
    let removal : Operation := .delete (.text "--sync=false") (.text "--tx-hash")
    let args := Command.words
      ["--repo", "--json", "--json", "--sync=false", "doc", "delete", "--sync=false", "--tx-hash"]
    c.transport.Records ∧ removal.Typed ∧ c.CallsOnce removal .fresh args ∧
      (∀ (collection docId txId : String) (s : Scene),
        ¬ c.CallsOnce (.revert (.text collection) (.text docId) (.text txId) .null) s args) ∧
      (c.perform (.put (.text "c") (.text "d")
          (.int (Nat.pow 10 Number.digitLimit)))).runIn .fresh =
        (.error (.fault .tooManyDigits), .fresh) ∧
      ∃ doing, (c.perform (.put (.text "c") (.text "d")
          (.list [.list [.list [.set []]]]))).runIn .fresh =
        (.error (.fault (.tooDeep doing)), .fresh) := by
  intro c removal args
  have hrecords : c.transport.Records := Engine.records_scripted "engine"
  have hremoval : removal.Typed := .delete "--sync=false" "--tx-hash"
  obtain ⟨houtcome, hform⟩ := perform_callsOnce c hrecords
  have hcalls : c.CallsOnce removal .fresh args := callsOnce_of_words c hrecords rfl .fresh
  refine ⟨hrecords, hremoval, hcalls, ?_, ?_, ?_⟩
  · intro collection docId txId s hother
    have hrevert : (Operation.revert (.text collection) (.text docId) (.text txId) .null).Typed :=
      .revert collection docId (.text txId) .null
    have hsame := (hform _ _ hremoval hrevert .fresh s args args hcalls hother).mp rfl
    cases hsame
  · have hput {payload : Value} (hlong : payload.overlong = true) (hflat : payload.depth = 0) :
        (c.perform (.put (.text "c") (.text "d") payload)).runIn .fresh =
          (.error (.fault .tooManyDigits), .fresh) := by
      have houtcome := houtcome (.put (.text "c") (.text "d") payload) (.put "c" "d" payload) .fresh
      rw [if_pos (.inl hlong)] at houtcome
      obtain ⟨fault, hobstructs, hrun⟩ := houtcome
      cases hobstructs with
      | digits => exact hrun
      | depth hdeep =>
          rw [Operation.depth, hflat] at hdeep
          cases hdeep
    exact hput (by rw [Value.overlong, Number.tooLong_ten_pow]) rfl
  · have houtcome := houtcome _ (.put "c" "d" (.list [.list [.list [.set []]]])) .fresh
    rw [if_pos (.inr (by decide))] at houtcome
    obtain ⟨fault, hobstructs, hrun⟩ := houtcome
    cases hobstructs with
    | digits hlong => cases hlong
    | depth hdeep doing => exact ⟨doing, hrun⟩

end Client

end DocLedger
