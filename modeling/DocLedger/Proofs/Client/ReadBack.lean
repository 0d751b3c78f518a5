import DocLedger.Client.Operation
import DocLedger.Proofs.Client.SameFiles
import DocLedger.Proofs.Command.Payload
import DocLedger.Proofs.Number.Digits
import DocLedger.Proofs.Value.Stored

/-!
# Operations read back from their words

The words of an operation tell which operation it is and what its arguments are,
whatever the texts in them spell: a flag only counts where the words of the
operation can have one.  What the words do not tell is brought into one form: an
empty selection is left out, a payload is its text, and the names of indexes are
one text.
-/

namespace DocLedger.Operation

/-- A text, or nothing. -/
inductive OptionalText : Value → Prop
  | null : OptionalText .null
  | text (s : String) : OptionalText (.text s)

/-- An integer, or nothing; truth values are integers too. -/
inductive OptionalInteger : Value → Prop
  | null : OptionalInteger .null
  | bool (b : Bool) : OptionalInteger (.bool b)
  | int (n : Int) : OptionalInteger (.int n)

/-- Some names in order, or nothing. -/
inductive OptionalNames : Value → Prop
  | null : OptionalNames .null
  | list (names : List String) : OptionalNames (.list (names.map .text))
  | tuple (names : List String) : OptionalNames (.tuple (names.map .text))

/-- The operations whose arguments are of the kinds that they ask for.  A payload
may be any value. -/
inductive Typed : Operation → Prop
  | get (collection docId : String) : Typed (.get (.text collection) (.text docId))
  | put (collection docId : String) (payload : Value) :
      Typed (.put (.text collection) (.text docId) payload)
  | patch (collection docId : String) (ops : Value) :
      Typed (.patch (.text collection) (.text docId) ops)
  | delete (collection docId : String) : Typed (.delete (.text collection) (.text docId))
  | log (collection docId : String) : Typed (.log (.text collection) (.text docId))
  | revert (collection docId : String) {txId txHash : Value} (hid : OptionalText txId)
      (hhash : OptionalText txHash) :
      Typed (.revert (.text collection) (.text docId) txId txHash)
  | push : Typed .push
  | status : Typed .status
  | applyCollection (name schema : String) {indexes : Value} (hindexes : OptionalNames indexes) :
      Typed (.applyCollection (.text name) (.text schema) indexes)
  | verify (deep : Bool) : Typed (.verify deep)
  | gc {prune : Value} (hprune : OptionalText prune) : Typed (.gc prune)
  | snapshot {threshold most : Value} (hthreshold : OptionalInteger threshold)
      (hmost : OptionalInteger most) (dryRun : Bool) : Typed (.snapshot threshold most dryRun)

/-! ## One form of an operation -/

/-- A selection, or nothing when it is empty. -/
def filled (v : Value) : Value :=
  if v.truthy then v else .null

/-- A payload as its text, when it has one. -/
def payloadAsText (v : Value) : Value :=
  match Command.payloadText "payload" v with
  | .ok text => .text text
  | .error _ => v

/-- Names as one text, or nothing when there are none. -/
def joinedNames (v : Value) : Value :=
  match Command.joinItems v >>= Command.itemTexts with
  | .ok [] => .null
  | .ok names => .list [.text (Text.joined "," names)]
  | .error _ => .null

/-- The operation without what its words do not tell. -/
def canonical : Operation → Operation
  | put collection docId payload => put collection docId (payloadAsText payload)
  | patch collection docId ops => patch collection docId (payloadAsText ops)
  | revert collection docId txId txHash => revert collection docId (filled txId) (filled txHash)
  | applyCollection name schema indexes => applyCollection name schema (joinedNames indexes)
  | gc prune => gc (filled prune)
  | op => op

/-! ## Reading words -/

/-- The argument of a flag in front of some words, and the words behind it.  Words
that start otherwise stay, and the argument is null. -/
def takeFlag (flag : String) : Command.Vector → Value × Command.Vector
  | .text word :: v :: rest =>
    if word == flag then (v, rest) else (.null, .text word :: v :: rest)
  | words => (.null, words)

/-- The integer that a sign and digits write. -/
def integerOf (s : String) : Int :=
  let (negative, digits) := Number.spanSign s.toList
  let n := Int.ofNat (Number.digitsValue digits)
  if negative then -n else n

def limitOf : Value → Value
  | .text "True" => .bool true
  | .text "False" => .bool false
  | .text s => .int (integerOf s)
  | v => v

def ofDocumentWords? (action collection docId : Value) (extra : Command.Vector) :
    Option Operation :=
  match action, extra with
  | .text "get", [] => some (get collection docId)
  | .text "put", [.text "--payload", text] => some (put collection docId text)
  | .text "patch", [.text "--ops", text] => some (patch collection docId text)
  | .text "delete", [] => some (delete collection docId)
  | .text "log", [] => some (log collection docId)
  | .text "revert", selectors =>
    let (txId, others) := takeFlag "--tx-id" selectors
    some (revert collection docId txId (takeFlag "--tx-hash" others).1)
  | _, _ => none

def ofWords? : Command.Vector → Option Operation
  | [.text "push"] => some push
  | [.text "status"] => some status
  | .text "doc" :: action :: collection :: docId :: extra =>
    ofDocumentWords? action collection docId extra
  | .text "collection" :: .text "apply" :: name :: .text "--schema" :: schema :: indexes =>
    match takeFlag "--indexes" indexes with
    | (.null, _) => some (applyCollection name schema .null)
    | (names, _) => some (applyCollection name schema (.list [names]))
  | .text "integrity" :: .text "verify" :: flags => some (verify !flags.isEmpty)
  | .text "maintenance" :: .text "gc" :: flags => some (gc (takeFlag "--prune" flags).1)
  | .text "maintenance" :: .text "snapshot" :: flags =>
    let (threshold, others) := takeFlag "--threshold" flags
    let (most, others) := takeFlag "--max" others
    some (snapshot (limitOf threshold) (limitOf most) !others.isEmpty)
  | _ => none

/-! ## Reading what was written -/

open Client (bind_eq_ok)

theorem mapError_eq_ok {α ε ε' : Type} {f : ε → ε'} {x : Except ε α} {a : α}
    (h : x.mapError f = .ok a) : x = .ok a := by
  cases x with
  | error e => cases h
  | ok b =>
      cases h
      rfl

/-- Words that do not begin with a flag. -/
def NotFlagged (flag : String) (words : Command.Vector) : Prop :=
  ∀ rest, words ≠ .text flag :: rest

theorem takeFlag_of_notFlagged {flag : String} {words : Command.Vector}
    (h : NotFlagged flag words) : takeFlag flag words = (.null, words) := by
  rw [takeFlag.eq_def]
  split
  · next word v rest =>
      have hother : word ≠ flag := fun heq => h _ (by rw [heq])
      simp [hother]
  · rfl

/-- A selection is read back from its flag, whatever it spells. -/
theorem takeFlag_filledFlag {flag : String} {v : Value} (hv : OptionalText v)
    {rest : Command.Vector} (hrest : NotFlagged flag rest) :
    takeFlag flag (Command.filledFlag flag v ++ rest) = (filled v, rest) := by
  unfold Command.filledFlag filled
  split
  · cases hv with
    | null => contradiction
    | text s => simp [takeFlag]
  · exact takeFlag_of_notFlagged hrest

theorem takeFlag_filledFlag_alone {flag : String} {v : Value} (hv : OptionalText v) :
    takeFlag flag (Command.filledFlag flag v) = (filled v, []) := by
  have hnone : NotFlagged flag [] := nofun
  have h := takeFlag_filledFlag hv hnone
  rwa [List.append_nil] at h

theorem notFlagged_filledFlag {flag other : String} (hother : other ≠ flag) {v : Value} :
    NotFlagged flag (Command.filledFlag other v) := by
  intro rest heq
  rw [Command.filledFlag] at heq
  split at heq
  · exact hother (Value.text.inj (List.cons.inj heq).1)
  · cases heq

theorem integerOf_intDigits (n : Int) :
    integerOf (String.ofList (Number.intDigits n)) = n := by
  simp only [integerOf, String.toList_ofList, Number.spanSign_intDigits,
    Number.digitsValue_natDigits]
  by_cases hn : n < 0
  · simp only [hn, decide_true, ↓reduceIte, Int.ofNat_eq_natCast]
    omega
  · simp only [hn, decide_false, Bool.false_eq_true, ↓reduceIte, Int.ofNat_eq_natCast]
    omega

theorem limitOf_plain {v : Value} (hv : OptionalInteger v) (hsome : v.isNull = false) :
    limitOf (.text v.plain) = v := by
  cases hv with
  | null => cases hsome
  | bool b => cases b <;> rfl
  | int n =>
      have hplain : (Value.int n).plain = String.ofList (Number.intDigits n) := rfl
      -- no integer begins with the letter of a truth value
      have hletter {s : String} {c : Char} {rest : List Char} (hs : s.toList = c :: rest)
          (hc : c ≠ '-') (hdigit : c.isDigit = false) :
          Value.text (String.ofList (Number.intDigits n)) ≠ .text s := by
        intro heq
        have hchars := congrArg String.toList (Value.text.inj heq)
        rw [String.toList_ofList, hs] at hchars
        have hmem : c ∈ Number.intDigits n := hchars ▸ List.mem_cons_self
        rcases Number.mem_intDigits hmem with h | h
        · exact hc h
        · rw [hdigit] at h
          cases h
      rw [hplain, limitOf.eq_def]
      split
      · next heq => exact absurd heq (hletter rfl (by decide) (by decide))
      · next heq => exact absurd heq (hletter rfl (by decide) (by decide))
      · next heq =>
          rw [← Value.text.inj heq]
          exact congrArg Value.int (integerOf_intDigits n)
      · next hnone => exact absurd rfl (hnone _)

theorem notFlagged_valueFlag {flag other : String} (hother : other ≠ flag) {v : Value}
    {words : Command.Vector} (hwords : Command.valueFlag other v = .ok words)
    {rest : Command.Vector} (hrest : NotFlagged flag rest) : NotFlagged flag (words ++ rest) := by
  rw [Command.valueFlag] at hwords
  split at hwords
  · cases hwords
    exact hrest
  · obtain ⟨text, -, hwords⟩ := bind_eq_ok hwords
    cases hwords
    exact fun tail heq => hother (Value.text.inj (List.cons.inj heq).1)

theorem takeFlag_valueFlag {flag : String} {v : Value} (hv : OptionalInteger v)
    {words : Command.Vector} (hwords : Command.valueFlag flag v = .ok words)
    {rest : Command.Vector} (hrest : NotFlagged flag rest) :
    ∃ word, takeFlag flag (words ++ rest) = (word, rest) ∧ limitOf word = v := by
  rw [Command.valueFlag] at hwords
  cases hnull : v.isNull with
  | true =>
      rw [hnull] at hwords
      cases hwords
      cases hv with
      | null => exact ⟨.null, takeFlag_of_notFlagged hrest, rfl⟩
      | bool | int => cases hnull
  | false =>
      rw [hnull] at hwords
      obtain ⟨text, htext, hwords⟩ := bind_eq_ok hwords
      cases hwords
      refine ⟨.text text, by simp [takeFlag, Command.words], ?_⟩
      obtain rfl : v.plain = text := by
        rw [Value.spelled] at htext
        split at htext
        · cases htext
        · exact Except.ok.inj htext
      exact limitOf_plain hv hnull

theorem itemTexts_map_text (names : List String) :
    Command.itemTexts (names.map .text) = .ok names :=
  Value.mapM_texts (fun _ _ => rfl) names 0

/-- Names are put into the words as one text. -/
theorem applyCollection_joinedNames (name schema : Value) {v : Value} (hv : OptionalNames v) :
    Command.applyCollection name schema (joinedNames v) =
      Command.applyCollection name schema v := by
  have hitems {names : List String} (h : Command.joinItems v = .ok (names.map .text))
      (hsome : v.truthy = !names.isEmpty) :
      Command.applyCollection name schema (joinedNames v) =
        Command.applyCollection name schema v := by
    have hjoined : (Command.joinItems v >>= Command.itemTexts) = .ok names := by
      rw [h]
      exact itemTexts_map_text names
    cases names with
    | nil =>
        rw [joinedNames, hjoined, Command.applyCollection, Command.applyCollection, hsome]
        rfl
    | cons first rest =>
        have hone := itemTexts_map_text [Text.joined "," (first :: rest)]
        have hmany := itemTexts_map_text (first :: rest)
        rw [joinedNames, hjoined, Command.applyCollection, Command.applyCollection, hsome, h]
        simp only [bind, Except.bind, hmany]
        rfl
  cases hv with
  | null => rfl
  | list names => exact hitems rfl (by cases names <;> rfl)
  | tuple names => exact hitems rfl (by cases names <;> rfl)

theorem joinedNames_cases (v : Value) :
    joinedNames v = .null ∨ ∃ text, joinedNames v = .list [.text text] := by
  rw [joinedNames]
  split
  · exact .inl rfl
  · exact .inr ⟨_, rfl⟩
  · exact .inl rfl

theorem payloadAsText_eq {room : Room} {field text : String} {v : Value}
    (h : Command.payloadWithin room field v = .ok text) : payloadAsText v = .text text := by
  rw [payloadAsText, Command.payloadText_of_payloadWithin h]

/-- The words of an operation tell the operation. -/
theorem ofWords?_words {op : Operation} (hop : op.Typed) {room : Nat} {words : Command.Vector}
    (hwords : op.words room = .ok words) : ofWords? words = some op.canonical := by
  cases hop with
  | get collection docId =>
      cases hwords
      rfl
  | put collection docId payload =>
      obtain ⟨text, htext, hwords⟩ := bind_eq_ok hwords
      cases hwords
      rw [canonical, payloadAsText_eq htext]
      rfl
  | patch collection docId ops =>
      obtain ⟨text, htext, hwords⟩ := bind_eq_ok hwords
      cases hwords
      rw [canonical, payloadAsText_eq htext]
      rfl
  | delete collection docId =>
      cases hwords
      rfl
  | log collection docId =>
      cases hwords
      rfl
  | revert collection docId hid hhash =>
      cases hwords
      have hother {v : Value} : NotFlagged "--tx-id" (Command.filledFlag "--tx-hash" v) :=
        notFlagged_filledFlag (by decide)
      simp only [Command.revert, Command.document, List.cons_append, List.nil_append, ofWords?,
        ofDocumentWords?, takeFlag_filledFlag hid hother, takeFlag_filledFlag_alone hhash,
        canonical]
  | push =>
      cases hwords
      rfl
  | status =>
      cases hwords
      rfl
  | @applyCollection name schema indexes hindexes =>
      obtain ⟨-, -, hwords⟩ := bind_eq_ok hwords
      have hwords := mapError_eq_ok hwords
      rw [← applyCollection_joinedNames _ _ hindexes] at hwords
      rw [canonical]
      rcases joinedNames_cases indexes with hnone | ⟨text, hone⟩
      · rw [hnone] at hwords ⊢
        cases hwords
        rfl
      · rw [hone] at hwords ⊢
        cases hwords
        rfl
  | verify deep =>
      cases hwords
      cases deep <;> rfl
  | gc hprune =>
      cases hwords
      simp only [Command.gc, Command.words, List.map_cons, List.map_nil, List.cons_append,
        List.nil_append, ofWords?, takeFlag_filledFlag_alone hprune, canonical]
  | snapshot hthreshold hmost dryRun =>
      obtain ⟨limits, hlimits, hwords⟩ := bind_eq_ok (mapError_eq_ok hwords)
      obtain ⟨bounds, hbounds, hwords⟩ := bind_eq_ok hwords
      cases hwords
      have hflag {flag : String} (hflag : "--dry-run" ≠ flag) :
          NotFlagged flag (Command.flagIf dryRun "--dry-run") := by
        cases dryRun with
        | true => exact fun rest heq => hflag (Value.text.inj (List.cons.inj heq).1)
        | false => nofun
      obtain ⟨word, hword, hthreshold⟩ := takeFlag_valueFlag hthreshold hlimits
        (notFlagged_valueFlag (by decide) hbounds (hflag (by decide)))
      obtain ⟨word', hword', hmost⟩ := takeFlag_valueFlag hmost hbounds (hflag (by decide))
      simp only [Command.words, List.map_cons, List.map_nil, List.cons_append, List.nil_append,
        List.append_assoc, ofWords?, hword, hword', hthreshold, hmost, canonical]
      cases dryRun <;> rfl

end DocLedger.Operation
