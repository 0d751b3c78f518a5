import DocLedger.Log.Event
import DocLedger.Log.Line
import DocLedger.Proofs.Json.Ascii
import DocLedger.Proofs.Json.RoundTrip

/-!
# A record on one line

The line of a record holds one JSON object and no character outside printable ASCII, so nothing
in a message, an exception or a field starts another line.  The object is read back to what the
record has: its time, level, logger and message, the host, its exception if it carries one, and
the fields that have been set, with their values.
-/

namespace DocLedger.Log

open Value (stored storedEntries storedItems Storable)

/-! ## Values that are logged as they are -/

/-- The values that a JSON object gives back as they have been: texts, integers within the limit
of digits, truth values, nothing, and lists and mappings of these. -/
inductive Loggable : Value → Prop
  | null : Loggable .null
  | bool (b : Bool) : Loggable (.bool b)
  | int {n : Int} (hshort : (Number.natDigits n.natAbs).length ≤ 4300) : Loggable (.int n)
  | text (s : String) : Loggable (.text s)
  | list {items : List Value} (hitems : ∀ v ∈ items, Loggable v) : Loggable (.list items)
  | mapping {members : List (String × Value)} (hvalues : ∀ m ∈ members, Loggable m.2)
      (hdistinct : (members.map Prod.fst).Nodup) :
      Loggable (.mapping (members.map fun m => (.text m.1, m.2)))

namespace Loggable

theorem storable {v : Value} (h : Loggable v) : Storable v := by
  induction h with
  | null => exact Storable.null
  | bool b => exact Storable.bool b
  | int hshort => exact Storable.int (Number.tooLong_eq_false_iff.mpr hshort)
  | text s => exact Storable.text s
  | list hitems ih => exact Storable.list ih
  | mapping hvalues hdistinct ih =>
      apply Storable.mapping
      · intro e he
        obtain ⟨m, -, rfl⟩ := List.mem_map.mp he
        exact Value.IsKey.text m.1
      · intro e he
        obtain ⟨m, hm, rfl⟩ := List.mem_map.mp he
        exact ih m hm
      · rw [List.map_map]
        exact hdistinct

theorem storedItems_eq {items : List Value} (h : ∀ v ∈ items, stored v = v) :
    storedItems items = items := by
  induction items with
  | nil => rfl
  | cons v rest ih =>
      rw [storedItems, h v List.mem_cons_self, ih fun w hw => h w (List.mem_cons_of_mem v hw)]

theorem storedEntries_eq {members : List (String × Value)} (h : ∀ m ∈ members, stored m.2 = m.2) :
    storedEntries (members.map fun m => (.text m.1, m.2)) =
      members.map fun m => (.text m.1, m.2) := by
  induction members with
  | nil => rfl
  | cons m rest ih =>
      rw [List.map_cons, storedEntries, h m List.mem_cons_self,
        ih fun w hw => h w (List.mem_cons_of_mem m hw)]
      rfl

theorem stored_eq {v : Value} (h : Loggable v) : stored v = v := by
  induction h with
  | null | bool | int | text => rfl
  | list hitems ih => rw [stored, storedItems_eq ih]
  | mapping hvalues hdistinct ih => rw [stored, storedEntries_eq ih]

end Loggable

/-- Members of an object with their names as keys. -/
def objectOf (members : List (String × Value)) : Value :=
  .mapping (members.map fun m => (.text m.1, m.2))

/-- An object of values that are logged as they are is written as one line of printable
characters, which is read back to the object. -/
theorem renderString_objectOf {members : List (String × Value)}
    (hdistinct : (members.map Prod.fst).Nodup) (hvalues : ∀ m ∈ members, Loggable m.2) :
    ∃ line, Json.renderString .logged (objectOf members) = .ok line ∧
      Json.AllPrintable line.toList ∧ Json.readDocument line.toList = .ok (objectOf members) := by
  have hgap : ∀ c ∈ [' '], Json.isBlank c = true := List.forall_mem_singleton.mpr rfl
  have hplain : Json.Style.logged.Plain := ⟨⟨[' '], rfl, hgap⟩, ⟨[' '], rfl, hgap⟩, rfl⟩
  have hobject : Loggable (objectOf members) := Loggable.mapping hvalues hdistinct
  obtain ⟨tail, hrender, -⟩ := Json.readFront_of_storable hplain hobject.storable
  refine ⟨String.ofList ('\x7b' :: tail), ?_, ?_, ?_⟩
  · rw [Json.renderString, objectOf, hrender]
  · rw [String.toList_ofList]
    exact Json.allPrintable_of_render_logged hrender
  · rw [String.toList_ofList]
    have hkept := Loggable.storedEntries_eq fun m hm => (hvalues m hm).stored_eq
    exact Json.readDocument_of_render hplain hobject.storable hkept hrender

/-! ## The entries of a line -/

/-- The names under which a line has what every record has. -/
def leadingNames : List String :=
  ["timestamp", "level", "logger", "message", "hostname", "exception"]

/-- A field of a record that stands in its line under its own name: it is none of those that
every record has, and no name of the line. -/
def IsExtra (name : String) : Prop := isOwnField name = true ∧ name ∉ leadingNames

instance (name : String) : Decidable (IsExtra name) := inferInstanceAs (Decidable (_ ∧ _))

namespace Source

/-- What a line has of every record, and the exception if there is one. -/
def leading (s : Source) : List (String × Value) :=
  [("timestamp", .text s.time), ("level", s.level), ("logger", s.logger),
    ("message", .text s.message), ("hostname", .text s.host)] ++
  match s.exception with
  | some text => [("exception", .text text)]
  | none => []

def members (s : Source) : List (String × Value) := s.leading ++ s.extra

/-- What a line is written from can be logged: the fields have names of their own, and all is
logged as it is. -/
structure Plain (s : Source) : Prop where
  distinct : (s.extra.map Prod.fst).Nodup
  extra : ∀ field ∈ s.extra, IsExtra field.1
  values : ∀ field ∈ s.extra, Loggable field.2
  level : Loggable s.level
  logger : Loggable s.logger

variable {s : Source}

theorem leading_names (s : Source) : (s.leading.map Prod.fst).Sublist leadingNames := by
  rw [leading]
  cases s.exception with
  | none => exact List.take_sublist 5 leadingNames
  | some text => exact List.Sublist.refl leadingNames

theorem Plain.nodup_members (h : s.Plain) : (s.members.map Prod.fst).Nodup := by
  have hnames : leadingNames.Nodup := by decide
  rw [members, List.map_append]
  apply List.nodup_append.mpr
  refine ⟨hnames.sublist (leading_names s), h.distinct, ?_⟩
  rintro name hname _ hfield rfl
  obtain ⟨field, hmem, rfl⟩ := List.mem_map.mp hfield
  exact (h.extra field hmem).2 ((leading_names s).subset hname)

theorem Plain.loggable_members (h : s.Plain) : ∀ m ∈ s.members, Loggable m.2 := by
  have hleading : ∀ m ∈ s.leading, Loggable m.2 := by
    rw [leading]
    intro m hm
    rcases List.mem_append.mp hm with hm | hm
    · simp only [List.mem_cons, List.not_mem_nil, or_false] at hm
      rcases hm with rfl | rfl | rfl | rfl | rfl
      · exact Loggable.text s.time
      · exact h.level
      · exact h.logger
      · exact Loggable.text s.message
      · exact Loggable.text s.host
    · cases hexception : s.exception with
      | none =>
          rw [hexception] at hm
          cases hm
      | some text =>
          rw [hexception] at hm
          obtain rfl := List.mem_singleton.mp hm
          exact Loggable.text text
  intro m hm
  rcases List.mem_append.mp hm with hm | hm
  · exact hleading m hm
  · exact h.values m hm

/-- No field replaces another entry of the line. -/
theorem Plain.entries_eq (h : s.Plain) : Value.mapping s.entries = objectOf s.members := by
  have hown : (s.extra.filter fun field => isOwnField field.1) = s.extra := by
    rw [List.filter_eq_self]
    intro field hfield
    exact (h.extra field hfield).1
  have hfold := @Value.foldl_insertEntry_of_nodup s.leading s.extra h.nodup_members
  rw [List.foldl_map] at hfold
  have hentries : s.entries = s.extra.foldl
      (fun done field => Value.insertEntry (.text field.1) field.2 done)
      (s.leading.map fun m => (Value.text m.1, m.2)) := by
    rw [entries, hown, leading]
    cases s.exception with
    | none => rfl
    | some text => rfl
  rw [hentries, hfold, objectOf, members]

/-- A line that can be written holds exactly what the record has. -/
theorem Plain.jsonLine (h : s.Plain) :
    ∃ line, s.jsonLine = .ok line ∧ Json.AllPrintable line.toList ∧
      Json.readDocument line.toList = .ok (objectOf s.members) := by
  rw [Source.jsonLine, h.entries_eq]
  exact renderString_objectOf h.nodup_members h.loggable_members

end Source

/-! ## Events -/

namespace Event

theorem exists_names (e : Event) : ∃ names,
    ((("event", Value.text e.name) :: e.details).map Prod.fst) = names ∧ names.Nodup ∧
      ∀ name ∈ names, IsExtra name := by
  cases e with
  | commandCompleted =>
      exact ⟨["event", "subcommand", "duration_ms", "exit_code"], rfl, by decide,
        by decide +kernel⟩
  | commandFailed =>
      exact ⟨["event", "subcommand", "error", "exit_code"], rfl, by decide, by decide +kernel⟩
  | indexSynced =>
      exact ⟨["event", "mode", "txs_applied", "docs_upserted", "docs_deleted", "reset",
        "last_commit"], rfl, by decide, by decide +kernel⟩
  | watchStarted =>
      exact ⟨["event", "pid", "interval_ms", "jitter_ms"], rfl, by decide, by decide +kernel⟩
  | watchStopped =>
      exact ⟨["event", "pid", "returncode"], rfl, by decide, by decide +kernel⟩

/-- The record of an event is one line of printable characters, whatever the engine has said
that an event reports. -/
theorem jsonLine {e : Event} {logger : String} {r : Record} (h : e.record logger = .ok r)
    (hdetails : ∀ field ∈ e.details, Loggable field.2) (time host : String) :
    ∃ line, (Source.ofRecord time host r).jsonLine = .ok line ∧ Json.AllPrintable line.toList ∧
      Json.readDocument line.toList = .ok (objectOf
        ([("timestamp", .text time), ("level", .text (levelName e.level)),
          ("logger", .text logger), ("message", .text r.message), ("hostname", .text host),
          ("event", .text e.name)] ++ e.details)) := by
  cases hmessage : e.message with
  | error fault =>
      rw [record, hmessage] at h
      cases h
  | ok message =>
      rw [record, hmessage] at h
      cases h
      obtain ⟨names, hnames, hdistinct, hextra⟩ := e.exists_names
      have hplain : (Source.ofRecord time host
          ⟨e.level, logger, message, ("event", .text e.name) :: e.details⟩).Plain := by
        refine ⟨?_, ?_, ?_, Loggable.text _, Loggable.text logger⟩
        · rw [← hnames] at hdistinct
          exact hdistinct
        · intro field hfield
          apply hextra
          rw [← hnames]
          exact List.mem_map_of_mem hfield
        · intro field hfield
          rcases List.mem_cons.mp hfield with rfl | hfield
          · exact Loggable.text e.name
          · exact hdetails field hfield
      exact hplain.jsonLine

end Event

/-! ## Records as they are made -/

namespace Draft

/-- The message of a record: what it says, with its arguments filled in. -/
def Says (d : Draft) (message : String) : Prop :=
  ∃ template, d.message.spelled = .ok template ∧
    Template.fill template d.ownArguments = .ok message

/-- A text without arguments is the message as it stands, whatever characters it has. -/
theorem says_text {d : Draft} {message : String} (hmessage : d.message = .text message)
    (harguments : d.arguments = []) : d.Says message := by
  refine ⟨message, ?_, ?_⟩
  · rw [hmessage]
    rfl
  · rw [ownArguments, harguments]
    rfl

/-- The fields that every record has are its own, if no field is set in their place. -/
theorem field_of_standard {d : Draft} (hextra : ∀ e ∈ d.extra, IsExtra e.1) {name : String}
    (hname : isOwnField name = false) (own : Value) : d.field name own = own := by
  have hnone : (d.extra.reverse.find? fun entry => entry.1 == name) = none := by
    rw [List.find?_eq_none]
    intro e he hsame
    have hown := (hextra e (List.mem_reverse.mp he)).1
    rw [eq_of_beq hsame, hname] at hown
    cases hown
  rw [field, hnone]

end Draft

section Times

open Template

theorem fill_time (text : String) {n : Int} (hshort : Number.tooLong n = false) :
    ∃ time, Template.fill "%s,%03d" (.tuple [.text text, .int n]) = .ok time := by
  have hfirst : readDirective ⟨[.text text, .int n], none⟩ ['s', ',', '%', '0', '3', 'd'] =
      .ok (Directive.bare, ['s', ',', '%', '0', '3', 'd'], ⟨[.text text, .int n], none⟩) := rfl
  have htext : Directive.bare.show 's' 1 (.text text) = .ok (Directive.bare.filled text.toList) :=
    rfl
  have hsecond : readDirective ⟨[.int n], none⟩ ['0', '3', 'd'] =
      .ok ({ Directive.bare with zeros := true, width := 3 }, ['d'], ⟨[.int n], none⟩) := rfl
  have hwhole : wholePart 'd' (.int n) = .ok n := by
    rw [wholePart, Value.number?, Number.exactInt]
    simp
  have hnumber (d : Directive) :
      d.show 'd' 6 (.int n) = .ok (d.number (decide (n < 0)) [] (Number.natDigits n.natAbs)) := by
    simp [Directive.show, hwhole, hshort, bind, Except.bind, pure, Except.pure]
  have hlast : ∃ cs, fillFrom 7 6 ⟨[.int n], none⟩ ['%', '0', '3', 'd'] = .ok cs := by
    rw [fillFrom, if_neg (by decide), if_neg (by decide), hsecond]
    simp only [Arguments.next, List.length_nil, hnumber]
    exact ⟨_, rfl⟩
  obtain ⟨cs, hcs⟩ := hlast
  refine ⟨String.ofList (Directive.bare.filled text.toList ++ ',' :: cs), ?_⟩
  have hall : fillFrom 7 8 ⟨[.text text, .int n], none⟩ ['%', 's', ',', '%', '0', '3', 'd'] =
      .ok (Directive.bare.filled text.toList ++ ',' :: cs) := by
    rw [fillFrom, if_neg (by decide), if_neg (by decide), hfirst]
    simp only [Arguments.next, List.length_cons, List.length_nil]
    rw [htext]
    simp only
    rw [fillFrom, if_pos (by decide), hcs]
    rfl
  rw [Template.fill, if_neg (by simp [Value.truthy])]
  exact congrArg (Except.map String.ofList) hall

theorem exists_timeText {ms second : Int} (h : secondOf (createdAt ms) = .ok second) :
    ∃ time, timeText (createdAt ms) (beyondSecond ms) = .ok time := by
  have hshort : Number.tooLong (ms - Int.fdiv ms 1000 * 1000) = false := by
    apply Number.tooLong_of_natAbs_lt
    have hlow := Int.fmod_nonneg_of_pos ms (show (0 : Int) < 1000 by decide)
    have hhigh := Int.fmod_lt_of_pos ms (show (0 : Int) < 1000 by decide)
    have hsplit := Int.mul_fdiv_add_fmod ms 1000
    have hbound : (ms - Int.fdiv ms 1000 * 1000).natAbs < 1000 := by omega
    exact Nat.lt_trans hbound (by decide)
  have hfill := fill_time (secondText second) hshort
  rw [timeText, h, beyondSecond]
  simp only [bind, Except.bind]
  exact hfill

end Times

theorem loggable_levelTitle {v level : Value} (h : levelTitle v = .ok level) : Loggable level := by
  rw [levelTitle] at h
  split at h
  · cases h
  · cases h
    exact Loggable.text _
  · split at h
    · next entry n hfound =>
        cases h
        have hshort : ∀ entry ∈ levels, (Number.natDigits entry.2.natAbs).length ≤ 4300 := by
          decide
        exact Loggable.int (hshort _ (List.mem_of_find?_eq_some hfound))
    · cases hspelled : v.spelled with
      | error fault =>
          rw [hspelled] at h
          cases h
      | ok s =>
          rw [hspelled] at h
          cases h
          exact Loggable.text _

namespace Draft

/-- The source of the line of a record that has a level, a time and a message. -/
theorem source_eq {d : Draft} (hextra : ∀ e ∈ d.extra, IsExtra e.1) {level : Value}
    (hlevel : levelTitle d.level = .ok level) {time : String}
    (htime : timeText (createdAt d.milliseconds) (beyondSecond d.milliseconds) = .ok time)
    {message : String} (hmessage : d.Says message) :
    d.source = .ok ⟨time, d.host, level, .text d.logger, message, d.exception, d.extra⟩ := by
  obtain ⟨template, htemplate, hfill⟩ := hmessage
  have hexception : d.exceptionText? = .ok d.exception := by
    rw [exceptionText?, field_of_standard hextra (by decide)]
    cases d.exception with
    | none => rfl
    | some text => rfl
  rw [source, hlevel]
  simp only [field_of_standard hextra (show isOwnField "created" = false by decide),
    field_of_standard hextra (show isOwnField "msecs" = false by decide),
    field_of_standard hextra (show isOwnField "msg" = false by decide),
    field_of_standard hextra (show isOwnField "args" = false by decide),
    field_of_standard hextra (show isOwnField "levelname" = false by decide),
    field_of_standard hextra (show isOwnField "name" = false by decide),
    bind, Except.bind, htime, htemplate, hfill, hexception]
  rfl

end Draft

/-- A record is one line of printable characters, which holds the time, the record's own level,
logger and message, the host, the exception if there is one, and every field that has been set
with its value, and nothing else. -/
theorem jsonLine_of_draft (d : Draft) (hdistinct : (d.extra.map Prod.fst).Nodup)
    (hextra : ∀ e ∈ d.extra, IsExtra e.1) (hvalues : ∀ e ∈ d.extra, Loggable e.2) {level : Value}
    (hlevel : levelTitle d.level = .ok level) {second : Int}
    (htime : secondOf (createdAt d.milliseconds) = .ok second) {message : String}
    (hmessage : d.Says message) :
    ∃ line time, (d.source >>= Source.jsonLine) = .ok line ∧
      timeText (createdAt d.milliseconds) (beyondSecond d.milliseconds) = .ok time ∧
      Json.AllPrintable line.toList ∧
      Json.readDocument line.toList = .ok (objectOf
        ([("timestamp", .text time), ("level", level), ("logger", .text d.logger),
          ("message", .text message), ("hostname", .text d.host)] ++
        (match d.exception with
          | some text => [("exception", .text text)]
          | none => []) ++ d.extra)) := by
  obtain ⟨time, htimeText⟩ := exists_timeText htime
  have hplain : Source.Plain
      ⟨time, d.host, level, .text d.logger, message, d.exception, d.extra⟩ :=
    ⟨hdistinct, hextra, hvalues, loggable_levelTitle hlevel, Loggable.text d.logger⟩
  obtain ⟨line, hline, hprintable, hread⟩ := hplain.jsonLine
  refine ⟨line, time, ?_, htimeText, hprintable, hread⟩
  rw [d.source_eq hextra hlevel htimeText hmessage]
  exact hline

/-- A record whose message and exception have line breaks of their own, with fields that hold
one another and a character beyond the first plane. -/
def brokenLines : Draft where
  milliseconds := 0
  host := "host"
  level := .int warning
  logger := "ledgerdb"
  message := .text "put failed:\nnot \"there\""
  arguments := []
  exception := some "RuntimeError: 1\r\n2"
  extra := [("event", .text "command_failed"),
    ("error", .list [.int (-7), .null, .mapping [(.text "😀", .bool true)]])]

theorem jsonLine_of_draft_brokenLines :
    (brokenLines.extra.map Prod.fst).Nodup ∧ (∀ e ∈ brokenLines.extra, IsExtra e.1) ∧
    (∀ e ∈ brokenLines.extra, Loggable e.2) ∧
    levelTitle brokenLines.level = .ok (.text "WARNING") ∧
    secondOf (createdAt brokenLines.milliseconds) = .ok 0 ∧
    brokenLines.Says "put failed:\nnot \"there\"" ∧
    ∃ line time, (brokenLines.source >>= Source.jsonLine) = .ok line ∧ '\n' ∉ line.toList ∧
      Json.readDocument line.toList = .ok (objectOf
        ([("timestamp", .text time), ("level", .text "WARNING"), ("logger", .text "ledgerdb"),
          ("message", .text "put failed:\nnot \"there\""), ("hostname", .text "host"),
          ("exception", .text "RuntimeError: 1\r\n2")] ++ brokenLines.extra)) := by
  have hdistinct : (brokenLines.extra.map Prod.fst).Nodup := by decide
  have hextra : ∀ e ∈ brokenLines.extra, IsExtra e.1 := by
    decide +kernel
  have hvalues : ∀ e ∈ brokenLines.extra, Loggable e.2 := by
    intro e he
    simp only [brokenLines, List.mem_cons, List.not_mem_nil, or_false] at he
    rcases he with rfl | rfl
    · exact Loggable.text _
    · apply Loggable.list
      intro v hv
      simp only [List.mem_cons, List.not_mem_nil, or_false] at hv
      rcases hv with rfl | rfl | rfl
      · exact Loggable.int (by decide)
      · exact Loggable.null
      · refine @Loggable.mapping [("😀", .bool true)] ?_ (by decide)
        intro m hm
        obtain rfl := List.mem_singleton.mp hm
        exact Loggable.bool true
  have hlevel : levelTitle brokenLines.level = .ok (.text "WARNING") := by
    simp [brokenLines, levelTitle, Value.keyFault?, namedLevels, Value.same, Value.number?,
      Number.Exact.eq, Number.Exact.le, Number.exactInt, debug, info, warning, error, critical,
      levelName]
  have htime : secondOf (createdAt brokenLines.milliseconds) = .ok 0 := rfl
  have hmessage : brokenLines.Says "put failed:\nnot \"there\"" := Draft.says_text rfl rfl
  obtain ⟨line, time, hline, -, hprintable, hread⟩ :=
    jsonLine_of_draft brokenLines hdistinct hextra hvalues hlevel htime hmessage
  refine ⟨hdistinct, hextra, hvalues, hlevel, htime, hmessage, line, time, hline, ?_, hread⟩
  intro hbreak
  exact absurd (hprintable '\n' hbreak) (by decide)

end DocLedger.Log
