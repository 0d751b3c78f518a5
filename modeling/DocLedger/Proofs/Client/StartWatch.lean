import DocLedger.Client.Indexing
import DocLedger.Proofs.Engine.Calls
import DocLedger.Proofs.Index.WatchWords
import DocLedger.Proofs.Number.Digits

/-!
# Starting a watch

A client refuses to start a watch just in case the layer of options is malformed or
the settings of the session with those of the layer in front are no good, and then
nothing has happened.  Otherwise the engine is started once, with the vector of the
plan, the attachment of the options and the interval of the settings.
-/

namespace DocLedger.Client

open Engine (Action Attached Scene)
open Index (Config Layer Settings stdioModes)

/-- The settings of a call: those of the session with those of the layer in front. -/
def settingsFor (c : Client) (layer : Layer) : Settings :=
  c.index.settings.overlay layer.given

/-- Whether a layer or the settings that it leads to are no good for a watch. -/
def RefusesWatch (c : Client) (layer : Layer) : Prop :=
  layer.Malformed ∨ (c.settingsFor layer).Invalid ∨ (c.settingsFor layer).Unwatchable

/-- Whether a layer is fine so far, but a number beyond the limit on digits would
have to be spelled or quoted. -/
def CannotWriteWatch (c : Client) (layer : Layer) : Prop :=
  ¬ layer.Malformed ∧ ¬ (c.settingsFor layer).Invalid ∧ (c.settingsFor layer).Unwritable

/-- The plan of a watch says how the engine is started: the vector holds the merged
path, mode and interval, and the output is attached as the layer says. -/
structure WatchPlan.Follows (plan : WatchPlan) (c : Client) (layer : Layer) : Prop where
  stdio_eq : plan.stdio = layer.stdio
  stdio_known : ∃ word ∈ stdioModes, layer.stdio = .text word
  args_eq : ∃ (n : Int) (json : Bool) (rest : Command.Vector),
    c.settingsFor layer .intervalMs = .int n ∧ 0 < n ∧
      plan.args = Command.base (.text c.repo) json false true ++
        (Command.words ["index", "watch", "--db"] ++ c.settingsFor layer .dbPath ::
          Command.words ["--mode", (c.settingsFor layer .mode).plain, "--interval",
            String.ofList (Number.intDigits n) ++ "ms"] ++ rest)

/-- A watch is refused, or cannot be written, or has a plan. -/
theorem watchPlan_cases {c : Client} (hindex : c.index.Made) {layer : Layer}
    (hlayer : layer.Typed) :
    ((c.RefusesWatch layer ∧ ¬ c.CannotWriteWatch layer) ∧ ∃ message field value,
      c.watchPlan layer = .error (.ledger (.configuration message field value))) ∨
    (c.CannotWriteWatch layer ∧ c.watchPlan layer = .error (.fault .tooManyDigits)) ∨
    ((¬ c.RefusesWatch layer ∧ ¬ c.CannotWriteWatch layer) ∧
      ∃ plan, c.watchPlan layer = .ok plan ∧ plan.Follows c layer) := by
  have hfilled : (c.settingsFor layer).Filled := hindex.filled.overlay hlayer.given
  rcases Layer.coerce_watch_cases hlayer with ⟨hmalformed, message, field, value, hcoerce⟩ |
    ⟨hformed, json, hcoerce, hword⟩
  · exact .inl ⟨⟨.inl hmalformed, fun h => h.1 hmalformed⟩, message, field, value,
      by rw [watchPlan, hcoerce]; rfl⟩
  -- merging the options and checking them is making a configuration of all settings
  have hplan : c.watchPlan layer = (do
      let config ← Config.make (c.settingsFor layer)
      return ⟨config, json, layer.stdio, ← c.indexVector .watch config json.truthy⟩) := by
    rw [watchPlan, hcoerce, settingsFor, ← Config.resolve_watch hindex layer.given json layer.stdio]
    rfl
  rcases Config.make_cases hfilled with ⟨hinvalid, message, field, value, hmake⟩ |
    ⟨hvalid, hmake⟩
  · exact .inl ⟨⟨.inr (.inl hinvalid), fun h => h.2.1 hinvalid⟩, message, field, value,
      by rw [hplan, hmake]; rfl⟩
  have hwords : c.watchPlan layer = (do
      let words ← Command.index .watch ⟨c.settingsFor layer⟩
      return ⟨⟨c.settingsFor layer⟩, json, layer.stdio,
        Command.base (.text c.repo) json.truthy false true ++ words⟩) := by
    rw [hplan, hmake]
    simp only [bind, Except.bind, indexVector]
    cases Command.index .watch ⟨c.settingsFor layer⟩ <;> rfl
  have hconfig : (Config.mk (c.settingsFor layer)).settings.Filled := hfilled
  rcases Command.index_watch_cases hconfig with ⟨hlong, hindexed⟩ |
    ⟨hshort, hbad, message, field, value, hindexed⟩ |
    ⟨hshort, hgood, n, rest, hinterval, hpositive, hindexed⟩
  · exact .inr (.inl ⟨⟨hformed, hvalid, hlong⟩, by rw [hwords, hindexed]; rfl⟩)
  · exact .inl ⟨⟨.inr (.inr hbad), fun h => hshort h.2.2⟩, message, field, value,
      by rw [hwords, hindexed]; rfl⟩
  · refine .inr (.inr ⟨⟨?_, fun h => hshort h.2.2⟩, _, by rw [hwords, hindexed]; rfl, rfl, hword,
      n, json.truthy, rest, hinterval, hpositive, rfl⟩)
    rintro (hmalformed | hinvalid | hbad)
    · exact hformed hmalformed
    · exact hvalid hinvalid
    · exact hgood hbad

theorem runIn_startWatch_of_error {c : Client} {layer : Layer} {failure : Failure}
    (hplan : c.watchPlan layer = .error failure) (s : Scene) :
    (c.startWatch layer).runIn s = (.error failure, s) := by
  rw [startWatch, hplan]
  rfl

def WatchPlan.event (plan : WatchPlan) (child : Attached) : Log.Event :=
  .watchStarted child.pid (plan.config.settings .intervalMs) (plan.config.settings .jitterMs)

theorem runIn_startWatch_of_spawn {c : Client} {layer : Layer} {plan : WatchPlan} {s s' : Scene}
    {child : Attached} (hplan : c.watchPlan layer = .ok plan)
    (hspawn : (c.transport.spawn (c.invocation plan.args) plan.stdio).runIn s = (.ok child, s')) :
    (c.startWatch layer).runIn s =
      (match (s'.journal.report indexLogger (plan.event child)).1 with
        | none => .ok (Watch.Handle.start child plan.config plan.json plan.stdio indexLogger)
        | some fault => .error (.fault fault),
      { s' with journal := (s'.journal.report indexLogger (plan.event child)).2 }) := by
  rw [startWatch, hplan, Action.runIn_bind_of_ok (Action.runIn_ofExcept _ s),
    Action.runIn_bind_of_ok hspawn, ← WatchPlan.event, Action.runIn_bind, Action.runIn_report]
  cases (s'.journal.report indexLogger (plan.event child)).1 <;> rfl

theorem runIn_startWatch_of_no_spawn {c : Client} {layer : Layer} {plan : WatchPlan}
    {s s' : Scene} {failure : Failure} (hplan : c.watchPlan layer = .ok plan)
    (hspawn : (c.transport.spawn (c.invocation plan.args) plan.stdio).runIn s =
      (.error failure, s')) : (c.startWatch layer).runIn s = (.error failure, s') := by
  rw [startWatch, hplan, Action.runIn_bind_of_ok (Action.runIn_ofExcept _ s),
    Action.runIn_bind_of_error hspawn]

/-- A plan is carried out by one call of the engine; what comes after it changes the
journal alone. -/
theorem startWatch_spawns {c : Client} (hrecords : c.transport.Records)
    (hattaches : c.transport.Attaches) {layer : Layer} {plan : WatchPlan}
    (hplan : c.watchPlan layer = .ok plan) (hfollows : plan.Follows c layer) (s : Scene) :
    ((c.startWatch layer).runIn s).2.calls =
        s.calls ++ [⟨c.invocation plan.args, some layer.stdio⟩] ∧
      ∀ message field value, ((c.startWatch layer).runIn s).1 ≠
        .error (.ledger (.configuration message field value)) := by
  obtain ⟨word, hknown, hword⟩ := hfollows.stdio_known
  have hcalls := hrecords.spawn_calls (c.invocation plan.args) plan.stdio s
  have hother := hattaches (c.invocation plan.args) s word hknown
  rw [← hword, ← hfollows.stdio_eq] at hother
  rw [← hfollows.stdio_eq, ← hcalls]
  cases hspawn : (c.transport.spawn (c.invocation plan.args) plan.stdio).runIn s with
  | mk result s' =>
      rw [hspawn] at hother
      cases result with
      | error failure =>
          rw [runIn_startWatch_of_no_spawn hplan hspawn]
          exact ⟨rfl, fun message field value heq =>
            hother message field value (congrArg Except.error (Except.error.inj heq))⟩
      | ok child =>
          rw [runIn_startWatch_of_spawn hplan hspawn]
          refine ⟨rfl, ?_⟩
          cases (s'.journal.report indexLogger (plan.event child)).1 <;> nofun

/-- A client starts a watch, or refuses to with a configuration error just in case
the layer of options is malformed or the merged settings have a blank path, an
unknown mode, an interval that is not positive or a negative jitter; a refusal
leaves the scene as it was.  A watch that is not refused is one call of the engine,
made as its plan says.  Only where a number beyond the limit on digits would have to
be shown is the outcome another one: a fault, which leaves the scene as it was
too. -/
theorem startWatch_refused_iff {c : Client} (hindex : c.index.Made)
    (hrecords : c.transport.Records) (hattaches : c.transport.Attaches) {layer : Layer}
    (hlayer : layer.Typed) (s : Scene) :
    (c.CannotWriteWatch layer →
      (c.startWatch layer).runIn s = (.error (.fault .tooManyDigits), s)) ∧
    (¬ c.CannotWriteWatch layer →
      ((∃ message field value, ((c.startWatch layer).runIn s).1 =
          .error (.ledger (.configuration message field value))) ↔ c.RefusesWatch layer) ∧
      (c.RefusesWatch layer → ((c.startWatch layer).runIn s).2 = s) ∧
      (¬ c.RefusesWatch layer → ∃ plan, c.watchPlan layer = .ok plan ∧ plan.Follows c layer ∧
        ((c.startWatch layer).runIn s).2.calls =
          s.calls ++ [⟨c.invocation plan.args, some layer.stdio⟩])) := by
  rcases watchPlan_cases hindex hlayer with ⟨⟨hbad, hshort⟩, message, field, value, hplan⟩ |
    ⟨hlong, hplan⟩ | ⟨⟨hgood, hshort⟩, plan, hplan, hfollows⟩
  · have houtcome := runIn_startWatch_of_error hplan s
    refine ⟨fun hlong => absurd hlong hshort, fun _ => ⟨⟨fun _ => hbad, fun _ => ?_⟩, fun _ => ?_,
      fun hgood => absurd hbad hgood⟩⟩
    · exact ⟨message, field, value, by rw [houtcome]⟩
    · rw [houtcome]
  · exact ⟨fun _ => runIn_startWatch_of_error hplan s, fun hshort => absurd hlong hshort⟩
  · obtain ⟨hcalls, hother⟩ := startWatch_spawns hrecords hattaches hplan hfollows s
    refine ⟨fun hlong => absurd hlong hshort, fun _ => ⟨⟨?_, fun hbad => absurd hbad hgood⟩,
      fun hbad => absurd hbad hgood, fun _ => ⟨plan, hplan, hfollows, hcalls⟩⟩⟩
    rintro ⟨message, field, value, herror⟩
    exact absurd herror (hother message field value)

/-- An interval of zero is refused, one of a quarter of a second is what the engine
gets, and a negative one beyond the limit on digits is a fault. -/
theorem startWatch_refused_iff_interval :
    let config : Config := ⟨fun
      | .dbPath => .text "repo/index.db"
      | setting => setting.standard⟩
    let c : Client := ⟨"repo", .scripted "engine", .bool true, [], config, Command.callerRoom⟩
    let layer (interval : Int) : Layer :=
      .value (.mapping [(.text "interval_ms", .int interval), (.text "stdio", .text "pipe")])
    c.index.Made ∧ c.transport.Records ∧ c.transport.Attaches ∧ (∀ n, (layer n).Typed) ∧
      ((c.startWatch (layer 0)).runIn .fresh).2 = .fresh ∧
      (∃ plan, c.watchPlan (layer 250) = .ok plan ∧ plan.Follows c (layer 250) ∧
        ((c.startWatch (layer 250)).runIn .fresh).2.calls =
          [⟨c.invocation plan.args, some (.text "pipe")⟩]) ∧
      (c.startWatch (layer (-Nat.pow 10 Number.digitLimit))).runIn .fresh =
        (.error (.fault .tooManyDigits), .fresh) := by
  intro config c layer
  have hvalid {s : Settings} (hpath : s .dbPath = .text "repo/index.db")
      (hmode : s .mode = .text "state") : ¬ s.Invalid := by
    intro hinvalid
    cases hinvalid with
    | path hother hblank =>
        obtain rfl := Value.text.inj (hpath.symm.trans hother)
        exact absurd hblank (by decide)
    | mode hother hunknown =>
        obtain rfl := Value.text.inj (hmode.symm.trans hother)
        exact hunknown (by decide)
  have hindex : c.index.Made := by
    have hfilled : c.index.settings.Filled := by
      intro setting
      cases setting with
      | dbPath | mode | intervalMs | jitterMs | batchCommits => exact ⟨_, rfl⟩
      | fast | fetch | onlyChanges => trivial
    rcases Config.make_cases hfilled with ⟨hinvalid, -⟩ | ⟨-, hmake⟩
    · exact absurd hinvalid (hvalid rfl rfl)
    · exact ⟨hfilled, hmake⟩
  have hrecords : c.transport.Records := Engine.records_scripted "engine"
  have hattaches : c.transport.Attaches := Engine.attaches_scripted "engine"
  have hlayer (n : Int) : (layer n).Typed := by
    refine .mapping (by simp) ?_ ?_
    · intro setting hset
      cases setting with
      | intervalMs => exact ⟨n, rfl⟩
      | _ => exact Bool.noConfusion hset
    · intro v hv
      obtain rfl : Value.text "pipe" = v := Option.some.inj hv
      exact .inr ⟨"pipe", rfl⟩
  have hinterval (n : Int) : c.settingsFor (layer n) .intervalMs = .int n := rfl
  have hformed (n : Int) : ¬ (layer n).Malformed := by
    intro hmalformed
    cases hmalformed with
    | kind hother => exact hother
    | key hmem hunknown =>
        simp only [List.mem_cons, Prod.mk.injEq, Value.text.injEq, List.not_mem_nil, or_false]
          at hmem
        rcases hmem with ⟨rfl, -⟩ | ⟨rfl, -⟩
        · exact hunknown (by decide)
        · exact hunknown (by decide)
    | stdio hstdio hunknown => exact hunknown "pipe" (by decide) (Option.some.inj hstdio).symm
  have hunwritable (n : Int) := Settings.unwritable_iff (hinterval n)
    (m := 0) (b := 200) rfl rfl
  have houtcome (n : Int) := startWatch_refused_iff hindex hrecords hattaches (hlayer n) .fresh
  have hsmall {n : Int} (h : n.natAbs < Nat.pow 10 19) : ¬ c.CannotWriteWatch (layer n) := by
    rintro ⟨-, -, hlong⟩
    rw [hunwritable, Number.tooLong_of_natAbs_lt h, Number.tooLong_of_natAbs_lt (by decide),
      Number.tooLong_of_natAbs_lt (by decide)] at hlong
    simp at hlong
  refine ⟨hindex, hrecords, hattaches, hlayer, ?_, ?_, ?_⟩
  · have hbad : c.RefusesWatch (layer 0) := .inr (.inr (.interval (hinterval 0) (by decide)))
    exact ((houtcome 0).2 (hsmall (by decide))).2.1 hbad
  · have hgood : ¬ c.RefusesWatch (layer 250) := by
      rintro (hmalformed | hinvalid | hbad)
      · exact hformed 250 hmalformed
      · exact hvalid rfl rfl hinvalid
      · rw [Settings.unwatchable_iff (hinterval 250) (m := 0) rfl] at hbad
        omega
    exact ((houtcome 250).2 (hsmall (by decide))).2.2 hgood
  · have hlong {n : Int} (hbound : n ≤ 0) (h : Number.tooLong n = true) :
        c.CannotWriteWatch (layer n) :=
      ⟨hformed n, hvalid rfl rfl, .interval (hinterval n) hbound h⟩
    refine (houtcome _).1 (hlong ?_ ?_)
    · exact Int.neg_nonpos_of_nonneg (Int.natCast_nonneg _)
    · rw [Number.tooLong_neg, Number.tooLong_ten_pow]

end DocLedger.Client
