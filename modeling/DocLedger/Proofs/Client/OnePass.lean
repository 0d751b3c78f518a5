import DocLedger.Client.Indexing
import DocLedger.Proofs.Engine.Keeps
import DocLedger.Proofs.Host.Runs
import DocLedger.Proofs.Log.PassCount
import DocLedger.Proofs.Report.Fits
import DocLedger.Proofs.Text.Utf8

/-!
# One pass over the index

A client that brings its index up to date runs the engine once and reports what the
engine says of its pass: one event with the counts of the pass, so many transactions
more for the mode of the configuration, and a warning where the index was rebuilt.
The report is given back as it was read.  A pass that claims to have applied a
negative number of transactions is still logged, but ends in a fault before it is
counted, warned about or given back; output that is no report leaves no trace.
-/

namespace DocLedger.Client

open Engine (Action Completed Permits Scene Transport)
open Log (ClientMetrics Journal mentions)
open Report (Reads Overlong SyncPass)

/-! ## Runs that say nothing of passes -/

/-- Notes and the ends of commands under another logger are not about passes. -/
theorem permits_sparesPasses {logger other : String} (hother : other ≠ logger) :
    Permits other (Journal.SparesPasses logger) where
  refl j := j.sparesPasses_refl
  trans hjk hkl := hjk.trans hkl
  note j level message := j.sparesPasses_log hother level message
  report j _ he := j.sparesPasses_report hother (he.name_ne (by decide) (by decide))

/-- A transport whose runs say nothing of passes, and nothing under the logger of the index. -/
def SparesPasses (t : Transport) : Prop :=
  ∀ inv, (t.run inv).Keeps (Journal.SparesPasses indexLogger)

theorem sparesPasses_scripted (executable : String) :
    SparesPasses (Transport.scripted executable) := by
  have hother : Host.transportLogger ≠ indexLogger := by decide
  exact (permits_sparesPasses hother).keeps_scripted_run executable

theorem sparesPasses_transport {system : Host.System} {executable : String} {limit : Int}
    {t : Transport} (h : system.transport executable limit = .ok t) : SparesPasses t := by
  have hother : Host.transportLogger ≠ indexLogger := by decide
  rw [Host.System.transport] at h
  split at h
  · cases h
  · cases h
    exact (permits_sparesPasses hother).keeps_run system executable limit

/-! ## The report of a pass -/

/-- The warning that the index was rebuilt. -/
def rebuilt (config : Index.Config) : Log.Record :=
  .note Log.warning indexLogger ("Index at " ++ config.dbPath ++ " was rebuilt from scratch")

/-- A pass is reported with one record, counted, and warned about where the index was
rebuilt; a negative number of transactions is a fault after the record. -/
theorem runIn_reportPass_eq (config : Index.Config) {pass : SyncPass} (hshort : pass.Short)
    {s : Scene} (hs : s.journal.metrics.CountsPasses) :
    ∃ r, (syncEvent config pass).record indexLogger = .ok r ∧
      (reportPass config pass).runIn s =
        if pass.txsApplied < 0 then
          (.error (.fault .decreasedCounter), { s with journal := s.journal.log r })
        else
          (.ok (), { s with journal := {
            records := s.journal.records ++ r :: if pass.reset then [rebuilt config] else []
            metrics := s.journal.metrics.addApplied config.mode pass.txsApplied } }) := by
  simp only [SyncPass.Short, List.forall_mem_cons] at hshort
  obtain ⟨-, happlied, hupserted, hdeleted, -⟩ := hshort
  obtain ⟨r, hrecord, hreport⟩ := Journal.report_indexSynced hs indexLogger config.mode
    happlied hupserted hdeleted (.bool pass.reset) (Log.optionalText pass.lastCommit)
  have hcounted := Action.runIn_report indexLogger (syncEvent config pass) s
  rw [syncEvent, hreport] at hcounted
  refine ⟨r, hrecord, ?_⟩
  rw [reportPass, syncEvent]
  by_cases hnegative : pass.txsApplied < 0
  · simp only [if_pos hnegative] at hcounted ⊢
    exact Action.runIn_bind_of_error hcounted
  · simp only [if_neg hnegative] at hcounted ⊢
    rw [Action.runIn_bind_of_ok hcounted]
    cases pass.reset with
    | false => rfl
    | true =>
        simp [rebuilt, Journal.log]

/-! ## What comes of a run -/

theorem runIn_settleSync_of_reads (config : Index.Config) {run : Completed} {report : Value}
    (hreads : Reads .indexSync run.stdout report) {s : Scene}
    (hs : s.journal.metrics.CountsPasses) :
    ∃ r, (syncEvent config (.ofReport report)).record indexLogger = .ok r ∧
      (settleSync config run).runIn s =
        if (SyncPass.ofReport report).txsApplied < 0 then
          (.error (.fault .decreasedCounter), { s with journal := s.journal.log r })
        else
          (.ok report, { s with journal := {
            records := s.journal.records ++
              r :: if (SyncPass.ofReport report).reset then [rebuilt config] else []
            metrics := s.journal.metrics.addApplied config.mode
              (SyncPass.ofReport report).txsApplied } }) := by
  obtain ⟨pass, hshort, rfl⟩ := SyncPass.exists_of_fits hreads.fits
  rw [pass.ofReport_toValue]
  obtain ⟨r, hrecord, hreport⟩ := runIn_reportPass_eq config hshort hs
  refine ⟨r, hrecord, ?_⟩
  have hdecode := Report.decode_of_reads hreads run.args run.stderr
  rw [settleSync, hdecode, Action.runIn_bind_of_ok (Action.runIn_ofExcept _ s),
    pass.ofReport_toValue]
  by_cases hnegative : pass.txsApplied < 0
  · rw [if_pos hnegative] at hreport ⊢
    exact Action.runIn_bind_of_error hreport
  · rw [if_neg hnegative] at hreport ⊢
    rw [Action.runIn_bind_of_ok hreport, Action.runIn_pure]

theorem runIn_settleSync_of_error (config : Index.Config) {run : Completed} {failure : Failure}
    (hdecode : Report.decode .indexSync run.args run.stdout run.stderr = .error failure)
    (s : Scene) : (settleSync config run).runIn s = (.error failure, s) := by
  rw [settleSync, hdecode]
  exact Action.runIn_bind_of_error (Action.runIn_ofExcept _ s)

/-- What is logged of a pass is one event, and all of it under the logger of the index. -/
theorem told_pass {config : Index.Config} {pass : SyncPass} {r : Log.Record}
    (hrecord : (syncEvent config pass).record indexLogger = .ok r) (warned : Bool) {new : List Log.Record}
    (hmentions : mentions "index_synced" new = 0) (hunder : Log.under indexLogger new = []) :
    mentions "index_synced" (new ++ r :: if warned then [rebuilt config] else []) = 1 ∧
    Log.under indexLogger (new ++ r :: if warned then [rebuilt config] else []) =
      r :: if warned then [rebuilt config] else [] := by
  have hname : r.event? = some "index_synced" := Log.Event.record_eq_ok hrecord
  have hlogger : r.logger = indexLogger := Log.Event.logger_of_record hrecord
  have hnote : (rebuilt config).event? = none := rfl
  have hindex : (rebuilt config).logger = indexLogger := rfl
  rw [Log.mentions_append, Log.under_append, hmentions, hunder]
  cases warned <;> simp [mentions, Log.under, hname, hlogger, hnote, hindex]

/-- A sync whose run of the engine has ended well.  Where its output is read as a report,
the report's event is logged once and nothing else is said of the index, save a warning
where it was rebuilt; the report is given back, and its transactions are counted for the
mode of the configuration.  A negative number of transactions is a fault after the event
is logged: then there is no warning, and nothing is counted or given back.  Where the
output is no report nothing is logged or counted, and the result is a decode error,
unless the output has an integer of too many digits. -/
theorem sync_reportsPass {c : Client} (hspares : SparesPasses c.transport) {layer : Index.Layer}
    {config : Index.Config} {args : Command.Vector}
    (hplan : c.syncPlan layer = .ok (config, args)) {s ran : Scene}
    (hs : s.journal.metrics.CountsPasses) {run : Completed}
    (hrun : (c.transport.run (c.invocation args)).runIn s = (.ok run, ran)) :
    ∃ result after told, (c.sync layer).runIn s = (result, after) ∧
      after.journal.records = s.journal.records ++ told ∧
      after.journal.metrics.CountsPasses ∧
      (∀ report, Reads .indexSync run.stdout report →
        ∃ r, (syncEvent config (.ofReport report)).record indexLogger = .ok r ∧
          mentions "index_synced" told = 1 ∧
          (0 ≤ (SyncPass.ofReport report).txsApplied →
            result = .ok report ∧
            Log.under indexLogger told =
              r :: (if (SyncPass.ofReport report).reset then [rebuilt config] else []) ∧
            after.journal.metrics.Adds s.journal.metrics config.mode
              (SyncPass.ofReport report).txsApplied) ∧
          ((SyncPass.ofReport report).txsApplied < 0 →
            result = .error (.fault .decreasedCounter) ∧ Log.under indexLogger told = [r] ∧
            after.journal.metrics.Adds s.journal.metrics config.mode 0)) ∧
      ((∀ report, ¬ Reads .indexSync run.stdout report) →
        mentions "index_synced" told = 0 ∧ Log.under indexLogger told = [] ∧
        after.journal.metrics.Adds s.journal.metrics config.mode 0 ∧
        ((∀ count, ¬ Overlong run.stdout count) →
          ∃ reason, result = .error (.ledger (.decode reason run.args run.stderr))) ∧
        ∀ count, Overlong run.stdout count →
          result = .error (.fault (.tooManyDigitsRead count))) := by
  have hquiet := hspares (c.invocation args) s
  rw [hrun] at hquiet
  obtain ⟨new, hnew, hmentions, hunder⟩ := hquiet.exists_new
  have hnew : ran.journal.records = s.journal.records ++ new := hnew
  have hran : ran.journal.metrics.CountsPasses := hs.of_same hquiet.applied
  have hsync : (c.sync layer).runIn s = (settleSync config run).runIn ran := by
    rw [sync, hplan]
    exact Action.runIn_bind_of_ok hrun
  rw [hsync]
  rcases Report.decode_cases .indexSync run.args run.stdout run.stderr with
    ⟨report, hreads, hdecode⟩ | ⟨hreads, hshort, reason, hdecode⟩ | ⟨count, hlong, hdecode⟩
  · obtain ⟨r, hrecord, hsettle⟩ := runIn_settleSync_of_reads config hreads hran
    by_cases hnegative : (SyncPass.ofReport report).txsApplied < 0
    · rw [if_pos hnegative] at hsettle
      obtain ⟨htold, honly⟩ := told_pass hrecord false hmentions hunder
      refine ⟨_, _, new ++ [r], hsettle, ?_, hran, ?_, fun h => absurd hreads (h report)⟩
      · simp [Journal.log, hnew]
      · intro other hother
        obtain rfl := hreads.unique hother
        refine ⟨r, hrecord, htold, fun h => absurd hnegative (Int.not_lt.mpr h), fun _ => ?_⟩
        exact ⟨rfl, honly, ClientMetrics.adds_zero hquiet.applied _⟩
    · rw [if_neg hnegative] at hsettle
      obtain ⟨htold, honly⟩ :=
        told_pass hrecord (SyncPass.ofReport report).reset hmentions hunder
      refine ⟨_, _, new ++ r :: if (SyncPass.ofReport report).reset then [rebuilt config] else [],
        hsettle, ?_, hran.addApplied _ _, ?_, fun h => absurd hreads (h report)⟩
      · simp [hnew]
      · intro other hother
        obtain rfl := hreads.unique hother
        refine ⟨r, hrecord, htold, fun _ => ?_, fun h => absurd h hnegative⟩
        exact ⟨rfl, honly, (hran.adds_addApplied _ _).of_same hquiet.applied⟩
  · refine ⟨_, ran, new, runIn_settleSync_of_error config hdecode ran, hnew, hran,
      fun report h => absurd h (hreads report), fun _ => ?_⟩
    refine ⟨hmentions, hunder, ClientMetrics.adds_zero hquiet.applied _, fun _ => ⟨reason, rfl⟩, ?_⟩
    intro count hlong
    exact absurd hlong (hshort count)
  · refine ⟨_, ran, new, runIn_settleSync_of_error config hdecode ran, hnew, hran,
      fun report h => absurd h hlong.not_reads, fun _ => ?_⟩
    refine ⟨hmentions, hunder, ClientMetrics.adds_zero hquiet.applied _,
      fun h => absurd hlong (h count), ?_⟩
    intro other hother
    rw [hlong.unique hother]

/-- A pass that rebuilt the index and claims to have applied so many transactions. -/
def rebuiltPass (n : Int) : SyncPass := ⟨true, true, 1, n, 0, 0, 1, none⟩

def rebuiltPassText (n : Int) : List Char :=
  "\x7b\"reset\":true,\"fetched\":true,\"commits\":1,\"txs_applied\":".toList ++
    Number.intDigits n ++
    ",\"docs_upserted\":0,\"docs_deleted\":0,\"collections\":1,\"last_commit\":null\x7d".toList

theorem reads_rebuiltPassText {n : Int} (hn : n ∈ [3, -1]) :
    Reads .indexSync (String.ofList (rebuiltPassText n)) (rebuiltPass n).toValue := by
  have hsmall : n.natAbs < Nat.pow 10 19 := by
    revert n
    decide
  have hshort : (rebuiltPass n).Short := by
    apply SyncPass.short_of_natAbs_lt
    simp [rebuiltPass, hsmall]
  apply SyncPass.reads_of_render hshort Json.Style.compact_plain
  simp only [rebuiltPass, SyncPass.toValue, Json.render, Json.renderEntries, Json.keyText,
    Log.optionalText, @Json.integer_of_natAbs_lt 0 (by decide),
    @Json.integer_of_natAbs_lt 1 (by decide), Json.integer_of_natAbs_lt hsmall]
  apply congrArg Except.ok
  clear hshort hsmall
  revert n
  decide +kernel

def rebuiltChild (n : Int) : Engine.Child :=
  ⟨[Text.Utf8.encode (String.ofList (rebuiltPassText n))], [], .exits 0⟩

/-- A limit that the child stays below. -/
def rebuiltLimit (n : Int) : Int := (Host.written (rebuiltChild n) .stdout).length + 1

theorem rebuiltLimit_pos (n : Int) : 0 < rebuiltLimit n :=
  Int.lt_add_one_of_le (Int.natCast_nonneg _)

/-- A client of a system on which each run of the engine gives such a child. -/
def rebuiltClient (n : Int) : Client where
  repo := "/repo"
  transport :=
    let system := Host.System.answering (rebuiltChild n)
    ⟨"engine", Host.run system "engine" (rebuiltLimit n), Host.spawn system "engine"⟩
  autoSync := .bool true
  env := []
  index := ⟨fun | .dbPath => .text "/repo/index.db" | .batchCommits => .int 0 | s => s.standard⟩
  room := Command.callerRoom

theorem runIn_rebuiltClient {n : Int} (hn : n ∈ [3, -1]) : ∃ args run ran,
    (rebuiltClient n).syncPlan (.value .null) = .ok ((rebuiltClient n).index, args) ∧
    ((rebuiltClient n).transport.run ((rebuiltClient n).invocation args)).runIn .fresh =
      (.ok run, ran) ∧
    Reads .indexSync run.stdout (rebuiltPass n).toValue := by
  let ws := ["--repo", "/repo", "--json", "index", "sync", "--db", "/repo/index.db", "--mode",
    "state", "--fast"]
  let request : Host.Request :=
    ⟨.answering (rebuiltChild n), "engine", rebuiltLimit n, rebuiltLimit_pos n, ws, some "/repo",
      some []⟩
  have hfault : Host.requestFault ("engine" :: ws) (some "/repo") [] = none := by decide +kernel
  have hstarted : request.launch = .started (rebuiltChild n) := by
    simp only [Host.Request.launch, Host.System.launch, Host.System.answering, Option.getD_some,
      request, hfault]
  have hfits : request.Fits (rebuiltChild n) := by
    intro channel
    cases channel with
    | stdout => exact Int.le_of_lt (Int.lt_succ _)
    | stderr => exact Int.le_of_lt (rebuiltLimit_pos n)
  obtain ⟨label, hlabel⟩ := Command.exists_label_words ws
  have hsound : Scene.fresh.journal.metrics.Sound := Log.ClientMetrics.sound_fresh
  obtain ⟨status, hends, -⟩ := request.run_ends hlabel hsound
  obtain ⟨hresult, -⟩ := hends.of_completed hstarted hfits rfl
  refine ⟨Command.words ws, _, (request.run.runIn .fresh).2, rfl, Prod.ext hresult rfl, ?_⟩
  have hstdout : (rebuiltChild n).stdout.flatten =
      Text.Utf8.encode (String.ofList (rebuiltPassText n)) := List.flatten_singleton
  rw [hstdout, Text.Utf8.decodeString_encode]
  exact reads_rebuiltPassText hn

/-- A pass of three transactions is counted and warned about; one of less than none is
logged, and that is all. -/
theorem sync_reportsPass_rebuilt :
    (∃ after, ((rebuiltClient 3).sync (.value .null)).runIn .fresh =
        (.ok (rebuiltPass 3).toValue, after) ∧
      after.journal.metrics.appliedCount "state" = 3 ∧
      ∃ r, Log.under indexLogger after.journal.records = [r, rebuilt (rebuiltClient 3).index]) ∧
    ∃ after, ((rebuiltClient (-1)).sync (.value .null)).runIn .fresh =
        (.error (.fault .decreasedCounter), after) ∧
      after.journal.metrics.appliedCount "state" = 0 ∧
      mentions "index_synced" after.journal.records = 1 ∧
      ∃ r, Log.under indexLogger after.journal.records = [r] := by
  have hspares (n : Int) : SparesPasses (rebuiltClient n).transport :=
    sparesPasses_transport (if_neg (Int.not_le.mpr (rebuiltLimit_pos n)))
  have hcounts : Scene.fresh.journal.metrics.CountsPasses :=
    Log.ClientMetrics.sound_fresh.countsPasses
  have hmode (n : Int) : (rebuiltClient n).index.mode = "state" := rfl
  have hzero : Scene.fresh.journal.metrics.appliedCount "state" = 0 := rfl
  constructor
  · obtain ⟨args, run, ran, hplan, hrun, hreads⟩ := runIn_rebuiltClient (n := 3) (by decide)
    obtain ⟨result, after, told, hsync, hrecords, -, hreport, -⟩ :=
      sync_reportsPass (hspares 3) hplan hcounts hrun
    obtain rfl : after.journal.records = told := hrecords
    obtain ⟨r, -, -, hgiven, -⟩ := hreport _ hreads
    rw [SyncPass.ofReport_toValue] at hgiven
    obtain ⟨rfl, hunder, hadds⟩ := hgiven (by decide)
    refine ⟨after, hsync, ?_, r, hunder⟩
    rw [hadds, hzero, hmode, if_pos rfl]
    rfl
  · obtain ⟨args, run, ran, hplan, hrun, hreads⟩ := runIn_rebuiltClient (n := -1) (by decide)
    obtain ⟨result, after, told, hsync, hrecords, -, hreport, -⟩ :=
      sync_reportsPass (hspares (-1)) hplan hcounts hrun
    obtain rfl : after.journal.records = told := hrecords
    obtain ⟨r, -, honce, -, hfault⟩ := hreport _ hreads
    rw [SyncPass.ofReport_toValue] at hfault
    obtain ⟨rfl, hunder, hadds⟩ := hfault (by decide)
    refine ⟨after, hsync, ?_, honce, r, hunder⟩
    rw [hadds, hzero, ite_self]
    rfl

end DocLedger.Client
