import DocLedger.Proofs.Report.Pass
import DocLedger.Proofs.Stream.Documents
import DocLedger.Watch.Handle
import Mathlib.Data.List.Forall2

/-!
# Reports in order

The reports of a watch come out one by one, in the order of the documents that the
engine wrote, up to the first document that has not the shape of a report.  Where
the stream is cut makes no difference: documents that arrive in one piece are read
one after the other, and those of a piece that has been read leave nothing behind
but what the decoder keeps.
-/

namespace DocLedger.Watch

open Engine (Bytes)
open DocLedger.Stream (Carries Decoder)

/-- A document has the shape of a report, and this is the report. -/
def IsReport (document report : Value) : Prop :=
  Report.validate .indexSync [] "" document = .ok report

/-- A document that is no report is a decode error. -/
theorem validate_eq_error {document : Value} {failure : Failure}
    (h : Report.validate .indexSync [] "" document = .error failure) :
    ∃ reason, failure = .ledger (.decode reason [] "") := by
  rw [Report.validate] at h
  split at h
  · cases h
  · exact ⟨_, (Except.error.inj h).symm⟩

theorem forall₂_of_append {α β : Type} {R : α → β → Prop} {xs ys : List α} {zs : List β}
    (h : List.Forall₂ R (xs ++ ys) zs) :
    ∃ zs₁ zs₂, List.Forall₂ R xs zs₁ ∧ List.Forall₂ R ys zs₂ ∧ zs = zs₁ ++ zs₂ :=
  ⟨zs.take xs.length, zs.drop xs.length, (List.forall₂_take_append zs xs ys h.flip).flip,
    (List.forall₂_drop_append zs xs ys h.flip).flip, (List.take_append_drop xs.length zs).symm⟩

/-! ## The documents of one piece -/

theorem takeReports_of_reports {documents reports : List Value}
    (h : List.Forall₂ IsReport documents reports) (count : Nat) :
    takeReports none count documents = (reports, none, false) := by
  induction h generalizing count with
  | nil => rfl
  | cons hreport _ ih =>
      have hvalid := hreport
      rw [IsReport] at hvalid
      simp [takeReports, hvalid, enough, ih]

theorem takeReports_of_failure {front reports : List Value} {bad : Value} {failure : Failure}
    (hfront : List.Forall₂ IsReport front reports)
    (hbad : Report.validate .indexSync [] "" bad = .error failure) (behind : List Value)
    (count : Nat) :
    takeReports none count (front ++ bad :: behind) = (reports, some failure, true) := by
  induction hfront generalizing count with
  | nil => simp [takeReports, hbad]
  | cons hreport _ ih =>
      have hvalid := hreport
      rw [IsReport] at hvalid
      simp [takeReports, hvalid, enough, ih]

/-! ## The pieces of a stream -/

/-- Pieces whose documents are reports give these reports, and the reading goes on
behind them. -/
theorem takePieces_append {before : List Bytes} {d mid : Decoder} {lists : List (List Value)}
    {reports : List Value} (hbefore : d.feedPieces before = (.ok lists, mid))
    (hreports : List.Forall₂ IsReport lists.flatten reports) (count : Nat) (rest : List Bytes) :
    ∃ total, takePieces none count d (before ++ rest) =
      ⟨reports ++ (takePieces none total mid rest).items, (takePieces none total mid rest).failure,
        (takePieces none total mid rest).rest⟩ := by
  induction before generalizing d lists reports count with
  | nil =>
      cases hbefore
      cases hreports
      exact ⟨count, rfl⟩
  | cons piece before ih =>
      rw [Decoder.feedPieces] at hbefore
      split at hbefore
      · cases hbefore
      · next documents next hfeed =>
          split at hbefore
          · cases hbefore
          · next later last hlater =>
              cases hbefore
              rw [List.flatten_cons] at hreports
              obtain ⟨reports₁, reports₂, hfirst, hothers, rfl⟩ := forall₂_of_append hreports
              obtain ⟨total, htotal⟩ := ih hlater hothers (count + reports₁.length)
              refine ⟨total, ?_⟩
              simp [takePieces, hfeed, takeReports_of_reports hfirst, htotal]

/-- A document that is no report ends the reading, whatever arrives with it. -/
theorem takePieces_of_failure {pieces : List Bytes} {d last : Decoder}
    {lists : List (List Value)} (hpieces : d.feedPieces pieces = (.ok lists, last))
    {front behind reports : List Value} {bad : Value} {failure : Failure}
    (hlists : lists.flatten = front ++ bad :: behind)
    (hfront : List.Forall₂ IsReport front reports)
    (hbad : Report.validate .indexSync [] "" bad = .error failure) (count : Nat) :
    ∃ left, takePieces none count d pieces = ⟨reports, some failure, left⟩ := by
  induction pieces generalizing d lists front reports count with
  | nil =>
      cases hpieces
      simp at hlists
  | cons piece rest ih =>
      rw [Decoder.feedPieces] at hpieces
      split at hpieces
      · cases hpieces
      · next documents next hfeed =>
          split at hpieces
          · cases hpieces
          · next later last hlater =>
              cases hpieces
              rw [List.flatten_cons] at hlists
              -- the document at fault is one of this piece or of a later one
              rcases List.append_eq_append_iff.mp hlists.symm with
                ⟨inside, hdocuments, hbehind⟩ | ⟨front', hfront', hlater'⟩
              · cases inside with
                | nil =>
                    rw [List.append_nil] at hdocuments
                    subst hdocuments
                    have hlater' : later.flatten = [] ++ bad :: behind := by
                      simpa using hbehind.symm
                    obtain ⟨left, hleft⟩ := ih hlater hlater' .nil (count + reports.length)
                    exact ⟨left, by simp [takePieces, hfeed, takeReports_of_reports hfront, hleft]⟩
                | cons first inside =>
                    cases hbehind
                    exact ⟨rest, by
                      simp [takePieces, hfeed, hdocuments, takeReports_of_failure hfront hbad]⟩
              · subst hfront'
                obtain ⟨reports₁, reports₂, hfirst, hothers, rfl⟩ := forall₂_of_append hfront
                obtain ⟨left, hleft⟩ := ih hlater hlater' hothers (count + reports₁.length)
                exact ⟨left, by simp [takePieces, hfeed, takeReports_of_reports hfirst, hleft]⟩

/-- The report of a pass is a document of a stream, if it is not too long. -/
theorem isDocument_render {limit : Int} {p : Report.SyncPass} (h : p.Short) {text : List Char}
    (htext : Json.render .compact p.toValue = .ok text) (hfits : (text.length : Int) ≤ limit)
    (hdigits : text.length ≤ Number.digitLimit) : Stream.IsDocument limit text p.toValue := by
  obtain ⟨⟨tail, hopens⟩, hread⟩ := Report.SyncPass.readFront_render h Json.Style.compact_plain htext
  exact
    { opens := ⟨'\x7b', tail, hopens, rfl⟩
      reads := hread
      fits := hfits
      digits := fun _ hrun _ => hrun.length_le.trans hdigits }

/-! ## The pieces of a reading -/

/-- A watch whose output is piped and in JSON is read piece by piece. -/
theorem results_eq {h : Handle} (hjson : h.json.truthy = true) (hstdio : h.stdio = .text "pipe")
    {output : List Bytes} (houtput : h.child.output = some output) :
    (h.results none).1 =
      takePieces none 0 (.fresh Stream.standardLimit) (Engine.reads output) := by
  have hhad : h.reportOutput = .ok output := by
    rw [Handle.reportOutput, hjson, Handle.output, hstdio, houtput]
    rfl
  rw [Handle.results, hhad]
  rfl

/-! ## All documents -/

/-- A reading gives the reports that some documents are, or, where one of them is no
report, those in front of the first such document and its decode error. -/
structure GivesReports (documents : List Value) (taken : Taken Value) : Prop where
  all : ∀ reports, List.Forall₂ IsReport documents reports → taken = ⟨reports, none, []⟩
  upTo : ∀ front bad behind reports failure, documents = front ++ bad :: behind →
    List.Forall₂ IsReport front reports →
    Report.validate .indexSync [] "" bad = .error failure →
      taken.items = reports ∧ taken.failure = some failure ∧
        ∃ reason, failure = .ledger (.decode reason [] "")

theorem givesReports_of_carries {stream : List Char} {documents : List Value}
    (hstream : Carries Stream.standardLimit stream documents) {chunks : List Bytes}
    (hchunks : chunks.flatten = Text.Utf8.encode (String.ofList stream)) :
    GivesReports documents (takePieces none 0 (.fresh Stream.standardLimit) chunks) := by
  have hread : Text.Utf8.read .between chunks.flatten = (stream, .between) := by
    rw [hchunks, Text.Utf8.read_encode, String.toList_ofList]
  obtain ⟨lists, hfeed, rfl⟩ := Stream.feedPieces_fresh_of_steady
    (by rw [hread]; exact hstream.steady) (by rw [hread]; exact hstream.holds)
  rw [hread] at hfeed
  refine ⟨fun reports hreports => ?_, ?_⟩
  · obtain ⟨total, htotal⟩ := takePieces_append hfeed hreports 0 []
    have hend : takePieces none total ⟨Stream.standardLimit, .between, []⟩ [] =
        ⟨[], none, []⟩ := rfl
    rw [List.append_nil, hend, List.append_nil] at htotal
    exact htotal
  · intro front bad behind reports failure hdocuments hfront hbad
    obtain ⟨left, hleft⟩ := takePieces_of_failure hfeed hdocuments hfront hbad 0
    rw [hleft]
    exact ⟨rfl, rfl, validate_eq_error hbad⟩

/-- A stream of documents is read as the reports that they are, in order, up to the
first document that is no report; there the reading ends with a decode error.  So it
is for every cut of the stream into pieces, and for every watch that reports in JSON
and has its output piped. -/
theorem results_givesReports {stream : List Char} {documents : List Value}
    (hstream : Carries Stream.standardLimit stream documents) {output : List Bytes}
    (houtput : output.flatten = Text.Utf8.encode (String.ofList stream)) :
    GivesReports documents (takePieces none 0 (.fresh Stream.standardLimit) output) ∧
    ∀ h : Handle, h.json.truthy = true → h.stdio = .text "pipe" → h.child.output = some output →
      GivesReports documents (h.results none).1 := by
  refine ⟨givesReports_of_carries hstream houtput, ?_⟩
  intro h hjson hstdio hpiped
  rw [results_eq hjson hstdio hpiped]
  exact givesReports_of_carries hstream (by rw [Engine.flatten_reads, houtput])

/-- A pass that wrote one document, up to a commit. -/
def onePass : Report.SyncPass := ⟨false, true, 1, 2, 1, 0, 1, some "é"⟩

def onePassText : List Char :=
  "\x7b\"reset\":false,\"fetched\":true,\"commits\":1,\"txs_applied\":2,".toList ++
    "\"docs_upserted\":1,\"docs_deleted\":0,\"collections\":1,\"last_commit\":\"é\"\x7d".toList

theorem isDocument_onePassText :
    Stream.IsDocument Stream.standardLimit onePassText onePass.toValue := by
  have hshort : onePass.Short := Report.SyncPass.short_of_natAbs_lt (by decide)
  have htext : Json.render .compact onePass.toValue = .ok onePassText := by
    simp only [onePass, Report.SyncPass.toValue, Json.render, Json.renderEntries, Json.keyText,
      Log.optionalText, @Json.integer_of_natAbs_lt 0 (by decide),
      @Json.integer_of_natAbs_lt 1 (by decide), @Json.integer_of_natAbs_lt 2 (by decide)]
    exact congrArg Except.ok (by decide +kernel)
  exact isDocument_render hshort htext (by decide +kernel) (by decide +kernel)

/-- A report, a list and the same report again, cut inside the character of the first
report that takes two bytes.  The first is all that is given, though the third
shares its piece with the second. -/
theorem results_givesReports_list_between :
    let stream := onePassText ++ ('\n' :: '[' :: ']' :: onePassText)
    let bytes := Text.Utf8.encode (String.ofList stream)
    let output := [bytes.take 125, bytes.drop 125]
    Carries Stream.standardLimit stream [onePass.toValue, .list [], onePass.toValue] ∧
      output.flatten = bytes ∧
      ∀ h : Handle, h.json = .bool true → h.stdio = .text "pipe" → h.child.output = some output →
        ∃ reason left,
          (h.results none).1 = ⟨[onePass.toValue], some (.ledger (.decode reason [] "")), left⟩ := by
  intro stream bytes output
  have hpass := isDocument_onePassText
  have hlist : Stream.IsDocument Stream.standardLimit ['[', ']'] (.list []) :=
    { opens := ⟨'[', _, rfl, rfl⟩
      reads := rfl
      fits := by decide
      digits := fun _ hrun _ => hrun.length_le.trans (by decide) }
  have hnone : ∀ c ∈ [], Text.isBlank c = true := List.forall_mem_nil _
  have hbreak : ∀ c ∈ ['\n'], Text.isBlank c = true := List.forall_mem_singleton.mpr rfl
  have hlast : Carries Stream.standardLimit onePassText [onePass.toValue] := by
    simpa using Carries.document hnone hpass (.finished hnone)
  have hstream : Carries Stream.standardLimit stream [onePass.toValue, .list [], onePass.toValue] :=
    .document hnone hpass (.document hbreak hlist hlast)
  have houtput : output.flatten = bytes := by simp [output]
  refine ⟨hstream, houtput, ?_⟩
  intro h hjson hstdio hpiped
  obtain ⟨reason, hbad⟩ : ∃ reason, Report.validate .indexSync [] "" (.list []) =
      .error (.ledger (.decode reason [] "")) := ⟨_, rfl⟩
  have hgives := (results_givesReports hstream houtput).2 h (by rw [hjson]; rfl) hstdio hpiped
  obtain ⟨hitems, hfailure, -⟩ := hgives.upTo [onePass.toValue] (.list []) [onePass.toValue]
    [onePass.toValue] _ rfl (.cons (onePass.validate_toValue [] "") .nil) hbad
  exact ⟨reason, (h.results none).1.rest, by rw [← hitems, ← hfailure]⟩

end DocLedger.Watch
