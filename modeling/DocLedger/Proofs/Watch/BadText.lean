import DocLedger.Proofs.Stream.Faults
import DocLedger.Proofs.Watch.Reports

/-!
# Reports with bad text behind them

Bad text behind the reports of a watch is a decode error.  The error comes with the
piece that shows the first character of the bad text, and what that piece shows
of reports goes with it: all reports are given only if the stream is cut somewhere
between the last of them and the bad text.
-/

namespace DocLedger.Watch

open Engine (Bytes)
open DocLedger.Stream (Carries ComesUpon Decoder Holds IsBad shown)

/-- A reading of reports that bad text follows breaks off at a piece: it gives the
reports that the pieces before hold, and fails for what the decoder comes upon. -/
structure BreaksOff (front : List Char) (c : Char) (documents reports : List Value)
    (before : List Bytes) (piece : Bytes) (behind : List Bytes) (taken : Taken Value) : Prop where
  given : taken.items <+: reports
  all_iff : taken.items = reports ↔ Holds Stream.standardLimit (shown before) documents []
  fault : ∃ found fault, ComesUpon Stream.standardLimit front c before piece found fault ∧
    List.Forall₂ IsReport found taken.items ∧ taken.failure = some fault.toFailure
  unread : taken.rest = behind
  /-- If no document is too large, it is the bad text that the reading fails for. -/
  badText : Carries Stream.standardLimit front documents →
    ∃ tail, shown (before ++ [piece]) = front ++ c :: tail ∧
      taken.failure = some (Stream.StreamFault.unexpected (c :: tail)).toFailure

theorem takePieces_of_isBad {front more : List Char} {c : Char} {documents reports : List Value}
    (hfront : Holds Stream.standardLimit front documents [])
    (hreports : List.Forall₂ IsReport documents reports) (hbad : IsBad c) {pieces : List Bytes}
    (hpieces : shown pieces = front ++ c :: more) :
    ∃ before piece behind, pieces = before ++ piece :: behind ∧
      BreaksOff front c documents reports before piece behind
        (takePieces none 0 (.fresh Stream.standardLimit) pieces) := by
  obtain ⟨before, piece, behind, lists, mid, fault, last, rfl, hbefore, hpiece, hupon⟩ :=
    Stream.feedPieces_isBad hfront hbad hpieces
  refine ⟨before, piece, behind, rfl, ?_⟩
  obtain ⟨left, hheld⟩ := hupon.holds
  obtain ⟨inside, hinside⟩ := hupon.early
  obtain ⟨others, hdocuments, -⟩ := hheld.append_iff.mp (hinside ▸ hfront)
  obtain ⟨given, lost, hgiven, hlost, rfl⟩ := forall₂_of_append (hdocuments ▸ hreports)
  obtain ⟨total, htaken⟩ := takePieces_append hbefore hgiven 0 (piece :: behind)
  have hends : takePieces none total mid (piece :: behind) =
      ⟨[], some fault.toFailure, behind⟩ := by
    rw [takePieces, hpiece]
  rw [hends, List.append_nil] at htaken
  rw [htaken]
  refine
    { given := List.prefix_append given lost
      all_iff := ⟨fun hall => ?_, fun hall => ?_⟩
      fault := ⟨_, fault, hupon, hgiven, rfl⟩
      unread := rfl
      badText := fun hcarries => ?_ }
  · obtain rfl : lost = [] := by simpa using hall.symm
    cases hlost
    rw [List.append_nil] at hdocuments
    subst hdocuments
    obtain rfl : left = [] := hheld.left_eq_nil (hinside ▸ hfront)
    exact hheld
  · obtain ⟨hsame, -⟩ := hheld.unique hall
    rw [hdocuments] at hsame
    obtain rfl : others = [] := by simpa using hsame.symm
    cases hlost
    exact (List.append_nil given).symm
  · rcases hupon.cause with ⟨tail, htail, rfl⟩ | ⟨hearly, hnone, -⟩
    · exact ⟨tail, htail, rfl⟩
    · obtain ⟨vs, rest, hholds⟩ := hcarries.steady _ hearly
      exact absurd hholds (hnone vs rest)

/-- Reports that bad text follows are given up to the piece in which the reading
breaks off, which is the piece that shows the first character of the bad text.
So it is for every cut of the stream into pieces, and for every watch that reports
in JSON and has its output piped. -/
theorem results_breaksOff {front more : List Char} {c : Char} {documents reports : List Value}
    (hfront : Holds Stream.standardLimit front documents [])
    (hreports : List.Forall₂ IsReport documents reports) (hbad : IsBad c) {output : List Bytes}
    (houtput : shown output = front ++ c :: more) :
    (∃ before piece behind, output = before ++ piece :: behind ∧
      BreaksOff front c documents reports before piece behind
        (takePieces none 0 (.fresh Stream.standardLimit) output)) ∧
    ∀ h : Handle, h.json.truthy = true → h.stdio = .text "pipe" → h.child.output = some output →
      ∃ before piece behind, Engine.reads output = before ++ piece :: behind ∧
        BreaksOff front c documents reports before piece behind (h.results none).1 := by
  refine ⟨takePieces_of_isBad hfront hreports hbad houtput, ?_⟩
  intro h hjson hstdio hpiped
  rw [results_eq hjson hstdio hpiped]
  have hreads : shown (Engine.reads output) = front ++ c :: more := by
    rw [shown, Engine.flatten_reads]
    exact houtput
  exact takePieces_of_isBad hfront hreports hbad hreads

theorem reads_eq_self {pieces : List Bytes}
    (h : ∀ piece ∈ pieces, piece ≠ [] ∧ piece.length ≤ Engine.pieceLimit) :
    Engine.reads pieces = pieces := by
  induction pieces with
  | nil => rfl
  | cons piece rest ih =>
      obtain ⟨hsome, hfits⟩ := h piece List.mem_cons_self
      have hrest := ih fun p hp => h p (List.mem_cons_of_mem piece hp)
      obtain ⟨byte, bytes, rfl⟩ := List.exists_cons_of_ne_nil hsome
      have hcut : Engine.cut Engine.pieceLimit (byte :: bytes).length (byte :: bytes) =
          [byte :: bytes] := by
        rw [List.length_cons, Engine.cut, List.take_of_length_le hfits,
          List.drop_eq_nil_of_le hfits]
        cases bytes <;> rfl
      rw [Engine.reads] at hrest ⊢
      rw [List.flatMap_cons, hcut, hrest, List.singleton_append]

/-- A report with bad text behind it, once in one piece with it and once in a piece
of its own.  The report is given the second time only. -/
theorem results_breaksOff_oops :
    let bytes := Text.Utf8.encode (String.ofList onePassText)
    let oops := Text.Utf8.encode "oops"
    let failure : Failure := .ledger (.decode "unexpected watch output: 'oops'" [] "")
    Carries Stream.standardLimit onePassText [onePass.toValue] ∧
    IsReport onePass.toValue onePass.toValue ∧ IsBad 'o' ∧
    ∀ h : Handle, h.json = .bool true → h.stdio = .text "pipe" →
      (h.child.output = some [bytes ++ oops] → (h.results none).1 = ⟨[], some failure, []⟩) ∧
      (h.child.output = some [bytes, oops] →
        (h.results none).1 = ⟨[onePass.toValue], some failure, []⟩) := by
  intro bytes oops failure
  have hnone : ∀ c ∈ [], Text.isBlank c = true := List.forall_mem_nil _
  have hcarries : Carries Stream.standardLimit onePassText [onePass.toValue] := by
    simpa using Carries.document hnone isDocument_onePassText (.finished hnone)
  have hreport : IsReport onePass.toValue onePass.toValue := onePass.validate_toValue [] ""
  have hbad : IsBad 'o' := ⟨by decide, by decide⟩
  refine ⟨hcarries, hreport, hbad, fun h hjson hstdio => ?_⟩
  have htruthy : h.json.truthy = true := by
    rw [hjson]
    rfl
  have hfailure : (Stream.StreamFault.unexpected ['o', 'o', 'p', 's']).toFailure = failure :=
    congrArg (fun text => Failure.ledger (.decode text [] "")) (by decide +kernel)
  have hfirst : Text.Utf8.read .between bytes = (onePassText, .between) := by
    rw [Text.Utf8.read_encode, String.toList_ofList]
  have hoops : Text.Utf8.read .between oops = (['o', 'o', 'p', 's'], .between) :=
    Text.Utf8.read_encode "oops"
  have hmade : bytes ≠ [] ∧ bytes.length ≤ 200 := by decide +kernel
  have hlength : oops ≠ [] ∧ oops.length ≤ 200 := by decide +kernel
  have halone : shown [bytes] = onePassText := by
    rw [shown, List.flatten_singleton, hfirst]
  -- what is known of the bytes is enough
  clear_value bytes oops
  constructor
  · intro hpiped
    have hreads : Engine.reads [bytes ++ oops] = [bytes ++ oops] := by
      refine reads_eq_self (List.forall_mem_singleton.mpr ⟨by simp [hmade.1], ?_⟩)
      rw [List.length_append, Engine.pieceLimit]
      omega
    have hwhole : shown [bytes ++ oops] = onePassText ++ ['o', 'o', 'p', 's'] := by
      rw [shown, List.flatten_singleton, Text.Utf8.read_append, hfirst, hoops]
    obtain ⟨before, piece, behind, houtput, hbreaks⟩ :=
      (results_breaksOff hcarries.holds (.cons hreport .nil) hbad hwhole).2 h htruthy hstdio hpiped
    rw [hreads] at houtput
    obtain ⟨rfl, rfl, rfl⟩ : before = [] ∧ piece = bytes ++ oops ∧ behind = [] := by
      cases before with
      | nil => simpa [eq_comm] using houtput
      | cons first before => simp at houtput
    obtain ⟨tail, htail, hfail⟩ := hbreaks.badText hcarries
    rw [List.nil_append, hwhole] at htail
    obtain ⟨found, fault, hupon, hitems, -⟩ := hbreaks.fault
    obtain ⟨left, hheld⟩ := hupon.holds
    obtain ⟨rfl, -⟩ := hheld.unique (.blank rfl)
    cases List.append_cancel_left htail
    rw [hfailure] at hfail
    rw [← hfail, ← hbreaks.unread, ← List.forall₂_nil_left_iff.mp hitems]
  · intro hpiped
    have hreads : Engine.reads [bytes, oops] = [bytes, oops] := by
      refine reads_eq_self (List.forall_mem_cons.mpr ⟨⟨hmade.1, ?_⟩,
        List.forall_mem_singleton.mpr ⟨hlength.1, ?_⟩⟩) <;> rw [Engine.pieceLimit] <;> omega
    have hwhole : shown [bytes, oops] = onePassText ++ ['o', 'o', 'p', 's'] := by
      rw [shown, List.flatten_cons, List.flatten_singleton, Text.Utf8.read_append, hfirst, hoops]
    obtain ⟨before, piece, behind, houtput, hbreaks⟩ :=
      (results_breaksOff hcarries.holds (.cons hreport .nil) hbad hwhole).2 h htruthy hstdio hpiped
    rw [hreads] at houtput
    obtain ⟨tail, htail, hfail⟩ := hbreaks.badText hcarries
    obtain ⟨rfl, rfl, rfl⟩ : before = [bytes] ∧ piece = oops ∧ behind = [] := by
      cases before with
      | nil =>
          obtain ⟨rfl, rfl⟩ : piece = bytes ∧ behind = [oops] := by simpa [eq_comm] using houtput
          rw [List.nil_append, halone] at htail
          simp at htail
      | cons first before =>
          cases before with
          | nil => simpa [eq_comm] using houtput
          | cons second before => simp at houtput
    have hitems := hbreaks.all_iff.mpr (halone ▸ hcarries.holds)
    rw [List.singleton_append, hwhole] at htail
    cases List.append_cancel_left htail
    rw [hfailure] at hfail
    rw [← hitems, ← hfail, ← hbreaks.unread]

end DocLedger.Watch
