import DocLedger.Proofs.Cli.Errors
import DocLedger.Proofs.Console.LaidOut
import DocLedger.Proofs.Console.Marks

/-!
# What is shown of a push

The command that pushes gives the engine's text to the terminal as marked text, and does not
escape it.  So a listing is shown as it is just when it holds no marks: tags vanish from it or
cannot be closed, backslashes before brackets are lost, and shortcodes become pictograms.
-/

namespace DocLedger.Cli

open Engine (Completed Scene)

/-! ## Printed texts -/

theorem toList_printedText (lines : List (List Char)) :
    (printedText lines).toList = lines.flatMap (· ++ ['\n']) := by
  induction lines with
  | nil => rfl
  | cons line lines ih =>
      rw [printedText, List.map_cons, String.join_cons, ← printedText, String.toList_append, ih]
      simp

/-- A printed text holds the characters of its lines, and line feeds. -/
theorem countP_printedText {kind : Char → Bool} (hfeed : kind '\n' = false)
    (lines : List (List Char)) :
    (printedText lines).toList.countP kind = lines.flatten.countP kind := by
  rw [toList_printedText]
  induction lines with
  | nil => rfl
  | cons line lines ih =>
      rw [List.flatMap_cons, List.flatten_cons, List.countP_append, List.countP_append, ih,
        List.countP_append, List.countP_singleton, hfeed]
      simp

/-- No character but blanks and line feeds becomes more frequent when a text is printed. -/
theorem countP_printedPlain_le (width : Nat) (text : String) {kind : Char → Bool}
    (hblank : kind ' ' = false) (hfeed : kind '\n' = false) :
    (printedPlain width text).toList.countP kind ≤ text.toList.countP kind := by
  rw [printedPlain, countP_printedText hfeed]
  exact (Console.thins_wrap width text).countP_le hblank

theorem printedPlain_of_isListing {width : Nat} {text : String}
    (h : Console.IsListing width text.toList) : printedPlain width text = text ++ "\n" := by
  have hends (lines : List (List Char)) (hsome : lines ≠ []) :
      lines.flatMap (· ++ ['\n']) = ['\n'].intercalate lines ++ ['\n'] := by
    induction lines with
    | nil => exact absurd rfl hsome
    | cons line lines ih =>
        cases lines with
        | nil => simp
        | cons next lines =>
            rw [List.flatMap_cons, ih (by simp), List.intercalate_cons_cons]
            simp
  rw [printedPlain, h.wrap_eq]
  apply String.toList_injective
  rw [toList_printedText, hends _ (List.splitOn_ne_nil _ _), List.intercalate_splitOn,
    String.toList_append]
  rfl

/-! ## The end of a push -/

theorem render_pushCompleted :
    Console.render "[green]Push completed[/green]" = .ok "Push completed" := by
  have hpieces : Console.pieces "[green]Push completed[/green]".toList =
      [.tag 0 "green".toList, .plain "Push completed".toList, .tag 21 ('/' :: "green".toList)] := by
    decide +kernel
  have hshown : String.ofList (Console.shownText "Push completed".toList) = "Push completed" := by
    decide +kernel
  rw [Console.styleName_green.render_of_pieces (by decide +kernel) hpieces, hshown]

/-- The last line of a push is one line on every terminal that is wide enough for it. -/
theorem printedPlain_pushCompleted (width : Nat) :
    printedPlain width "Push completed" = "Push completed\n" ↔ 14 ≤ width := by
  constructor
  · intro hprinted
    have hnarrow : ∀ width < 14, printedPlain width "Push completed" ≠ "Push completed\n" := by
      decide +kernel
    by_contra hwidth
    exact hnarrow width (Nat.lt_of_not_le hwidth) hprinted
  · intro hwidth
    exact printedPlain_of_printable (by decide) hwidth

/-! ## The command -/

theorem Job.runIn_print_of_fault (w : World) {markup : String} {fault : Fault}
    (h : Console.render markup = .error fault) (p : Progress) :
    (Job.print w markup).runIn p = (.error (.fails (.fault fault)), p) := by
  have hlines : Job.markedLines w.width markup = .error fault := by
    rw [Job.markedLines, h]
    rfl
  rw [Job.print, hlines]
  rfl

section

variable {w : World} {text : String} {p : Progress}

theorem runIn_pushCompleted (p : Progress) :
    (Job.print w "[green]Push completed[/green]").runIn p =
      (.ok (), { p with printed := p.printed ++ printedPlain w.width "Push completed" }) :=
  Job.runIn_print_of_render w render_pushCompleted p

theorem runIn_showPush_of_blank (h : Text.allBlank text = true) :
    (showPush w (.output text)).runIn p =
      (.ok (), { p with printed := p.printed ++ printedPlain w.width "Push completed" }) := by
  have hshow : showPush w (.output text) = Job.print w "[green]Push completed[/green]" := by
    unfold showPush
    simp only [h, Bool.not_true, Bool.false_eq_true, if_false]
  rw [hshow, runIn_pushCompleted]

theorem showPush_of_not_blank (h : Text.allBlank text = false) :
    showPush w (.output text) = (do
      Job.print w (Text.trimmedEnd text)
      Job.print w "[green]Push completed[/green]") := by
  unfold showPush
  simp only [h, Bool.not_false, if_true]

theorem runIn_showPush_of_render (h : Text.allBlank text = false) {shown : String}
    (hrender : Console.render (Text.trimmedEnd text) = .ok shown) :
    (showPush w (.output text)).runIn p =
      (.ok (), { p with printed :=
        p.printed ++ printedPlain w.width shown ++ printedPlain w.width "Push completed" }) := by
  rw [showPush_of_not_blank h, Job.runIn_bind_of_ok (Job.runIn_print_of_render w hrender p),
    runIn_pushCompleted]

theorem runIn_showPush_of_fault (h : Text.allBlank text = false) {fault : Fault}
    (hrender : Console.render (Text.trimmedEnd text) = .error fault) :
    (showPush w (.output text)).runIn p = (.error (.fails (.fault fault)), p) := by
  rw [showPush_of_not_blank h, Job.runIn_bind_of_error (Job.runIn_print_of_fault w hrender p)]

end

/-! ## What the command shows -/

/-- The command exits with zero, and shows the text of the engine as it is, up to the blanks at
its end, and then a line that says that the push is completed. -/
structure ShowsAsIs (text : String) (outcome : Outcome) : Prop where
  exits : outcome.ending = .exits 0
  prints : outcome.stdout =
    (if Text.allBlank text then "" else Text.trimmedEnd text ++ "\n") ++ "Push completed\n"

/-- How the command ends, and what it prints, is decided by the text of the engine as marked
text. -/
structure ShowsMarked (width : Nat) (text : String) (outcome : Outcome) : Prop where
  blank : Text.allBlank text = true →
    outcome.ending = .exits 0 ∧ outcome.stdout = printedPlain width "Push completed"
  shows : Text.allBlank text = false → ∀ shown,
    Console.render (Text.trimmedEnd text) = .ok shown →
      outcome.ending = .exits 0 ∧
        outcome.stdout = printedPlain width shown ++ printedPlain width "Push completed"
  breaks : Text.allBlank text = false → ∀ fault,
    Console.render (Text.trimmedEnd text) = .error fault →
      outcome.ending = Outcome.endingOf (.error (.fails (.fault fault))) ∧ outcome.stdout = ""

theorem toList_trimmedEnd (text : String) :
    (Text.trimmedEnd text).toList = Text.trimEnd text.toList := String.toList_ofList

theorem trimEnd_isPrefix (cs : List Char) : Text.trimEnd cs <+: cs := by
  have hsuffix := List.dropWhile_suffix (l := cs.reverse) Text.isBlank
  rwa [← List.reverse_prefix, List.reverse_reverse] at hsuffix

/-- A text of which characters are lost is not printed as it is. -/
theorem printedPlain_ne_of_loses {shown text : String}
    (h : Console.Loses shown.toList text.toList) (width : Nat) :
    printedPlain width shown ++ printedPlain width "Push completed" ≠
      text ++ "\n" ++ "Push completed\n" := by
  intro hprinted
  -- the last line holds none of the characters that are lost, however it is laid out
  have hless (kind : Char → Bool) (hblank : kind ' ' = false) (hfeed : kind '\n' = false)
      (hnone : "Push completed".toList.countP kind = 0) :
      text.toList.countP kind ≤ shown.toList.countP kind := by
    have hcount := congrArg (fun s => s.toList.countP kind) hprinted
    have hshown := countP_printedPlain_le width shown hblank hfeed
    have hlast := countP_printedPlain_le width "Push completed" hblank hfeed
    simp only [String.toList_append, List.countP_append] at hcount
    omega
  rcases h with hcolons | hmarks
  · exact absurd (hless (· == ':') rfl rfl (by decide)) (Nat.not_le_of_lt hcolons)
  · exact absurd (hless Console.isTagMark rfl rfl (by decide)) (Nat.not_le_of_lt hmarks)

theorem trimEnd_of_allBlank {text : String} (h : Text.allBlank text = true) :
    Text.trimEnd text.toList = [] := by
  have hall : ∀ c ∈ text.toList.reverse, Text.isBlank c = true := by
    simpa [Text.allBlank] using h
  rw [Text.trimEnd, List.dropWhile_eq_nil_iff.mpr hall, List.reverse_nil]

namespace ShowsMarked

variable {width : Nat} {text : String} {outcome : Outcome}

/-- A listing is shown as it is just when it holds no marks, on a terminal that is wide enough
for the last line. -/
theorem showsAsIs_iff (h : ShowsMarked width text outcome)
    (hlisting : Console.IsListing width text.toList) :
    ShowsAsIs text outcome ↔ Console.MarkFree (Text.trimEnd text.toList) ∧ 14 ≤ width := by
  by_cases hblank : Text.allBlank text = true
  · obtain ⟨hexits, hprints⟩ := h.blank hblank
    have hfree : Console.MarkFree (Text.trimEnd text.toList) := by
      rw [trimEnd_of_allBlank hblank]
      exact Console.markFree_nil
    rw [← printedPlain_pushCompleted width]
    constructor
    · intro hshows
      have hsame := hshows.prints
      rw [hprints, if_pos hblank, String.empty_append] at hsame
      exact ⟨hfree, hsame⟩
    · rintro ⟨-, hwide⟩
      refine ⟨hexits, ?_⟩
      rw [hprints, if_pos hblank, String.empty_append, hwide]
  · rw [Bool.not_eq_true] at hblank
    have hpart : Console.IsListing width (Text.trimmedEnd text).toList := by
      rw [toList_trimmedEnd]
      exact hlisting.of_infix (trimEnd_isPrefix _).isInfix
    rw [← toList_trimmedEnd, ← printedPlain_pushCompleted width]
    constructor
    · intro hshows
      have hsame := hshows.prints
      rw [if_neg (by simp [hblank])] at hsame
      cases hrender : Console.render (Text.trimmedEnd text) with
      | error fault =>
          have hends := (h.breaks hblank fault hrender).1
          have hne := endingOf_fault_ne fault (show (0 : Int) ≠ interruptStatus by decide)
          exact absurd (hends.symm.trans hshows.exits) hne
      | ok shown =>
          rw [(h.shows hblank shown hrender).2] at hsame
          by_cases hfree : Console.MarkFree (Text.trimmedEnd text).toList
          · rw [Console.render_of_markFree hfree] at hrender
            rw [← Except.ok.inj hrender, printedPlain_of_isListing hpart] at hsame
            exact ⟨hfree, String.append_right_inj _ |>.mp hsame⟩
          · exact absurd hsame (printedPlain_ne_of_loses (Console.loses_of_render hfree hrender) width)
    · rintro ⟨hfree, hwide⟩
      obtain ⟨hexits, hprints⟩ := h.shows hblank _ (Console.render_of_markFree hfree)
      refine ⟨hexits, ?_⟩
      rw [hprints, if_neg (by simp [hblank]), printedPlain_of_isListing hpart, hwide]

end ShowsMarked

/-- A push that the engine carries out ends and prints as the engine's text says as marked text.
So a listing is shown as it is just when it holds no marks, on a terminal that is wide enough
for the last line. -/
theorem push_outcome {w : World} {words rest : List String} {s : Session} {command : String}
    {level : Log.Level} {c : Client} {args : Command.Vector} {scene ran : Scene} {run : Completed}
    {outcome : Outcome} (hsession : readSession words = .ok (s, command, rest))
    (hlevel : Log.levelOf (.text s.logLevel) = .ok level)
    (hrequest : readRequest command rest = .ok .push) (hclient : s.client w = .ok c)
    (hvector : c.operationVector .push = .ok args)
    (hrun : (c.transport.run (c.invocation args)).runIn scene = (.ok run, ran))
    (houtcome : Cli.run w scene words = outcome) :
    ShowsMarked w.width run.stdout outcome ∧
      (Console.IsListing w.width run.stdout.toList →
        (ShowsAsIs run.stdout outcome ↔
          Console.MarkFree (Text.trimEnd run.stdout.toList) ∧ 14 ≤ w.width)) := by
  have hoperate := runIn_operate_of_decode rfl hclient hvector hrun
    (show Client.decode .push run = .ok (.output run.stdout) from rfl) "" ""
  have hjob : (Request.push.job w s).runIn ⟨scene, "", ""⟩ =
      (showPush w (.output run.stdout)).runIn ⟨ran, "", ""⟩ :=
    Job.runIn_bind_of_ok hoperate
  have hends {result : Except Leave Unit} {progress : Progress}
      (h : (showPush w (.output run.stdout)).runIn ⟨ran, "", ""⟩ = (result, progress)) :
      outcome.ending = Outcome.endingOf result ∧ outcome.stdout = progress.printed := by
    rw [← houtcome, run_of_request hsession hlevel hrequest]
    exact Outcome.ofJob_of_runIn (hjob.trans h) _ _
  have hmarked : ShowsMarked w.width run.stdout outcome := by
    constructor
    · intro hblank
      obtain ⟨hending, hstdout⟩ := hends (runIn_showPush_of_blank hblank)
      exact ⟨hending, by simpa only [String.empty_append] using hstdout⟩
    · intro hblank shown hrender
      obtain ⟨hending, hstdout⟩ := hends (runIn_showPush_of_render hblank hrender)
      exact ⟨hending, by simpa only [String.empty_append] using hstdout⟩
    · intro hblank fault hrender
      exact hends (runIn_showPush_of_fault hblank hrender)
  exact ⟨hmarked, hmarked.showsAsIs_iff⟩

/-- What the engine says when a new branch has been pushed. -/
def newBranchText : String := " * [new branch]      main -> main\n"

theorem isListing_newBranchText : Console.IsListing 80 newBranchText.toList := by
  have hall : newBranchText.toList.all (fun c => c == '\n' || Console.isPrintable c) = true := by
    decide +kernel
  have hlength : newBranchText.toList.length ≤ 80 := by decide +kernel
  constructor
  · intro c hc hfeed
    have hprintable := List.all_eq_true.mp hall c hc
    rwa [beq_false_of_ne hfeed, Bool.false_or] at hprintable
  · intro line hline _
    exact hline.length_le.trans hlength

/-- What stands in brackets looks like a tag. -/
theorem holdsTag_newBranchText : Console.HoldsTag (Text.trimEnd newBranchText.toList) := by
  have hinside : Console.IsInside "new branch".toList := .of_all (by decide) (by decide)
  exact ⟨" * ".toList, _, "      main -> main".toList, hinside, by decide +kernel⟩

def newBranchScene : Scene := { Scene.fresh with replies := [.output newBranchText ""] }

/-- The branch that has been pushed is not shown. -/
theorem push_outcome_newBranch : ∃ outcome,
    run answeringWorld newBranchScene ["push"] = outcome ∧
    Console.IsListing answeringWorld.width newBranchText.toList ∧
    ¬ ShowsAsIs newBranchText outcome := by
  have hsession : readSession ["push"] = .ok (plainSession, "push", []) :=
    readSession_of_toOption (by decide +kernel)
  have hrequest : readRequest "push" [] = .ok .push := rfl
  obtain ⟨level, hlevel⟩ : ∃ level, Log.levelOf (.text plainSession.logLevel) = .ok level :=
    ⟨_, rfl⟩
  obtain ⟨c, hclient, htransport⟩ := client_plainSession
  obtain ⟨args, hvector⟩ : ∃ args, c.operationVector .push = .ok args := ⟨_, rfl⟩
  obtain ⟨ran, hrun⟩ : ∃ ran, (c.transport.run (c.invocation args)).runIn newBranchScene =
      (.ok ⟨args, 0, newBranchText, ""⟩, ran) := by
    rw [htransport]
    exact ⟨_, rfl⟩
  -- the run is not evaluated, which would search the table of colours
  obtain ⟨outcome, houtcome⟩ : ∃ outcome,
      run answeringWorld newBranchScene ["push"] = outcome := ⟨_, rfl⟩
  obtain ⟨-, hshows⟩ :=
    push_outcome hsession hlevel hrequest hclient hvector hrun houtcome
  refine ⟨outcome, houtcome, isListing_newBranchText, ?_⟩
  rw [hshows isListing_newBranchText]
  rintro ⟨hfree, -⟩
  exact hfree.noTag holdsTag_newBranchText

end DocLedger.Cli
