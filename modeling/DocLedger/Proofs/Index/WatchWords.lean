import DocLedger.Command.Vector
import DocLedger.Proofs.Index.Layers

/-!
# The words of a watch

Settings whose values are of their kinds make a configuration unless the path is
blank or the mode unknown, and a configuration makes the words of a watch unless
its interval is not positive or its jitter negative.  The words spell the interval,
and also the jitter and the bound on commits where these are positive; an error
quotes the number at fault.  A number beyond the limit on digits can be neither
spelled nor quoted.
-/

namespace DocLedger.Index

/-! ## What may be wrong with settings -/

/-- Settings that make no configuration. -/
inductive Settings.Invalid (s : Settings) : Prop
  | path {path : String} (hpath : s .dbPath = .text path) (hblank : Text.allBlank path = true)
  | mode {word : String} (hmode : s .mode = .text word) (hunknown : word ∉ modes)

/-- Settings with which nothing can be watched. -/
inductive Settings.Unwatchable (s : Settings) : Prop
  | interval {n : Int} (hinterval : s .intervalMs = .int n) (hbound : n ≤ 0)
  | jitter {n : Int} (hjitter : s .jitterMs = .int n) (hbound : n < 0)

/-- Settings with a number beyond the limit on digits that the words of a watch
would have to spell, or the error about it to quote. -/
inductive Settings.Unwritable (s : Settings) : Prop
  | interval {n : Int} (hinterval : s .intervalMs = .int n) (hbound : n ≤ 0)
      (hlong : Number.tooLong n = true)
  | jitter {n m : Int} (hinterval : s .intervalMs = .int n) (hpositive : 0 < n)
      (hjitter : s .jitterMs = .int m) (hbound : m < 0) (hlong : Number.tooLong m = true)
  | spelled {setting : Setting} {n : Int} (hwatchable : ¬ s.Unwatchable)
      (hspelled : setting ∈ [Setting.intervalMs, .jitterMs, .batchCommits])
      (hnumber : s setting = .int n) (hpositive : 0 < n) (hlong : Number.tooLong n = true)

section

variable {s : Settings} {n m b : Int} (hinterval : s .intervalMs = .int n)
  (hjitter : s .jitterMs = .int m) (hbatch : s .batchCommits = .int b)

include hinterval hjitter

theorem Settings.unwatchable_iff : s.Unwatchable ↔ n ≤ 0 ∨ m < 0 := by
  constructor
  · intro h
    cases h with
    | interval hother hbound =>
        obtain rfl := Value.int.inj (hinterval.symm.trans hother)
        exact .inl hbound
    | jitter hother hbound =>
        obtain rfl := Value.int.inj (hjitter.symm.trans hother)
        exact .inr hbound
  · rintro (hbound | hbound)
    · exact .interval hinterval hbound
    · exact .jitter hjitter hbound

include hbatch

theorem Settings.unwritable_iff : s.Unwritable ↔
    (n ≤ 0 ∧ Number.tooLong n = true) ∨ (0 < n ∧ m < 0 ∧ Number.tooLong m = true) ∨
      (0 < n ∧ 0 ≤ m ∧ (Number.tooLong n = true ∨ (0 < m ∧ Number.tooLong m = true) ∨
        (0 < b ∧ Number.tooLong b = true))) := by
  have hwatchable := Settings.unwatchable_iff hinterval hjitter
  constructor
  · intro h
    cases h with
    | interval hother hbound hlong =>
        obtain rfl := Value.int.inj (hinterval.symm.trans hother)
        exact .inl ⟨hbound, hlong⟩
    | jitter hother hpositive hother' hbound hlong =>
        obtain rfl := Value.int.inj (hinterval.symm.trans hother)
        obtain rfl := Value.int.inj (hjitter.symm.trans hother')
        exact .inr (.inl ⟨hpositive, hbound, hlong⟩)
    | @spelled setting number hgood hspelled hnumber hpositive hlong =>
        rw [hwatchable, not_or, Int.not_le, Int.not_lt] at hgood
        refine .inr (.inr ⟨hgood.1, hgood.2, ?_⟩)
        simp only [List.mem_cons, List.not_mem_nil, or_false] at hspelled
        rcases hspelled with rfl | rfl | rfl
        · obtain rfl := Value.int.inj (hinterval.symm.trans hnumber)
          exact .inl hlong
        · obtain rfl := Value.int.inj (hjitter.symm.trans hnumber)
          exact .inr (.inl ⟨hpositive, hlong⟩)
        · obtain rfl := Value.int.inj (hbatch.symm.trans hnumber)
          exact .inr (.inr ⟨hpositive, hlong⟩)
  · rintro (⟨hbound, hlong⟩ | ⟨hpositive, hbound, hlong⟩ | ⟨hpositive, hbound, hspelled⟩)
    · exact .interval hinterval hbound hlong
    · exact .jitter hinterval hpositive hjitter hbound hlong
    · have hgood : ¬ s.Unwatchable := by
        rw [hwatchable, not_or, Int.not_le, Int.not_lt]
        exact ⟨hpositive, hbound⟩
      rcases hspelled with hlong | ⟨hmore, hlong⟩ | ⟨hmore, hlong⟩
      · exact .spelled hgood (by decide) hinterval hpositive hlong
      · exact .spelled hgood (by decide) hjitter hmore hlong
      · exact .spelled hgood (by decide) hbatch hmore hlong

end

/-! ## Making a configuration -/

namespace Config

theorem checkPath_text (path : String) :
    (Text.allBlank path = true ∧ checkPath (.text path) = .error pathRequired) ∨
    (Text.allBlank path = false ∧ checkPath (.text path) = .ok ()) := by
  cases hblank : Text.allBlank path with
  | true =>
      refine .inl ⟨rfl, ?_⟩
      simp [checkPath, Value.overlong, Value.plain, hblank]
  | false =>
      refine .inr ⟨rfl, ?_⟩
      have hsome : (Value.text path).truthy = true := by
        rw [Value.truthy, bne_iff_ne]
        rintro rfl
        cases hblank
      simp [checkPath, Value.overlong, Value.plain, hblank, hsome]

/-- Settings of the right kinds make a configuration just in case they are valid. -/
theorem make_cases {s : Settings} (h : s.Filled) :
    (s.Invalid ∧ ∃ message field value,
      make s = .error (.ledger (.configuration message field value))) ∨
    (¬ s.Invalid ∧ make s = .ok ⟨s⟩) := by
  obtain ⟨path, hpath⟩ := h .dbPath
  obtain ⟨word, hmode⟩ := h .mode
  rcases checkPath_text path with ⟨hblank, hcheck⟩ | ⟨hblank, hcheck⟩
  · exact .inl ⟨.path hpath hblank, _, _, _, by rw [make, hpath, hcheck]; rfl⟩
  · rcases checkWord_text modes "invalid index mode: " "mode" word with
      ⟨hknown, hword⟩ | ⟨hunknown, hword⟩
    · refine .inr ⟨?_, by rw [make, hpath, hcheck, hmode, checkMode, hword]; rfl⟩
      intro hinvalid
      cases hinvalid with
      | path hother hbad =>
          obtain rfl := Value.text.inj (hpath.symm.trans hother)
          rw [hblank] at hbad
          cases hbad
      | mode hother hbad =>
          obtain rfl := Value.text.inj (hmode.symm.trans hother)
          exact hbad hknown
    · exact .inl ⟨.mode hmode hunknown, _, _, _,
        by rw [make, hpath, hcheck, hmode, checkMode, hword]; rfl⟩

/-- A configuration that was made from settings of the right kinds. -/
structure Made (config : Config) : Prop where
  filled : config.settings.Filled
  make_eq : make config.settings = .ok config

/-- The standard settings with a path that is not blank make a configuration. -/
theorem made_standard {path : String} (hpath : Text.allBlank path = false) :
    Made ⟨fun | .dbPath => .text path | s => s.standard⟩ := by
  have hfilled : Settings.Filled fun | .dbPath => .text path | s => s.standard := by
    intro setting
    cases setting with
    | dbPath | mode | intervalMs | jitterMs | batchCommits => exact ⟨_, rfl⟩
    | fast | fetch | onlyChanges => trivial
  rcases make_cases hfilled with ⟨hinvalid, -⟩ | ⟨-, hmake⟩
  · cases hinvalid with
    | path hother hblank =>
        obtain rfl := Value.text.inj hother
        rw [hpath] at hblank
        cases hblank
    | mode hother hunknown =>
        obtain rfl := Value.text.inj hother
        exact absurd (by decide) hunknown
  · exact ⟨hfilled, hmake⟩

/-- Options on top of a valid configuration are the settings of both, checked
again. -/
theorem resolve_watch {base : Config} (hbase : base.Made) (s : Settings) (json stdio : Value) :
    base.resolve (.options (.watch s json stdio)) = make (base.settings.overlay s) := by
  have hresolve : base.resolve (.options (.watch s json stdio)) =
      if s.isUnset then .ok base else make (base.settings.overlay s) := rfl
  rw [hresolve]
  split
  · next hunset => rw [Settings.overlay_of_isUnset hunset, hbase.make_eq]
  · rfl

theorem comparedWithZero_int (c : Value.Comparison) (n : Int) :
    comparedWithZero c (.int n) = .ok (match c with
      | .less => decide (n < 0)
      | .atMost => decide (n ≤ 0)
      | .greater => decide (0 < n)) := by
  rw [comparedWithZero, Value.compareZero_int]
  rfl

theorem checkWatch_eq {config : Config} {n m : Int}
    (hinterval : config.settings .intervalMs = .int n)
    (hjitter : config.settings .jitterMs = .int m) :
    config.checkWatch =
      if n ≤ 0 then
        .error (.configuration "index watch interval must be > 0" "interval_ms" (.int n))
      else if m < 0 then
        .error (.configuration "index watch jitter must be >= 0" "jitter_ms" (.int m))
      else .ok () := by
  rw [checkWatch, hinterval, hjitter, comparedWithZero_int, comparedWithZero_int]
  by_cases hn : n ≤ 0
  · simp [bind, Except.bind, hn, throw, throwThe, MonadExceptOf.throw]
  · by_cases hm : m < 0
    · simp [bind, Except.bind, hn, hm, throw, throwThe, MonadExceptOf.throw]
    · simp [bind, Except.bind, hn, hm, pure, Except.pure]

end Config

end DocLedger.Index

namespace DocLedger.Command

open Index (Config Settings)

theorem spelled_int (n : Int) :
    (Value.int n).spelled = if Number.tooLong n then .error .tooManyDigits
      else .ok (String.ofList (Number.intDigits n)) := rfl

/-- The words of a watch can be spelled when the interval and the jitter can. -/
theorem watchWords_cases {config : Config} (h : config.checkWatch = .ok ()) {n m : Int}
    (hinterval : config.settings .intervalMs = .int n)
    (hjitter : config.settings .jitterMs = .int m) :
    ((Number.tooLong n = true ∨ 0 < m ∧ Number.tooLong m = true) ∧
      watchWords config = .error (.fault .tooManyDigits)) ∨
    (¬ (Number.tooLong n = true ∨ 0 < m ∧ Number.tooLong m = true) ∧ ∃ rest,
      watchWords config =
        .ok (words ["--interval", String.ofList (Number.intDigits n) ++ "ms"] ++ rest)) := by
  rw [watchWords, h, hinterval, hjitter, Config.comparedWithZero_int, spelled_int, spelled_int]
  cases hn : Number.tooLong n with
  | true => exact .inl ⟨.inl rfl, rfl⟩
  | false =>
      by_cases hpositive : 0 < m
      · cases hm : Number.tooLong m with
        | true => exact .inl ⟨.inr ⟨hpositive, rfl⟩, by rw [decide_eq_true hpositive]; rfl⟩
        | false => exact .inr ⟨by simp, _, by rw [decide_eq_true hpositive]; rfl⟩
      · exact .inr ⟨by simp [hpositive], _, by rw [decide_eq_false hpositive]; rfl⟩

/-- The bound on commits can be spelled unless it is positive and too long. -/
theorem batchWords_cases {config : Config} {b : Int}
    (hbatch : config.settings .batchCommits = .int b) :
    ((0 < b ∧ Number.tooLong b = true) ∧ batchWords config = .error (.fault .tooManyDigits)) ∨
    (¬ (0 < b ∧ Number.tooLong b = true) ∧ ∃ ws, batchWords config = .ok (words ws)) := by
  rw [batchWords, hbatch, Config.comparedWithZero_int, spelled_int, Value.truthy]
  by_cases hzero : b = 0
  · subst hzero
    exact .inr ⟨by simp, [], rfl⟩
  · rw [bne_iff_ne.mpr hzero]
    by_cases hpositive : 0 < b
    · rw [decide_eq_true hpositive]
      cases Number.tooLong b with
      | true => exact .inl ⟨⟨hpositive, rfl⟩, rfl⟩
      | false => exact .inr ⟨by simp, _, rfl⟩
    · rw [decide_eq_false hpositive]
      exact .inr ⟨fun h => hpositive h.1, [], rfl⟩

/-- A configuration has the words of a watch unless nothing can be watched with it;
then it is refused.  A number that cannot be written is a fault either way. -/
theorem index_watch_cases {config : Config} (h : config.settings.Filled) :
    (config.settings.Unwritable ∧ index .watch config = .error (.fault .tooManyDigits)) ∨
    (¬ config.settings.Unwritable ∧ config.settings.Unwatchable ∧ ∃ message field value,
      index .watch config = .error (.ledger (.configuration message field value))) ∨
    (¬ config.settings.Unwritable ∧ ¬ config.settings.Unwatchable ∧ ∃ n rest,
      config.settings .intervalMs = .int n ∧ 0 < n ∧
        index .watch config = .ok (words ["index", "watch", "--db"] ++ config.path ::
          words ["--mode", config.mode, "--interval", String.ofList (Number.intDigits n) ++ "ms"] ++
            rest)) := by
  obtain ⟨n, hinterval⟩ := h .intervalMs
  obtain ⟨m, hjitter⟩ := h .jitterMs
  obtain ⟨b, hbatch⟩ := h .batchCommits
  have hcheck := Config.checkWatch_eq hinterval hjitter
  have hindex {failure : Failure} (hbad : config.checkWatch = .error failure) :
      index .watch config = .error failure := by
    rw [index, watchWords, hbad]
    rfl
  rw [Settings.unwritable_iff hinterval hjitter hbatch, Settings.unwatchable_iff hinterval hjitter]
  -- the interval is checked before the jitter, and both before any number is spelled
  by_cases hn : n ≤ 0
  · rw [if_pos hn, Failure.configuration, Value.overlong] at hcheck
    cases hlong : Number.tooLong n with
    | true =>
        rw [hlong] at hcheck
        exact .inl ⟨by grind, hindex hcheck⟩
    | false =>
        rw [hlong] at hcheck
        exact .inr (.inl ⟨by grind, .inl hn, _, _, _, hindex hcheck⟩)
  · rw [if_neg hn] at hcheck
    by_cases hm : m < 0
    · rw [if_pos hm, Failure.configuration, Value.overlong] at hcheck
      cases hlong : Number.tooLong m with
      | true =>
          rw [hlong] at hcheck
          exact .inl ⟨by grind, hindex hcheck⟩
      | false =>
          rw [hlong] at hcheck
          exact .inr (.inl ⟨by grind, .inr hm, _, _, _, hindex hcheck⟩)
    · rw [if_neg hm] at hcheck
      rcases watchWords_cases hcheck hinterval hjitter with ⟨hlong, hwords⟩ | ⟨hshort, rest, hwords⟩
      · exact .inl ⟨by grind, by rw [index, hwords]; rfl⟩
      · rcases batchWords_cases hbatch with ⟨hlong, hbatch⟩ | ⟨hshort', batch, hbatch⟩
        · exact .inl ⟨by grind, by rw [index, hwords, hbatch]; rfl⟩
        · refine .inr (.inr ⟨by grind, by grind, n, rest ++ words batch ++
            flagIf (config.settings .fast).truthy "--fast" ++
              flagIf (!(config.settings .fetch).truthy) "--fetch=false", hinterval, by grind, ?_⟩)
          rw [index, hwords, hbatch]
          exact congrArg Except.ok (by simp [words, IndexTask.word])

end DocLedger.Command
