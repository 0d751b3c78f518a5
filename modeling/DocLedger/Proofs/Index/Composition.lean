import DocLedger.Proofs.Index.WatchWords

/-!
# Layers on top of layers

The settings of a call are those of the session with a layer of overrides on top.  In
which form a layer comes does not matter, only what it sets.  A configuration that
results is valid, wherever its settings come from, and one layer after another is the
same as both combined, the later one in front: with the same result or with the same
error.
-/

namespace DocLedger.Index

/-! ## Layers of overrides -/

/-- The layers of overrides: nothing, overrides, options of a watch, or a mapping from
names of settings. -/
inductive Layer.Overriding : Layer → Prop
  | nothing : Overriding (.value .null)
  | overrides (s : Settings) : Overriding (.options (.overrides s))
  | watch (s : Settings) (json : Value) {word : String} (hword : word ∈ stdioModes) :
      Overriding (.options (.watch s json (.text word)))
  | mapping {entries : List (Value × Value)}
      (hkeys : ∀ e ∈ entries, ∃ setting : Setting, e.1 = .text setting.name) :
      Overriding (.value (.mapping entries))

theorem Setting.mem_all (setting : Setting) : setting ∈ Setting.all := by
  cases setting <;> decide

/-- Every layer of overrides stands for the settings that it gives. -/
theorem Layer.Overriding.exists_coerce {layer : Layer} (h : layer.Overriding) :
    ∃ options, layer.coerce .overrides = .ok options ∧ options.settings = layer.given := by
  cases h with
  | nothing | overrides | watch => exact ⟨_, rfl, rfl⟩
  | @mapping entries hkeys =>
      have htexts : ∀ e ∈ entries, ∃ name, e.1 = .text name := by
        intro e he
        obtain ⟨setting, hsetting⟩ := hkeys e he
        exact ⟨_, hsetting⟩
      rcases checkKnown_cases .overrides htexts with ⟨-, hcheck⟩ |
        ⟨⟨name, v, hentry, hunknown⟩, -⟩
      · exact ⟨.overrides (given (.value (.mapping entries))), by rw [coerce, hcheck]; rfl, rfl⟩
      · obtain ⟨setting, hsetting⟩ := hkeys _ hentry
        obtain rfl : name = setting.name := Value.text.inj hsetting
        exact absurd (List.mem_map_of_mem setting.mem_all) hunknown

theorem Config.resolve_of_overriding (base : Config) {layer : Layer} (h : layer.Overriding) :
    base.resolve layer =
      if layer.given.isUnset then .ok base else make (base.settings.overlay layer.given) := by
  obtain ⟨options, hcoerce, hgiven⟩ := h.exists_coerce
  rw [resolve, hcoerce, ← hgiven]
  rfl

/-! ## Settings on top of settings -/

namespace Settings

theorem overlay_of_isNull {base layer : Settings} {setting : Setting}
    (h : (layer setting).isNull = true) : base.overlay layer setting = base setting := by
  rw [overlay, h]
  rfl

theorem overlay_of_not_isNull {base layer : Settings} {setting : Setting}
    (h : (layer setting).isNull = false) : base.overlay layer setting = layer setting := by
  rw [overlay, h]
  rfl

theorem overlay_assoc (base first second : Settings) :
    (base.overlay first).overlay second = base.overlay (first.overlay second) := by
  funext setting
  cases hsecond : (second setting).isNull with
  | true => simp only [overlay, hsecond, if_true]
  | false => simp [overlay, hsecond]

theorem isUnset_overlay (first second : Settings) :
    (first.overlay second).isUnset = (first.isUnset && second.isUnset) := by
  have hnull (setting : Setting) : (first.overlay second setting).isNull =
      ((first setting).isNull && (second setting).isNull) := by
    cases hsecond : (second setting).isNull with
    | true => rw [overlay_of_isNull hsecond, Bool.and_true]
    | false => rw [overlay_of_not_isNull hsecond, hsecond, Bool.and_false]
  rw [Bool.eq_iff_iff]
  simp only [isUnset, List.all_eq_true, hnull, Bool.and_eq_true, forall_and]

end Settings

/-! ## Configurations that are valid -/

/-- A configuration whose path is not blank and whose mode is known. -/
structure Config.Valid (c : Config) : Prop where
  path_truthy : c.path.truthy = true
  path_not_blank : Text.allBlank c.dbPath = false
  mode_known : ∃ word ∈ modes, c.settings .mode = .text word

namespace Config

theorem checkPath_eq_ok {v : Value} (h : checkPath v = .ok ()) :
    v.truthy = true ∧ Text.allBlank v.plain = false := by
  unfold checkPath at h
  split at h
  · cases h
  · next htruthy =>
    split at h
    · cases h
    · split at h
      · cases h
      · next hblank => exact ⟨by simpa using htruthy, by simpa using hblank⟩

theorem checkMode_eq_ok {v : Value} (h : checkMode v = .ok ()) :
    ∃ word ∈ modes, v = .text word := by
  unfold checkMode checkWord at h
  split at h
  · cases h
  · split at h
    · next word _ =>
      split at h
      · next hknown => exact ⟨word, by simpa using hknown, rfl⟩
      · cases h
    · cases h

/-- What is made of settings is valid and has just these settings. -/
theorem make_eq_ok {s : Settings} {c : Config} (h : make s = .ok c) : c = ⟨s⟩ ∧ c.Valid := by
  cases hpath : checkPath (s .dbPath) with
  | error failure =>
      rw [make, hpath] at h
      cases h
  | ok =>
      cases hmode : checkMode (s .mode) with
      | error failure =>
          rw [make, hpath, hmode] at h
          cases h
      | ok =>
          obtain rfl : (⟨s⟩ : Config) = c := by
            rw [make, hpath, hmode] at h
            exact Except.ok.inj h
          obtain ⟨htruthy, hblank⟩ := checkPath_eq_ok hpath
          exact ⟨rfl, htruthy, hblank, checkMode_eq_ok hmode⟩

/-- Settings with a text for a path and a text for a mode make a configuration or are
refused with a configuration error. -/
theorem make_of_texts {s : Settings} {path word : String} (hpath : s .dbPath = .text path)
    (hmode : s .mode = .text word) :
    (∃ c, make s = .ok c) ∨ ∃ message field value,
      make s = .error (.ledger (.configuration message (some field) value)) := by
  rcases checkPath_text path with ⟨-, hcheck⟩ | ⟨-, hcheck⟩
  · exact .inr ⟨_, _, _, by rw [make, hpath, hcheck]; rfl⟩
  · rcases checkWord_text modes "invalid index mode: " "mode" word with ⟨-, hword⟩ | ⟨-, hword⟩
    · exact .inl ⟨_, by rw [make, hpath, hcheck, hmode, checkMode, hword]; rfl⟩
    · exact .inr ⟨_, _, _, by rw [make, hpath, hcheck, hmode, checkMode, hword]; rfl⟩

section

variable {base c : Config} {layer : Layer} (hlayer : layer.Overriding)
  (h : base.resolve layer = .ok c)

include hlayer h

theorem settings_of_resolve : c.settings = base.settings.overlay layer.given := by
  rw [base.resolve_of_overriding hlayer] at h
  split at h
  · next hunset => rw [← Except.ok.inj h, Settings.overlay_of_isUnset hunset]
  · rw [(make_eq_ok h).1]

/-- Whatever layer sets what: a configuration that results from a valid one is valid. -/
theorem Valid.of_resolve (hbase : base.Valid) : c.Valid := by
  rw [base.resolve_of_overriding hlayer] at h
  split at h
  · exact Except.ok.inj h ▸ hbase
  · exact (make_eq_ok h).2

/-- One layer after another gives what both combined give. -/
theorem resolve_resolve {next both : Layer} (hnext : next.Overriding) (hboth : both.Overriding)
    (hgiven : both.given = layer.given.overlay next.given) :
    c.resolve next = base.resolve both := by
  have hsettings : c.settings.overlay next.given = base.settings.overlay both.given := by
    rw [settings_of_resolve hlayer h, hgiven, Settings.overlay_assoc]
  have hunset : both.given.isUnset = (layer.given.isUnset && next.given.isUnset) := by
    rw [hgiven, Settings.isUnset_overlay]
  rw [c.resolve_of_overriding hnext, base.resolve_of_overriding hboth, hsettings, hunset]
  rw [base.resolve_of_overriding hlayer] at h
  cases hnone : next.given.isUnset with
  | false =>
      rw [Bool.and_false]
      rfl
  | true =>
      cases hfirst : layer.given.isUnset with
      | true =>
          rw [hfirst, if_pos rfl] at h
          rw [← Except.ok.inj h]
          rfl
      | false =>
          have hsame : base.settings.overlay both.given = base.settings.overlay layer.given := by
            rw [hgiven, ← Settings.overlay_assoc, Settings.overlay_of_isUnset hnone]
          rw [hfirst, if_neg Bool.false_ne_true] at h
          rw [hsame, h]
          rfl

end

end Config

/-! ## Errors -/

/-- Settings whose path and mode are texts, if they are set. -/
def Settings.Textual (s : Settings) : Prop :=
  ∀ setting ∈ [Setting.dbPath, .mode], s setting = .null ∨ ∃ t, s setting = .text t

theorem Settings.Textual.overlay {base layer : Settings} (hbase : base.Textual)
    (hlayer : layer.Textual) : (base.overlay layer).Textual := by
  intro setting hsetting
  cases hnull : (layer setting).isNull with
  | true =>
      rw [overlay_of_isNull hnull]
      exact hbase setting hsetting
  | false =>
      rw [overlay_of_not_isNull hnull]
      exact hlayer setting hsetting

/-- Where texts are set for the path and the mode, a failure is a configuration error. -/
theorem Config.Valid.resolve_cases {base : Config} (h : base.Valid) (hbase : base.settings.Textual)
    {layer : Layer} (hlayer : layer.Overriding) (hgiven : layer.given.Textual) :
    (∃ c, base.resolve layer = .ok c) ∨ ∃ message field value,
      base.resolve layer = .error (.ledger (.configuration message (some field) value)) := by
  -- neither of the two is null in the end, for neither is in the configuration below
  have htext (setting : Setting) (hmem : setting ∈ [Setting.dbPath, .mode])
      (hset : base.settings setting ≠ .null) :
      ∃ t, base.settings.overlay layer.given setting = .text t := by
    cases hnull : (layer.given setting).isNull with
    | true =>
        rw [Settings.overlay_of_isNull hnull]
        exact (hbase setting hmem).resolve_left hset
    | false =>
        rw [Settings.overlay_of_not_isNull hnull]
        refine (hgiven setting hmem).resolve_left ?_
        intro hgivenNull
        rw [hgivenNull] at hnull
        cases hnull
  have hpath : base.settings .dbPath ≠ .null := by
    intro hnull
    have htruthy := h.path_truthy
    rw [path, hnull] at htruthy
    cases htruthy
  have hmode : base.settings .mode ≠ .null := by
    obtain ⟨word, -, hword⟩ := h.mode_known
    rw [hword]
    exact nofun
  obtain ⟨path, hpath⟩ := htext .dbPath (by decide) hpath
  obtain ⟨word, hmode⟩ := htext .mode (by decide) hmode
  rw [base.resolve_of_overriding hlayer]
  split
  · exact .inl ⟨base, rfl⟩
  · exact make_of_texts hpath hmode

/-! ## Composition -/

/-- What is resolved depends on the settings that a layer gives only; it is valid, with
each setting from the layer if it is given there and from the configuration below if
not; and a further layer on top gives what both layers combined give. -/
theorem resolve_composes {base : Config} (hbase : base.Valid) {first second : Layer}
    (hfirst : first.Overriding) (hsecond : second.Overriding) :
    (∀ other : Layer, other.Overriding → other.given = first.given →
      base.resolve other = base.resolve first) ∧
    ∀ c, base.resolve first = .ok c →
      c.Valid ∧
      (∀ setting, c.settings setting =
        if (first.given setting).isNull then base.settings setting else first.given setting) ∧
      ∀ both : Layer, both.Overriding → both.given = first.given.overlay second.given →
        c.resolve second = base.resolve both ∧
        (base.settings.Textual → first.given.Textual → second.given.Textual →
          (∃ d, c.resolve second = .ok d) ∨ ∃ message field value, c.resolve second =
            .error (.ledger (.configuration message (some field) value))) := by
  refine ⟨?_, fun c hc => ⟨.of_resolve hfirst hc hbase, ?_, ?_⟩⟩
  · intro other hother hgiven
    rw [base.resolve_of_overriding hother, base.resolve_of_overriding hfirst, hgiven]
  · intro setting
    rw [Config.settings_of_resolve hfirst hc, Settings.overlay]
  · intro both hboth hgiven
    refine ⟨Config.resolve_resolve hfirst hc hsecond hboth hgiven, ?_⟩
    intro htexts hfirstTexts hsecondTexts
    have hsettings : c.settings.Textual := by
      rw [Config.settings_of_resolve hfirst hc]
      exact htexts.overlay hfirstTexts
    exact (Config.Valid.of_resolve hfirst hc hbase).resolve_cases hsettings hsecond hsecondTexts

/-- The standard settings with a path. -/
def ordersConfig : Config := ⟨fun | .dbPath => .text "/srv/orders.db" | s => s.standard⟩

/-- A mapping that asks for the history and has a switch that is off. -/
def historyLayer : Layer :=
  .value (.mapping [(.text "mode", .text "history"), (.text "fast", .bool false)])

/-- Options of a watch with an interval of zero and a path. -/
def idleLayer (path : Value) : Layer :=
  .options (.watch (fun | .dbPath => path | .intervalMs => .int 0 | _ => .null) (.bool true)
    (.text "pipe"))

def historyIdleLayer (path : Value) : Layer :=
  .value (.mapping [(.text "fast", .bool false), (.text "interval_ms", .int 0),
    (.text "db_path", path), (.text "mode", .text "history")])

theorem given_historyIdleLayer (path : Value) :
    (historyIdleLayer path).given = historyLayer.given.overlay (idleLayer path).given := by
  funext setting
  cases setting with
  | dbPath => cases path <;> rfl
  | mode | intervalMs | jitterMs | batchCommits | fast | fetch | onlyChanges => rfl

theorem overriding_historyIdleLayer (path : Value) : (historyIdleLayer path).Overriding := by
  refine .mapping ?_
  simp only [List.forall_mem_cons]
  exact ⟨⟨.fast, rfl⟩, ⟨.intervalMs, rfl⟩, ⟨.dbPath, rfl⟩, ⟨.mode, rfl⟩, nofun⟩

/-- The switch that is off and the interval of zero are kept, and a blank path of the
later layer is refused either way. -/
theorem resolve_composes_historyLayer :
    ∃ c, ordersConfig.resolve historyLayer = .ok c ∧ c.Valid ∧
      c.settings .fast = .bool false ∧ c.settings .dbPath = .text "/srv/orders.db" ∧
      (∃ d, c.resolve (idleLayer .null) = .ok d ∧ d.settings .intervalMs = .int 0 ∧
        ordersConfig.resolve (historyIdleLayer .null) = .ok d) ∧
      c.resolve (idleLayer (.text " ")) = .error Config.pathRequired ∧
      ordersConfig.resolve (historyIdleLayer (.text " ")) = .error Config.pathRequired := by
  have hbase : ordersConfig.Valid := ⟨by decide, by decide, "state", by decide, rfl⟩
  have hfirst : historyLayer.Overriding := by
    refine .mapping ?_
    simp only [List.forall_mem_cons]
    exact ⟨⟨.mode, rfl⟩, ⟨.fast, rfl⟩, nofun⟩
  have hsecond (path : Value) : (idleLayer path).Overriding := .watch _ _ (by decide)
  have hresolve : ordersConfig.resolve historyLayer =
      .ok ⟨ordersConfig.settings.overlay historyLayer.given⟩ := rfl
  have hcomposes (path : Value) := (resolve_composes hbase hfirst (hsecond path)).2 _ hresolve
  have hsame (path : Value) := ((hcomposes path).2.2 (historyIdleLayer path)
    (overriding_historyIdleLayer path) (given_historyIdleLayer path)).1
  obtain ⟨hvalid, hsettings, -⟩ := hcomposes .null
  refine ⟨_, hresolve, hvalid, hsettings .fast, hsettings .dbPath,
    ⟨_, (hsame .null).trans rfl, rfl, rfl⟩, (hsame (.text " ")).trans rfl, rfl⟩

end DocLedger.Index
