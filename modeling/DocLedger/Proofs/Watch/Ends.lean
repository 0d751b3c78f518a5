import DocLedger.Proofs.Watch.Stop

/-!
# Who sees the end of a child

An event of a session either passes the end of the child by or sees it.  The first
that sees it reports it, and from then on the watch is settled: the stop is complete
or a caller who waited has the exit status.
-/

namespace DocLedger.Watch

open Engine (Signal Standing)

def Notice.isEnd : Notice → Bool
  | .stopped _ => true
  | _ => false

/-- What a history makes known, in order. -/
def notices (past : List Occurrence) : List Notice := past.filterMap Occurrence.notice?

/-- Whether a caller who waited for the child has its exit status. -/
def awaited (past : List Occurrence) : Bool := past.any Occurrence.awaited

/-- How often a history makes the end of the child known. -/
def ends (past : List Occurrence) : Nat := (notices past).countP Notice.isEnd

section Views

variable (past more : List Occurrence)

theorem notices_append : notices (past ++ more) = notices past ++ notices more :=
  List.filterMap_append

theorem awaited_append : awaited (past ++ more) = (awaited past || awaited more) :=
  List.any_append

end Views

namespace Lifecycle

/-- From one life to the next, the end of the child is passed by; a child that has
ended stays so. -/
structure PassesBy (l next : Lifecycle) (notices : List Notice) : Prop where
  returncode_eq : ∀ code, l.standing.returncode = some code →
    next.standing.returncode = some code
  reported_eq : next.reported = l.reported
  outcome_eq : next.outcome?.isSome = l.outcome?.isSome
  silent : ∀ notice ∈ notices, notice.isEnd = false

/-- From one life to the next, the end of the child is seen; it is made known unless
that has been done before. -/
structure Sees (l next : Lifecycle) (notices : List Notice) : Prop where
  ended : l.standing.running = false
  standing_eq : next.standing = l.standing
  reported : next.reported = true
  notices_eq : notices = if l.reported then [] else [.stopped l.standing.returncode]

theorem sees_report {l : Lifecycle} (hended : l.standing.running = false) :
    l.Sees l.report.1 l.report.2 := by
  rw [report]
  split
  · next hreported => exact ⟨hended, rfl, hreported, (if_pos hreported).symm⟩
  · next hreported => exact ⟨hended, rfl, rfl, (if_neg hreported).symm⟩

theorem sees_complete {l : Lifecycle} (hended : l.standing.running = false) :
    l.Sees l.complete.1 l.complete.2 ∧ l.complete.1.outcome?.isSome = true := by
  have hreport := sees_report hended
  exact ⟨⟨hended, hreport.standing_eq, hreport.reported, hreport.notices_eq⟩, rfl⟩

/-- A child that has ended stays so. -/
theorem Made.returncode_eq {l next : Lifecycle} {move : Move} (h : l.Made move next) (code : Int)
    (hcode : l.standing.returncode = some code) : next.standing.returncode = some code := by
  cases h with
  | ended hrunning => simp [Standing.running, hcode] at hrunning
  | _ => exact hcode

/-- A move passes the end of the child by, or it sees it; then it completes the stop
or is made for a caller who waits. -/
theorem step_cases {l next : Lifecycle} {move : Move} {notices : List Notice}
    (h : l.step move = some (next, notices)) :
    (l.PassesBy next notices ∧ move ≠ .notice) ∨
      (l.Sees next notices ∧ (next.outcome?.isSome = true ∨ move = .notice)) := by
  have hkept := (made_of_step h).returncode_eq
  -- the end is seen by the stop, where it begins too late or completes, and by a notice
  cases move with
  | request =>
      simp only [step] at h
      split at h
      · next hidle =>
          cases h
          exact .inl ⟨⟨hkept, rfl, by simp [outcome?, hidle], by simp⟩, by simp⟩
      · cases h
        exact .inl ⟨⟨hkept, rfl, rfl, by simp⟩, by simp⟩
  | begin =>
      simp only [step] at h
      split at h
      · next hphase =>
          split at h
          · cases h
            exact .inl ⟨⟨hkept, rfl, by simp [outcome?, hphase], by simp [Notice.isEnd]⟩, by simp⟩
          · next hended =>
              obtain ⟨rfl, rfl⟩ := Prod.mk.inj (Option.some.inj h)
              obtain ⟨hsees, houtcome⟩ := sees_complete (Bool.not_eq_true _ ▸ hended)
              exact .inr ⟨hsees, .inl houtcome⟩
      · cases h
  | exit code =>
      simp only [step] at h
      split at h
      · cases h
        exact .inl ⟨⟨hkept, rfl, rfl, by simp⟩, by simp⟩
      · cases h
  | expire =>
      simp only [step] at h
      split at h
      · next hphase =>
          cases h
          exact .inl ⟨⟨hkept, rfl, by simp [outcome?, hphase], by simp [Notice.isEnd]⟩, by simp⟩
      · cases h
  | finish =>
      simp only [step] at h
      split at h
      · cases h
      · next hended =>
          split at h
          · obtain ⟨rfl, rfl⟩ := Prod.mk.inj (Option.some.inj h)
            obtain ⟨hsees, houtcome⟩ := sees_complete (Bool.not_eq_true _ ▸ hended)
            exact .inr ⟨hsees, .inl houtcome⟩
          · cases h
  | notice =>
      simp only [step] at h
      split at h
      · cases h
      · next hended =>
          obtain ⟨rfl, rfl⟩ := Prod.mk.inj (Option.some.inj h)
          exact .inr ⟨sees_report (Bool.not_eq_true _ ▸ hended), .inr rfl⟩

end Lifecycle

namespace Session

variable {s next : Session} {new : List Occurrence}

/-- An event passes the end of the child by. -/
structure PassesBy (s next : Session) (new : List Occurrence) : Prop where
  life : s.life.PassesBy next.life (notices new)
  unawaited : awaited new = false

/-- An event sees the end of the child and settles the watch. -/
structure Sees (s next : Session) (new : List Occurrence) : Prop where
  life : s.life.Sees next.life (notices new)
  settles : (next.life.outcome?.isSome || awaited new) = true

theorem notices_make {move : Move} {life : Lifecycle} (told : List Notice) :
    notices (move.cause s.patience ++ told.map .told ++ (sentBetween s.life life).map .sent) =
      told := by
  have hcause : notices (move.cause s.patience) = [] := by
    cases move with
    | expire => cases s.patience <;> rfl
    | _ => rfl
  have htold : notices (told.map .told) = told := by
    rw [notices, List.filterMap_map]
    exact List.filterMap_some
  have hsent : notices ((sentBetween s.life life).map .sent) = [] := by
    simp [notices, Occurrence.notice?]
  rw [notices_append, notices_append, hcause, htold, hsent, List.append_nil, List.nil_append]

theorem awaited_make {move : Move} {life : Lifecycle} (told : List Notice) :
    awaited (move.cause s.patience ++ told.map .told ++ (sentBetween s.life life).map .sent) =
      false := by
  have hcause : awaited (move.cause s.patience) = false := by
    cases move with
    | expire => cases s.patience <;> rfl
    | _ => rfl
  rw [awaited_append, awaited_append, hcause]
  simp [awaited, Occurrence.awaited]

theorem make_cases {move : Move} (h : s.make move = some (next, new)) :
    (s.PassesBy next new ∧ move ≠ .notice) ∨
      (s.life.Sees next.life (notices new) ∧
        (next.life.outcome?.isSome = true ∨ move = .notice)) := by
  obtain ⟨life, told, hstep, rfl, rfl⟩ := make_eq_some h
  rw [notices_make]
  rcases Lifecycle.step_cases hstep with ⟨hpasses, hmove⟩ | hsees
  · exact .inl ⟨⟨by rwa [notices_make], awaited_make told⟩, hmove⟩
  · exact .inr hsees

theorem make_cases_of_ne {move : Move} (h : s.make move = some (next, new))
    (hmove : move ≠ .notice) : s.PassesBy next new ∨ s.Sees next new := by
  rcases make_cases h with ⟨hpasses, -⟩ | ⟨hsees, houtcome⟩
  · exact .inl hpasses
  · exact .inr ⟨hsees, by rw [houtcome.resolve_right hmove, Bool.true_or]⟩

/-- An event that leaves the life of the watch as it is, with an occurrence that
makes nothing known. -/
theorem passesBy_of_life_eq {x : Occurrence} (hlife : next.life = s.life)
    (hnotice : x.notice? = none) (hawaited : x.awaited = false) : s.PassesBy next [x] := by
  have hnotices : notices [x] = [] := List.filterMap_cons_none hnotice
  refine ⟨?_, by simp [awaited, hawaited]⟩
  rw [hlife, hnotices]
  exact ⟨fun _ hcode => hcode, rfl, rfl, by simp⟩

theorem take_passesBy {call : Call} (h : s.take call = some (next, new)) :
    s.PassesBy next new := by
  unfold take at h
  cases hpatience : call.patience? with
  | none =>
      simp only [hpatience] at h
      cases h
      exact passesBy_of_life_eq rfl rfl rfl
  | some patience =>
      simp only [hpatience, make_request] at h
      cases h
      refine ⟨⟨fun _ hcode => hcode, rfl, ?_, by simp [notices, Occurrence.notice?]⟩, rfl⟩
      by_cases hidle : s.life.phase = .idle
      · simp [hidle, Lifecycle.outcome?]
      · simp [hidle, Lifecycle.outcome?]

/-- A caller of the stop who goes on passes the end of the child by; a caller who
waited for the child sees it. -/
theorem resume_cases {caller : Nat} {call : Call} (h : s.resume caller call = some (next, new)) :
    s.PassesBy next new ∨ s.Sees next new := by
  have hstop (hcall : call ≠ .wait) (h : (do
      let outcome ← s.life.outcome?
      return (s.release caller, [Occurrence.returned call (call.result outcome)])) =
        some (next, new)) : s.PassesBy next new := by
    simp only [Option.bind_eq_bind, Option.bind_eq_some_iff, Option.pure_def] at h
    obtain ⟨outcome, -, heq⟩ := h
    cases heq
    refine passesBy_of_life_eq rfl rfl ?_
    cases call with
    | wait => exact absurd rfl hcall
    | _ => rfl
  cases call with
  | stop patience => exact .inl (hstop (by simp) h)
  | leave => exact .inl (hstop (by simp) h)
  | wait =>
      simp only [resume, Option.bind_eq_bind, Option.bind_eq_some_iff, Option.pure_def] at h
      obtain ⟨⟨mid, made⟩, hmake, heq⟩ := h
      cases heq
      rcases make_cases hmake with ⟨-, hmove⟩ | ⟨hsees, -⟩
      · exact absurd rfl hmove
      · refine .inr ⟨?_, ?_⟩
        · rw [notices_append, show notices [.returned .wait _] = [] from rfl, List.append_nil]
          exact hsees
        · simp [awaited, Occurrence.awaited]

/-- An event passes the end of the child by or sees it. -/
theorem step_cases {event : Event} (h : s.step event = some (next, new)) :
    s.PassesBy next new ∨ s.Sees next new := by
  cases event with
  | call call => exact .inl (take_passesBy h)
  | cancel caller =>
      simp only [step, Option.bind_eq_bind, Option.bind_eq_some_iff, Option.pure_def] at h
      obtain ⟨call, -, heq⟩ := h
      cases heq
      exact .inl (passesBy_of_life_eq rfl rfl rfl)
  | resume caller =>
      simp only [step, Option.bind_eq_bind, Option.bind_eq_some_iff] at h
      obtain ⟨call, -, hresume⟩ := h
      exact resume_cases hresume
  | begin => exact make_cases_of_ne h (by simp)
  | exit code => exact make_cases_of_ne h (by simp)
  | expire => exact make_cases_of_ne h (by simp)
  | finish => exact make_cases_of_ne h (by simp)

/-- Whatever happens, a child that has ended stays so. -/
theorem step_returncode {event : Event} (h : s.step event = some (next, new)) {code : Int}
    (hcode : s.life.standing.returncode = some code) :
    next.life.standing.returncode = some code := by
  rcases step_cases h with hpasses | hsees
  · exact hpasses.life.returncode_eq code hcode
  · rwa [hsees.life.standing_eq]

theorem PassesBy.ends_eq_zero (h : s.PassesBy next new) : ends new = 0 :=
  List.countP_eq_zero.mpr fun notice hmem => by simp [h.life.silent notice hmem]

/-- The end of the child is made known by the event that first reports it, and by no
other. -/
theorem step_ends {event : Event} (h : s.step event = some (next, new)) :
    ends new + s.life.reported.toNat = next.life.reported.toNat := by
  rcases step_cases h with hpasses | hsees
  · rw [hpasses.ends_eq_zero, Nat.zero_add, hpasses.life.reported_eq]
  · rw [ends, hsees.life.notices_eq, hsees.life.reported]
    cases s.life.reported <;> rfl

/-- A watch is settled just in case the end of its child has been reported, whatever
happens. -/
theorem step_settled {event : Event} (h : s.step event = some (next, new))
    {past : List Occurrence}
    (hpast : (s.life.outcome?.isSome || awaited past) = s.life.reported) :
    (next.life.outcome?.isSome || awaited (past ++ new)) = next.life.reported := by
  rw [awaited_append]
  rcases step_cases h with hpasses | hsees
  · rw [hpasses.unawaited, Bool.or_false, hpasses.life.outcome_eq, hpasses.life.reported_eq]
    exact hpast
  · rw [hsees.life.reported, Bool.or_left_comm, hsees.settles, Bool.or_true]

/-- The end is made known with the exit status of the child, which had ended. -/
theorem stopped_of_mem {event : Event} (h : s.step event = some (next, new))
    {returncode : Option Int} (hmem : .stopped returncode ∈ notices new) :
    s.life.standing.running = false ∧ returncode = next.life.standing.returncode := by
  rcases step_cases h with hpasses | hsees
  · exact absurd (hpasses.life.silent _ hmem) (by simp [Notice.isEnd])
  · refine ⟨hsees.life.ended, ?_⟩
    rw [hsees.life.notices_eq] at hmem
    rw [hsees.life.standing_eq]
    cases hreported : s.life.reported with
    | true => simp [hreported] at hmem
    | false => simpa [hreported] using hmem

/-- Once the end has been reported, the child has ended. -/
theorem step_reported {event : Event} (h : s.step event = some (next, new))
    (hended : s.life.reported = true → s.life.standing.running = false)
    (hreported : next.life.reported = true) : next.life.standing.running = false := by
  rcases step_cases h with hpasses | hsees
  · have hbefore := hended (hpasses.life.reported_eq ▸ hreported)
    cases hcode : s.life.standing.returncode with
    | none => simp [Standing.running, hcode] at hbefore
    | some code => simp [Standing.running, hpasses.life.returncode_eq code hcode]
  · rw [hsees.life.standing_eq]
    exact hsees.life.ended

end Session

end DocLedger.Watch
