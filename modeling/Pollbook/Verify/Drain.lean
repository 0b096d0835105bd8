import Pollbook.Rehearsal
import Pollbook.Verify.Statuses

/-!
# The timers run out

No voter stays pending for ever: from every state the service can reach, its
timers alone lead to a state without pending voters. They do so in whatever
order they expire and their handlers run, after a bounded number of steps, and
all orders end with the same statuses: the pending voters are eligible again and
nobody else's status has changed (`timers_run_out`).
-/

namespace Pollbook

/-- A timer expires or its handler runs. -/
def Event.ofTimer (e : Event) : Bool :=
  match e.occurrence with
  | .timerExpired _ | .timedOut _ | .waitAborted _ => true
  | _ => false

/-! ## What is left to do -/

/-- The steps a wait still takes: it expires, and its handler runs. -/
def Wait.remaining (wait : Wait) : Nat :=
  match wait.status with
  | .waiting => 2
  | .queued | .cancelled => 1

namespace Sessions

/-- The steps the first `n` timers still take. -/
def remaining (n : Nat) (s : Sessions) : Nat :=
  ∑ id ∈ Finset.range n, ((s.waits id).map Wait.remaining).getD 0

theorem remaining_le (n : Nat) (s : Sessions) : s.remaining n ≤ 2 * n := by
  have hle : ∀ id ∈ Finset.range n, ((s.waits id).map Wait.remaining).getD 0 ≤ 2 := by
    intro id _
    cases s.waits id with
    | none => exact Nat.zero_le _
    | some wait =>
      rw [Option.map_some, Option.getD_some, Wait.remaining]
      split <;> decide
  calc s.remaining n ≤ ∑ _id ∈ Finset.range n, 2 := Finset.sum_le_sum hle
    _ = 2 * n := by rw [Finset.sum_const, Finset.card_range, smul_eq_mul, Nat.mul_comm]

/-- One wait that has less to do. -/
theorem remaining_lt {n id : Nat} {s s' : Sessions} (hid : id < n)
    (hother : ∀ j, j ≠ id → s'.waits j = s.waits j)
    (hless : ((s'.waits id).map Wait.remaining).getD 0 <
      ((s.waits id).map Wait.remaining).getD 0) : s'.remaining n < s.remaining n := by
  refine Finset.sum_lt_sum (fun j _ => ?_) ⟨id, Finset.mem_range.mpr hid, hless⟩
  by_cases hj : j = id
  · exact hj ▸ hless.le
  · rw [hother j hj]

end Sessions

namespace CheckinService

open Sessions (Coupled)

variable {env : Env} {found : Surroundings} {s₀ s s' t t' : CheckinService} {e : Event}
  {acts : List Action} {tr tr' : List (Event × List Action)}

/-! ## Steps of timers -/

/-- The state `t` is `s` after some steps of its timers. -/
structure Drains (s t : CheckinService) : Prop where
  coupled : t.toSessions.Coupled t.steadyNow
  timers : t.timers = s.timers
  status : ∀ v, t.voterStatusTable v = s.voterStatusTable v ∨
    s.voterStatusTable v = some .pending ∧ t.voterStatusTable v = some .eligible
  rest : t = { s with
    steadyNow := t.steadyNow
    voterStatusTable := t.voterStatusTable
    requestTimers := t.requestTimers
    waits := t.waits }

theorem Drains.refl (h : s.toSessions.Coupled s.steadyNow) : Drains s s :=
  ⟨h, rfl, fun _ => .inl rfl, rfl⟩

/-- The sessions after the step of a timer. -/
theorem Drains.step (h : Drains s t) (hnext : next env t e = some (t', acts))
    (htimer : e.ofTimer = true) :
    Drains s t' ∧ t'.remaining s.timers < t.remaining s.timers := by
  have hcoupled := next_coupled h.coupled hnext
  obtain ⟨io, occurrence⟩ := e
  obtain ⟨hclock, m, hstep, rfl⟩ := next_step hnext
  have hwas : (t.atTime io.steadyNow).toSessions.Coupled io.steadyNow :=
    h.coupled.congr hclock rfl rfl rfl rfl
  have hrest := h.rest
  cases hstep with
  | @timerExpired id wait hwait hwaiting hexpired =>
    refine ⟨⟨hcoupled, h.timers, h.status, ?_⟩, ?_⟩
    · rw [hrest]
      rfl
    · refine Sessions.remaining_lt (h.timers ▸ hwas.numbered id wait hwait)
        (fun j hj => Map.set_of_ne _ hj _) ?_
      change ((Map.set t.waits id _ id).map Wait.remaining).getD 0 <
        ((t.waits id).map Wait.remaining).getD 0
      rw [Map.set_self, show t.waits id = some wait from hwait]
      simp [Wait.remaining, hwaiting]
  | @timedOut id wait hwait hqueued =>
    have hless : ((Map.erase t.waits id id).map Wait.remaining).getD 0 <
        ((t.waits id).map Wait.remaining).getD 0 := by
      rw [Map.erase_self, show t.waits id = some wait from hwait]
      simp [Wait.remaining, hqueued]
    have hlt (sessions : Sessions) (hwaits : sessions.waits = t.waits.erase id) :
        sessions.remaining s.timers < t.remaining s.timers :=
      Sessions.remaining_lt (h.timers ▸ hwas.numbered id wait hwait)
        (fun j hj => hwaits ▸ Map.erase_of_ne _ hj) (hwaits ▸ hless)
    generalize hsessions : Sessions.handleVerificationTimeout _ _ = sessions at hcoupled ⊢
    have heq : sessions = _ := hsessions.symm.trans (hwas.timeout_eq hwait hqueued)
    split at heq
    · next hpending =>
      subst heq
      refine ⟨⟨hcoupled, h.timers, fun v => ?_, ?_⟩, hlt _ rfl⟩
      · change Map.set t.voterStatusTable wait.voterId .eligible v = _ ∨
          _ ∧ Map.set t.voterStatusTable wait.voterId .eligible v = _
        by_cases hv : v = wait.voterId
        · rw [hv, Map.set_self]
          have hpending : t.voterStatusTable wait.voterId = some .pending := hpending
          rcases h.status wait.voterId with hsame | ⟨-, heligible⟩
          · exact .inr ⟨hsame.symm.trans hpending, rfl⟩
          · rw [hpending] at heligible
            cases heligible
        · rw [Map.set_of_ne _ hv]
          exact h.status v
      · rw [hrest]
        rfl
    · subst heq
      refine ⟨⟨hcoupled, h.timers, h.status, ?_⟩, hlt _ rfl⟩
      rw [hrest]
      rfl
  | @waitAborted id wait hwait hcancelled =>
    refine ⟨⟨hcoupled, h.timers, h.status, ?_⟩, ?_⟩
    · rw [hrest]
      rfl
    · refine Sessions.remaining_lt (h.timers ▸ hwas.numbered id wait hwait)
        (fun j hj => Map.erase_of_ne _ hj) ?_
      change ((Map.erase t.waits id id).map Wait.remaining).getD 0 <
        ((t.waits id).map Wait.remaining).getD 0
      rw [Map.erase_self, show t.waits id = some wait from hwait]
      simp [Wait.remaining, hcancelled]
  | _ => cases htimer

/-- A timer answers nothing. -/
theorem silent_of_timers (hrun : Run (only Event.ofTimer (next env)) s tr t) :
    ∀ x ∈ tr, x.2 = [] := by
  refine hrun.history (I := fun tr _ => ∀ x ∈ tr, x.2 = []) (by simp) ?_
  intro tr m e m' acts _ hsilent hnext x hx
  rcases List.mem_append.mp hx with hx | hx
  · exact hsilent x hx
  · obtain ⟨htimer, hnext⟩ := only_eq_some.mp hnext
    obtain ⟨io, occurrence⟩ := e
    obtain ⟨-, k, hstep, -⟩ := next_step hnext
    rw [List.mem_singleton.mp hx]
    cases hstep with
    | timerExpired | timedOut | waitAborted => rfl
    | _ => cases htimer

/-! ## Rest -/

/-- The waits are over. -/
structure Drained (s t : CheckinService) : Prop where
  waits : t.waits = Map.empty
  requestTimers : t.requestTimers = Map.empty
  voterStatusTable : t.voterStatusTable = fun v =>
    if s.voterStatusTable v = some .pending then some .eligible else s.voterStatusTable v
  rest : t = { s with
    steadyNow := t.steadyNow
    voterStatusTable := t.voterStatusTable
    requestTimers := t.requestTimers
    waits := t.waits }

/-- Some timer event can happen as long as there is a wait. -/
theorem exists_timer_event {id : Nat} {wait : Wait} (hwait : t.waits id = some wait) :
    ∃ e : Event, e.ofTimer = true ∧ next env t e ≠ none := by
  let io : Io := ⟨0, max t.steadyNow wait.expiry, none, none, true, true, true⟩
  have hclock : t.steadyNow ≤ io.steadyNow := le_max_left _ _
  have hexpired : wait.expiry ≤ io.steadyNow := le_max_right _ _
  cases hstatus : wait.status with
  | waiting =>
    refine ⟨⟨io, .timerExpired id⟩, rfl, ?_⟩
    simp [next, step, handle, hclock, hwait, hstatus, hexpired, pure]
  | queued =>
    refine ⟨⟨io, .timedOut id⟩, rfl, ?_⟩
    simp [next, step, handle, hclock, hwait, hstatus, pure]
  | cancelled =>
    refine ⟨⟨io, .waitAborted id⟩, rfl, ?_⟩
    simp [next, step, handle, hclock, hwait, hstatus, pure]

theorem Drains.drained (h : Drains s t) (hquiet : ∀ e, only Event.ofTimer (next env) t e = none) :
    Drained s t := by
  have hwaits : ∀ id, t.waits id = none := by
    intro id
    by_contra hsome
    obtain ⟨wait, hwait⟩ := Option.ne_none_iff_exists'.mp hsome
    obtain ⟨e, htimer, hnext⟩ := @exists_timer_event env _ _ _ hwait
    refine hnext ?_
    have hnone := hquiet e
    rwa [only, if_pos htimer] at hnone
  have htimers : ∀ v, t.requestTimers v = none := by
    intro v
    by_contra hsome
    obtain ⟨timer, htimer⟩ := Option.ne_none_iff_exists'.mp hsome
    obtain ⟨wait, hwait, -⟩ := h.coupled.armed v timer htimer
    rw [hwaits] at hwait
    cases hwait
  refine ⟨funext hwaits, funext htimers, funext fun v => ?_, h.rest⟩
  have hnot : t.voterStatusTable v ≠ some .pending := by
    intro hpending
    obtain ⟨timer, htimer⟩ := (h.coupled.timer_iff v).mpr hpending
    rw [htimers] at htimer
    cases htimer
  rcases h.status v with hsame | ⟨hpending, heligible⟩
  · rw [if_neg (hsame ▸ hnot), hsame]
  · rw [if_pos hpending, heligible]

/-- From every state the service can reach: at most two steps of each timer are
left, whatever their order, they answer nothing, and when they are done nobody is
pending any more and nothing else has changed; and they can all be done. -/
theorem timers_run_out (hstart : start env found = .ok s₀) (hrun : Run (next env) s₀ tr s) :
    (∀ tr' t, Run (only Event.ofTimer (next env)) s tr' t →
      tr'.length ≤ 2 * s.timers ∧ (∀ x ∈ tr', x.2 = []) ∧
      ((∀ e, only Event.ofTimer (next env) t e = none) → Drained s t)) ∧
    ∃ tr' t, Run (only Event.ofTimer (next env)) s tr' t ∧ Drained s t := by
  have hcoupled : s.toSessions.Coupled s.steadyNow := coupled_of_run hstart hrun
  have hstep : ∀ (t : CheckinService) (e : Event) (t' : CheckinService) (acts : List Action),
      Drains s t → only Event.ofTimer (next env) t e = some (t', acts) →
        Drains s t' ∧ t'.remaining s.timers < t.remaining s.timers := by
    intro t e t' acts h hnext
    obtain ⟨htimer, hnext⟩ := only_eq_some.mp hnext
    exact h.step hnext htimer
  constructor
  · intro tr' t hrun'
    obtain ⟨hdrains, hlength⟩ := hrun'.length_le (.refl hcoupled) hstep
    have hbound := s.toSessions.remaining_le s.timers
    exact ⟨by omega, silent_of_timers hrun', hdrains.drained⟩
  · obtain ⟨tr', t, hrun', hquiet⟩ := exists_rest (Drains.refl hcoupled) hstep
    exact ⟨tr', t, hrun', (hrun'.length_le (.refl hcoupled) hstep).1.drained hquiet⟩

section Rehearsal

open Rehearsal

/-- The voter is admitted, and nothing more is heard of them. -/
theorem timers_run_out_rehearsal :
    ∃ tr s, Run (next Rehearsal.env) Rehearsal.opening tr s ∧
      s.voterStatusTable voter = some .pending ∧
      ∃ tr' t, Run (only Event.ofTimer (next Rehearsal.env)) s tr' t ∧ Drained s t ∧
        t.voterStatusTable voter = some .eligible := by
  have hexec : (exec (next Rehearsal.env) Rehearsal.opening (connections ++ checkin 10 7)).any
      (fun r => decide (r.2.voterStatusTable voter = some .pending)) = true := by
    decide +kernel
  obtain ⟨tr, s, hrun, hs⟩ := Run.exists_of_exec hexec
  have hpending : s.voterStatusTable voter = some .pending := of_decide_eq_true hs
  obtain ⟨tr', t, hrun', hdrained⟩ := (timers_run_out Rehearsal.start_opening hrun).2
  refine ⟨tr, s, hrun, hpending, tr', t, hrun', hdrained, ?_⟩
  rw [hdrained.voterStatusTable]
  exact if_pos hpending

end Rehearsal

end CheckinService

end Pollbook
