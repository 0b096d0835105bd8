import Pollbook.Rehearsal
import Pollbook.Verify.Sessions

/-!
# Voter statuses

What happens to a voter's status over the life of the service. A status only
goes from eligible to pending and back, and from pending to checked in, where
it stays; an approved ticket response is the last of these moves, so a voter
gets at most one (`no_double_checkin`). A pending voter has a timer, and a
timeout that runs late never hits another session (`timeouts_hit_their_session`).
-/

namespace Pollbook

/-- The ways the entry of a voter may change. -/
inductive StatusStep : Option VoterStatus → Option VoterStatus → Prop
  | same (status : Option VoterStatus) : StatusStep status status
  | accept : StatusStep (some .eligible) (some .pending)
  | revert : StatusStep (some .pending) (some .eligible)
  | confirm : StatusStep (some .pending) (some .checkedIn)

/-- An entry stays an entry. -/
theorem StatusStep.isSome {old new : Option VoterStatus} (h : StatusStep old new) :
    new.isSome = old.isSome := by
  cases h <;> rfl

/-- The last status. -/
theorem StatusStep.checkedIn {old new : Option VoterStatus} (h : StatusStep old new)
    (hold : old = some .checkedIn) : new = some .checkedIn := by
  cases h with
  | same => exact hold
  | accept | revert | confirm => cases hold

/-- A status that is set for one voter. -/
theorem StatusStep.set {table : Map UInt32 VoterStatus} {voterId : UInt32} {status : VoterStatus}
    (h : StatusStep (table voterId) (some status)) (v : UInt32) :
    StatusStep (table v) (table.set voterId status v) := by
  rw [Map.set_apply]
  split
  · next hv => exact hv ▸ h
  · exact .same _

namespace Sessions

variable {config : Config} {now now' : Int} {s s' : Sessions} {change : Change}

/-- What a change does to the statuses. -/
theorem Coupled.voterStatusTable (h : s.Coupled now') (hmoves : Moves config now s change s') :
    (∃ u t, change = .accept u t ∧ s.voterStatusTable u = some .eligible ∧
        s'.voterStatusTable = s.voterStatusTable.set u .pending) ∨
      (∃ u t, change = .redeem u t ∧ s.voterStatusTable u = some .pending ∧
        s'.voterStatusTable = s.voterStatusTable.set u .checkedIn) ∨
      change.admitted = none ∧ change.redeemed = none ∧
        (s'.voterStatusTable = s.voterStatusTable ∨
          ∃ u, s.voterStatusTable u = some .pending ∧
            s'.voterStatusTable = s.voterStatusTable.set u .eligible) := by
  cases hmoves with
  | quiet => exact .inr (.inr ⟨rfl, rfl, .inl rfl⟩)
  | reload =>
    obtain ⟨tickets, heq⟩ := readFromCsv_eq s
    rw [heq]
    exact .inr (.inr ⟨rfl, rfl, .inl rfl⟩)
  | @accept u ticket secret opens _ heligible =>
    have hnone := h.no_timer u (by rw [heligible]; decide)
    obtain ⟨csv, heq⟩ := accept_eq (now + minutes config.timeoutInterval) ticket secret opens hnone
    rw [heq]
    exact .inl ⟨u, ticket, rfl, heligible, rfl⟩
  | @redeem u ticket secret timer _ htimer _ =>
    obtain ⟨tickets, heq⟩ := readFromCsv_eq s
    rw [heq]
    have hread : Coupled { s with clientTicketsMap := tickets } now' :=
      h.congr le_rfl rfl rfl rfl rfl
    obtain ⟨waits, hconfirm, -, -⟩ := hread.confirm_eq htimer
    rw [hconfirm]
    exact .inr (.inl ⟨u, ticket, rfl, (h.timer_iff u).mp ⟨timer, htimer⟩, rfl⟩)
  | expire => exact .inr (.inr ⟨rfl, rfl, .inl rfl⟩)
  | @timeout id wait hwait hqueued =>
    rw [h.timeout_eq hwait hqueued]
    split
    · next hpending => exact .inr (.inr ⟨rfl, rfl, .inr ⟨wait.voterId, hpending, rfl⟩⟩)
    · exact .inr (.inr ⟨rfl, rfl, .inl rfl⟩)
  | abort => exact .inr (.inr ⟨rfl, rfl, .inl rfl⟩)

theorem Coupled.statusStep (h : s.Coupled now') (hmoves : Moves config now s change s')
    (v : UInt32) : StatusStep (s.voterStatusTable v) (s'.voterStatusTable v) := by
  obtain ⟨u, t, -, hu, heq⟩ | ⟨u, t, -, hu, heq⟩ | ⟨-, -, heq | ⟨u, hu, heq⟩⟩ :=
    h.voterStatusTable hmoves
  · rw [heq]
    exact .set (hu ▸ .accept) v
  · rw [heq]
    exact .set (hu ▸ .confirm) v
  · rw [heq]
    exact .same _
  · rw [heq]
    exact .set (hu ▸ .revert) v

/-- Redeeming is what checks a voter in. -/
theorem Coupled.redeemed_iff (h : s.Coupled now') (hmoves : Moves config now s change s')
    (u : UInt32) : (∃ t, change.redeemed = some (u, t)) ↔
      s.voterStatusTable u = some .pending ∧ s'.voterStatusTable u = some .checkedIn := by
  obtain ⟨v, t, rfl, hv, heq⟩ | ⟨v, t, rfl, hv, heq⟩ | ⟨-, hnone, heq | ⟨v, hv, heq⟩⟩ :=
    h.voterStatusTable hmoves
  · rw [heq, Map.set_apply]
    refine ⟨nofun, fun ⟨hu, hu'⟩ => ?_⟩
    split at hu'
    · cases hu'
    · rw [hu] at hu'
      cases hu'
  · rw [heq, Map.set_apply]
    constructor
    · rintro ⟨t', ht'⟩
      simp only [Change.redeemed, Option.some.injEq, Prod.mk.injEq] at ht'
      obtain ⟨rfl, -⟩ := ht'
      exact ⟨hv, if_pos rfl⟩
    · rintro ⟨hu, hu'⟩
      split at hu'
      · next huv => exact ⟨t, by rw [huv]; rfl⟩
      · rw [hu] at hu'
        cases hu'
  · rw [heq, hnone]
    refine ⟨nofun, fun ⟨hu, hu'⟩ => ?_⟩
    rw [hu] at hu'
    cases hu'
  · rw [heq, hnone, Map.set_apply]
    refine ⟨nofun, fun ⟨hu, hu'⟩ => ?_⟩
    split at hu'
    · cases hu'
    · rw [hu] at hu'
      cases hu'

end Sessions

/-- An approved ticket response about a voter. -/
def Action.approvesTicket (u : UInt32) : Action → Bool
  | .ticketAnswer _ _ response => response.body.approved && response.body.voterUniqueId == u
  | _ => false

theorem Action.approvesTicket_eq (u : UInt32) (a : Action) :
    a.approvesTicket u = a.redeemed.any (fun r => r.1 == u) := by
  cases a with
  | ticketAnswer clientIp request response =>
    cases happroved : response.body.approved <;> simp [approvesTicket, redeemed, happroved]
  | _ => rfl

namespace CheckinService

open Sessions (Change Moves Coupled)

variable {env : Env} {found : Surroundings} {s₀ s s' : CheckinService}
  {tr : List (Event × List Action)} {e : Event} {acts : List Action}

/-- A step approves at most one ticket request, and only by redeeming. -/
theorem Makes.approvals {io : Io} {occurrence : Occurrence} {s s' : Sessions} {change : Change}
    (h : Makes env io s occurrence s' acts change) (u : UInt32) :
    acts.countP (Action.approvesTicket u) ≤ 1 ∧
      (0 < acts.countP (Action.approvesTicket u) ↔ ∃ t, change.redeemed = some (u, t)) := by
  have hcount : acts.countP (Action.approvesTicket u) =
      (acts.filterMap Action.redeemed).countP (fun r => r.1 == u) := by
    rw [List.countP_filterMap]
    refine List.countP_congr fun a _ => ?_
    rw [Action.approvesTicket_eq]
    cases a.redeemed <;> rfl
  rw [hcount, h.redeemed]
  cases change.redeemed with
  | none => simp
  | some r =>
    obtain ⟨v, t⟩ := r
    by_cases hv : v = u
    · simp [hv]
    · simp [hv]

/-- The status of every voter of a reachable service takes one of the steps,
and an approved ticket response is the step to checked in. -/
theorem next_statuses (hcoupled : s.toSessions.Coupled s.steadyNow)
    (hnext : next env s e = some (s', acts)) :
    (∀ v, StatusStep (s.voterStatusTable v) (s'.voterStatusTable v)) ∧
      ∀ u, acts.countP (Action.approvesTicket u) ≤ 1 ∧
        (0 < acts.countP (Action.approvesTicket u) ↔
          s.voterStatusTable u = some .pending ∧ s'.voterStatusTable u = some .checkedIn) := by
  obtain ⟨-, -, change, hmakes⟩ := next_makes hnext
  refine ⟨hcoupled.statusStep hmakes.moves, fun u => ?_⟩
  obtain ⟨hle, hpos⟩ := hmakes.approvals u
  exact ⟨hle, hpos.trans (hcoupled.redeemed_iff hmakes.moves u)⟩

/-- Only an accepted check-in request makes a voter pending. -/
theorem next_pending (hcoupled : s.toSessions.Coupled s.steadyNow)
    (hnext : next env s e = some (s', acts)) {u : UInt32}
    (hbefore : s.voterStatusTable u ≠ some .pending)
    (hafter : s'.voterStatusTable u = some .pending) :
    ∃ ticket, (u, ticket) ∈ acts.filterMap Action.admitted := by
  obtain ⟨-, -, change, hmakes⟩ := next_makes hnext
  rcases hcoupled.voterStatusTable hmakes.moves with ⟨v, t, rfl, -, heq⟩ |
    ⟨v, t, rfl, -, heq⟩ | ⟨-, -, heq | ⟨v, -, heq⟩⟩
  · rw [heq, Map.set_apply] at hafter
    split at hafter
    · next huv =>
      refine ⟨t, ?_⟩
      rw [hmakes.admitted, huv]
      exact List.mem_singleton_self _
    · exact absurd hafter hbefore
  · rw [heq, Map.set_apply] at hafter
    split at hafter
    · cases hafter
    · exact absurd hafter hbefore
  · rw [heq] at hafter
    exact absurd hafter hbefore
  · rw [heq, Map.set_apply] at hafter
    split at hafter
    · cases hafter
    · exact absurd hafter hbefore

theorem crash_approvesTicket (hcrash : crash env s e = some acts) (u : UInt32) :
    acts.countP (Action.approvesTicket u) = 0 := by
  rw [List.countP_eq_zero]
  intro a ha
  have hnone := List.filterMap_eq_nil_iff.mp (crash_approves hcrash).2 a ha
  simp [Action.approvesTicket_eq, hnone]

/-- Over the life of a process, a voter gets at most one approved ticket
response. -/
theorem approvals_le_one (hstart : start env found = .ok s₀)
    (hlife : Lifetime (next env) (crash env) s₀ tr) (u : UInt32) :
    (tr.flatMap (·.2)).countP (Action.approvesTicket u) ≤ 1 := by
  rw [List.countP_flatMap]
  refine hlife.sum_le (fun tr s hrun => ?_) fun s e acts hcrash => crash_approvesTicket hcrash u
  -- being checked in is what an approval enters and nothing leaves
  refine hrun.atMostOnce (P := fun s => s.voterStatusTable u = some .checkedIn) ?_ ?_
  · intro tr s e s' acts hrun hs hnext
    exact ((next_statuses (coupled_of_run hstart hrun) hnext).1 u).checkedIn hs
  · intro tr s e s' acts hrun hnext
    obtain ⟨hle, hpos⟩ := (next_statuses (coupled_of_run hstart hrun) hnext).2 u
    refine ⟨hle, fun hlt => ?_⟩
    obtain ⟨hpending, hchecked⟩ := hpos.mp hlt
    exact ⟨by rw [hpending]; decide, hchecked⟩

/-- **No double check-in.** -/
theorem no_double_checkin (hstart : start env found = .ok s₀) :
    (∀ s, Reachable (next env) s₀ s → ∀ e s' acts, next env s e = some (s', acts) →
      (∀ v, StatusStep (s.voterStatusTable v) (s'.voterStatusTable v)) ∧
      (∀ v, (s'.voterStatusTable v).isSome = (s.voterStatusTable v).isSome) ∧
      (∀ v, s.voterStatusTable v = some .checkedIn → s'.voterStatusTable v = some .checkedIn) ∧
      ∀ u, (∃ a ∈ acts, a.approvesTicket u = true) ↔
        s.voterStatusTable u = some .pending ∧ s'.voterStatusTable u = some .checkedIn) ∧
    ∀ tr, Lifetime (next env) (crash env) s₀ tr →
      ∀ u, (tr.flatMap (·.2)).countP (Action.approvesTicket u) ≤ 1 := by
  refine ⟨?_, fun tr hlife u => approvals_le_one hstart hlife u⟩
  rintro s ⟨tr, hrun⟩ e s' acts hnext
  obtain ⟨hstep, happroved⟩ := next_statuses (coupled_of_run hstart hrun) hnext
  refine ⟨hstep, fun v => (hstep v).isSome, fun v => (hstep v).checkedIn, fun u => ?_⟩
  rw [← (happroved u).2, List.countP_pos_iff]

/-- The voter of the small polling place checks in, and gets one approval. -/
theorem no_double_checkin_rehearsal :
    ∃ tr, Lifetime (next Rehearsal.env) (crash Rehearsal.env) Rehearsal.opening tr ∧
      (tr.flatMap (·.2)).countP (Action.approvesTicket Rehearsal.voter) = 1 := by
  have hexec : (exec (next Rehearsal.env) Rehearsal.opening Rehearsal.checkinRun).any (fun r =>
      0 < (r.1.flatMap (·.2)).countP (Action.approvesTicket Rehearsal.voter)) = true := by
    decide +kernel
  obtain ⟨tr, s, hrun, hs⟩ := Run.exists_of_exec hexec
  have hlife : Lifetime (next Rehearsal.env) (crash Rehearsal.env) Rehearsal.opening tr :=
    .alive hrun
  have hle := (no_double_checkin Rehearsal.start_opening).2 tr hlife Rehearsal.voter
  have hpos : 0 < (tr.flatMap (·.2)).countP (Action.approvesTicket Rehearsal.voter) :=
    of_decide_eq_true hs
  exact ⟨tr, hlife, Nat.le_antisymm hle hpos⟩

/-! ## Timers -/

/-- The timer of a wait that is due expires. -/
theorem next_timerExpired (env : Env) {io : Io} {id : Nat} {wait : Wait}
    (hwait : s.waits id = some wait)
    (hwaiting : wait.status = .waiting) (hdue : wait.expiry ≤ io.steadyNow)
    (hclock : s.steadyNow ≤ io.steadyNow) :
    next env s ⟨io, .timerExpired id⟩ = some ((s.atTime io.steadyNow).expire id wait, []) := by
  unfold next step handle
  simp only [hclock, if_true, hwait, hwaiting, hdue, and_self]
  rfl

/-- A queued handler runs. -/
theorem next_timedOut (env : Env) {io : Io} {id : Nat} {wait : Wait}
    (hwait : s.waits id = some wait)
    (hqueued : wait.status = .queued) (hclock : s.steadyNow ≤ io.steadyNow) :
    next env s ⟨io, .timedOut id⟩ = some ({ s.atTime io.steadyNow with
      toSessions := (s.toSessions.drop id).handleVerificationTimeout wait.voterId }, []) := by
  unfold next step handle
  simp only [hclock, if_true, hwait, hqueued]
  rfl

/-- The handler of a timer reverts the session it belongs to, or finds its
voter checked in and does nothing. -/
theorem next_timedOut_cases {id : Nat} {wait : Wait} (hcoupled : s.toSessions.Coupled s.steadyNow)
    (hnext : next env s e = some (s', acts)) (he : e.occurrence = .timedOut id)
    (hwait : s.waits id = some wait) :
    (s.voterStatusTable wait.voterId = some .pending ∧
      (∃ timer, s.requestTimers wait.voterId = some timer ∧ timer.id = id) ∧
      s'.voterStatusTable = s.voterStatusTable.set wait.voterId .eligible ∧
      s'.requestTimers = s.requestTimers.erase wait.voterId) ∨
    s.voterStatusTable wait.voterId = some .checkedIn ∧
      s.requestTimers wait.voterId = none ∧
      s'.voterStatusTable = s.voterStatusTable ∧ s'.requestTimers = s.requestTimers := by
  obtain ⟨-, -, change, hmakes⟩ := next_makes hnext
  have hchange := (hmakes.timeout id).mp he
  subst hchange
  have hmoves := hmakes.moves
  generalize s'.toSessions = sessions' at hmoves ⊢
  cases hmoves with
  | timeout hwait' hqueued =>
    rw [hwait, Option.some.injEq] at hwait'
    subst hwait'
    rw [hcoupled.timeout_eq hwait hqueued]
    obtain ⟨hpending, htimer⟩ | ⟨hchecked, hnone⟩ := hcoupled.queued hwait hqueued
    · rw [if_pos hpending]
      exact .inl ⟨hpending, htimer, rfl, rfl⟩
    · rw [if_neg (by rw [hchecked]; decide)]
      exact .inr ⟨hchecked, hnone, rfl, rfl⟩

/-- The handler of a pending voter's timer makes the voter eligible. -/
theorem exec_timedOut (env : Env) (io : Io) {id : Nat} {wait : Wait}
    (hcoupled : s.toSessions.Coupled s.steadyNow) (hwait : s.waits id = some wait)
    (hqueued : wait.status = .queued) (hpending : s.voterStatusTable wait.voterId = some .pending)
    (hclock : s.steadyNow ≤ io.steadyNow) :
    ∃ tr s', exec (next env) s [⟨io, .timedOut id⟩] = some (tr, s') ∧
      s'.voterStatusTable wait.voterId = some .eligible := by
  have hnext := next_timedOut env hwait hqueued hclock
  refine ⟨_, _, exec_cons hnext (exec_nil ..), ?_⟩
  obtain ⟨-, -, hstatus, -⟩ | ⟨hchecked, -⟩ := next_timedOut_cases hcoupled hnext rfl hwait
  · rw [hstatus, Map.set_self]
  · rw [hpending] at hchecked
    cases hchecked

/-- The timer of a pending voter can expire, and then its handler makes the
voter eligible. -/
theorem exec_timer {v : UInt32} {timer : Timer} {io : Io}
    (hcoupled : s.toSessions.Coupled s.steadyNow) (htimer : s.requestTimers v = some timer)
    (hdue : timer.expiry ≤ io.steadyNow) (hclock : s.steadyNow ≤ io.steadyNow) :
    ∃ events, (∀ e ∈ events, e = ⟨io, .timerExpired timer.id⟩ ∨ e = ⟨io, .timedOut timer.id⟩) ∧
      ∃ tr s', exec (next env) s events = some (tr, s') ∧
        s'.voterStatusTable v = some .eligible := by
  obtain ⟨wait, hwait, rfl, hexpiry, hactive⟩ := hcoupled.armed v timer htimer
  have hpending := (hcoupled.timer_iff _).mp ⟨timer, htimer⟩
  cases hstatus : wait.status with
  | cancelled => exact absurd hstatus hactive
  | queued => exact ⟨[⟨io, .timedOut timer.id⟩], by simp,
    exec_timedOut env io hcoupled hwait hstatus hpending hclock⟩
  | waiting =>
    have hnext := next_timerExpired env hwait hstatus (hexpiry ▸ hdue) hclock
    obtain ⟨-, hnow, change, hmakes⟩ := next_makes hnext
    have hcoupled' := hcoupled.moves hclock hmakes.moves
    obtain ⟨tr, s', hexec, heligible⟩ := exec_timedOut env io hcoupled'
      (Sessions.queue_self _ timer.id wait) rfl hpending le_rfl
    exact ⟨[_, _], by simp, _, s', exec_cons hnext hexec, heligible⟩

/-- **Pending and timers.** -/
theorem timeouts_hit_their_session (hstart : start env found = .ok s₀)
    (hreach : Reachable (next env) s₀ s) :
    (∀ v, (∃ timer, s.requestTimers v = some timer) ↔ s.voterStatusTable v = some .pending) ∧
    (∀ e s' acts id wait, next env s e = some (s', acts) → e.occurrence = .timedOut id →
      s.waits id = some wait →
      (s.voterStatusTable wait.voterId = some .pending ∧
        (∃ timer, s.requestTimers wait.voterId = some timer ∧ timer.id = id) ∧
        s'.voterStatusTable = s.voterStatusTable.set wait.voterId .eligible ∧
        s'.requestTimers = s.requestTimers.erase wait.voterId) ∨
      s.voterStatusTable wait.voterId = some .checkedIn ∧
        s.requestTimers wait.voterId = none ∧
        s'.voterStatusTable = s.voterStatusTable ∧ s'.requestTimers = s.requestTimers) ∧
    ∀ v, s.voterStatusTable v = some .pending → ∃ timer, s.requestTimers v = some timer ∧
      ∀ io : Io, timer.expiry ≤ io.steadyNow → s.steadyNow ≤ io.steadyNow →
        ∃ events, (∀ e ∈ events, e = ⟨io, .timerExpired timer.id⟩ ∨
            e = ⟨io, .timedOut timer.id⟩) ∧
          ∃ tr s', exec (next env) s events = some (tr, s') ∧
            s'.voterStatusTable v = some .eligible := by
  obtain ⟨tr, hrun⟩ := hreach
  have hcoupled := coupled_of_run hstart hrun
  refine ⟨hcoupled.timer_iff, fun e s' acts id wait hnext he hwait =>
    next_timedOut_cases hcoupled hnext he hwait, fun v hv => ?_⟩
  obtain ⟨timer, htimer⟩ := (hcoupled.timer_iff v).mpr hv
  exact ⟨timer, htimer, fun io hdue hclock => exec_timer hcoupled htimer hdue hclock⟩

/-- The voter of the small polling place is pending after the first phase, and
the timer can make the voter eligible again. -/
theorem timeouts_hit_their_session_rehearsal :
    ∃ s, s.voterStatusTable Rehearsal.voter = some .pending ∧
      ∃ timer, s.requestTimers Rehearsal.voter = some timer ∧
        ∀ io : Io, timer.expiry ≤ io.steadyNow → s.steadyNow ≤ io.steadyNow →
          ∃ events, (∀ e ∈ events, e = ⟨io, .timerExpired timer.id⟩ ∨
              e = ⟨io, .timedOut timer.id⟩) ∧
            ∃ tr s', exec (next Rehearsal.env) s events = some (tr, s') ∧
              s'.voterStatusTable Rehearsal.voter = some .eligible := by
  have hexec : (exec (next Rehearsal.env) Rehearsal.opening
      (Rehearsal.connections ++ Rehearsal.checkin 10 7)).any
      (fun r => r.2.voterStatusTable Rehearsal.voter == some .pending) = true := by decide +kernel
  obtain ⟨tr, s, hrun, hs⟩ := Run.exists_of_exec hexec
  have hpending : s.voterStatusTable Rehearsal.voter = some .pending := by simpa using hs
  exact ⟨s, hpending, (timeouts_hit_their_session Rehearsal.start_opening hrun.reachable).2.2
    Rehearsal.voter hpending⟩

end CheckinService

end Pollbook
