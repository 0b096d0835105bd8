import Pollbook.Lib.Run
import Pollbook.Verify.Steps

/-!
# The check-in sessions

The voters' sessions as a machine of their own: a voter is admitted, redeems a
ticket or times out, and timers expire in between. `Moves` are its changes and
`Coupled` is its invariant: statuses, timers and outstanding waits belong
together. `Step.moves` says that every step of the service is one of these
changes, and that the approvals it answers are exactly those of the change; so
what holds of the sessions holds of the service.
-/

namespace Pollbook

namespace Sessions

/-- The changes. -/
inductive Change where
  | quiet
  | reload
  | accept (voterId : UInt32) (ticket : Bytes)
  | redeem (voterId : UInt32) (ticket : Bytes)
  | expire (id : Nat)
  | timeout (id : Nat)
  | abort (id : Nat)
  deriving DecidableEq

/-- The voter and the ticket of a check-in request a change approves. -/
def Change.admitted : Change → Option (UInt32 × Bytes)
  | accept voterId ticket => some (voterId, ticket)
  | _ => none

/-- The voter and the ticket of a ticket request a change approves. -/
def Change.redeemed : Change → Option (UInt32 × Bytes)
  | redeem voterId ticket => some (voterId, ticket)
  | _ => none

/-- A wait whose timer has expired. -/
def queue (s : Sessions) (id : Nat) (wait : Wait) : Sessions :=
  { s with waits := s.waits.set id { wait with status := .queued } }

/-- A wait that is over. -/
def drop (s : Sessions) (id : Nat) : Sessions := { s with waits := s.waits.erase id }

/-- When the changes can happen, and what they do. -/
inductive Moves (config : Config) (now : Int) (s : Sessions) : Change → Sessions → Prop
  | quiet : Moves config now s .quiet s
  | reload : Moves config now s .reload s.readFromCsv
  | accept {voterId : UInt32} {ticket secret : Bytes} (opens : Bool) (hfit : Fit ticket secret)
      (heligible : s.voterStatusTable voterId = some .eligible) :
      Moves config now s (.accept voterId ticket)
        (s.accept voterId (now + minutes config.timeoutInterval) ticket secret opens)
  | redeem {voterId : UInt32} {ticket secret : Bytes} {timer : Timer}
      (hticket : s.readFromCsv.clientTicketsMap ticket = some (voterId, secret))
      (htimer : s.requestTimers voterId = some timer)
      (hwindow : CheckinService.withinWindow config timer now = true) :
      Moves config now s (.redeem voterId ticket) (s.readFromCsv.confirm voterId timer)
  | expire {id : Nat} {wait : Wait} (hwait : s.waits id = some wait)
      (hwaiting : wait.status = .waiting) (hexpired : wait.expiry ≤ now) :
      Moves config now s (.expire id) (s.queue id wait)
  | timeout {id : Nat} {wait : Wait} (hwait : s.waits id = some wait)
      (hqueued : wait.status = .queued) :
      Moves config now s (.timeout id) ((s.drop id).handleVerificationTimeout wait.voterId)
  | abort {id : Nat} {wait : Wait} (hwait : s.waits id = some wait)
      (hcancelled : wait.status = .cancelled) : Moves config now s (.abort id) (s.drop id)

/-- Statuses, timers and waits belong together at the time `now`: the pending
voters are those with a timer, each timer has a wait that will end the
session, and a wait that is not cancelled belongs to the voter's timer, or to
one that was redeemed just as it expired. -/
structure Coupled (s : Sessions) (now : Int) : Prop where
  timer_iff : ∀ v, (∃ timer, s.requestTimers v = some timer) ↔
    s.voterStatusTable v = some .pending
  armed : ∀ v timer, s.requestTimers v = some timer →
    ∃ wait, s.waits timer.id = some wait ∧ wait.voterId = v ∧ wait.expiry = timer.expiry ∧
      wait.status ≠ .cancelled
  live : ∀ id wait, s.waits id = some wait → wait.status ≠ .cancelled →
    (∃ timer, s.requestTimers wait.voterId = some timer ∧ timer.id = id) ∨
      wait.status = .queued ∧ s.voterStatusTable wait.voterId = some .checkedIn
  due : ∀ id wait, s.waits id = some wait → wait.status = .queued → wait.expiry ≤ now
  numbered : ∀ id wait, s.waits id = some wait → id < s.timers

/-! ## The operations on coupled sessions -/

variable {config : Config} {now : Int} {s s' : Sessions} {voterId : UInt32}

/-- Reading the ticket file changes the tickets only. -/
theorem readFromCsv_eq (s : Sessions) :
    ∃ tickets, s.readFromCsv = { s with clientTicketsMap := tickets } := by
  unfold readFromCsv
  split
  · exact ⟨_, rfl⟩
  · exact ⟨_, rfl⟩

theorem readFromCsv_requestTimers (s : Sessions) :
    s.readFromCsv.requestTimers = s.requestTimers := by
  obtain ⟨tickets, heq⟩ := readFromCsv_eq s
  rw [heq]

/-- Writing the ticket file changes the file only. -/
theorem writeToCsv_eq (s : Sessions) (opens : Bool) (ticket secret : Bytes) (id : UInt32) :
    ∃ csv, s.writeToCsv opens ticket secret id = { s with ticketValidationCsv := csv } := by
  unfold writeToCsv
  dsimp only
  split
  · exact ⟨_, rfl⟩
  · exact ⟨_, rfl⟩

/-- A voter without a timer has none to destroy. -/
theorem destroyTimer_of_none (h : s.requestTimers voterId = none) :
    s.destroyTimer voterId = s := by
  simp only [destroyTimer, h]

/-- Admitting a voter without a timer. -/
theorem accept_eq (expiry : Int) (ticket secret : Bytes) (opens : Bool)
    (h : s.requestTimers voterId = none) :
    ∃ csv, s.accept voterId expiry ticket secret opens =
      { voterStatusTable := s.voterStatusTable.set voterId .pending
        requestTimers := s.requestTimers.set voterId ⟨s.timers, voterId, expiry⟩
        waits := s.waits.set s.timers ⟨voterId, expiry, .waiting⟩
        timers := s.timers + 1
        clientTicketsMap := s.clientTicketsMap.set ticket (voterId, secret)
        ticketValidationCsv := csv } := by
  have hdestroy : ({ s with
      voterStatusTable := s.voterStatusTable.set voterId .pending }).destroyTimer voterId =
      { s with voterStatusTable := s.voterStatusTable.set voterId .pending } :=
    destroyTimer_of_none h
  unfold accept startTimer
  dsimp only
  rw [hdestroy]
  obtain ⟨csv, hcsv⟩ := writeToCsv_eq
    { voterStatusTable := s.voterStatusTable.set voterId .pending
      requestTimers := s.requestTimers.set voterId ⟨s.timers, voterId, expiry⟩
      waits := s.waits.set s.timers ⟨voterId, expiry, .waiting⟩
      timers := s.timers + 1
      clientTicketsMap := s.clientTicketsMap.set ticket (voterId, secret)
      ticketValidationCsv := s.ticketValidationCsv } opens ticket secret voterId
  exact ⟨csv, hcsv⟩

/-- Cancelling changes one wait, if that is still waiting. -/
theorem cancel_eq (s : Sessions) (id : Nat) :
    ∃ waits, s.cancel id = { s with waits := waits } ∧ (∀ j, j ≠ id → waits j = s.waits j) ∧
      ∀ wait, waits id = some wait → s.waits id = some wait ∧ wait.status ≠ .waiting ∨
        wait.status = .cancelled := by
  unfold cancel
  split
  · next wait hwait =>
    split
    · refine ⟨_, rfl, fun j hj => Map.set_of_ne _ hj _, fun w hw => .inr ?_⟩
      rw [Map.set_self, Option.some.injEq] at hw
      rw [← hw]
    · next hstatus =>
      refine ⟨s.waits, rfl, fun _ _ => rfl, fun w hw => .inl ⟨hw, ?_⟩⟩
      rw [hwait, Option.some.injEq] at hw
      exact hw ▸ hstatus
  · next hnone =>
    refine ⟨s.waits, rfl, fun _ _ => rfl, fun w hw => ?_⟩
    rw [hnone] at hw
    cases hw

theorem destroyTimer_eq (s : Sessions) (voterId : UInt32) :
    ∃ waits, s.destroyTimer voterId = { s with waits := waits } := by
  unfold destroyTimer
  split
  · next timer _ =>
    obtain ⟨waits, heq, -⟩ := cancel_eq s timer.id
    exact ⟨waits, heq⟩
  · exact ⟨s.waits, rfl⟩

/-- What accepting does to the statuses and the tickets of any sessions. -/
theorem accept_fields (s : Sessions) (voterId : UInt32) (expiry : Int) (ticket secret : Bytes)
    (opens : Bool) :
    (s.accept voterId expiry ticket secret opens).voterStatusTable =
        s.voterStatusTable.set voterId .pending ∧
      (s.accept voterId expiry ticket secret opens).clientTicketsMap =
        s.clientTicketsMap.set ticket (voterId, secret) ∧
      (s.accept voterId expiry ticket secret opens).ticketValidationCsv =
        (s.writeToCsv opens ticket secret voterId).ticketValidationCsv := by
  unfold accept startTimer
  dsimp only
  obtain ⟨waits, hwaits⟩ := destroyTimer_eq
    { s with voterStatusTable := s.voterStatusTable.set voterId .pending } voterId
  rw [hwaits]
  unfold writeToCsv
  cases opens with
  | true => exact ⟨rfl, rfl, rfl⟩
  | false => exact ⟨rfl, rfl, rfl⟩

theorem confirm_tickets (s : Sessions) (voterId : UInt32) (timer : Timer) :
    (s.confirm voterId timer).clientTicketsMap = s.clientTicketsMap ∧
      (s.confirm voterId timer).ticketValidationCsv = s.ticketValidationCsv := by
  unfold confirm
  dsimp only
  split
  · obtain ⟨waits, heq, -⟩ := cancel_eq { s with
      requestTimers := s.requestTimers.erase voterId
      voterStatusTable := s.voterStatusTable.set voterId .checkedIn } timer.id
    rw [heq]
    exact ⟨rfl, rfl⟩
  · obtain ⟨waits, heq, -⟩ := cancel_eq { s with
      requestTimers := s.requestTimers.erase voterId } timer.id
    rw [heq]
    exact ⟨rfl, rfl⟩

theorem handleVerificationTimeout_tickets (s : Sessions) (voterId : UInt32) :
    (s.handleVerificationTimeout voterId).clientTicketsMap = s.clientTicketsMap ∧
      (s.handleVerificationTimeout voterId).ticketValidationCsv = s.ticketValidationCsv := by
  obtain ⟨waits, heq⟩ := destroyTimer_eq s voterId
  unfold handleVerificationTimeout
  dsimp only
  rw [heq]
  split
  · exact ⟨rfl, rfl⟩
  · exact ⟨rfl, rfl⟩

theorem queue_self (s : Sessions) (id : Nat) (wait : Wait) :
    (s.queue id wait).waits id = some { wait with status := .queued } := Map.set_self ..

theorem queue_of_ne (s : Sessions) {id j : Nat} (h : j ≠ id) (wait : Wait) :
    (s.queue id wait).waits j = s.waits j := Map.set_of_ne _ h _

namespace Coupled

variable (h : s.Coupled now)
include h

/-- Only four of the fields matter, and time may pass. -/
theorem congr {now' : Int} (hnow : now ≤ now') (hstatus : s'.voterStatusTable = s.voterStatusTable)
    (htimer : s'.requestTimers = s.requestTimers) (hwaits : s'.waits = s.waits)
    (hcount : s'.timers = s.timers) : s'.Coupled now' where
  timer_iff := by rw [hstatus, htimer]; exact h.timer_iff
  armed := by rw [htimer, hwaits]; exact h.armed
  live := by rw [hstatus, htimer, hwaits]; exact h.live
  due := by
    rw [hwaits]
    exact fun id wait hwait hqueued => (h.due id wait hwait hqueued).trans hnow
  numbered := by rw [hwaits, hcount]; exact h.numbered

/-- A voter who is not pending has no timer. -/
theorem no_timer (voterId : UInt32) (hstatus : s.voterStatusTable voterId ≠ some .pending) :
    s.requestTimers voterId = none := by
  cases htimer : s.requestTimers voterId with
  | none => rfl
  | some timer => exact absurd ((h.timer_iff voterId).mp ⟨timer, htimer⟩) hstatus

/-- A queued wait belongs to a pending voter's own timer, or its voter is
checked in and has no timer. -/
theorem queued {id : Nat} {wait : Wait} (hwait : s.waits id = some wait)
    (hqueued : wait.status = .queued) :
    (s.voterStatusTable wait.voterId = some .pending ∧
        ∃ timer, s.requestTimers wait.voterId = some timer ∧ timer.id = id) ∨
      s.voterStatusTable wait.voterId = some .checkedIn ∧
        s.requestTimers wait.voterId = none := by
  obtain ⟨timer, htimer, hid⟩ | ⟨-, hchecked⟩ := h.live id wait hwait (by rw [hqueued]; decide)
  · exact .inl ⟨(h.timer_iff _).mp ⟨timer, htimer⟩, timer, htimer, hid⟩
  · exact .inr ⟨hchecked, h.no_timer _ (by rw [hchecked]; decide)⟩

/-- What a timeout does: the pending voter is eligible again, without a timer;
a voter who is checked in stays so. -/
theorem timeout_eq {id : Nat} {wait : Wait} (hwait : s.waits id = some wait)
    (hqueued : wait.status = .queued) :
    (s.drop id).handleVerificationTimeout wait.voterId =
      if s.voterStatusTable wait.voterId = some .pending then
        { s with
          voterStatusTable := s.voterStatusTable.set wait.voterId .eligible
          requestTimers := s.requestTimers.erase wait.voterId
          waits := s.waits.erase id }
      else s.drop id := by
  obtain ⟨hpending, timer, htimer, rfl⟩ | ⟨hchecked, hnone⟩ := h.queued hwait hqueued
  · rw [if_pos hpending]
    unfold handleVerificationTimeout destroyTimer cancel drop
    simp only [htimer, Map.erase_self, hpending, if_true]
  · rw [if_neg (by rw [hchecked]; decide)]
    unfold handleVerificationTimeout
    have hdestroy : (s.drop id).destroyTimer wait.voterId = s.drop id := destroyTimer_of_none hnone
    have herase : (s.drop id).requestTimers.erase wait.voterId = (s.drop id).requestTimers :=
      Map.erase_eq_self hnone
    have hstatus : (s.drop id).voterStatusTable wait.voterId ≠ some .pending := by
      change s.voterStatusTable wait.voterId ≠ _
      rw [hchecked]
      decide
    simp only [hdestroy, herase, hstatus, if_false]

theorem accept (expiry : Int) (ticket secret : Bytes) (opens : Bool)
    (heligible : s.voterStatusTable voterId = some .eligible) :
    (s.accept voterId expiry ticket secret opens).Coupled now := by
  have hnone := h.no_timer voterId (by rw [heligible]; decide)
  obtain ⟨csv, heq⟩ := accept_eq expiry ticket secret opens hnone
  rw [heq]
  have hold : ∀ id wait, id ≠ s.timers →
      s.waits.set s.timers ⟨voterId, expiry, .waiting⟩ id = some wait → s.waits id = some wait :=
    fun id wait hid hwait => by rwa [Map.set_of_ne _ hid] at hwait
  constructor
  · intro v
    by_cases hv : v = voterId
    · subst hv
      simp
    · simpa only [Map.set_of_ne _ hv] using h.timer_iff v
  · intro v timer htimer
    by_cases hv : v = voterId
    · subst hv
      simp only [Map.set_self, Option.some.injEq] at htimer
      subst htimer
      exact ⟨_, Map.set_self .., rfl, rfl, by simp⟩
    · simp only [Map.set_of_ne _ hv] at htimer
      obtain ⟨wait, hwait, hrest⟩ := h.armed v timer htimer
      have hid : timer.id ≠ s.timers := Nat.ne_of_lt (h.numbered _ _ hwait)
      exact ⟨wait, (Map.set_of_ne _ hid _).trans hwait, hrest⟩
  · intro id wait hwait hactive
    by_cases hid : id = s.timers
    · subst hid
      simp only [Map.set_self, Option.some.injEq] at hwait
      subst hwait
      exact .inl ⟨_, Map.set_self .., rfl⟩
    · have hwait := hold id wait hid hwait
      obtain ⟨timer, htimer, hrest⟩ | ⟨hqueued, hchecked⟩ := h.live id wait hwait hactive
      · have hv : wait.voterId ≠ voterId := by
          intro hv
          rw [hv, hnone] at htimer
          cases htimer
        exact .inl ⟨timer, (Map.set_of_ne _ hv _).trans htimer, hrest⟩
      · have hv : wait.voterId ≠ voterId := by
          intro hv
          rw [hv, heligible] at hchecked
          cases hchecked
        exact .inr ⟨hqueued, (Map.set_of_ne _ hv _).trans hchecked⟩
  · intro id wait hwait hqueued
    by_cases hid : id = s.timers
    · subst hid
      simp only [Map.set_self, Option.some.injEq] at hwait
      subst hwait
      cases hqueued
    · exact h.due id wait (hold id wait hid hwait) hqueued
  · intro id wait hwait
    by_cases hid : id = s.timers
    · exact hid ▸ Nat.lt_succ_self _
    · exact Nat.lt_succ_of_lt (h.numbered id wait (hold id wait hid hwait))

/-- Redeeming ends the session of a pending voter for good. -/
theorem confirm_eq {timer : Timer} (htimer : s.requestTimers voterId = some timer) :
    ∃ waits, s.confirm voterId timer =
        { s with
          requestTimers := s.requestTimers.erase voterId
          voterStatusTable := s.voterStatusTable.set voterId .checkedIn
          waits := waits } ∧
      (∀ j, j ≠ timer.id → waits j = s.waits j) ∧
      ∀ wait, waits timer.id = some wait → s.waits timer.id = some wait ∧ wait.status ≠ .waiting ∨
        wait.status = .cancelled := by
  have hpending := (h.timer_iff voterId).mp ⟨timer, htimer⟩
  unfold confirm
  simp only [hpending, if_true]
  exact cancel_eq { s with
    requestTimers := s.requestTimers.erase voterId
    voterStatusTable := s.voterStatusTable.set voterId .checkedIn } timer.id

theorem confirm {timer : Timer} (htimer : s.requestTimers voterId = some timer) :
    (s.confirm voterId timer).Coupled now := by
  obtain ⟨waits, heq, hother, hself⟩ := h.confirm_eq htimer
  obtain ⟨wait₀, hwait₀, hvoter₀, -, -⟩ := h.armed voterId timer htimer
  -- a wait that is not cancelled was there before
  have hold : ∀ id wait, waits id = some wait → wait.status ≠ .cancelled →
      s.waits id = some wait := by
    intro id wait hwait hactive
    by_cases hid : id = timer.id
    · subst hid
      obtain ⟨hwait, -⟩ | hcancelled := hself wait hwait
      · exact hwait
      · exact absurd hcancelled hactive
    · rwa [hother id hid] at hwait
  rw [heq]
  constructor
  · intro v
    by_cases hv : v = voterId
    · subst hv
      simp
    · simpa only [Map.set_of_ne _ hv, Map.erase_of_ne _ hv] using h.timer_iff v
  · intro v timer' htimer'
    have hv : v ≠ voterId := by
      rintro rfl
      simp at htimer'
    simp only [Map.erase_of_ne _ hv] at htimer'
    obtain ⟨wait, hwait, hvoter, hrest⟩ := h.armed v timer' htimer'
    have hid : timer'.id ≠ timer.id := by
      intro hid
      rw [hid, hwait₀, Option.some.injEq] at hwait
      exact hv (by rw [← hvoter, ← hwait, hvoter₀])
    exact ⟨wait, (hother _ hid).trans hwait, hvoter, hrest⟩
  · intro id wait hwait hactive
    have hwas := hold id wait hwait hactive
    by_cases hv : wait.voterId = voterId
    · obtain ⟨timer', htimer', hid⟩ | ⟨-, hchecked⟩ := h.live id wait hwas hactive
      · rw [hv, htimer, Option.some.injEq] at htimer'
        subst htimer'
        subst hid
        obtain ⟨-, hnot⟩ | hcancelled := hself wait hwait
        · have hqueued : wait.status = .queued := by
            cases hstatus : wait.status with
            | waiting => exact absurd hstatus hnot
            | queued => rfl
            | cancelled => exact absurd hstatus hactive
          exact .inr ⟨hqueued, hv ▸ Map.set_self ..⟩
        · exact absurd hcancelled hactive
      · rw [hv, (h.timer_iff voterId).mp ⟨timer, htimer⟩] at hchecked
        cases hchecked
    · obtain ⟨timer', htimer', hid⟩ | ⟨hqueued, hchecked⟩ := h.live id wait hwas hactive
      · exact .inl ⟨timer', (Map.erase_of_ne _ hv).trans htimer', hid⟩
      · exact .inr ⟨hqueued, (Map.set_of_ne _ hv _).trans hchecked⟩
  · intro id wait hwait hqueued
    exact h.due id wait (hold id wait hwait (by rw [hqueued]; decide)) hqueued
  · intro id wait hwait
    by_cases hid : id = timer.id
    · exact hid ▸ h.numbered _ _ hwait₀
    · exact h.numbered id wait ((hother id hid).symm.trans hwait)

theorem expire {id : Nat} {wait : Wait} (hwait : s.waits id = some wait)
    (hwaiting : wait.status = .waiting) (hexpired : wait.expiry ≤ now) :
    (s.queue id wait).Coupled now := by
  constructor
  · exact h.timer_iff
  · intro v timer htimer
    obtain ⟨wait', hwait', hvoter, hexpiry, hactive⟩ := h.armed v timer htimer
    by_cases hid : timer.id = id
    · rw [hid, hwait, Option.some.injEq] at hwait'
      subst hwait'
      exact ⟨{ wait with status := .queued }, by rw [hid]; exact queue_self s id wait, hvoter,
        hexpiry, by simp⟩
    · exact ⟨wait', (queue_of_ne _ hid _).trans hwait', hvoter, hexpiry, hactive⟩
  · intro j wait' hwait' hactive
    by_cases hj : j = id
    · subst hj
      rw [queue_self, Option.some.injEq] at hwait'
      subst hwait'
      obtain hlive | ⟨hqueued, -⟩ := h.live j wait hwait (by rw [hwaiting]; decide)
      · exact .inl hlive
      · rw [hwaiting] at hqueued
        cases hqueued
    · exact h.live j wait' ((queue_of_ne s hj wait).symm.trans hwait') hactive
  · intro j wait' hwait' hqueued
    by_cases hj : j = id
    · subst hj
      rw [queue_self, Option.some.injEq] at hwait'
      subst hwait'
      exact hexpired
    · exact h.due j wait' ((queue_of_ne s hj wait).symm.trans hwait') hqueued
  · intro j wait' hwait'
    by_cases hj : j = id
    · exact hj ▸ h.numbered id wait hwait
    · exact h.numbered j wait' ((queue_of_ne s hj wait).symm.trans hwait')

theorem drop {id : Nat} {wait : Wait} (hwait : s.waits id = some wait)
    (hidle : ∀ timer, s.requestTimers wait.voterId = some timer → timer.id ≠ id) :
    (s.drop id).Coupled now := by
  have hold : ∀ j wait', s.waits.erase id j = some wait' → s.waits j = some wait' := by
    intro j wait' hwait'
    rw [Map.erase_apply] at hwait'
    split at hwait'
    · cases hwait'
    · exact hwait'
  constructor
  · exact h.timer_iff
  · intro v timer htimer
    obtain ⟨wait', hwait', hvoter, hrest⟩ := h.armed v timer htimer
    have hid : timer.id ≠ id := by
      intro hid
      rw [hid, hwait, Option.some.injEq] at hwait'
      subst hwait'
      rw [← hvoter] at htimer
      exact hidle timer htimer hid
    exact ⟨wait', (Map.erase_of_ne _ hid).trans hwait', hvoter, hrest⟩
  · exact fun j wait' hwait' => h.live j wait' (hold j wait' hwait')
  · exact fun j wait' hwait' => h.due j wait' (hold j wait' hwait')
  · exact fun j wait' hwait' => h.numbered j wait' (hold j wait' hwait')

theorem timeout {id : Nat} {wait : Wait} (hwait : s.waits id = some wait)
    (hqueued : wait.status = .queued) :
    ((s.drop id).handleVerificationTimeout wait.voterId).Coupled now := by
  rw [h.timeout_eq hwait hqueued]
  obtain ⟨hpending, timer, htimer, hid⟩ | ⟨hchecked, hnone⟩ := h.queued hwait hqueued
  · rw [if_pos hpending]
    have hold : ∀ j wait', s.waits.erase id j = some wait' → j ≠ id ∧ s.waits j = some wait' := by
      intro j wait' hwait'
      rw [Map.erase_apply] at hwait'
      split at hwait'
      · cases hwait'
      · next hj => exact ⟨hj, hwait'⟩
    constructor
    · intro v
      by_cases hv : v = wait.voterId
      · rw [hv]
        simp
      · simpa only [Map.set_of_ne _ hv, Map.erase_of_ne _ hv] using h.timer_iff v
    · intro v timer' htimer'
      have hv : v ≠ wait.voterId := by
        rintro rfl
        simp at htimer'
      simp only [Map.erase_of_ne _ hv] at htimer'
      obtain ⟨wait', hwait', hvoter, hrest⟩ := h.armed v timer' htimer'
      have hid' : timer'.id ≠ id := by
        intro hid'
        rw [hid', hwait, Option.some.injEq] at hwait'
        exact hv (by rw [← hvoter, hwait'])
      exact ⟨wait', (Map.erase_of_ne _ hid').trans hwait', hvoter, hrest⟩
    · intro j wait' hwait' hactive
      obtain ⟨hj, hwas⟩ := hold j wait' hwait'
      have hv : wait'.voterId ≠ wait.voterId := by
        intro hv
        obtain ⟨timer', htimer', hid'⟩ | ⟨-, hchecked⟩ := h.live j wait' hwas hactive
        · rw [hv, htimer, Option.some.injEq] at htimer'
          exact hj (by rw [← hid', ← htimer', hid])
        · rw [hv, hpending] at hchecked
          cases hchecked
      obtain ⟨timer', htimer', hid'⟩ | ⟨hqueued', hchecked⟩ := h.live j wait' hwas hactive
      · exact .inl ⟨timer', (Map.erase_of_ne _ hv).trans htimer', hid'⟩
      · exact .inr ⟨hqueued', (Map.set_of_ne _ hv _).trans hchecked⟩
    · exact fun j wait' hwait' => h.due j wait' (hold j wait' hwait').2
    · exact fun j wait' hwait' => h.numbered j wait' (hold j wait' hwait').2
  · rw [if_neg (by rw [hchecked]; decide)]
    exact h.drop hwait fun timer htimer => by rw [hnone] at htimer; cases htimer

/-- Every change keeps the coupling. -/
theorem moves {change : Change} {now' : Int} (hnow : now ≤ now')
    (hmoves : Moves config now' s change s') : s'.Coupled now' := by
  have h' : s.Coupled now' := h.congr hnow rfl rfl rfl rfl
  cases hmoves with
  | quiet => exact h'
  | reload =>
    obtain ⟨tickets, heq⟩ := readFromCsv_eq s
    rw [heq]
    exact h'.congr le_rfl rfl rfl rfl rfl
  | accept opens _ heligible => exact h'.accept _ _ _ opens heligible
  | redeem _ htimer _ =>
    obtain ⟨tickets, heq⟩ := readFromCsv_eq s
    rw [heq]
    have hread : Coupled { s with clientTicketsMap := tickets } now' :=
      h'.congr le_rfl rfl rfl rfl rfl
    exact hread.confirm htimer
  | expire hwait hwaiting hexpired => exact h'.expire hwait hwaiting hexpired
  | timeout hwait hqueued => exact h'.timeout hwait hqueued
  | abort hwait hcancelled =>
    refine h'.drop hwait fun timer htimer hid => ?_
    obtain ⟨wait', hwait', -, -, hactive⟩ := h'.armed _ timer htimer
    rw [hid, hwait, Option.some.injEq] at hwait'
    exact hactive (hwait' ▸ hcancelled)

end Coupled

end Sessions

/-! ## The service moves its sessions -/

/-- The voter and the ticket of an approved check-in request. -/
def Action.admitted : Action → Option (UInt32 × Bytes)
  | .checkinAnswer _ _ response =>
    if response.body.approved then some (response.body.voterUniqueId, response.body.ticket)
    else none
  | _ => none

/-- The voter and the ticket of an approved ticket request. -/
def Action.redeemed : Action → Option (UInt32 × Bytes)
  | .ticketAnswer _ request response =>
    if response.body.approved then some (response.body.voterUniqueId, request.body.ticket)
    else none
  | _ => none

namespace CheckinService

open Sessions (Change Moves Coupled)

variable {env : Env} {io : Io} {s s' : CheckinService} {clientIp : Endpoint}
  {acts : List Action} {occurrence : Occurrence}

theorem Checks.admitted (h : s.Checks clientIp acts) : acts.filterMap Action.admitted = [] := by
  rw [List.filterMap_eq_nil_iff]
  intro a ha
  obtain ⟨_, _, _, rfl⟩ | ⟨_, _, rfl, -⟩ := h a ha <;> rfl

theorem Checks.redeemed (h : s.Checks clientIp acts) : acts.filterMap Action.redeemed = [] := by
  rw [List.filterMap_eq_nil_iff]
  intro a ha
  obtain ⟨_, _, _, rfl⟩ | ⟨_, _, rfl, -⟩ := h a ha <;> rfl

/-- A change of the sessions that a step makes, and the approvals it answers. -/
structure Makes (env : Env) (io : Io) (s : Sessions) (occurrence : Occurrence) (s' : Sessions)
    (acts : List Action) (change : Change) : Prop where
  moves : Moves env.config io.steadyNow s change s'
  admitted : acts.filterMap Action.admitted = change.admitted.toList
  redeemed : acts.filterMap Action.redeemed = change.redeemed.toList
  timeout : ∀ id, occurrence = .timedOut id ↔ change = .timeout id

/-- A step that answers nothing and leaves the sessions alone. -/
theorem Makes.still {s s' : Sessions} (hsessions : s' = s)
    (hacts : ∀ a ∈ acts, Action.admitted a = none ∧ Action.redeemed a = none)
    (htimeout : ∀ id, occurrence ≠ .timedOut id) :
    Makes env io s occurrence s' acts .quiet where
  moves := by rw [hsessions]; exact .quiet
  admitted := List.filterMap_eq_nil_iff.mpr fun a ha => (hacts a ha).1
  redeemed := List.filterMap_eq_nil_iff.mpr fun a ha => (hacts a ha).2
  timeout := fun id => ⟨fun h => absurd h (htimeout id), nofun⟩

theorem CheckinOutcome.makes {request : CheckinRequest} {type : ClientType} {line : Bytes}
    {clientId : UInt32} (h : CheckinOutcome env io s clientIp request s' acts) :
    ∃ change, Makes env io s.toSessions (.lineRead clientIp) s'.toSessions
      (.dispatched clientIp clientId type line :: acts) change := by
  cases h with
  | unanswered _ => exact ⟨.quiet, .still rfl (by simp [Action.admitted, Action.redeemed]) nofun⟩
  | denied _ hchecks =>
    refine ⟨.quiet, .quiet, ?_, ?_, fun id => ⟨nofun, nofun⟩⟩
    · rw [List.filterMap_cons_none rfl, List.filterMap_append, hchecks.admitted]
      rfl
    · rw [List.filterMap_cons_none rfl, List.filterMap_append, hchecks.redeemed]
      rfl
  | @accepted _ _ t sec _ hchecks _ _ heligible _ _ =>
    refine ⟨.accept request.body.voterUniqueId (hex t.toList),
      .accept io.csvOpens (fit_hex t sec) heligible, ?_, ?_, fun id => ⟨nofun, nofun⟩⟩
    · rw [List.filterMap_cons_none rfl, List.filterMap_append, hchecks.admitted]
      rfl
    · rw [List.filterMap_cons_none rfl, List.filterMap_append, hchecks.redeemed]
      rfl

theorem TicketOutcome.makes {request : TicketRequest} {type : ClientType} {line : Bytes}
    {clientId : UInt32}
    (h : TicketOutcome env io s.readFromCsv clientIp request s' acts) :
    ∃ change, Makes env io s.toSessions (.lineRead clientIp) s'.toSessions
      (.dispatched clientIp clientId type line :: acts) change := by
  cases h with
  | refused _ hchecks =>
    refine ⟨.reload, .reload, ?_, ?_, fun id => ⟨nofun, nofun⟩⟩
    · rw [List.filterMap_cons_none rfl, hchecks.admitted]
      rfl
    · rw [List.filterMap_cons_none rfl, hchecks.redeemed]
      rfl
  | denied _ hchecks hfaults =>
    refine ⟨.reload, .reload, ?_, ?_, fun id => ⟨nofun, nofun⟩⟩
    · rw [List.filterMap_cons_none rfl, List.filterMap_append, hchecks.admitted,
        List.filterMap_cons_none rfl, hfaults.admitted]
      rfl
    · rw [List.filterMap_cons_none rfl, List.filterMap_append, hchecks.redeemed,
        List.filterMap_cons_none rfl, hfaults.redeemed]
      rfl
  | @approved _ voterId _ _ _ _ hchecks hauthentic htimer hwindow =>
    simp only [readFromCsv, Sessions.readFromCsv_requestTimers] at htimer
    refine ⟨.redeem voterId request.body.ticket,
      .redeem hauthentic.ticket htimer hwindow, ?_, ?_, fun id => ⟨nofun, nofun⟩⟩
    · rw [List.filterMap_cons_none rfl, List.filterMap_append, hchecks.admitted]
      rfl
    · rw [List.filterMap_cons_none rfl, List.filterMap_append, hchecks.redeemed]
      rfl

/-- Every step makes one change of the sessions, and answers its approvals. -/
theorem Step.makes (h : Step env io s occurrence s' acts) :
    ∃ change, Makes env io s.toSessions occurrence s'.toSessions acts change := by
  cases h with
  | accepted | acceptFailed | uncertified | received | sizeRead | disconnected | signed =>
    exact ⟨.quiet, .still rfl (by simp) nofun⟩
  | handshakeFailed | mismatch | payloadLost | unknownIp | unknownId =>
    exact ⟨.quiet, .still rfl (by simp [Action.admitted, Action.redeemed]) nofun⟩
  | certified _ _ _ _ hacts =>
    refine ⟨.quiet, .still rfl (fun a ha => ?_) nofun⟩
    obtain ⟨_, rfl⟩ := hacts a ha
    exact ⟨rfl, rfl⟩
  | undecoded _ _ _ _ hchecks =>
    refine ⟨.reload, .reload, ?_, ?_, fun id => ⟨nofun, nofun⟩⟩
    · rw [List.filterMap_cons_none rfl, hchecks.admitted]
      rfl
    · rw [List.filterMap_cons_none rfl, hchecks.redeemed]
      rfl
  | ticketRequest _ _ _ _ _ _ houtcome => exact houtcome.makes
  | checkinRequest _ _ _ _ _ _ houtcome => exact houtcome.makes
  | timerExpired hwait hwaiting hexpired =>
    exact ⟨.expire _, .expire hwait hwaiting hexpired, rfl, rfl, fun id => ⟨nofun, nofun⟩⟩
  | timedOut hwait hqueued =>
    refine ⟨.timeout _, .timeout hwait hqueued, rfl, rfl, fun id => ?_⟩
    simp only [Occurrence.timedOut.injEq, Change.timeout.injEq]
  | waitAborted hwait hcancelled =>
    exact ⟨.abort _, .abort hwait hcancelled, rfl, rfl, fun id => ⟨nofun, nofun⟩⟩

/-- The clock is read before a handler runs, and not again. -/
theorem Step.steadyNow (h : Step env io s occurrence s' acts) : s'.steadyNow = s.steadyNow := by
  cases h with
  | ticketRequest _ _ _ _ _ _ houtcome => cases houtcome <;> rfl
  | checkinRequest _ _ _ _ _ _ houtcome => cases houtcome <;> rfl
  | _ => rfl

/-- The same for the steps of the process. -/
theorem next_makes {e : Event} (h : next env s e = some (s', acts)) :
    s.steadyNow ≤ e.io.steadyNow ∧ s'.steadyNow = e.io.steadyNow ∧
      ∃ change, Makes env e.io s.toSessions e.occurrence s'.toSessions acts change := by
  obtain ⟨hclock, s₁, hstep, rfl⟩ := next_step h
  obtain ⟨change, hmakes⟩ := hstep.makes
  exact ⟨hclock, hstep.steadyNow, change, hmakes.moves, hmakes.admitted, hmakes.redeemed,
    hmakes.timeout⟩

/-- A crash approves nothing. -/
theorem crash_approves {e : Event} (h : crash env s e = some acts) :
    acts.filterMap Action.admitted = [] ∧ acts.filterMap Action.redeemed = [] := by
  have hcrash := crash_step h
  generalize e.occurrence = occurrence at hcrash
  cases hcrash with
  | silent => exact ⟨rfl, rfl⟩
  | checking _ _ _ hchecks =>
    rw [List.filterMap_cons_none rfl, List.filterMap_cons_none rfl]
    exact ⟨hchecks.admitted, hchecks.redeemed⟩

/-! ## Reachable services -/

variable {found : Surroundings} {s₀ : CheckinService} {tr : List (Event × List Action)}

theorem start_eligible (h : start env found = .ok s) {v : UInt32} {status : VoterStatus}
    (hv : s.voterStatusTable v = some status) : status = .eligible := by
  obtain ⟨table, hload, rfl⟩ := start_eq_ok h
  exact loadVoterList_eligible hload hv

theorem start_coupled (h : start env found = .ok s) : s.toSessions.Coupled s.steadyNow := by
  have heligible := @start_eligible env s found h
  obtain ⟨table, -, rfl⟩ := start_eq_ok h
  refine ⟨fun v => ⟨?_, fun hv => ?_⟩, ?_, ?_, ?_, ?_⟩
  · rintro ⟨timer, htimer⟩
    cases htimer
  · cases heligible hv
  · rintro v timer ⟨⟩
  · rintro id wait ⟨⟩
  · rintro id wait ⟨⟩
  · rintro id wait ⟨⟩

theorem next_coupled {e : Event} (h : s.toSessions.Coupled s.steadyNow)
    (hnext : next env s e = some (s', acts)) : s'.toSessions.Coupled s'.steadyNow := by
  obtain ⟨hclock, hnow, change, hmakes⟩ := next_makes hnext
  rw [hnow]
  exact h.moves hclock hmakes.moves

/-- The sessions of every reachable service are coupled. -/
theorem coupled_of_run (hstart : start env found = .ok s₀) (h : Run (next env) s₀ tr s) :
    s.toSessions.Coupled s.steadyNow :=
  h.stable (fun _ _ _ _ hcoupled hnext => next_coupled hcoupled hnext) (start_coupled hstart)

end CheckinService

end Pollbook
