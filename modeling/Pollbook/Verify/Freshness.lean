import Pollbook.Rehearsal
import Pollbook.Verify.Approvals
import Pollbook.Verify.Statuses

/-!
# Replayed check-in requests

The service keeps no record of the requests it has seen. What stops a replay is
time: an accepted voter cannot be accepted again before the timer has run out,
and by then the request is stale (`replays_are_denied`). The two clocks involved
are read as one time (`ClocksTogether`).
-/

namespace Pollbook

/-! ## The freshness window -/

/-- The distance of two timestamps. -/
def distance (a b : UInt64) : Nat := ((a.toNat : Int) - b.toNat).natAbs

theorem toInt_toInt64 (x : UInt64) :
    x.toInt64.toInt = if x.toNat < 2 ^ 63 then (x.toNat : Int) else x.toNat - 2 ^ 64 := by
  rw [← Int64.toInt_toBitVec, UInt64.toBitVec_toInt64, BitVec.toInt_eq_toNat_cond,
    UInt64.toNat_toBitVec]
  have hlt := x.toNat_lt
  split <;> split <;> omega

/-- From a distance of `2^63` on, the conversion wraps around. -/
theorem toInt_timeDifference (a ts : UInt64) :
    (timeDifference a ts).toInt =
      if distance a ts < 2 ^ 63 then (distance a ts : Int) else distance a ts - 2 ^ 64 := by
  unfold timeDifference distance
  split
  · next h =>
    rw [gt_iff_lt, UInt64.lt_iff_toNat_lt] at h
    have hsub : (a - ts).toNat = ((a.toNat : Int) - ts.toNat).natAbs := by
      rw [UInt64.toNat_sub_of_le _ _ (UInt64.le_iff_toNat_le.mpr (Nat.le_of_lt h))]
      omega
    rw [toInt_toInt64, hsub]
  · next h =>
    rw [gt_iff_lt, UInt64.lt_iff_toNat_lt] at h
    have hsub : (ts - a).toNat = ((a.toNat : Int) - ts.toNat).natAbs := by
      rw [UInt64.toNat_sub_of_le _ _ (UInt64.le_iff_toNat_le.mpr (Nat.le_of_not_lt h))]
      omega
    rw [toInt_toInt64, hsub]

/-- `std::abs` leaves the least integer negative. -/
theorem natAbs_le_of_abs {x : Int64} {n : Int} (h : x.abs.toInt ≤ n) :
    (x.toInt.natAbs : Int) ≤ n ∨ x.toInt = -2 ^ 63 := by
  by_cases hmin : x.toBitVec = BitVec.intMin 64
  · right
    rw [← Int64.toInt_toBitVec, hmin]
    decide
  · left
    have habs := BitVec.toInt_abs_eq_natAbs_of_ne_intMin hmin
    rw [Int64.toInt_toBitVec] at habs
    rw [← habs]
    exact h

/-- A timestamp passes when it is in the window, or when the distance to it
wraps around. -/
theorem distance_of_not_stale {F : UInt32} {a ts : UInt64} (h : stale F a ts = false) :
    distance a ts ≤ F.toNat ∨ 2 ^ 64 ≤ distance a ts + F.toNat ∨ distance a ts = 2 ^ 63 := by
  unfold stale at h
  rw [decide_eq_false_iff_not, gt_iff_lt, Int64.lt_iff_toInt_lt, Int.not_lt, toInt_toInt64,
    UInt32.toNat_toUInt64] at h
  have hF := F.toNat_lt
  rw [if_pos (by omega)] at h
  have hd : distance a ts < 2 ^ 64 := by
    have ha := a.toNat_lt
    have hts := ts.toNat_lt
    unfold distance
    omega
  rcases natAbs_le_of_abs h with h | h
  · rw [toInt_timeDifference] at h
    split at h <;> omega
  · rw [toInt_timeDifference] at h
    split at h <;> omega

/-- One timestamp is fresh at two times only if these are close: the distances
do not wrap around to the same timestamp in different ways. -/
theorem close_of_not_stale {F : UInt32} {a b ts : UInt64} (ha : stale F a ts = false)
    (hb : stale F b ts = false) (halt : a.toNat < 2 ^ 62) (hblt : b.toNat < 2 ^ 62) :
    b.toNat ≤ a.toNat + 2 * F.toNat := by
  have hF := F.toNat_lt
  have hts := ts.toNat_lt
  have ha := distance_of_not_stale ha
  have hb := distance_of_not_stale hb
  unfold distance at ha hb
  omega

/-! ## The clocks -/

/-- Both clocks are readings of one time, `offset` nanoseconds apart: a handler
reads the system clock after the steady clock was read the last time, and
before it reads the steady clock itself. -/
def ClocksTogether (offset : Int) : Int → List (Event × List Action) → Prop
  | _, [] => True
  | last, x :: tr =>
    ((last + offset) / 1000000 ≤ x.1.io.systemNow.toNat ∧
      x.1.io.systemNow.toNat ≤ (x.1.io.steadyNow + offset) / 1000000) ∧
    ClocksTogether offset x.1.io.steadyNow tr

instance decidableClocksTogether (offset : Int) :
    ∀ (last : Int) (tr : List (Event × List Action)), Decidable (ClocksTogether offset last tr)
  | _, [] => inferInstanceAs (Decidable True)
  | last, x :: tr =>
    have := decidableClocksTogether offset x.1.io.steadyNow tr
    inferInstanceAs (Decidable (((last + offset) / 1000000 ≤ x.1.io.systemNow.toNat ∧
      (x.1.io.systemNow.toNat : Int) ≤ (x.1.io.steadyNow + offset) / 1000000) ∧
      ClocksTogether offset x.1.io.steadyNow tr))

theorem ClocksTogether.of_append {offset last : Int} {pre post : List (Event × List Action)}
    (h : ClocksTogether offset last (pre ++ post)) : ClocksTogether offset last pre := by
  induction pre generalizing last with
  | nil => trivial
  | cons x pre ih => exact ⟨h.1, ih h.2⟩

namespace Sessions

variable {config : Config} {now : Int} {s s' : Sessions} {change : Change}

/-- What can happen to a timer: its voter is checked in, or it runs out. -/
theorem Coupled.timer_stays (h : s.Coupled now) (hmoves : Moves config now s change s')
    {u : UInt32} {timer : Timer} (htimer : s.requestTimers u = some timer) :
    s'.requestTimers u = some timer ∨ s'.voterStatusTable u = some .checkedIn ∨
      timer.expiry ≤ now := by
  have hpending := (h.timer_iff u).mp ⟨timer, htimer⟩
  cases hmoves with
  | quiet | expire _ _ _ | abort _ _ => exact .inl htimer
  | reload =>
    rw [readFromCsv_requestTimers]
    exact .inl htimer
  | @accept v t secret opens _ heligible =>
    have hne : u ≠ v := by
      rintro rfl
      rw [hpending] at heligible
      cases heligible
    obtain ⟨csv, heq⟩ := accept_eq (now + minutes config.timeoutInterval) t secret opens
      (h.no_timer v (by rw [heligible]; decide))
    rw [heq]
    exact .inl ((Map.set_of_ne _ hne _).trans htimer)
  | @redeem v t secret timer' _ htimer' _ =>
    obtain ⟨tickets, hread⟩ := readFromCsv_eq s
    rw [hread]
    have hcoupled : Coupled { s with clientTicketsMap := tickets } now :=
      h.congr le_rfl rfl rfl rfl rfl
    obtain ⟨waits, heq, -, -⟩ := hcoupled.confirm_eq htimer'
    rw [heq]
    by_cases hv : u = v
    · subst hv
      exact .inr (.inl (Map.set_self ..))
    · exact .inl ((Map.erase_of_ne _ hv).trans htimer)
  | @timeout id wait hwait hqueued =>
    rw [h.timeout_eq hwait hqueued]
    split
    · by_cases hv : u = wait.voterId
      · obtain ⟨-, timer', htimer', rfl⟩ | ⟨hchecked, -⟩ := h.queued hwait hqueued
        · subst hv
          rw [htimer, Option.some.injEq] at htimer'
          subst htimer'
          obtain ⟨wait', hwait', -, hexpiry, -⟩ := h.armed _ timer htimer
          rw [hwait, Option.some.injEq] at hwait'
          subst hwait'
          exact .inr (.inr (hexpiry ▸ h.due _ wait hwait hqueued))
        · rw [← hv, hpending] at hchecked
          cases hchecked
      · exact .inl ((Map.erase_of_ne _ hv).trans htimer)
    · exact .inl htimer

end Sessions

namespace CheckinService

variable {env : Env} {found : Surroundings} {s₀ s s' m : CheckinService}
  {tr pre post : List (Event × List Action)} {e : Event} {acts : List Action} {offset : Int}

theorem ClocksTogether.step {x : Event × List Action}
    (h : ClocksTogether offset s₀.steadyNow (pre ++ x :: post)) (hrun : Run (next env) s₀ pre m) :
    (m.steadyNow + offset) / 1000000 ≤ x.1.io.systemNow.toNat ∧
      x.1.io.systemNow.toNat ≤ (x.1.io.steadyNow + offset) / 1000000 := by
  induction pre generalizing s₀ with
  | nil =>
    rw [hrun.eq_of_nil]
    exact h.1
  | cons y pre ih =>
    obtain ⟨e, acts⟩ := y
    have hfirst : Run (next env) s₀ ([] ++ (e, acts) :: pre) m := hrun
    obtain ⟨k, k', hk, hnext, hrest⟩ := hfirst.splitStep
    rw [hk.eq_of_nil] at hnext
    obtain ⟨-, hnow, -⟩ := next_makes hnext
    refine ih ?_ hrest
    rw [hnow]
    exact h.2

/-! ## An accepted voter is held -/

/-- The voter was accepted at the time `since`, and cannot be accepted again
before the timeout interval is over. -/
def Held (config : Config) (u : UInt32) (since : Int) (s : CheckinService) : Prop :=
  s.voterStatusTable u = some .checkedIn ∨
    (∃ timer, s.requestTimers u = some timer ∧
      since + minutes config.timeoutInterval ≤ timer.expiry) ∨
    since + minutes config.timeoutInterval ≤ s.steadyNow

theorem Held.next {u : UInt32} {since : Int} (h : Held env.config u since s)
    (hcoupled : s.toSessions.Coupled s.steadyNow) (hnext : next env s e = some (s', acts)) :
    Held env.config u since s' := by
  obtain ⟨hclock, hnow, change, hmakes⟩ := next_makes hnext
  have hcoupled' : s.toSessions.Coupled e.io.steadyNow := hcoupled.congr hclock rfl rfl rfl rfl
  rcases h with hchecked | ⟨timer, htimer, hexpiry⟩ | hover
  · exact .inl ((hcoupled'.statusStep hmakes.moves u).checkedIn hchecked)
  · rcases hcoupled'.timer_stays hmakes.moves htimer with htimer | hchecked | hdue
    · exact .inr (.inl ⟨timer, htimer, hexpiry⟩)
    · exact .inl hchecked
    · right; right
      rw [hnow]
      exact hexpiry.trans hdue
  · right; right
    rw [hnow]
    exact hover.trans hclock

/-- Accepting a voter starts the timer. -/
theorem Accepts.held {clientIp : Endpoint} {request : CheckinRequest} {ticket : Bytes}
    (hcoupled : s.toSessions.Coupled s.steadyNow) {io : Io}
    (h : Accepts env io s clientIp request ticket s' acts) :
    Held env.config request.body.voterUniqueId io.steadyNow s' := by
  obtain ⟨secret, hsessions⟩ := h.sessions
  have hnone : s.requestTimers request.body.voterUniqueId = none := by
    apply hcoupled.no_timer
    rw [h.eligible]
    decide
  obtain ⟨csv, heq⟩ := Sessions.accept_eq (io.steadyNow + minutes env.config.timeoutInterval)
    ticket secret io.csvOpens hnone
  right; left
  rw [hsessions, heq]
  exact ⟨_, Map.set_self .., le_rfl⟩

/-- A voter who can be accepted is not held. -/
theorem Held.over {u : UInt32} {since : Int} (h : Held env.config u since s)
    (hcoupled : s.toSessions.Coupled s.steadyNow)
    (heligible : s.voterStatusTable u = some .eligible) :
    since + minutes env.config.timeoutInterval ≤ s.steadyNow := by
  rcases h with hchecked | ⟨timer, htimer, -⟩ | hover
  · rw [heligible] at hchecked
    cases hchecked
  · have hpending := (hcoupled.timer_iff u).mp ⟨timer, htimer⟩
    rw [heligible] at hpending
    cases hpending
  · exact hover

/-! ## Replays -/

/-- The answer that accepts a check-in request with this body. -/
def approvesRequest (body : CheckinRequest.Body) : Action → Bool
  | .checkinAnswer _ request response => response.body.approved && request.body == body
  | _ => false

theorem admitted_of_approvesRequest {body : CheckinRequest.Body} {a : Action}
    (h : approvesRequest body a = true) : a.admitted.isSome = true := by
  cases a with
  | checkinAnswer clientIp request response =>
    rw [approvesRequest, Bool.and_eq_true] at h
    rw [Action.admitted, if_pos h.1]
    rfl
  | _ => cases h

theorem countP_approvesRequest_le (body : CheckinRequest.Body) (acts : List Action) :
    acts.countP (approvesRequest body) ≤ (acts.filterMap Action.admitted).length := by
  rw [List.length_filterMap_eq_countP]
  exact List.countP_mono_left fun a _ h => admitted_of_approvesRequest h

/-- A step that accepts the request, with what that takes. -/
theorem exists_accepts_of_count {body : CheckinRequest.Body}
    (hnext : next env s e = some (s', acts)) (hpos : 0 < acts.countP (approvesRequest body)) :
    ∃ clientIp request ticket s₁, request.body = body ∧ s' = s₁.charge acts ∧
      Accepts env e.io (s.atTime e.io.steadyNow) clientIp request ticket s₁ acts := by
  obtain ⟨a, ha, happroves⟩ := List.countP_pos_iff.mp hpos
  cases a with
  | checkinAnswer clientIp request response =>
    rw [approvesRequest, Bool.and_eq_true, beq_iff_eq] at happroves
    obtain ⟨-, s₁, hstep, rfl⟩ := next_step hnext
    exact ⟨clientIp, request, _, s₁, happroves.2, rfl, (hstep.accepts ha happroves.1).1⟩
  | _ => cases happroves

/-- The request cannot be accepted twice: too much time has passed. -/
theorem accepted_twice {body : CheckinRequest.Body} {e₁ e₂ : Event} {acts₁ acts₂ : List Action}
    {mid : List (Event × List Action)} (hstart : start env found = .ok s₀)
    (hinterval : 2 * (env.config.requestFreshnessInterval.toNat : Int) <
      env.config.timeoutInterval.toInt * 60000)
    (hfits : env.config.timeoutInterval.toInt ≤ 153722867)
    (hclocks : ClocksTogether offset s₀.steadyNow tr)
    (hbound : ∀ x ∈ tr, x.1.io.systemNow.toNat < 2 ^ 62) (hrun : Run (next env) s₀ tr s)
    (htr : tr = pre ++ (e₁, acts₁) :: (mid ++ (e₂, acts₂) :: post))
    (h₁ : 0 < acts₁.countP (approvesRequest body)) : acts₂.countP (approvesRequest body) = 0 := by
  subst htr
  by_contra hne
  obtain ⟨m₁, m₁', hrun₁, hnext₁, hrest⟩ := hrun.splitStep
  obtain ⟨m₂, m₂', hmid, hnext₂, -⟩ := hrest.splitStep
  have hrun₁' : Run (next env) s₀ (pre ++ [(e₁, acts₁)]) m₁' := hrun₁.snoc hnext₁
  obtain ⟨ip₁, r₁, t₁, k₁, hbody₁, rfl, hacc₁⟩ := exists_accepts_of_count hnext₁ h₁
  obtain ⟨ip₂, r₂, t₂, k₂, hbody₂, -, hacc₂⟩ :=
    exists_accepts_of_count hnext₂ (Nat.pos_of_ne_zero hne)
  -- from the first acceptance on the voter is held
  have hcoupled₁ : (m₁.atTime e₁.io.steadyNow).toSessions.Coupled e₁.io.steadyNow := by
    obtain ⟨hclock, -⟩ := next_makes hnext₁
    exact (coupled_of_run hstart hrun₁).congr hclock rfl rfl rfl rfl
  have hheld : Held env.config body.voterUniqueId e₁.io.steadyNow (k₁.charge acts₁) := by
    rw [← hbody₁]
    exact hacc₁.held hcoupled₁
  have hheld₂ : Held env.config body.voterUniqueId e₁.io.steadyNow m₂ := by
    apply hmid.history (I := fun _ m => Held env.config body.voterUniqueId e₁.io.steadyNow m) hheld
    intro tr' m e m' acts hrun' hm hnext
    exact hm.next (coupled_of_run hstart (hrun₁'.append hrun')) hnext
  have hover := hheld₂.over (coupled_of_run hstart (hrun₁'.append hmid))
    (hbody₂ ▸ hacc₂.eligible)
  -- and so the system clock has moved on by more than the window
  have hclock₁ := ClocksTogether.step hclocks hrun₁
  have hclocks₂ : ClocksTogether offset s₀.steadyNow
      (((pre ++ [(e₁, acts₁)]) ++ mid) ++ (e₂, acts₂) :: post) := by
    rw [List.append_assoc, List.append_assoc]
    exact hclocks
  have hclock₂ := ClocksTogether.step hclocks₂ (hrun₁'.append hmid)
  have hfresh₁ := hacc₁.validated.fresh
  have hfresh₂ := hacc₂.validated.fresh
  rw [hbody₁] at hfresh₁
  rw [hbody₂] at hfresh₂
  have hclose := close_of_not_stale hfresh₁ hfresh₂ (hbound (e₁, acts₁) (by simp))
    (hbound (e₂, acts₂) (by simp))
  rw [minutes_eq (by omega) hfits] at hover
  dsimp only at hclock₁ hclock₂
  omega

/-- In a run the request is accepted once at most. -/
theorem count_le_one (hstart : start env found = .ok s₀)
    (hinterval : 2 * (env.config.requestFreshnessInterval.toNat : Int) <
      env.config.timeoutInterval.toInt * 60000)
    (hfits : env.config.timeoutInterval.toInt ≤ 153722867)
    (hclocks : ClocksTogether offset s₀.steadyNow tr)
    (hbound : ∀ x ∈ tr, x.1.io.systemNow.toNat < 2 ^ 62) (hrun : Run (next env) s₀ tr s)
    (body : CheckinRequest.Body) :
    (tr.map fun x => x.2.countP (approvesRequest body)).sum ≤ 1 := by
  apply sum_le_one_of_pairs
  · intro x hx
    obtain ⟨e, acts⟩ := x
    obtain ⟨pre, post, rfl⟩ := List.append_of_mem hx
    obtain ⟨m, m', -, hnext, -⟩ := hrun.splitStep
    obtain ⟨-, -, change, hmakes⟩ := next_makes hnext
    have hle := countP_approvesRequest_le body acts
    rw [hmakes.admitted] at hle
    cases hchange : change.admitted with
    | none =>
      rw [hchange] at hle
      exact hle.trans (Nat.zero_le 1)
    | some r =>
      rw [hchange] at hle
      exact hle
  · intro pre x mid y post htr hx
    exact accepted_twice hstart hinterval hfits hclocks hbound hrun htr hx

/-- **Replay protection.** -/
theorem replays_are_denied (hstart : start env found = .ok s₀)
    (hinterval : 2 * (env.config.requestFreshnessInterval.toNat : Int) <
      env.config.timeoutInterval.toInt * 60000)
    (hfits : env.config.timeoutInterval.toInt ≤ 153722867)
    (hlife : Lifetime (next env) (crash env) s₀ tr)
    (hclocks : ClocksTogether offset s₀.steadyNow tr)
    (hbound : ∀ x ∈ tr, x.1.io.systemNow.toNat < 2 ^ 62) (body : CheckinRequest.Body) :
    (tr.flatMap (·.2)).countP (approvesRequest body) ≤ 1 := by
  rw [List.countP_flatMap]
  cases hlife with
  | alive hrun => exact count_le_one hstart hinterval hfits hclocks hbound hrun body
  | @ended tr s e acts hrun hcrash =>
    have hzero : acts.countP (approvesRequest body) = 0 := by
      have hle := countP_approvesRequest_le body acts
      rw [(crash_approves hcrash).1] at hle
      exact Nat.le_zero.mp hle
    have hle := count_le_one hstart hinterval hfits hclocks.of_append
      (fun x hx => hbound x (List.mem_append_left _ hx)) hrun body
    rw [List.map_append, List.sum_append, List.map_singleton, List.sum_singleton]
    simp only [Function.comp_apply, hzero, Nat.add_zero]
    exact hle

/-- The kiosk of the small polling place sends its request twice: it is approved
once. -/
theorem replays_are_denied_rehearsal :
    ∃ tr s, Run (next Rehearsal.env) Rehearsal.opening tr s ∧
      (tr.flatMap (·.2)).countP (approvesRequest (Rehearsal.checkinBody 1000010)) = 1 := by
  have hexec : (exec (next Rehearsal.env) Rehearsal.opening (Rehearsal.connections ++
      Rehearsal.checkin 10 7 ++ Rehearsal.send (Rehearsal.instant 20 8) Rehearsal.kioskIp
        (Rehearsal.env.render ((Rehearsal.checkinRequest 1000010).toJson
          Rehearsal.env.toCodec)))).any
      (fun r => (0 < (r.1.flatMap (·.2)).countP
          (approvesRequest (Rehearsal.checkinBody 1000010))) &&
        decide (ClocksTogether 1000000000000 0 r.1) &&
        r.1.all fun x => x.1.io.systemNow.toNat < 2 ^ 62) = true := by decide +kernel
  obtain ⟨tr, s, hrun, hs⟩ := Run.exists_of_exec hexec
  simp only [Bool.and_eq_true, decide_eq_true_eq, List.all_eq_true] at hs
  obtain ⟨⟨hpos, hclocks⟩, hbound⟩ := hs
  have hle := replays_are_denied Rehearsal.start_opening (by decide) (by decide) (.alive hrun)
    hclocks hbound (Rehearsal.checkinBody 1000010)
  exact ⟨tr, s, hrun, Nat.le_antisymm hle hpos⟩

/-- The small polling place, with a timeout of one minute more than its
nanoseconds can count. -/
def overflowing : Env :=
  { Rehearsal.env with config := { Rehearsal.config with timeoutInterval := 153722868 } }

/-- Its timers expire at once, and the kiosk's request is approved again. -/
theorem overflowing_timeout_replays :
    ¬ ∀ (env : Env) (found : Surroundings) (s₀ : CheckinService)
        (tr : List (Event × List Action)) (offset : Int) (body : CheckinRequest.Body),
      start env found = .ok s₀ →
      2 * (env.config.requestFreshnessInterval.toNat : Int) <
        env.config.timeoutInterval.toInt * 60000 →
      Lifetime (next env) (crash env) s₀ tr → ClocksTogether offset s₀.steadyNow tr →
      (∀ x ∈ tr, x.1.io.systemNow.toNat < 2 ^ 62) →
      (tr.flatMap (·.2)).countP (approvesRequest body) ≤ 1 := by
  intro hall
  have hexec : (exec (next overflowing) Rehearsal.opening (Rehearsal.connections ++
      Rehearsal.checkin 10 7 ++ Rehearsal.timeout 11 0 ++ Rehearsal.send (Rehearsal.instant 20 8)
        Rehearsal.kioskIp (Rehearsal.env.render ((Rehearsal.checkinRequest 1000010).toJson
          Rehearsal.env.toCodec)))).any
      (fun r => decide ((r.1.flatMap (·.2)).countP
          (approvesRequest (Rehearsal.checkinBody 1000010)) = 2) &&
        decide (ClocksTogether 1000000000000 0 r.1) &&
        r.1.all fun x => x.1.io.systemNow.toNat < 2 ^ 62) = true := by decide +kernel
  obtain ⟨tr, s, hrun, hs⟩ := Run.exists_of_exec hexec
  simp only [Bool.and_eq_true, decide_eq_true_eq, List.all_eq_true] at hs
  obtain ⟨⟨htwo, hclocks⟩, hbound⟩ := hs
  have hle := hall overflowing Rehearsal.found Rehearsal.opening tr 1000000000000
    (Rehearsal.checkinBody 1000010) Rehearsal.start_opening (by decide) (.alive hrun) hclocks
    hbound
  omega

end CheckinService

end Pollbook
