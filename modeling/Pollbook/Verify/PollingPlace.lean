import Pollbook.Abstract.PollingPlace
import Pollbook.Verify.Restarts

/-!
# The service is a polling place

The check-in service, over any number of processes, is simulated by the polling
place of `Abstract/PollingPlace`: an approved check-in request is an admission,
an approved ticket request a redemption, the timeout of a pending voter a lapse
and a restart a new opening (`runs_are_polling_places`). So every voter's
approvals come in the order and at the times the polling place allows
(`histories_are_watched`), and no ticket is redeemed that was not made for its
voter (`redeemed_tickets_were_issued`).
-/

namespace Pollbook

/-! ## Where the voters stand -/

namespace Sessions

/-- Where the service has a voter stand; a pending voter was admitted when the
timer was started. -/
def phaseOf (config : Config) (s : Sessions) (v : UInt32) : Option (Phase Int) :=
  match s.voterStatusTable v with
  | none => none
  | some .eligible => some .eligible
  | some .pending =>
    (s.requestTimers v).map fun timer => .pending (timer.expiry - minutes config.timeoutInterval)
  | some .checkedIn => some .checkedIn

variable {config : Config} {s s' : Sessions} {v : UInt32}

theorem phaseOf_of_none (h : s.voterStatusTable v = none) : s.phaseOf config v = none := by
  simp only [phaseOf, h]

theorem phaseOf_of_eligible (h : s.voterStatusTable v = some .eligible) :
    s.phaseOf config v = some .eligible := by
  simp only [phaseOf, h]

theorem phaseOf_of_timer {now : Int} (h : s.Coupled now) {timer : Timer}
    (htimer : s.requestTimers v = some timer) :
    s.phaseOf config v = some (.pending (timer.expiry - minutes config.timeoutInterval)) := by
  simp only [phaseOf, (h.timer_iff v).mp ⟨timer, htimer⟩, htimer, Option.map_some]

/-- A step about one voter. -/
theorem phaseOf_update {phase : Option (Phase Int)} (hself : s'.phaseOf config v = phase)
    (hother : ∀ u, u ≠ v → s'.voterStatusTable u = s.voterStatusTable u ∧
      s'.requestTimers u = s.requestTimers u) :
    s'.phaseOf config = Function.update (s.phaseOf config) v phase := by
  funext u
  by_cases hu : u = v
  · subst hu
    rw [Function.update_self, hself]
  · obtain ⟨hstatus, htimer⟩ := hother u hu
    simp only [Function.update_of_ne hu, phaseOf, hstatus, htimer]

variable {now : Int}

/-- Admitting a voter. -/
theorem Coupled.phaseOf_accept (h : s.Coupled now) (ticket secret : Bytes) (opens : Bool)
    (heligible : s.voterStatusTable v = some .eligible) :
    (s.accept v (now + minutes config.timeoutInterval) ticket secret opens).phaseOf config =
      Function.update (s.phaseOf config) v (some (.pending now)) := by
  have hnone := h.no_timer v (by rw [heligible]; decide)
  obtain ⟨csv, heq⟩ := accept_eq (now + minutes config.timeoutInterval) ticket secret opens hnone
  rw [heq]
  apply phaseOf_update
  · simp only [phaseOf, Map.set_self, Option.map_some, add_sub_cancel_right]
  · exact fun u hu => ⟨Map.set_of_ne _ hu _, Map.set_of_ne _ hu _⟩

/-- Redeeming a voter's ticket. -/
theorem Coupled.phaseOf_confirm (h : s.Coupled now) {timer : Timer}
    (htimer : s.requestTimers v = some timer) :
    (s.confirm v timer).phaseOf config =
      Function.update (s.phaseOf config) v (some .checkedIn) := by
  obtain ⟨waits, heq, -⟩ := h.confirm_eq htimer
  rw [heq]
  apply phaseOf_update
  · simp only [phaseOf, Map.set_self]
  · exact fun u hu => ⟨Map.set_of_ne _ hu _, Map.erase_of_ne _ hu⟩

/-- The timeout of a pending voter. -/
theorem Coupled.phaseOf_timeout (h : s.Coupled now) {id : Nat} {wait : Wait}
    (hwait : s.waits id = some wait) (hqueued : wait.status = .queued)
    (hpending : s.voterStatusTable wait.voterId = some .pending) :
    ((s.drop id).handleVerificationTimeout wait.voterId).phaseOf config =
      Function.update (s.phaseOf config) wait.voterId (some .eligible) := by
  rw [h.timeout_eq hwait hqueued, if_pos hpending]
  apply phaseOf_update
  · simp only [phaseOf, Map.set_self]
  · exact fun u hu => ⟨Map.set_of_ne _ hu _, Map.erase_of_ne _ hu⟩

end Sessions

namespace CheckinService

open PollingPlace (opened watch Fits)
open Sessions (Coupled Whole Moves Change)

variable {env : Env} {found : Found} {s₀ s s' : CheckinService} {ev : Event ⊕ Reboot}
  {acts : List Action} {tr : List ((Event ⊕ Reboot) × List Action)}
  {p : PollingPlace UInt32 Bytes Int}

/-- The voters of the roll file. -/
def onRoll (env : Env) (v : UInt32) : Bool :=
  match loadVoterList env.config.voterListFile with
  | .ok table => (table v).isSome
  | .error _ => false

/-- The place the service is at its start, with the tickets of the file. -/
def pollsOpen (env : Env) (s₀ : CheckinService) : PollingPlace UInt32 Bytes Int where
  phase := opened (fun v => onRoll env v = true)
  tickets := {x | s₀.Binds x.1 x.2}
  clock := s₀.steadyNow

/-- The steps of the place the service is. -/
abbrev Polling (env : Env) : PollingPlace UInt32 Bytes Int → Option (Entry UInt32 Bytes Int) →
    PollingPlace UInt32 Bytes Int → Prop :=
  PollingPlace.Step (fun v => onRoll env v = true) (minutes env.config.timeoutInterval)

/-- What a step has to write down. -/
def entries (x : (Event ⊕ Reboot) × List Action) : List (Entry UInt32 Bytes Int) :=
  match x.1 with
  | .inl e =>
    (x.2.filterMap Action.admitted).map (fun y => .checkin y.1 y.2 e.io.steadyNow) ++
      (x.2.filterMap Action.redeemed).map (fun y => .redeem y.1 y.2 e.io.steadyNow)
  | .inr r => [.reopen (r.unanswered.map fun y => (hex y.2.1.toList, y.1))]

/-- The service stands where the place stands. -/
structure StandsAt (env : Env) (s : CheckinService) (p : PollingPlace UInt32 Bytes Int) : Prop where
  coupled : s.toSessions.Coupled s.steadyNow
  whole : Whole s.ticketValidationCsv
  phase : p.phase = s.phaseOf env.config
  tickets : ∀ t v, s.Binds t v → (t, v) ∈ p.tickets
  clock : p.clock ≤ s.steadyNow

/-! ## The simulation -/

theorem boot_phaseOf (h : boot env found = .ok s) :
    s.phaseOf env.config = opened (fun v => onRoll env v = true) := by
  obtain ⟨keys, -, hstart⟩ := boot_eq_ok.mp h
  have heligible := @start_eligible env s _ hstart
  obtain ⟨table, hload, rfl⟩ := start_eq_ok hstart
  funext v
  simp only [opened, onRoll, hload]
  cases hv : table v with
  | none => exact Sessions.phaseOf_of_none hv
  | some status =>
    have heq : table v = some .eligible := by rw [hv, heligible hv]
    exact Sessions.phaseOf_of_eligible heq

theorem boot_standsAt (h : boot env found = .ok s₀) (hwhole : Whole found.ticketValidationCsv) :
    StandsAt env s₀ (pollsOpen env s₀) where
  coupled := by
    obtain ⟨keys, -, hstart⟩ := boot_eq_ok.mp h
    exact start_coupled hstart
  whole := (boot_tickets h).1 ▸ hwhole
  phase := (boot_phaseOf h).symm
  tickets := fun _ _ ht => ht
  clock := le_rfl

/-- A step that admits nobody and leaves the voters where they stand. -/
theorem StandsAt.still (h : StandsAt env s p) (hcoupled : s'.toSessions.Coupled s'.steadyNow)
    (hclock : s.steadyNow ≤ s'.steadyNow) (hphase : s'.phaseOf env.config = s.phaseOf env.config)
    (hwhole : Whole s'.ticketValidationCsv) (hbinds : ∀ t v, s'.Binds t v → s.Binds t v) :
    StandsAt env s' p where
  coupled := hcoupled
  whole := hwhole
  phase := h.phase.trans hphase.symm
  tickets := fun t v ht => h.tickets t v (hbinds t v ht)
  clock := h.clock.trans hclock

theorem next_standsAt {e : Event} (h : StandsAt env s p) (hnext : next env s e = some (s', acts)) :
    ∃ p', Path (Polling env) p (entries (.inl e, acts)) p' ∧ StandsAt env s' p' := by
  have hcoupled := next_coupled h.coupled hnext
  obtain ⟨hclock, hnow, change, hmakes⟩ := next_makes hnext
  have hwas : s.toSessions.Coupled e.io.steadyNow := h.coupled.congr hclock rfl rfl rfl rfl
  obtain ⟨hwhole, hbinds⟩ := hmakes.moves.binds h.whole
  have hpclock : p.clock ≤ e.io.steadyNow := h.clock.trans hclock
  -- a change that neither admits nor redeems, and leaves the voters where they are
  have hstill (hadmitted : change.admitted = none) (hredeemed : change.redeemed = none)
      (hphase : s'.phaseOf env.config = s.phaseOf env.config) :
      ∃ p', Path (Polling env) p (entries (.inl e, acts)) p' ∧ StandsAt env s' p' := by
    refine ⟨p, ?_, h.still hcoupled (hnow ▸ hclock) hphase hwhole fun t v ht => ?_⟩
    · simp only [entries, hmakes.admitted, hmakes.redeemed, hadmitted, hredeemed]
      exact .nil
    · refine (hbinds t v ht).resolve_right ?_
      rw [hadmitted]
      exact (Option.some_ne_none _).symm
  have hmoves := hmakes.moves
  generalize hs' : s'.toSessions = t' at hmoves
  cases hmoves with
  | quiet => exact hstill rfl rfl (by rw [hs'])
  | reload =>
    obtain ⟨tickets, heq⟩ := s.toSessions.readFromCsv_eq
    exact hstill rfl rfl (by rw [hs', heq]; rfl)
  | @accept v ticket secret opens hfit heligible =>
    refine ⟨⟨Function.update p.phase v (some (.pending e.io.steadyNow)),
      insert (ticket, v) p.tickets, e.io.steadyNow⟩, ?_, hcoupled, hwhole, ?_, ?_, hnow.ge⟩
    · simp only [entries, hmakes.admitted, hmakes.redeemed, Change.admitted, Change.redeemed]
      refine .single (.checkin ticket hpclock ?_)
      rw [h.phase]
      exact Sessions.phaseOf_of_eligible heligible
    · rw [hs', hwas.phaseOf_accept ticket secret opens heligible, h.phase]
    · intro t u ht
      rcases hbinds t u ht with ht | ht
      · exact Set.mem_insert_of_mem _ (h.tickets t u ht)
      · cases ht
        exact Set.mem_insert _ _
  | @redeem v ticket secret timer hticket htimer hwindow =>
    refine ⟨⟨Function.update p.phase v (some .checkedIn), p.tickets, e.io.steadyNow⟩, ?_, hcoupled,
      hwhole, ?_, ?_, hnow.ge⟩
    · simp only [withinWindow, Bool.and_eq_true, decide_eq_true_eq] at hwindow
      obtain ⟨hafter, hbefore⟩ := hwindow
      simp only [entries, hmakes.admitted, hmakes.redeemed, Change.admitted, Change.redeemed]
      refine .single (.redeem hpclock ?_ (h.tickets _ _ ⟨secret, hticket⟩) hafter ?_)
      · rw [h.phase]
        exact Sessions.phaseOf_of_timer hwas htimer
      · omega
    · have hreload : Moves env.config e.io.steadyNow s.toSessions .reload
          s.toSessions.readFromCsv := .reload
      have hread : s.toSessions.readFromCsv.Coupled e.io.steadyNow := hwas.moves le_rfl hreload
      obtain ⟨tickets, heq⟩ := s.toSessions.readFromCsv_eq
      rw [hs', hread.phaseOf_confirm (by rw [heq]; exact htimer), h.phase, heq]
      rfl
    · intro t u ht
      exact h.tickets t u ((hbinds t u ht).resolve_right (Option.some_ne_none _).symm)
  | expire => exact hstill rfl rfl (by rw [hs']; rfl)
  | @timeout id wait hwait hqueued =>
    obtain ⟨hpending, timer, htimer, hid⟩ | ⟨hchecked, -⟩ := hwas.queued hwait hqueued
    · refine ⟨⟨Function.update p.phase wait.voterId (some .eligible), p.tickets, e.io.steadyNow⟩,
        ?_, hcoupled, hwhole, ?_, ?_, hnow.ge⟩
      · simp only [entries, hmakes.admitted, hmakes.redeemed, Change.admitted, Change.redeemed]
        have hphase : p.phase wait.voterId =
            some (.pending (timer.expiry - minutes env.config.timeoutInterval)) := by
          rw [h.phase]
          exact Sessions.phaseOf_of_timer hwas htimer
        obtain ⟨wait', hwait', -, hexpiry, -⟩ := hwas.armed _ _ htimer
        rw [hid, hwait, Option.some.injEq] at hwait'
        have hdue := hwas.due id wait hwait hqueued
        rw [hwait', hexpiry] at hdue
        exact .silent .nil (.lapse hpclock hphase (by omega))
      · rw [hs', hwas.phaseOf_timeout hwait hqueued hpending, h.phase]
      · intro t u ht
        exact h.tickets t u ((hbinds t u ht).resolve_right (Option.some_ne_none _).symm)
    · refine hstill rfl rfl ?_
      rw [hs', hwas.timeout_eq hwait hqueued, if_neg (by rw [hchecked]; decide)]
      rfl
  | abort => exact hstill rfl rfl (by rw [hs']; rfl)

theorem reboot_standsAt {r : Reboot} (h : StandsAt env s p) (hreboot : reboot env s r = some s') :
    ∃ p', Path (Polling env) p (entries (.inr r, [])) p' ∧ StandsAt env s' p' := by
  have hboot := reboot_eq_some.mp hreboot
  obtain ⟨hwhole, hbinds⟩ := reboot_binds hreboot h.whole
  refine ⟨_, .single (.reopen _ s'.steadyNow), ?_, hwhole, (boot_phaseOf hboot).symm, ?_, le_rfl⟩
  · obtain ⟨keys, -, hstart⟩ := boot_eq_ok.mp hboot
    exact start_coupled hstart
  · intro t v ht
    rcases hbinds t v ht with ht | ht
    · exact .inl (h.tickets t v ht)
    · right
      simp only [generated, List.mem_map, Option.mem_toList, Prod.mk.injEq] at ht
      obtain ⟨y, hy, rfl, rfl⟩ := ht
      simp only [Set.mem_ofPred_eq, Option.map_eq_some_iff]
      exact ⟨y, hy, rfl⟩

/-- The polling place simulates the service. -/
theorem life_simulated (env : Env) : Simulates (life env) (Polling env) entries (StandsAt env) := by
  intro s p ev s' acts h hstep
  cases ev with
  | inl e => exact next_standsAt h hstep
  | inr r =>
    obtain ⟨hreboot, rfl⟩ := withRestarts_inr.mp hstep
    exact reboot_standsAt h hreboot

/-! ## Runs -/

/-- Whatever the service does over any number of processes, a polling place with
the same roll and the same time limit could have done, with the same approvals
at the same times; and it stands where the service stands. -/
theorem runs_are_polling_places (hboot : boot env found = .ok s₀)
    (hwhole : Whole found.ticketValidationCsv) (hrun : Run (life env) s₀ tr s) :
    ∃ p, Path (Polling env) (pollsOpen env s₀) (tr.flatMap entries) p ∧ StandsAt env s p :=
  (life_simulated env).run (boot_standsAt hboot hwhole) hrun

/-- Every voter's approvals follow each other as `watch` demands, and the last of
them decides where the service has the voter stand. -/
theorem histories_are_watched (hboot : boot env found = .ok s₀)
    (hwhole : Whole found.ticketValidationCsv) (hrun : Run (life env) s₀ tr s) (v : UInt32) :
    ∃ w, (tr.flatMap entries).foldlM (watch (minutes env.config.timeoutInterval) v) .unseen =
        some w ∧
      Fits (minutes env.config.timeoutInterval) s.steadyNow (s.phaseOf env.config v) w := by
  obtain ⟨p, hpath, hstands⟩ :=
    (life_simulated env).run (boot_standsAt hboot hwhole) hrun
  obtain ⟨w, hw, hfits⟩ := hpath.watched rfl v
  rw [← hstands.phase]
  exact ⟨w, hw, hfits.later hstands.clock⟩

/-- A ticket that is redeemed was in the file for its voter when the first process
started, or it was made for the voter before. -/
theorem redeemed_tickets_were_issued (hboot : boot env found = .ok s₀)
    (hwhole : Whole found.ticketValidationCsv) (hrun : Run (life env) s₀ tr s)
    {pre post : List (Entry UInt32 Bytes Int)} {v : UInt32} {t : Bytes} {now : Int}
    (hredeem : tr.flatMap entries = pre ++ .redeem v t now :: post) :
    s₀.Binds t v ∨ ∃ e ∈ pre, e.brings = some (t, v) := by
  obtain ⟨p, hpath, -⟩ := (life_simulated env).run (boot_standsAt hboot hwhole) hrun
  exact hpath.provenance pre v t now post hredeem

section Rehearsal

open Rehearsal

/-- What is written down over two processes: a check-in; and a lapse between two
admissions. -/
def twoDays : List (Entry UInt32 Bytes Int) :=
  [.checkin voter (ticket 7) 10000000, .redeem voter (ticket 7) 20000000, .reopen none,
    .checkin voter (ticket 8) 30000000, .checkin voter (ticket 9) 400010000000]

theorem twoDays_run : ∃ tr s, Run (life Rehearsal.env)
    (openingWith emptyFolder (Keys.onDisk Map.empty)) tr s ∧ tr.flatMap entries = twoDays := by
  have hexec : (exec (life Rehearsal.env) (openingWith emptyFolder (Keys.onDisk Map.empty))
      (twoProcesses checkinRun (connections ++ checkin 30 8 ++ timeout 400000 0 ++
        checkin 400010 9))).any (fun r => decide (r.1.flatMap entries = twoDays)) = true := by
    decide +kernel
  obtain ⟨tr, s, hrun, hs⟩ := Run.exists_of_exec hexec
  exact ⟨tr, s, hrun, of_decide_eq_true hs⟩

/-- A polling place where this happens. -/
theorem runs_are_polling_places_rehearsal :
    ∃ s₀ p, boot Rehearsal.env emptyFolder = .ok s₀ ∧
      Path (Polling Rehearsal.env) (pollsOpen Rehearsal.env s₀) twoDays p := by
  obtain ⟨tr, s, hrun, hentries⟩ := twoDays_run
  obtain ⟨p, hpath, -⟩ := runs_are_polling_places boot_emptyFolder (.inl rfl) hrun
  exact ⟨_, p, boot_emptyFolder, hentries ▸ hpath⟩

/-- The voter is pending again at the end, since the second admission. -/
theorem histories_are_watched_rehearsal :
    ∃ tr s, Run (life Rehearsal.env) (openingWith emptyFolder (Keys.onDisk Map.empty)) tr s ∧
      Fits (minutes Rehearsal.env.config.timeoutInterval) s.steadyNow
        (s.phaseOf Rehearsal.env.config voter) (.admitted 400010000000) := by
  obtain ⟨tr, s, hrun, hentries⟩ := twoDays_run
  obtain ⟨w, hw, hfits⟩ := histories_are_watched boot_emptyFolder (.inl rfl) hrun voter
  rw [hentries] at hw
  obtain rfl : w = .admitted 400010000000 := (Option.some.inj hw).symm
  exact ⟨tr, s, hrun, hfits⟩

/-- The ticket of the first check-in was made for the voter. -/
theorem redeemed_tickets_were_issued_rehearsal :
    (openingWith emptyFolder (Keys.onDisk Map.empty)).Binds (ticket 7) voter ∨
      ∃ e ∈ [(.checkin voter (ticket 7) 10000000 : Entry UInt32 Bytes Int)],
        e.brings = some (ticket 7, voter) := by
  obtain ⟨tr, s, hrun, hentries⟩ := twoDays_run
  exact redeemed_tickets_were_issued boot_emptyFolder (.inl rfl) hrun hentries

end Rehearsal

end CheckinService

end Pollbook
