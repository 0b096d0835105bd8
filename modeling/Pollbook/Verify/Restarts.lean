import Pollbook.Checkin.Startup
import Pollbook.Verify.Tickets

/-!
# Tickets across restarts

`ticket_validation.csv` outlives the process, and a redeemed ticket stays in it;
that it was redeemed is in the statuses and timers, which start anew. So a
restart brings a redeemed ticket back: it works again once its voter is pending
again (`restart_revives_ticket`). As long as nobody presents such a ticket, no
ticket is approved twice over any number of processes
(`tickets_are_single_use`).
-/

namespace Pollbook

/-- An approval of a ticket request with this ticket. -/
def Action.redeems (ticket : Bytes) : Action → Bool
  | .ticketAnswer _ request response => response.body.approved && request.body.ticket == ticket
  | _ => false

theorem Action.redeems_eq (ticket : Bytes) (a : Action) :
    a.redeems ticket = a.redeemed.any (fun r => r.2 == ticket) := by
  cases a with
  | ticketAnswer clientIp request response =>
    cases happroved : response.body.approved <;> simp [redeems, redeemed, happroved]
  | _ => rfl

/-! ## Whom a ticket is for -/

namespace Sessions

variable {config : Config} {now : Int} {s s' : Sessions} {change : Change}

/-- A request with the ticket is one for the voter. -/
def Binds (s : Sessions) (ticket : Bytes) (voterId : UInt32) : Prop :=
  ∃ secret, s.readFromCsv.clientTicketsMap ticket = some (voterId, secret)

theorem Binds.unique {ticket : Bytes} {u v : UInt32} (hu : s.Binds ticket u)
    (hv : s.Binds ticket v) : u = v := by
  obtain ⟨secret, hu⟩ := hu
  obtain ⟨secret', hv⟩ := hv
  rw [hu] at hv
  exact congrArg Prod.fst (Option.some.inj hv)

/-- A new ticket is for its voter, and for the others nothing changes. -/
theorem Moves.binds (h : Moves config now s change s') (hwhole : Whole s.ticketValidationCsv) :
    Whole s'.ticketValidationCsv ∧
      ∀ t u, s'.Binds t u → s.Binds t u ∨ change.admitted = some (u, t) := by
  rcases h.tickets with ⟨v, t', secret', opens, rfl, hfit, htickets, hcsv⟩ |
    ⟨hnone, hcsv, htickets⟩
  · cases opens with
    | true =>
      obtain ⟨hwhole', hrows⟩ := rows_writeToCsv hfit v hwhole
      rw [← hcsv] at hwhole' hrows
      refine ⟨hwhole', fun t u ⟨secret, ht⟩ => ?_⟩
      rw [readFromCsv_tickets, hrows, htickets, Map.setAll_append, Map.setAll_cons,
        Map.setAll_nil, Map.set_apply] at ht
      split at ht
      · next heq =>
        rw [Option.some.injEq, Prod.mk.injEq] at ht
        right
        rw [heq, ← ht.1]
        rfl
      · next hne =>
        left
        refine ⟨secret, ?_⟩
        rw [Map.setAll_apply, Map.set_of_ne _ hne] at ht
        rw [readFromCsv_tickets, Map.setAll_apply]
        exact ht
    | false =>
      have hsame : s'.ticketValidationCsv = s.ticketValidationCsv := hcsv
      refine ⟨hsame ▸ hwhole, fun t u ⟨secret, ht⟩ => ?_⟩
      rw [readFromCsv_tickets, hsame, htickets, Map.setAll_apply] at ht
      by_cases heq : t = t'
      · rw [heq, Map.set_self] at ht
        cases hrow : ((rows s.ticketValidationCsv).reverse.find? (fun e => e.1 = t')).map (·.2) with
        | some row =>
          left
          refine ⟨secret, ?_⟩
          rw [hrow] at ht
          rw [readFromCsv_tickets, Map.setAll_apply, heq, hrow]
          exact ht
        | none =>
          rw [hrow, Option.none_or, Option.some.injEq, Prod.mk.injEq] at ht
          right
          rw [heq, ← ht.1]
          rfl
      · left
        refine ⟨secret, ?_⟩
        rw [Map.set_of_ne _ heq] at ht
        rw [readFromCsv_tickets, Map.setAll_apply]
        exact ht
  · refine ⟨hcsv ▸ hwhole, fun t u ⟨secret, ht⟩ => .inl ⟨secret, ?_⟩⟩
    rw [readFromCsv_tickets, hcsv] at ht
    rcases htickets with htickets | htickets
    · rw [htickets, ← readFromCsv_tickets] at ht
      exact ht
    · rw [htickets, readFromCsv_tickets, Map.setAll_setAll, ← readFromCsv_tickets] at ht
      exact ht

end Sessions

namespace CheckinService

open Sessions (Whole rows)

variable {env : Env} {found : Found} {s₀ s s' : CheckinService} {ev : Event ⊕ Reboot}
  {acts : List Action} {tr : List ((Event ⊕ Reboot) × List Action)}

/-! ## The generated tickets -/

/-- The voters and tickets of the check-in requests that one step of the service
accepts, with those whose answer was never written. -/
def generated (x : (Event ⊕ Reboot) × List Action) : List (UInt32 × Bytes) :=
  match x.1 with
  | .inl _ => x.2.filterMap Action.admitted
  | .inr r => r.unanswered.toList.map fun y => (y.1, hex y.2.1.toList)

/-- No ticket is generated twice, and none is in the file of the first process. -/
structure Fresh (csv : Option Bytes) (tr : List ((Event ⊕ Reboot) × List Action)) : Prop where
  once : ((tr.flatMap generated).map (·.2)).Nodup
  new : ∀ row ∈ rows csv, row.1 ∉ (tr.flatMap generated).map (·.2)

/-- A process starts with the tickets of the file. -/
theorem boot_tickets (h : boot env found = .ok s) :
    s.ticketValidationCsv = found.ticketValidationCsv ∧ s.clientTicketsMap = Map.empty := by
  obtain ⟨keys, -, hstart⟩ := boot_eq_ok.mp h
  obtain ⟨table, -, rfl⟩ := start_eq_ok hstart
  exact ⟨rfl, rfl⟩

/-- What the file says of a ticket, the memory may not contradict. -/
theorem binds_of_rows {ticket secret : Bytes} {u : UInt32}
    (h : Map.empty.setAll (rows s.ticketValidationCsv) ticket = some (u, secret)) :
    s.Binds ticket u := by
  refine ⟨secret, ?_⟩
  rw [Map.setAll_apply, Map.empty_apply, Option.or_none] at h
  rw [Sessions.readFromCsv_tickets, Map.setAll_apply, h]
  rfl

/-- A restart keeps the tickets, as far as they are in the file. -/
theorem reboot_binds {r : Reboot} (h : reboot env s r = some s')
    (hwhole : Whole s.ticketValidationCsv) :
    Whole s'.ticketValidationCsv ∧
      ∀ t u, s'.Binds t u → s.Binds t u ∨ (u, t) ∈ generated (.inr r, []) := by
  obtain ⟨hcsv, htickets⟩ := boot_tickets (reboot_eq_some.mp h)
  replace hcsv : s'.ticketValidationCsv = r.csv s := hcsv
  unfold Reboot.csv at hcsv
  cases hr : r.unanswered with
  | none =>
    rw [hr] at hcsv
    refine ⟨hcsv ▸ hwhole, ?_⟩
    rintro t u ⟨secret, ht⟩
    rw [Sessions.readFromCsv_tickets, htickets, hcsv] at ht
    exact .inl (binds_of_rows ht)
  | some y =>
    obtain ⟨v, ticket, secret'⟩ := y
    replace hcsv : s'.ticketValidationCsv = (s.toSessions.writeToCsv true (hex ticket.toList)
        (hex secret'.toList) v).ticketValidationCsv := by
      rw [hr] at hcsv
      exact hcsv
    obtain ⟨hwhole', hrows⟩ := Sessions.rows_writeToCsv (fit_hex ticket secret') v hwhole
    rw [← hcsv] at hwhole' hrows
    refine ⟨hwhole', fun t u ⟨secret, ht⟩ => ?_⟩
    rw [Sessions.readFromCsv_tickets, htickets, hrows, Map.setAll_append, Map.setAll_cons,
      Map.setAll_nil, Map.set_apply] at ht
    split at ht
    · next heq =>
      rw [Option.some.injEq, Prod.mk.injEq] at ht
      right
      rw [heq, ← ht.1]
      simp [generated, hr]
    · exact .inl (binds_of_rows ht)

/-- One step of the service over its processes. -/
theorem life_binds (h : life env s ev = some (s', acts)) (hwhole : Whole s.ticketValidationCsv) :
    Whole s'.ticketValidationCsv ∧
      ∀ t u, s'.Binds t u → s.Binds t u ∨ (u, t) ∈ generated (ev, acts) := by
  cases ev with
  | inl e =>
    obtain ⟨-, -, change, hmakes⟩ := next_makes h
    obtain ⟨hwhole', hbinds⟩ := hmakes.moves.binds hwhole
    refine ⟨hwhole', fun t u ht => (hbinds t u ht).imp_right fun hadmitted => ?_⟩
    change (u, t) ∈ acts.filterMap Action.admitted
    rw [hmakes.admitted, hadmitted]
    exact List.mem_singleton_self _
  | inr r =>
    obtain ⟨hreboot, rfl⟩ := withRestarts_inr.mp h
    exact reboot_binds hreboot hwhole

/-- A ticket is for the voter it was for, or it was generated on the way. -/
theorem binds_of_run (hrun : Run (life env) s₀ tr s) (hwhole : Whole s₀.ticketValidationCsv) :
    Whole s.ticketValidationCsv ∧
      ∀ t u, s.Binds t u → s₀.Binds t u ∨ (u, t) ∈ tr.flatMap generated := by
  apply hrun.history (I := fun tr s => Whole s.ticketValidationCsv ∧
    ∀ t u, s.Binds t u → s₀.Binds t u ∨ (u, t) ∈ tr.flatMap generated)
  · exact ⟨hwhole, fun t u ht => .inl ht⟩
  · rintro tr s ev s' acts - ⟨hwhole, hbinds⟩ hstep
    obtain ⟨hwhole', hstep⟩ := life_binds hstep hwhole
    refine ⟨hwhole', fun t u ht => ?_⟩
    rw [List.flatMap_append, List.flatMap_singleton]
    rcases hstep t u ht with ht | ht
    · exact (hbinds t u ht).imp_right (List.mem_append_left _)
    · exact .inr (List.mem_append_right _ ht)

/-! ## Redeeming -/

theorem life_coupled (h : s.toSessions.Coupled s.steadyNow)
    (hstep : life env s ev = some (s', acts)) : s'.toSessions.Coupled s'.steadyNow := by
  cases ev with
  | inl e => exact next_coupled h hstep
  | inr r =>
    obtain ⟨hreboot, rfl⟩ := withRestarts_inr.mp hstep
    obtain ⟨keys, -, hstart⟩ := boot_eq_ok.mp (reboot_eq_some.mp hreboot)
    exact start_coupled hstart

/-- The ticket and the PIN of the request are those of a voter who is pending. -/
structure Matches (env : Env) (s : CheckinService) (request : TicketRequest) (u : UInt32) :
    Prop where
  ticket : s.Binds request.body.ticket u
  pending : s.voterStatusTable u = some .pending
  pin : decimal request.body.pin.toNat = (findVoter env.config.voterListFile u).pin

/-- The ticket was redeemed for the voter, and then the service was restarted. -/
def Spent (tr : List ((Event ⊕ Reboot) × List Action)) (u : UInt32) (t : Bytes) : Prop :=
  ∃ a r b, tr = a ++ (.inr r, []) :: b ∧ ∃ x ∈ a, (u, t) ∈ x.2.filterMap Action.redeemed

/-- Nobody presents, with the voter's PIN, a ticket redeemed in an earlier
process for a voter who is pending again. -/
def NoneSpent (env : Env) (s₀ : CheckinService) (tr : List ((Event ⊕ Reboot) × List Action)) :
    Prop :=
  ∀ pre e acts post m, tr = pre ++ (.inl e, acts) :: post → Run (life env) s₀ pre m →
    ∀ request, Presents env acts request → ∀ u, Matches env m request u →
      ¬ Spent pre u request.body.ticket

/-- The step that redeems a ticket. -/
theorem life_redeems (hcoupled : s.toSessions.Coupled s.steadyNow)
    (hstep : life env s ev = some (s', acts)) {u : UInt32} {t : Bytes}
    (hr : (u, t) ∈ acts.filterMap Action.redeemed) :
    (∃ e, ev = .inl e) ∧ s'.voterStatusTable u = some .checkedIn ∧
      ∃ request, Presents env acts request ∧ request.body.ticket = t ∧
        Matches env s request u := by
  cases ev with
  | inr r =>
    obtain ⟨-, rfl⟩ := withRestarts_inr.mp hstep
    cases hr
  | inl e =>
    obtain ⟨clientIp, request, response, ha, happroved, rfl, rfl⟩ := exists_ticketAnswer hr
    have hnext : next env s e = some (s', acts) := hstep
    obtain ⟨-, s₁, hone, rfl⟩ := next_step hnext
    have hredeems := hone.redeems ha happroved
    have hchecked := (((next_statuses hcoupled hnext).2 response.body.voterUniqueId).2.mp
      (List.countP_pos_iff.mpr ⟨_, ha, by simp [Action.approvesTicket, happroved]⟩))
    exact ⟨⟨e, rfl⟩, hchecked.2, request, hredeems.presented, rfl, hredeems.ticket, hchecked.1,
      hredeems.pin⟩

/-- Without restarts, a voter who is checked in stays so. -/
theorem checkedIn_of_run (hcoupled : s.toSessions.Coupled s.steadyNow)
    (hrun : Run (life env) s tr s') (hnone : ∀ r, (.inr r, []) ∉ tr) {u : UInt32}
    (h : s.voterStatusTable u = some .checkedIn) : s'.voterStatusTable u = some .checkedIn := by
  have hall : (∀ r, (.inr r, []) ∉ tr) → s'.toSessions.Coupled s'.steadyNow ∧
      s'.voterStatusTable u = some .checkedIn := by
    apply hrun.history (I := fun tr m => (∀ r, (.inr r, []) ∉ tr) →
      m.toSessions.Coupled m.steadyNow ∧ m.voterStatusTable u = some .checkedIn)
    · exact fun _ => ⟨hcoupled, h⟩
    · intro tr m ev m' acts _ hind hstep hnone
      obtain ⟨hm, hchecked⟩ := hind fun r hr => hnone r (List.mem_append_left _ hr)
      refine ⟨life_coupled hm hstep, ?_⟩
      cases ev with
      | inl e => exact ((next_statuses hm hstep).1 u).checkedIn hchecked
      | inr r =>
        obtain ⟨-, rfl⟩ := withRestarts_inr.mp hstep
        exact absurd (List.mem_append_right _ (List.mem_singleton_self _)) (hnone r)
  exact (hall hnone).2

theorem coupled_of_life (hboot : boot env found = .ok s₀) (hrun : Run (life env) s₀ tr s) :
    s.toSessions.Coupled s.steadyNow := by
  obtain ⟨keys, -, hstart⟩ := boot_eq_ok.mp hboot
  exact hrun.stable (fun _ _ _ _ h hstep => life_coupled h hstep) (start_coupled hstart)

/-! ## Redeemed once -/

/-- A ticket is known for one voter only. -/
theorem Fresh.binds_unique {pre mid : List ((Event ⊕ Reboot) × List Action)} {m k : CheckinService}
    (hfresh : Fresh found.ticketValidationCsv (pre ++ mid)) (hboot : boot env found = .ok s₀)
    (hwhole : Whole found.ticketValidationCsv) (hpre : Run (life env) s₀ pre m)
    (hmid : Run (life env) m mid k) {t : Bytes} {u v : UInt32} (hu : m.Binds t u)
    (hv : k.Binds t v) : u = v := by
  obtain ⟨hcsv, htickets⟩ := boot_tickets hboot
  rw [← hcsv] at hwhole
  obtain ⟨hwhole', hbinds⟩ := binds_of_run hpre hwhole
  rcases (binds_of_run hmid hwhole').2 t v hv with hv | hv
  · exact hu.unique hv
  · exfalso
    have hlater : t ∈ (mid.flatMap generated).map (·.2) := List.mem_map_of_mem hv
    rcases hbinds t u hu with ⟨secret, hu⟩ | hu
    · rw [Sessions.readFromCsv_tickets, htickets, Map.setAll_apply, Map.empty_apply,
        Option.or_none, Option.map_eq_some_iff, hcsv] at hu
      obtain ⟨row, hfind, -⟩ := hu
      have hkey : row.1 = t := by simpa using List.find?_some hfind
      apply hfresh.new row (List.mem_reverse.mp (List.mem_of_find?_eq_some hfind))
      rw [List.flatMap_append, List.map_append, hkey]
      exact List.mem_append_right _ hlater
    · have hearlier : t ∈ (pre.flatMap generated).map (·.2) := List.mem_map_of_mem hu
      have honce := hfresh.once
      rw [List.flatMap_append, List.map_append, List.nodup_append] at honce
      exact honce.2.2 t hearlier t hlater rfl

theorem Fresh.past {post : List ((Event ⊕ Reboot) × List Action)} {csv : Option Bytes}
    (h : Fresh csv (tr ++ post)) : Fresh csv tr := by
  have honce := h.once
  rw [List.flatMap_append, List.map_append] at honce
  refine ⟨honce.of_append_left, fun row hrow hmem => h.new row hrow ?_⟩
  rw [List.flatMap_append, List.map_append]
  exact List.mem_append_left _ hmem

/-- A ticket that was redeemed is not redeemed again, unless it is spent. -/
theorem not_redeemed_again {pre mid post : List ((Event ⊕ Reboot) × List Action)}
    {x y : (Event ⊕ Reboot) × List Action} (hboot : boot env found = .ok s₀)
    (hwhole : Whole found.ticketValidationCsv)
    (hrun : Run (life env) s₀ (pre ++ x :: (mid ++ y :: post)) s)
    (hfresh : Fresh found.ticketValidationCsv (pre ++ x :: (mid ++ y :: post)))
    (hspent : NoneSpent env s₀ (pre ++ x :: (mid ++ y :: post))) {u v : UInt32} {t : Bytes}
    (hu : (u, t) ∈ x.2.filterMap Action.redeemed) : (v, t) ∉ y.2.filterMap Action.redeemed := by
  intro hv
  obtain ⟨m, m', hpre, hx, hrest⟩ := hrun.splitStep
  obtain ⟨k, k', hmid, hy, -⟩ := hrest.splitStep
  have hbetween : Run (life env) m (x :: mid) k := (Run.single hx).append hmid
  have hassoc : pre ++ x :: (mid ++ y :: post) = pre ++ x :: mid ++ y :: post := by simp
  obtain ⟨⟨e, hex⟩, hchecked, request, -, rfl, hm⟩ :=
    life_redeems (coupled_of_life hboot hpre) hx hu
  obtain ⟨⟨e', hey⟩, -, request', hpresents, hticket, hk⟩ :=
    life_redeems (coupled_of_life hboot (hpre.append hbetween)) hy hv
  rw [hassoc] at hfresh hspent
  obtain rfl : u = v :=
    hfresh.past.binds_unique hboot hwhole hpre hbetween hm.ticket (hticket ▸ hk.ticket)
  by_cases hrestart : ∃ r, (.inr r, []) ∈ mid
  · obtain ⟨r, hr⟩ := hrestart
    obtain ⟨c, d, rfl⟩ := List.append_of_mem hr
    obtain ⟨ev, acts⟩ := y
    subst hey
    refine hspent _ e' acts post k rfl (hpre.append hbetween) request' hpresents u hk ?_
    refine ⟨pre ++ x :: c, r, d, by simp, x, by simp, ?_⟩
    rwa [hticket]
  · have hstays := checkedIn_of_run (life_coupled (coupled_of_life hboot hpre) hx) hmid
      (fun r hr => hrestart ⟨r, hr⟩) hchecked
    have hpending := hk.pending
    rw [hstays] at hpending
    cases hpending

theorem countP_redeems (acts : List Action) (t : Bytes) :
    acts.countP (Action.redeems t) =
      (acts.filterMap Action.redeemed).countP (fun r => r.2 == t) := by
  rw [List.countP_filterMap]
  refine List.countP_congr fun a _ => ?_
  rw [Action.redeems_eq]
  cases a.redeemed <;> rfl

theorem life_redeems_le_one (hstep : life env s ev = some (s', acts)) (t : Bytes) :
    acts.countP (Action.redeems t) ≤ 1 := by
  rw [countP_redeems]
  cases ev with
  | inl e =>
    obtain ⟨-, -, change, hmakes⟩ := next_makes hstep
    rw [hmakes.redeemed]
    refine List.countP_le_length.trans ?_
    cases change.redeemed <;> simp
  | inr r =>
    obtain ⟨-, rfl⟩ := withRestarts_inr.mp hstep
    exact Nat.zero_le 1

/-- **Single use.** Over any number of processes, a ticket is approved at most
once when nobody presents spent tickets. -/
theorem tickets_are_single_use (hboot : boot env found = .ok s₀)
    (hwhole : Whole found.ticketValidationCsv) (hrun : Run (life env) s₀ tr s)
    (hfresh : Fresh found.ticketValidationCsv tr) (hspent : NoneSpent env s₀ tr) (t : Bytes) :
    (tr.flatMap (·.2)).countP (Action.redeems t) ≤ 1 := by
  rw [List.countP_flatMap]
  apply sum_le_one_of_pairs
  · intro x hx
    obtain ⟨pre, post, rfl⟩ := List.append_of_mem hx
    obtain ⟨m, m', -, hstep, -⟩ := hrun.splitStep
    exact life_redeems_le_one hstep t
  · rintro pre x mid y post rfl hx
    have hmem : ∀ {acts : List Action}, 0 < acts.countP (Action.redeems t) →
        ∃ u, (u, t) ∈ acts.filterMap Action.redeemed := by
      intro acts h
      rw [countP_redeems, List.countP_pos_iff] at h
      obtain ⟨⟨u, t'⟩, hmem, ht⟩ := h
      exact ⟨u, (beq_iff_eq.mp ht) ▸ hmem⟩
    obtain ⟨u, hu⟩ := hmem hx
    refine Nat.eq_zero_of_not_pos fun hy => ?_
    obtain ⟨v, hv⟩ := hmem hy
    exact not_redeemed_again hboot hwhole hrun hfresh hspent hu hv

section Rehearsal

open Rehearsal

/-- The service is started again when both clients have shown their keys. -/
def restarted : Reboot where
  clientId := 0
  keyFiles := [(bytes "client_pubkey_1.pem", .publicKey kioskKey),
    (bytes "client_pubkey_2.pem", .publicKey tabletKey)]
  unanswered := none
  steadyNow := 0

/-- One process, and another one. -/
def twoProcesses (first second : List Event) : List (Event ⊕ Reboot) :=
  first.map .inl ++ .inr restarted :: second.map .inl

/-- The voter is checked in, the service restarts, the voter is accepted once
more, and the ticket of the first time is approved again. -/
theorem restart_revives_ticket :
    ¬ ∀ (env : Env) (found : Found) (s₀ s : CheckinService)
      (tr : List ((Event ⊕ Reboot) × List Action)), boot env found = .ok s₀ →
      Whole found.ticketValidationCsv → Run (life env) s₀ tr s →
      Fresh found.ticketValidationCsv tr →
      ∀ t, (tr.flatMap (·.2)).countP (Action.redeems t) ≤ 1 := by
  intro hall
  have hexec : (exec (life Rehearsal.env) (openingWith emptyFolder (Keys.onDisk Map.empty))
      (twoProcesses checkinRun (connections ++ checkin 30 8 ++ redeem 40 7 4321))).any (fun r =>
        decide (((r.1.flatMap generated).map (·.2)).Nodup) &&
        decide ((r.1.flatMap (·.2)).countP (Action.redeems (ticket 7)) = 2)) = true := by
    decide +kernel
  obtain ⟨tr, s, hrun, hs⟩ := Run.exists_of_exec hexec
  rw [Bool.and_eq_true, decide_eq_true_eq, decide_eq_true_eq] at hs
  obtain ⟨honce, htwice⟩ := hs
  have hle := hall Rehearsal.env emptyFolder _ s tr boot_emptyFolder (.inl rfl) hrun
    ⟨honce, by rintro row ⟨⟩⟩ (ticket 7)
  exact absurd (htwice.symm.trans_le hle) (by decide)

/-- After the last approval there was no restart. -/
theorem noneSpent_of_pairwise
    (h : tr.Pairwise fun x y => x.2.filterMap Action.redeemed = [] ∨ y.1.isLeft = true) :
    NoneSpent env s₀ tr := by
  rintro pre e acts post m rfl - request - u - ⟨a, r, b, rfl, x, hx, hu⟩
  rw [List.append_assoc, List.pairwise_append] at h
  rcases h.2.2 x hx (.inr r, []) (by simp) with hnone | hleft
  · rw [hnone] at hu
    cases hu
  · cases hleft

/-- A ticket of the first process is redeemed in the second one, once. -/
theorem tickets_are_single_use_rehearsal :
    ∃ s₀ tr s, boot Rehearsal.env emptyFolder = .ok s₀ ∧ Run (life Rehearsal.env) s₀ tr s ∧
      tr.map (·.1.isLeft) = (twoProcesses (connections ++ checkin 10 7)
        (connections ++ checkin 30 8 ++ redeem 40 7 4321)).map (·.isLeft) ∧
      (tr.flatMap (·.2)).countP (Action.redeems (ticket 7)) = 1 := by
  have hexec : (exec (life Rehearsal.env) (openingWith emptyFolder (Keys.onDisk Map.empty))
      (twoProcesses (connections ++ checkin 10 7)
        (connections ++ checkin 30 8 ++ redeem 40 7 4321))).any (fun r =>
        decide (((r.1.flatMap generated).map (·.2)).Nodup) &&
        decide (r.1.Pairwise fun x y => x.2.filterMap Action.redeemed = [] ∨ y.1.isLeft = true) &&
        decide (r.1.map (·.1.isLeft) = (twoProcesses (connections ++ checkin 10 7)
          (connections ++ checkin 30 8 ++ redeem 40 7 4321)).map (·.isLeft)) &&
        decide (0 < (r.1.flatMap (·.2)).countP (Action.redeems (ticket 7)))) = true := by
    decide +kernel
  obtain ⟨tr, s, hrun, hs⟩ := Run.exists_of_exec hexec
  simp only [Bool.and_eq_true, decide_eq_true_eq] at hs
  obtain ⟨⟨⟨honce, hpairs⟩, hevents⟩, hpos⟩ := hs
  refine ⟨_, tr, s, boot_emptyFolder, hrun, hevents, Nat.le_antisymm ?_ hpos⟩
  exact tickets_are_single_use boot_emptyFolder (.inl rfl) hrun ⟨honce, by rintro row ⟨⟩⟩
    (noneSpent_of_pairwise hpairs) (ticket 7)

end Rehearsal

end CheckinService

end Pollbook
