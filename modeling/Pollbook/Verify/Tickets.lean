import Pollbook.Rehearsal
import Pollbook.Verify.Approvals
import Pollbook.Verify.Statuses

/-!
# Tickets and the sessions they were issued for

A ticket is bound to a voter, not to a session, and nothing ever unbinds it.
So the ticket of a session that timed out works again while a later session of
the same voter is pending (`old_ticket_is_approved`). As long as nobody
presents such a ticket, every approval confirms the very session the ticket
was issued for (`redeemed_tickets_are_current`).
-/

namespace Pollbook

/-- The voters and tickets of the accepted check-in requests, oldest first. -/
def issued (tr : List (Event × List Action)) : List (UInt32 × Bytes) :=
  tr.flatMap fun x => x.2.filterMap Action.admitted

@[simp] theorem issued_nil : issued [] = [] := rfl

@[simp] theorem issued_cons (x : Event × List Action) (tr : List (Event × List Action)) :
    issued (x :: tr) = x.2.filterMap Action.admitted ++ issued tr := rfl

@[simp] theorem issued_append (tr tr' : List (Event × List Action)) :
    issued (tr ++ tr') = issued tr ++ issued tr' := List.flatMap_append

/-- The last time a check-in request for the voter was accepted. -/
theorem exists_latest {tr : List (Event × List Action)} {u : UInt32} {t : Bytes}
    (h : (u, t) ∈ issued tr) :
    ∃ a x b t', tr = a ++ x :: b ∧ (u, t') ∈ x.2.filterMap Action.admitted ∧
      ∀ t'', (u, t'') ∉ issued b := by
  induction tr using List.reverseRecOn with
  | nil => cases h
  | append_singleton tr x ih =>
    by_cases hx : ∃ t', (u, t') ∈ x.2.filterMap Action.admitted
    · obtain ⟨t', ht'⟩ := hx
      exact ⟨tr, x, [], t', rfl, ht', fun _ => List.not_mem_nil⟩
    · have hold : (u, t) ∈ issued tr := by
        rw [issued_append] at h
        rcases List.mem_append.mp h with h | h
        · exact h
        · rw [issued_cons, issued_nil, List.append_nil] at h
          exact absurd ⟨t, h⟩ hx
      obtain ⟨a, y, b, t', rfl, ht', hlast⟩ := ih hold
      refine ⟨a, y, b ++ [x], t', by simp, ht', fun t'' hmem => ?_⟩
      rw [issued_append] at hmem
      rcases List.mem_append.mp hmem with hmem | hmem
      · exact hlast t'' hmem
      · rw [issued_cons, issued_nil, List.append_nil] at hmem
        exact hx ⟨t'', hmem⟩

/-! ## Every ticket in memory or in the file was issued -/

namespace Sessions

variable {config : Config} {now : Int} {s s' : Sessions} {change : Change}

/-- The tickets in memory and in the ticket file are those of `log`. -/
structure Bound (s : Sessions) (log : List (UInt32 × Bytes)) : Prop where
  memory : ∀ t u secret, s.clientTicketsMap t = some (u, secret) → (u, t) ∈ log
  whole : s.ticketValidationCsv.getD [] = [] ∨
    (s.ticketValidationCsv.getD []).getLast? = some newline
  file : ∀ row ∈ (lines (s.ticketValidationCsv.getD [])).filterMap ticketRow,
    (row.2.1, row.1) ∈ log

/-- What a change does to the tickets. -/
theorem Moves.tickets (h : Moves config now s change s') :
    (∃ u t secret opens, change = .accept u t ∧ Fit t secret ∧
      s'.clientTicketsMap = s.clientTicketsMap.set t (u, secret) ∧
      s'.ticketValidationCsv = (s.writeToCsv opens t secret u).ticketValidationCsv) ∨
    change.admitted = none ∧ s'.ticketValidationCsv = s.ticketValidationCsv ∧
      (s'.clientTicketsMap = s.clientTicketsMap ∨
        s'.clientTicketsMap = s.readFromCsv.clientTicketsMap) := by
  cases h with
  | quiet | expire _ _ _ | abort _ _ => exact .inr ⟨rfl, rfl, .inl rfl⟩
  | reload =>
    obtain ⟨tickets, heq⟩ := readFromCsv_eq s
    exact .inr ⟨rfl, by rw [heq], .inr rfl⟩
  | @accept u t secret opens hfit _ =>
    obtain ⟨-, htickets, hcsv⟩ := s.accept_fields u (now + minutes config.timeoutInterval) t secret
      opens
    exact .inl ⟨u, t, secret, opens, rfl, hfit, htickets, hcsv⟩
  | @redeem u t secret timer _ _ _ =>
    obtain ⟨tickets, heq⟩ := readFromCsv_eq s
    obtain ⟨htickets, hcsv⟩ := s.readFromCsv.confirm_tickets u timer
    exact .inr ⟨rfl, by rw [hcsv, heq], .inr htickets⟩
  | @timeout id wait _ _ =>
    obtain ⟨htickets, hcsv⟩ := (s.drop id).handleVerificationTimeout_tickets wait.voterId
    exact .inr ⟨rfl, hcsv, .inl htickets⟩

theorem Bound.readFromCsv {log : List (UInt32 × Bytes)} (h : s.Bound log) {t : Bytes}
    {u : UInt32} {secret : Bytes} (ht : s.readFromCsv.clientTicketsMap t = some (u, secret)) :
    (u, t) ∈ log := by
  unfold Sessions.readFromCsv at ht
  split at ht
  · exact h.memory t u secret ht
  · next text htext =>
    dsimp only at ht
    rw [Map.setAll_apply] at ht
    cases hfind : ((lines text).filterMap ticketRow).reverse.find? (fun e => e.1 = t) with
    | none =>
      rw [hfind] at ht
      exact h.memory t u secret ht
    | some row =>
      rw [hfind] at ht
      have hkey : row.1 = t := by simpa using List.find?_some hfind
      have hvalue : row.2 = (u, secret) := by simpa using ht
      have hrow := h.file row (by
        rw [htext]
        exact List.mem_reverse.mp (List.mem_of_find?_eq_some hfind))
      rwa [hkey, hvalue] at hrow

theorem Bound.moves {log : List (UInt32 × Bytes)} (h : s.Bound log)
    (hmoves : Moves config now s change s') : s'.Bound (log ++ change.admitted.toList) := by
  rcases hmoves.tickets with ⟨u, t, secret, opens, rfl, hfit, htickets, hcsv⟩ |
    ⟨hnone, hcsv, htickets⟩
  · have hmono : ∀ {e : UInt32 × Bytes}, e ∈ log → e ∈ log ++ [(u, t)] :=
      fun he => List.mem_append_left _ he
    have hmemory : ∀ t' v secret', s'.clientTicketsMap t' = some (v, secret') →
        (v, t') ∈ log ++ [(u, t)] := by
      intro t' v secret' ht'
      rw [htickets, Map.set_apply] at ht'
      split at ht'
      · next heq =>
        simp only [Option.some.injEq, Prod.mk.injEq] at ht'
        rw [heq, ← ht'.1]
        exact List.mem_append_right _ (List.mem_singleton_self _)
      · exact hmono (h.memory t' v secret' ht')
    cases opens with
    | false =>
      have hsame : s'.ticketValidationCsv = s.ticketValidationCsv := hcsv
      refine ⟨hmemory, ?_, ?_⟩
      · rw [hsame]
        exact h.whole
      · rw [hsame]
        exact fun row hrow => hmono (h.file row hrow)
    | true =>
      have hwritten : s'.ticketValidationCsv.getD [] =
          s.ticketValidationCsv.getD [] ++ (ticketLine t secret u ++ [newline]) := by
        rw [hcsv]
        rfl
      refine ⟨hmemory, ?_, ?_⟩
      · right
        rw [hwritten, ← List.append_assoc, List.getLast?_append]
        rfl
      · intro row hrow
        rw [hwritten, rows_append hfit u h.whole] at hrow
        rcases List.mem_append.mp hrow with hrow | hrow
        · exact hmono (h.file row hrow)
        · rw [List.mem_singleton.mp hrow]
          exact List.mem_append_right _ (List.mem_singleton_self _)
  · rw [hnone, Option.toList_none, List.append_nil]
    refine ⟨fun t u secret ht => ?_, by rw [hcsv]; exact h.whole, by rw [hcsv]; exact h.file⟩
    rcases htickets with htickets | htickets
    · rw [htickets] at ht
      exact h.memory t u secret ht
    · rw [htickets] at ht
      exact h.readFromCsv ht

end Sessions

namespace CheckinService

variable {env : Env} {found : Surroundings} {s₀ s s' : CheckinService}
  {tr : List (Event × List Action)} {e : Event} {acts : List Action}

/-- In a process that found no tickets, all tickets were issued on the run. -/
theorem bound_of_run (hstart : start env found = .ok s₀)
    (hempty : found.ticketValidationCsv.getD [] = []) (hrun : Run (next env) s₀ tr s) :
    s.toSessions.Bound (issued tr) := by
  apply hrun.history (I := fun tr s => s.toSessions.Bound (issued tr))
  · obtain ⟨table, -, rfl⟩ := start_eq_ok hstart
    refine ⟨fun t u secret ht => ?_, .inl hempty, fun row hrow => ?_⟩
    · cases ht
    · change row ∈ (lines (found.ticketValidationCsv.getD [])).filterMap ticketRow at hrow
      rw [hempty] at hrow
      cases hrow
  · intro tr s e s' acts _ hbound hnext
    obtain ⟨-, -, change, hmakes⟩ := next_makes hnext
    rw [issued_append, issued_cons, issued_nil, List.append_nil, hmakes.admitted]
    exact hbound.moves hmakes.moves

/-- A step accepts one check-in request at most. -/
theorem next_admitted_unique (hnext : next env s e = some (s', acts)) {r r' : UInt32 × Bytes}
    (hr : r ∈ acts.filterMap Action.admitted) (hr' : r' ∈ acts.filterMap Action.admitted) :
    r = r' := by
  obtain ⟨-, -, change, hmakes⟩ := next_makes hnext
  rw [hmakes.admitted, Option.mem_toList] at hr hr'
  exact Option.some.inj (hr.symm.trans hr')

/-! ## What the tickets are for -/

/-- The session that a ticket for the voter confirms at the end of `tr` is the
one it was issued for: the voter has been pending ever since. -/
def ConfirmsOwn (env : Env) (s₀ : CheckinService) (tr : List (Event × List Action)) (u : UInt32)
    (t : Bytes) : Prop :=
  ∃ a x b, tr = a ++ x :: b ∧ (u, t) ∈ x.2.filterMap Action.admitted ∧
    ∀ b₁ b₂ m, b = b₁ ++ b₂ → Run (next env) s₀ (a ++ x :: b₁) m →
      m.voterStatusTable u = some .pending

/-- A ticket is only good for the pending session that issued it. -/
structure TicketsCurrent (env : Env) (s₀ : CheckinService) (tr : List (Event × List Action)) :
    Prop where
  /-- Every approval confirms the session the ticket was issued for. -/
  own : ∀ pre y post, tr = pre ++ y :: post → ∀ u t, (u, t) ∈ y.2.filterMap Action.redeemed →
    ConfirmsOwn env s₀ pre u t
  /-- A ticket issued once, whose session has ended, is never approved again. -/
  ended : ∀ a x b₁ b₂ y post m, tr = a ++ x :: (b₁ ++ b₂) ++ y :: post →
    ∀ u t, (u, t) ∈ x.2.filterMap Action.admitted →
      (∀ v, (v, t) ∉ issued a) → (∀ v, (v, t) ∉ issued (b₁ ++ b₂)) →
      Run (next env) s₀ (a ++ x :: b₁) m → m.voterStatusTable u ≠ some .pending →
      ∀ v, (v, t) ∉ y.2.filterMap Action.redeemed

/-- The ticket was issued for the voter, and after it another one. -/
def Superseded (tr : List (Event × List Action)) (u : UInt32) (t : Bytes) : Prop :=
  ∃ a b t', tr = a ++ b ∧ (u, t) ∈ issued a ∧ (u, t') ∈ issued b ∧ (u, t) ∉ issued b

/-- Nobody presents, with the voter's PIN, the ticket of an earlier session of a
voter who is pending again. -/
def NoneSuperseded (env : Env) (s₀ : CheckinService) (tr : List (Event × List Action)) : Prop :=
  ∀ pre e acts post m, tr = pre ++ (e, acts) :: post → Run (next env) s₀ pre m →
    ∀ request, Presents env acts request →
      ∀ u, m.voterStatusTable u = some .pending →
        decimal request.body.pin.toNat = (findVoter env.config.voterListFile u).pin →
        ¬ Superseded pre u request.body.ticket

/-- A redeemed ticket was presented with the PIN of its voter, it had been issued
for that voter, and the voter is pending. -/
theorem next_redeemed (hstart : start env found = .ok s₀)
    (hempty : found.ticketValidationCsv.getD [] = []) (hrun : Run (next env) s₀ tr s)
    (hnext : next env s e = some (s', acts)) {u : UInt32} {t : Bytes}
    (hr : (u, t) ∈ acts.filterMap Action.redeemed) :
    (∃ request, Presents env acts request ∧ request.body.ticket = t ∧
        decimal request.body.pin.toNat = (findVoter env.config.voterListFile u).pin) ∧
      (u, t) ∈ issued tr ∧ s.voterStatusTable u = some .pending := by
  obtain ⟨clientIp, request, response, ha, happroved, rfl, rfl⟩ := exists_ticketAnswer hr
  obtain ⟨-, s₁, hstep, rfl⟩ := next_step hnext
  have hredeems := hstep.redeems ha happroved
  obtain ⟨secret, hticket⟩ := hredeems.ticket
  obtain ⟨timer, htimer, -, -⟩ := hredeems.sessions
  exact ⟨⟨request, hredeems.presented, rfl, hredeems.pin⟩,
    (bound_of_run hstart hempty hrun).readFromCsv hticket,
    ((coupled_of_run hstart hrun).timer_iff _).mp ⟨timer, htimer⟩⟩

/-- A voter who is pending, and for whom nothing was accepted on the way, was
pending all along. -/
theorem pending_of_run (hstart : start env found = .ok s₀) {m : CheckinService}
    {tr' : List (Event × List Action)} (hrun : Run (next env) s₀ tr m)
    (hrun' : Run (next env) m tr' s) {u : UInt32} (hnone : ∀ t, (u, t) ∉ issued tr')
    (hpending : s.voterStatusTable u = some .pending) : m.voterStatusTable u = some .pending := by
  by_contra hm
  obtain ⟨pre, e, acts, post, k, k', rfl, hpre, hnext, -, hbefore, hafter⟩ :=
    hrun'.turns (P := fun s => s.voterStatusTable u = some .pending) hm hpending
  obtain ⟨t, ht⟩ := next_pending (coupled_of_run hstart (hrun.append hpre)) hnext hbefore hafter
  apply hnone t
  rw [issued_append, issued_cons]
  exact List.mem_append_right _ (List.mem_append_left _ ht)

/-- The approval of a ticket that is not superseded confirms its own session. -/
theorem confirmsOwn (hstart : start env found = .ok s₀)
    (hempty : found.ticketValidationCsv.getD [] = []) (hrun : Run (next env) s₀ tr s)
    (hnext : next env s e = some (s', acts)) {u : UInt32} {t : Bytes}
    (hr : (u, t) ∈ acts.filterMap Action.redeemed) (hcurrent : ¬ Superseded tr u t) :
    ConfirmsOwn env s₀ tr u t := by
  obtain ⟨-, hissued, hpending⟩ := next_redeemed hstart hempty hrun hnext hr
  obtain ⟨a, x, b, t', rfl, ht', hlast⟩ := exists_latest hissued
  obtain ⟨m, m', -, haccept, -⟩ := hrun.splitStep
  -- the latest acceptance issued the ticket, or else it superseded it
  have heq : t' = t := by
    by_contra hne
    have hx : (u, t) ∉ x.2.filterMap Action.admitted := by
      intro hx
      have := next_admitted_unique haccept hx ht'
      simp only [Prod.mk.injEq, true_and] at this
      exact hne this.symm
    rw [issued_append, issued_cons] at hissued
    have ha : (u, t) ∈ issued a := by
      rcases List.mem_append.mp hissued with ha | hrest
      · exact ha
      rcases List.mem_append.mp hrest with hx' | hb
      · exact absurd hx' hx
      · exact absurd hb (hlast t)
    refine hcurrent ⟨a, x :: b, t', rfl, ha, List.mem_append_left _ ht', fun hmem => ?_⟩
    rcases List.mem_append.mp hmem with hx' | hb
    · exact hx hx'
    · exact hlast t hb
  subst heq
  refine ⟨a, x, b, rfl, ht', fun b₁ b₂ k hb hk => ?_⟩
  subst hb
  rw [← List.cons_append, ← List.append_assoc] at hrun
  obtain ⟨k', hk', hrest⟩ := hrun.split
  rw [hk.deterministic hk']
  refine pending_of_run hstart hk' hrest (fun t'' hmem => hlast t'' ?_) hpending
  rw [issued_append]
  exact List.mem_append_right _ hmem

/-- An approval that confirms its own session is none of an ended one. -/
theorem TicketsCurrent.of_own
    (hown : ∀ pre y post, tr = pre ++ y :: post →
      ∀ u t, (u, t) ∈ y.2.filterMap Action.redeemed → ConfirmsOwn env s₀ pre u t)
    (hlife : Lifetime (next env) (crash env) s₀ tr) : TicketsCurrent env s₀ tr := by
  refine ⟨hown, ?_⟩
  intro a x b₁ b₂ y post m htr u t hx ha hb hm hended v hv
  obtain ⟨a', x', b', hpre, hx', hpending⟩ := hown _ y post htr v t hv
  -- the two acceptances are the same one: no other issued the ticket
  rcases append_eq_append_cons hpre with ⟨c, rfl, -⟩ | ⟨c, rfl, hc⟩
  · apply ha v
    rw [issued_append, issued_cons]
    exact List.mem_append_right _ (List.mem_append_left _ hx')
  · cases c with
    | nil =>
      rw [List.nil_append, List.cons.injEq] at hc
      obtain ⟨rfl, rfl⟩ := hc
      rw [List.append_nil] at hpre hpending
      have hsame : (v, t) = (u, t) := by
        rw [htr, List.append_assoc, List.cons_append] at hlife
        obtain ⟨k, -, ⟨k', hnext⟩ | hcrash⟩ := hlife.step
        · exact next_admitted_unique hnext hx' hx
        · rw [(crash_approves hcrash).1] at hx
          cases hx
      simp only [Prod.mk.injEq, and_true] at hsame
      subst hsame
      exact hended (hpending b₁ b₂ m rfl hm)
    | cons z c =>
      rw [List.cons_append, List.cons.injEq] at hc
      apply hb v
      rw [hc.2, issued_append, issued_cons]
      exact List.mem_append_right _ (List.mem_append_left _ hx')

/-- **Tickets.** In every run without superseded tickets, a ticket is only good
for the session that issued it. -/
theorem redeemed_tickets_are_current (hstart : start env found = .ok s₀)
    (hempty : found.ticketValidationCsv.getD [] = [])
    (hlife : Lifetime (next env) (crash env) s₀ tr) (hcurrent : NoneSuperseded env s₀ tr) :
    TicketsCurrent env s₀ tr := by
  refine .of_own (fun pre y post htr u t hr => ?_) hlife
  obtain ⟨e, acts⟩ := y
  subst htr
  obtain ⟨m, hpre, ⟨m', hnext⟩ | hcrash⟩ := hlife.step
  · obtain ⟨⟨request, hpresents, rfl, hpin⟩, -, hpending⟩ :=
      next_redeemed hstart hempty hpre hnext hr
    exact confirmsOwn hstart hempty hpre hnext hr
      (hcurrent pre e acts post m rfl hpre request hpresents u hpending hpin)
  · rw [(crash_approves hcrash).2] at hr
    cases hr

/-- The first session of the voter runs out, another one begins, and the tablet
presents the ticket of the first: it is approved. -/
theorem old_ticket_is_approved :
    ¬ ∀ tr, Lifetime (next Rehearsal.env) (crash Rehearsal.env) Rehearsal.opening tr →
      TicketsCurrent Rehearsal.env Rehearsal.opening tr := by
  intro hall
  have hexec : (exec (next Rehearsal.env) Rehearsal.opening (Rehearsal.connections ++
      Rehearsal.checkin 10 7 ++ Rehearsal.timeout 300010 0)).any (fun r =>
        r.2.voterStatusTable Rehearsal.voter == some .eligible &&
        (exec (next Rehearsal.env) r.2 (Rehearsal.checkin 300100 8 ++
          Rehearsal.redeem 300200 7 4321)).any fun r' =>
            issued r'.1 == [(Rehearsal.voter, Rehearsal.ticket 8)] &&
            (r'.1.flatMap fun x => x.2.filterMap Action.redeemed) ==
              [(Rehearsal.voter, Rehearsal.ticket 7)]) = true := by
    decide +kernel
  obtain ⟨tr₁, s₁, hrun₁, hs₁⟩ := Run.exists_of_exec hexec
  rw [Bool.and_eq_true, beq_iff_eq] at hs₁
  obtain ⟨heligible, hexec₂⟩ := hs₁
  obtain ⟨tr₂, s₂, hrun₂, hs₂⟩ := Run.exists_of_exec hexec₂
  rw [Bool.and_eq_true, beq_iff_eq, beq_iff_eq] at hs₂
  obtain ⟨hissued, hredeemed⟩ := hs₂
  have hmem : (Rehearsal.voter, Rehearsal.ticket 7) ∈
      tr₂.flatMap fun x => x.2.filterMap Action.redeemed := by
    rw [hredeemed]
    exact List.mem_singleton_self _
  obtain ⟨y, hy, hr⟩ := List.mem_flatMap.mp hmem
  obtain ⟨c, d, rfl⟩ := List.append_of_mem hy
  obtain ⟨a, x, b, hpre, hx, hpending⟩ := (hall _ (.alive (hrun₁.append hrun₂))).own (tr₁ ++ c) y d
    (List.append_assoc ..).symm _ _ hr
  -- the old ticket was issued in the first part, and its session did not last
  rcases append_eq_append_cons hpre with ⟨b', rfl, rfl⟩ | ⟨a', rfl, rfl⟩
  · have hstill := hpending b' c s₁ rfl hrun₁
    rw [heligible] at hstill
    cases hstill
  · have hnew : (Rehearsal.voter, Rehearsal.ticket 7) ∈ issued (a' ++ x :: b ++ y :: d) := by
      rw [issued_append, issued_append, issued_cons]
      exact List.mem_append_left _ (List.mem_append_right _ (List.mem_append_left _ hx))
    rw [hissued, List.mem_singleton] at hnew
    exact absurd hnew (by decide +kernel)

/-- All ticket requests of a step present this ticket. -/
def presentsOnly (env : Env) (t : Bytes) (x : Event × List Action) : Bool :=
  x.2.all fun a =>
    match a with
    | .dispatched _ _ .trustedClient msgString =>
      ((env.parse msgString).toOption.bind fun json =>
        (TicketRequest.fromJson env.toCodec json).toOption).all fun request =>
          request.body.ticket == t
    | _ => true

theorem Presents.ticket {t : Bytes} {request : TicketRequest} (h : Presents env acts request)
    (honly : presentsOnly env t (e, acts) = true) : request.body.ticket = t := by
  obtain ⟨clientIp, clientId, msgString, json, ha, hparse, hrequest⟩ := h
  have hthis := List.all_eq_true.mp honly _ ha
  dsimp only at hthis
  rw [hparse, Except.toOption, Option.bind_some, hrequest, Except.toOption,
    Option.all_some] at hthis
  exact beq_iff_eq.mp hthis

/-- The voter's first session runs out, and the ticket of the second one is
redeemed. -/
theorem redeemed_tickets_are_current_rehearsal :
    ∃ tr s, Run (next Rehearsal.env) Rehearsal.opening tr s ∧
      issued tr = [(Rehearsal.voter, Rehearsal.ticket 7), (Rehearsal.voter, Rehearsal.ticket 8)] ∧
      s.voterStatusTable Rehearsal.voter = some .checkedIn ∧
      TicketsCurrent Rehearsal.env Rehearsal.opening tr := by
  have hexec : (exec (next Rehearsal.env) Rehearsal.opening (Rehearsal.connections ++
      Rehearsal.checkin 10 7 ++ Rehearsal.timeout 300010 0 ++ Rehearsal.checkin 300100 8 ++
        Rehearsal.redeem 300200 8 4321)).any (fun r =>
      r.2.voterStatusTable Rehearsal.voter == some .checkedIn &&
      (issued r.1 == [(Rehearsal.voter, Rehearsal.ticket 7),
          (Rehearsal.voter, Rehearsal.ticket 8)] &&
        r.1.all (presentsOnly Rehearsal.env (Rehearsal.ticket 8)))) = true := by
    decide +kernel
  obtain ⟨tr, s, hrun, hs⟩ := Run.exists_of_exec hexec
  rw [Bool.and_eq_true, Bool.and_eq_true, beq_iff_eq, beq_iff_eq, List.all_eq_true] at hs
  obtain ⟨hchecked, hissued, hpresents⟩ := hs
  refine ⟨tr, s, hrun, hissued, hchecked, redeemed_tickets_are_current Rehearsal.start_opening rfl
    (.alive hrun) ?_⟩
  -- the ticket that is presented was the last one
  rintro pre e acts post m rfl - request hrequest u - - ⟨a, b, t', rfl, ha, hb, -⟩
  rw [hrequest.ticket (hpresents _ (List.mem_append_right _ List.mem_cons_self))] at ha
  rw [issued_append, issued_append, List.append_assoc] at hissued
  have hlength := congrArg List.length hissued
  rw [List.length_append, List.length_append] at hlength
  have ha' := List.length_pos_of_mem ha
  have hb' := List.length_pos_of_mem hb
  obtain ⟨x, hx⟩ := List.length_eq_one_iff.mp (show (issued a).length = 1 by
    simp only [List.length_cons, List.length_nil] at hlength
    omega)
  rw [hx, List.singleton_append, List.cons.injEq] at hissued
  rw [hx, hissued.1, List.mem_singleton, Prod.mk.injEq] at ha
  exact absurd ha.2 (by decide +kernel)

end CheckinService

end Pollbook
