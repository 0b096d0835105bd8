import Pollbook.Rehearsal
import Pollbook.Verify.Approvals
import Pollbook.Verify.Statuses

/-!
# Who authorised a check-in

Nobody becomes checked in unless the ID service, an untrusted client and a
trusted client have all signed for that voter (`checkins_are_authorised`). The
signatures are followed back from the state through the two steps that made
the voter pending and then checked in; what a step verified, its key's owner
had signed before (`IdealSignatures`).
-/

namespace Pollbook

/-- The owner of the key signed the message. -/
def Signed (tr : List (Event × List Action)) (key : EnvelopeKey) (message : Bytes) : Prop :=
  ∃ x ∈ tr, x.1.occurrence = .signed key message

/-- Whatever verifies under a key, the owner of the key signed before. -/
def IdealSignatures (tr : List (Event × List Action)) : Prop :=
  ∀ pre x post, tr = pre ++ x :: post →
    ∀ key message signature, .verified key message signature ∈ x.2 → Signed pre key message

/-- `IdealSignatures`, to be evaluated. -/
def verifiedWereSigned (tr : List (Event × List Action)) : Bool :=
  (List.range tr.length).all fun i => (tr.drop i).head?.all fun x => x.2.all fun a =>
    match a with
    | .verified key message _ => (tr.take i).any (·.1.occurrence = .signed key message)
    | _ => true

theorem idealSignatures_of_verifiedWereSigned {tr : List (Event × List Action)}
    (h : verifiedWereSigned tr = true) : IdealSignatures tr := by
  intro pre x post htr key message signature hverified
  have hlt : pre.length ∈ List.range tr.length := by
    rw [List.mem_range, htr, List.length_append, List.length_cons]
    omega
  have hstep := List.all_eq_true.mp h _ hlt
  rw [htr, List.drop_left, List.head?_cons, Option.all_some] at hstep
  have hsigned := List.all_eq_true.mp hstep _ hverified
  rw [List.take_left] at hsigned
  simpa [Signed] using hsigned

theorem Signed.mono {tr tr' : List (Event × List Action)} {key : EnvelopeKey} {message : Bytes}
    (h : Signed tr key message) (hsub : tr ⊆ tr') : Signed tr' key message := by
  obtain ⟨x, hx, hsigned⟩ := h
  exact ⟨x, hsub hx, hsigned⟩

namespace CheckinService

variable {env : Env} {io : Io} {found : Surroundings} {s₀ s s' : CheckinService}
  {tr : List (Event × List Action)} {acts : List Action} {occurrence : Occurrence}

/-! ## Clients and their keys over a run -/

/-- Every client has the type the configuration gives it. -/
def Typed (config : Config) (clients : Map UInt32 ClientInfo) : Prop :=
  ∀ id info, clients id = some info → (info.type = .trustedClient ↔ id ∈ config.trustedClients)

theorem Typed.classified {config : Config} {clients clients' : Map UInt32 ClientInfo}
    {clientId : UInt32} {hasKey : Bool} (h : Typed config clients)
    (hclassified : Classified config clientId hasKey clients clients') :
    Typed config clients' := by
  rcases hclassified with ⟨rfl, -⟩ | ⟨-, type, htype, rfl⟩
  · exact h
  · intro id info hinfo
    rw [Map.set_apply] at hinfo
    split at hinfo
    · next hid =>
      subst hid
      rw [← Option.some.inj hinfo]
      exact htype
    · exact h id info hinfo

/-- Only a certificate changes what is known of a client. -/
theorem Step.clients (h : Step env io s occurrence s' acts) :
    s'.clients = s.clients ∨
      ∃ clientId hasKey, Classified env.config clientId hasKey s.clients s'.clients := by
  cases h with
  | certified _ _ _ hclients _ => exact .inr ⟨_, _, hclients⟩
  | ticketRequest _ _ _ _ _ _ houtcome => cases houtcome <;> exact .inl rfl
  | checkinRequest _ _ _ _ _ _ houtcome => cases houtcome <;> exact .inl rfl
  | _ => exact .inl rfl

/-- What is known of a client stays as it is. -/
theorem Step.clients_eq_some (h : Step env io s occurrence s' acts) {id : UInt32}
    {info : ClientInfo} (hinfo : s.clients id = some info) : s'.clients id = some info := by
  rcases h.clients with heq | ⟨clientId, hasKey, ⟨heq, -⟩ | ⟨hnone, type, -, heq⟩⟩
  · rw [heq, hinfo]
  · rw [heq, hinfo]
  · have hne : id ≠ clientId := by
      rintro rfl
      rw [hnone] at hinfo
      cases hinfo
    rw [heq, Map.set_of_ne _ hne, hinfo]

theorem Step.keeps (h : Step env io s occurrence s' acts) : s.toKeys.Keeps s'.toKeys := by
  cases h with
  | certified _ _ hk _ _ => exact hk
  | ticketRequest _ _ _ _ _ _ houtcome =>
    cases houtcome with
    | refused hk _ | denied hk _ _ | approved hk _ _ _ _ => exact hk
  | checkinRequest _ _ _ _ _ _ houtcome =>
    cases houtcome with
    | unanswered _ => exact .refl _
    | denied hk _ | accepted hk _ _ _ _ _ _ => exact hk
  | _ => exact .refl _

theorem typed_of_run (hstart : start env found = .ok s₀) (hrun : Run (next env) s₀ tr s) :
    Typed env.config s.clients := by
  apply hrun.invariant (I := fun s => Typed env.config s.clients)
  · obtain ⟨table, -, rfl⟩ := start_eq_ok hstart
    intro id info hinfo
    cases hinfo
  · intro s e s' acts htyped hnext
    obtain ⟨-, s₁, hstep, rfl⟩ := next_step hnext
    rcases hstep.clients with heq | ⟨clientId, hasKey, hclassified⟩
    · change Typed env.config s₁.clients
      rw [heq]
      exact htyped
    · exact Typed.classified htyped hclassified

theorem keeps_of_run (hrun : Run (next env) s tr s') : s.toKeys.Keeps s'.toKeys := by
  apply hrun.invariant (I := fun m => s.toKeys.Keeps m.toKeys)
  · exact .refl _
  · intro m e m' acts hkeeps hnext
    obtain ⟨-, s₁, hstep, rfl⟩ := next_step hnext
    exact hkeeps.trans hstep.keeps

/-! ## The two steps of a check-in -/

/-- The request that made a voter pending. -/
theorem exists_accepts (hstart : start env found = .ok s₀) (hrun : Run (next env) s₀ tr s)
    {u : UInt32} (hpending : s.voterStatusTable u = some .pending) :
    ∃ pre e acts post m m' clientIp request ticket, tr = pre ++ (e, acts) :: post ∧
      Run (next env) s₀ pre m ∧ Run (next env) m' post s ∧ request.body.voterUniqueId = u ∧
      ∃ s₁, Accepts env e.io (m.atTime e.io.steadyNow) clientIp request ticket s₁ acts ∧
        m' = s₁.charge acts := by
  have hfirst : ¬ s₀.voterStatusTable u = some .pending := by
    intro h
    cases start_eligible hstart h
  obtain ⟨pre, e, acts, post, m, m', htr, hpre, hnext, hpost, hbefore, hafter⟩ :=
    hrun.turns (P := fun s => s.voterStatusTable u = some .pending) hfirst hpending
  obtain ⟨ticket, hmem⟩ := next_pending (coupled_of_run hstart hpre) hnext hbefore hafter
  obtain ⟨clientIp, request, response, ha, happroved, hvoter, -⟩ := exists_checkinAnswer hmem
  obtain ⟨-, s₁, hstep, rfl⟩ := next_step hnext
  obtain ⟨haccepts, hvoter', -⟩ := hstep.accepts ha happroved
  exact ⟨pre, e, acts, post, m, _, clientIp, request, _, htr, hpre, hpost, hvoter' ▸ hvoter, s₁,
    haccepts, rfl⟩

/-- The request that checked a voter in. -/
theorem exists_redeems (hstart : start env found = .ok s₀) (hrun : Run (next env) s₀ tr s)
    {u : UInt32} (hchecked : s.voterStatusTable u = some .checkedIn) :
    ∃ pre e acts post m m' clientIp request, tr = pre ++ (e, acts) :: post ∧
      Run (next env) s₀ pre m ∧ m.voterStatusTable u = some .pending ∧
      next env m e = some (m', acts) ∧ Run (next env) m' post s ∧
      ∃ s₁, Redeems env e.io (m.atTime e.io.steadyNow) clientIp request u s₁ acts ∧
        m' = s₁.charge acts := by
  have hfirst : ¬ s₀.voterStatusTable u = some .checkedIn := by
    intro h
    cases start_eligible hstart h
  obtain ⟨pre, e, acts, post, m, m', htr, hpre, hnext, hpost, hbefore, hafter⟩ :=
    hrun.turns (P := fun s => s.voterStatusTable u = some .checkedIn) hfirst hchecked
  obtain ⟨hsteps, hcount⟩ := next_statuses (coupled_of_run hstart hpre) hnext
  have hpending : m.voterStatusTable u = some .pending := by
    have hstep := hsteps u
    rw [hafter] at hstep
    generalize hold : m.voterStatusTable u = old at hstep
    cases hstep with
    | same => exact absurd hold hbefore
    | confirm => rfl
  obtain ⟨a, ha, hticket⟩ := List.countP_pos_iff.mp ((hcount u).2.mpr ⟨hpending, hafter⟩)
  cases a with
  | ticketAnswer clientIp request response =>
    simp only [Action.approvesTicket, Bool.and_eq_true, beq_iff_eq] at hticket
    obtain ⟨happroved, rfl⟩ := hticket
    have hnext' := hnext
    obtain ⟨-, s₁, hstep, rfl⟩ := next_step hnext
    exact ⟨pre, e, acts, post, m, _, clientIp, request, htr, hpre, hpending, hnext', hpost, s₁,
      hstep.redeems ha happroved, rfl⟩
  | _ => cases hticket

/-! ## Authorisation -/

/-- The ID service signed that it matched a presented ID to the voter. -/
def IdServiceSigned (env : Env) (tr : List (Event × List Action)) (u : UInt32) : Prop :=
  ∃ presentedId, Signed tr env.config.idServicePublicKey
    (env.render (idStatement env.toCodec presentedId u))

/-- A client that is not trusted signed a check-in request for the voter. -/
def UntrustedSigned (env : Env) (s : CheckinService) (tr : List (Event × List Action))
    (u : UInt32) : Prop :=
  ∃ (body : CheckinRequest.Body) (key : EnvelopeKey),
    body.clientIdNum ∉ env.config.trustedClients ∧
    s.clientVerifiers body.clientIdNum = some key ∧ body.voterUniqueId = u ∧
    Signed tr key (env.render (body.toJson env.toCodec))

/-- A trusted client signed a ticket request with a ticket that was bound to
the voter, and with the voter's PIN. -/
def TrustedSigned (env : Env) (s₀ s : CheckinService) (tr : List (Event × List Action))
    (u : UInt32) : Prop :=
  ∃ (body : TicketRequest.Body) (key : EnvelopeKey),
    body.clientId ∈ env.config.trustedClients ∧ s.clientVerifiers body.clientId = some key ∧
    Signed tr key (env.render body.toJson) ∧
    (∃ pre post m secret, tr = pre ++ post ∧ Run (next env) s₀ pre m ∧
      m.clientTicketsMap body.ticket = some (u, secret)) ∧
    decimal body.pin.toNat = (findVoter env.config.voterListFile u).pin

/-- The first phase. -/
theorem signed_of_pending (hstart : start env found = .ok s₀) (hrun : Run (next env) s₀ tr s)
    (hideal : IdealSignatures tr) {u : UInt32}
    (hpending : s.voterStatusTable u = some .pending) :
    IdServiceSigned env tr u ∧ UntrustedSigned env s tr u := by
  obtain ⟨pre, e, acts, post, m, m', clientIp, request, ticket, rfl, hpre, hpost, hvoter, s₁,
    haccepts, rfl⟩ := exists_accepts hstart hrun hpending
  have hsub : pre ⊆ pre ++ (e, acts) :: post := List.subset_append_left _ _
  have hvalid := haccepts.validated
  constructor
  · refine ⟨request.body.verifiedIdMessage.presentedId, ?_⟩
    have hsigned := hideal pre _ post rfl _ _ _ hvalid.idService
    rw [← hvalid.voter, hvoter] at hsigned
    exact hsigned.mono hsub
  · obtain ⟨key, hkey, hverified⟩ := hvalid.client
    obtain ⟨info, hinfo, htype⟩ := haccepts.client
    have huntrusted : request.body.clientIdNum ∉ env.config.trustedClients := by
      rw [← typed_of_run hstart hpre _ _ hinfo, htype]
      decide
    exact ⟨request.body, key, huntrusted, keeps_of_run hpost _ _ hkey, hvoter,
      (hideal pre _ post rfl _ _ _ hverified).mono hsub⟩

/-- Both phases. -/
theorem signed_of_checkedIn (hstart : start env found = .ok s₀) (hrun : Run (next env) s₀ tr s)
    (hideal : IdealSignatures tr) {u : UInt32}
    (hchecked : s.voterStatusTable u = some .checkedIn) :
    IdServiceSigned env tr u ∧ UntrustedSigned env s tr u ∧ TrustedSigned env s₀ s tr u := by
  obtain ⟨pre, e, acts, post, m, m', clientIp, request, rfl, hpre, hpending, hnext, hpost, s₁,
    hredeems, rfl⟩ := exists_redeems hstart hrun hchecked
  have hsub : pre ⊆ pre ++ (e, acts) :: post := List.subset_append_left _ _
  have hlater : Run (next env) m ((e, acts) :: post) s := (Run.single hnext).append hpost
  have hidealPre : IdealSignatures pre := by
    intro pre' x post' hpre'
    apply hideal pre' x (post' ++ (e, acts) :: post)
    rw [hpre', List.append_assoc, List.cons_append]
  obtain ⟨⟨presentedId, hid⟩, body, bodyKey, huntrusted, hkey, hvoter, hbody⟩ :=
    signed_of_pending hstart hpre hidealPre hpending
  refine ⟨⟨presentedId, hid.mono hsub⟩,
    ⟨body, bodyKey, huntrusted, keeps_of_run hlater _ _ hkey, hvoter, hbody.mono hsub⟩, ?_⟩
  obtain ⟨key, hticketKey, hverified⟩ := hredeems.signature
  obtain ⟨info, hinfo, htype⟩ := hredeems.client
  obtain ⟨secret, hticket⟩ := hredeems.ticket
  obtain ⟨timer, -, -, hsessions⟩ := hredeems.sessions
  refine ⟨request.body, key, (typed_of_run hstart hpre _ _ hinfo).mp htype,
    keeps_of_run hpost _ _ hticketKey, (hideal pre _ post rfl _ _ _ hverified).mono hsub,
    ⟨pre ++ [(e, acts)], post, s₁.charge acts, secret, ?_, hpre.snoc hnext, ?_⟩, hredeems.pin⟩
  · rw [List.append_assoc, List.singleton_append]
  · change s₁.toSessions.clientTicketsMap _ = _
    rw [hsessions, (Sessions.confirm_tickets _ u timer).1]
    exact hticket

/-- **End-to-end authorisation.** -/
theorem checkins_are_authorised (hstart : start env found = .ok s₀)
    (hrun : Run (next env) s₀ tr s) (hideal : IdealSignatures tr) :
    (∀ u, s.voterStatusTable u = some .checkedIn →
      IdServiceSigned env tr u ∧ UntrustedSigned env s tr u ∧ TrustedSigned env s₀ s tr u) ∧
    ((∀ t ∈ env.config.trustedClients, ∀ key, s.clientVerifiers t = some key →
        ∀ message, ¬ Signed tr key message) →
      ∀ u, s.voterStatusTable u ≠ some .checkedIn) := by
  refine ⟨fun u hchecked => signed_of_checkedIn hstart hrun hideal hchecked, ?_⟩
  intro hnone u hchecked
  obtain ⟨-, -, body, key, htrusted, hkey, hsigned, -⟩ :=
    signed_of_checkedIn hstart hrun hideal hchecked
  exact hnone _ htrusted key hkey _ hsigned

/-- The voter of the small polling place is checked in, and all three signed. -/
theorem checkins_are_authorised_rehearsal :
    ∃ tr s, Run (next Rehearsal.env) Rehearsal.opening tr s ∧
      s.voterStatusTable Rehearsal.voter = some .checkedIn ∧
      IdServiceSigned Rehearsal.env tr Rehearsal.voter ∧
      UntrustedSigned Rehearsal.env s tr Rehearsal.voter ∧
      TrustedSigned Rehearsal.env Rehearsal.opening s tr Rehearsal.voter := by
  have hexec : (exec (next Rehearsal.env) Rehearsal.opening Rehearsal.checkinRun).any
      (fun r => r.2.voterStatusTable Rehearsal.voter == some .checkedIn &&
        verifiedWereSigned r.1) = true := by decide +kernel
  obtain ⟨tr, s, hrun, hs⟩ := Run.exists_of_exec hexec
  rw [Bool.and_eq_true, beq_iff_eq] at hs
  have hideal := idealSignatures_of_verifiedWereSigned hs.2
  exact ⟨tr, s, hrun, hs.1,
    (checkins_are_authorised Rehearsal.start_opening hrun hideal).1 Rehearsal.voter hs.1⟩

end CheckinService

end Pollbook
