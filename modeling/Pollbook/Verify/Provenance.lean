import Pollbook.Verify.Signers

/-!
# Where a signature comes from

In a run of the programs together, what verifies under the key of a program was
signed by a program at an earlier step, and the payload says which kind of step
that was (`Unforgeable.signer`): an answer of the check-in service, a statement
of the ID service about a request it has checked, or a request of a client.
-/

namespace Pollbook

/-! ## What an approved answer says about its step -/

namespace CheckinService

variable {env : Env} {io : Io} {s s' : CheckinService} {clientIp : Endpoint} {acts : List Action}
  {e : Event} {occurrence : Occurrence}

/-- A step admits the voter of a request. -/
structure Admits (env : Env) (s : CheckinService) (request : CheckinRequest)
    (response : CheckinResponse) (s' : CheckinService) (acts : List Action) : Prop where
  voter : response.body.voterUniqueId = request.body.voterUniqueId
  eligible : s.voterStatusTable response.body.voterUniqueId = some .eligible
  pending : s'.voterStatusTable response.body.voterUniqueId = some .pending
  bound : ∃ secret, s'.clientTicketsMap response.body.ticket =
    some (response.body.voterUniqueId, secret)
  validated : ∃ now, Validated env s'.toKeys request now acts

theorem next_admits (hcoupled : s.toSessions.Coupled s.steadyNow)
    (hnext : next env s e = some (s', acts)) {request : CheckinRequest}
    {response : CheckinResponse} (ha : .checkinAnswer clientIp request response ∈ acts)
    (happroved : response.body.approved = true) : Admits env s request response s' acts := by
  obtain ⟨hclock, s₁, hstep, rfl⟩ := next_step hnext
  obtain ⟨haccepts, hvoter, -⟩ := hstep.accepts ha happroved
  obtain ⟨secret, hsessions⟩ := haccepts.sessions
  have heligible : s.voterStatusTable request.body.voterUniqueId = some .eligible :=
    haccepts.eligible
  have hnone : (s.atTime e.io.steadyNow).requestTimers request.body.voterUniqueId = none :=
    hcoupled.no_timer _ (by rw [heligible]; decide)
  obtain ⟨csv, heq⟩ := Sessions.accept_eq (e.io.steadyNow + minutes env.config.timeoutInterval)
    response.body.ticket secret e.io.csvOpens hnone
  rw [heq] at hsessions
  refine ⟨hvoter, hvoter ▸ heligible, ?_, ⟨secret, ?_⟩, _, haccepts.validated⟩
  · change s₁.toSessions.voterStatusTable _ = _
    rw [hsessions, hvoter]
    exact Map.set_self ..
  · change s₁.toSessions.clientTicketsMap _ = _
    rw [hsessions, hvoter]
    exact Map.set_self ..

/-- The secret of an approval is the ticket's. -/
theorem Step.reveals (h : Step env io s occurrence s' acts) {request : TicketRequest}
    {response : TicketResponse} (ha : .ticketAnswer clientIp request response ∈ acts)
    (happroved : response.body.approved = true) :
    s'.clientTicketsMap request.body.ticket =
      some (response.body.voterUniqueId, response.body.secret) := by
  rcases h.answers with hsilent |
    ⟨ip, clientId, info, json, request', acts', -, -, -, rfl, -, -, rfl, houtcome⟩ |
    ⟨ip, clientId, info, json, request', acts', hid, hclient, htype, rfl, hparse, hrequest, rfl,
      houtcome⟩
  · exact absurd ha hsilent.no_ticketAnswer
  · rcases List.mem_cons.mp ha with hdispatched | ha
    · cases hdispatched
    cases houtcome with
    | unanswered => cases ha
    | denied _ hchecks =>
      rcases List.mem_append.mp ha with ha | ha
      · exact absurd ha hchecks.silent.no_ticketAnswer
      · cases List.mem_singleton.mp ha
    | accepted _ hchecks _ _ _ _ _ =>
      rcases List.mem_append.mp ha with ha | ha
      · exact absurd ha hchecks.silent.no_ticketAnswer
      · cases List.mem_singleton.mp ha
  · rcases List.mem_cons.mp ha with hdispatched | ha
    · cases hdispatched
    cases houtcome with
    | refused _ hchecks => exact absurd ha hchecks.silent.no_ticketAnswer
    | denied _ hchecks hfaults =>
      rcases List.mem_append.mp ha with ha | ha
      · exact absurd ha hchecks.silent.no_ticketAnswer
      · rcases List.mem_cons.mp ha with hanswer | ha
        · rw [Action.ticketAnswer.injEq] at hanswer
          obtain ⟨-, -, rfl⟩ := hanswer
          cases happroved
        · exact absurd ha hfaults.silent.no_ticketAnswer
    | @approved k voterId secret timer acts₁ hk hchecks hauthentic htimer hwindow =>
      rcases List.mem_append.mp ha with ha | ha
      · exact absurd ha hchecks.silent.no_ticketAnswer
      · simp only [List.mem_singleton, Action.ticketAnswer.injEq] at ha
        obtain ⟨rfl, rfl, rfl⟩ := ha
        change (Sessions.confirm _ voterId timer).clientTicketsMap _ = _
        rw [(Sessions.confirm_tickets _ voterId timer).1]
        exact hauthentic.ticket

/-- A step confirms the voter of a ticket. -/
structure Confirmation (env : Env) (s : CheckinService) (request : TicketRequest)
    (response : TicketResponse) (s' : CheckinService) (acts : List Action) : Prop where
  pending : s.voterStatusTable response.body.voterUniqueId = some .pending
  checkedIn : s'.voterStatusTable response.body.voterUniqueId = some .checkedIn
  bound : s'.clientTicketsMap request.body.ticket =
    some (response.body.voterUniqueId, response.body.secret)
  pin : decimal request.body.pin.toNat =
    (findVoter env.config.voterListFile response.body.voterUniqueId).pin
  signature : ∃ key, s'.clientVerifiers request.body.clientId = some key ∧
    .verified key (env.render request.body.toJson) request.signature ∈ acts

theorem next_confirms (hcoupled : s.toSessions.Coupled s.steadyNow)
    (hnext : next env s e = some (s', acts)) {request : TicketRequest}
    {response : TicketResponse} (ha : .ticketAnswer clientIp request response ∈ acts)
    (happroved : response.body.approved = true) : Confirmation env s request response s' acts := by
  have hpositive : 0 < acts.countP (Action.approvesTicket response.body.voterUniqueId) := by
    refine List.countP_pos_iff.mpr ⟨_, ha, ?_⟩
    simp only [Action.approvesTicket, happroved, beq_self_eq_true, Bool.and_self]
  obtain ⟨hpending, hchecked⟩ :=
    ((next_statuses hcoupled hnext).2 response.body.voterUniqueId).2.mp hpositive
  obtain ⟨-, s₁, hstep, rfl⟩ := next_step hnext
  have hredeems := hstep.redeems ha happroved
  exact ⟨hpending, hchecked, hstep.reveals ha happroved, hredeems.pin, hredeems.signature⟩

/-- Only an approved ticket request checks a voter in. -/
theorem next_checkedIn (hcoupled : s.toSessions.Coupled s.steadyNow)
    (hnext : next env s e = some (s', acts)) {u : UInt32}
    (hbefore : s.voterStatusTable u ≠ some .checkedIn)
    (hafter : s'.voterStatusTable u = some .checkedIn) :
    ∃ clientIp request response, .ticketAnswer clientIp request response ∈ acts ∧
      response.body.approved = true ∧ response.body.voterUniqueId = u := by
  obtain ⟨hsteps, hcount⟩ := next_statuses hcoupled hnext
  have hpending : s.voterStatusTable u = some .pending := by
    have hstep := hsteps u
    rw [hafter] at hstep
    generalize s.voterStatusTable u = old at hbefore hstep
    cases hstep with
    | same => exact absurd rfl hbefore
    | confirm => rfl
  obtain ⟨a, ha, hticket⟩ := List.countP_pos_iff.mp ((hcount u).2.mpr ⟨hpending, hafter⟩)
  cases a with
  | ticketAnswer clientIp request response =>
    simp only [Action.approvesTicket, Bool.and_eq_true, beq_iff_eq] at hticket
    exact ⟨clientIp, request, response, ha, hticket⟩
  | _ => cases hticket

end CheckinService

/-! ## The programs sign payloads only -/

theorem Codec.Lawful.encode_injective {c : Codec} (hc : c.Lawful) :
    Function.Injective c.encode := by
  intro a b hab
  have ha := hc.decode_encode a
  rw [hab, hc.decode_encode b] at ha
  exact (Except.ok.inj ha).symm

/-- The signed bytes give the payload. -/
theorem SignedPayload.signed_injective {lib : Libraries} (hc : lib.toCodec.Lawful)
    {p q : SignedPayload} {text : Bytes} (hp : p.signed lib = .ok text)
    (hq : q.signed lib = .ok text) : p = q := by
  obtain ⟨hputf8, rfl⟩ := Codec.dump_eq_ok hp
  obtain ⟨hqutf8, htext⟩ := Codec.dump_eq_ok hq
  exact SignedPayload.toJson_injective hc.encode_injective
    (hc.render_injective (plain_of_utf8 hputf8) (plain_of_utf8 hqutf8) htext)

namespace System

open VoterIDService (Attests)
open PollbookClient (Requester)
open PollbookClient.Requester (Turn)

variable {ι : Type} [DecidableEq ι] {d : Deployment ι} {m m' : System ι} {h : Happening ι}
  {o : Deeds} {key : EnvelopeKey} {text : Bytes}

/-! ### Steps of the parts -/

theorem next_inl {ev : Event ⊕ CheckinService.Reboot} (hnext : next d m (.inl ev) = some (m', o)) :
    ∃ acts, o = .inl acts ∧ nextCheckinService d m.1 ev = some (m'.1, acts) := by
  obtain ⟨r, hr, heq⟩ := Option.map_eq_some_iff.mp hnext
  cases heq
  exact ⟨r.2, rfl, hr⟩

theorem next_inr_inl {ev : VoterIDService.Event ⊕ VoterIDService.Process.Reboot}
    (hnext : next d m (.inr (.inl ev)) = some (m', o)) :
    ∃ acts, o = .inr (.inl acts) ∧ nextIdService d m.2.1 ev = some (m'.2.1, acts) := by
  obtain ⟨r, hrest, heq⟩ := Option.map_eq_some_iff.mp hnext
  obtain ⟨r', hr, rfl⟩ := Option.map_eq_some_iff.mp hrest
  cases heq
  exact ⟨r'.2, rfl, hr⟩

theorem next_inr_inr {i : ι} {ev : Turn ⊕ Empty}
    (hnext : next d m (.inr (.inr (i, ev))) = some (m', o)) :
    ∃ acts, o = .inr (.inr acts) ∧ nextClient d (m.2.2 i) ev = some (m'.2.2 i, acts) := by
  obtain ⟨r, hrest, heq⟩ := Option.map_eq_some_iff.mp hnext
  obtain ⟨r', hclients, rfl⟩ := Option.map_eq_some_iff.mp hrest
  obtain ⟨r'', hr, rfl⟩ := Option.map_eq_some_iff.mp hclients
  cases heq
  refine ⟨r''.2, rfl, hr.trans ?_⟩
  dsimp only
  rw [Function.update_self]

/-- A step of the check-in service that answers is not its last. -/
theorem next_of_answer {e : Event} {acts : List Action}
    (hnext : next d m (.inl (.inl e)) = some (m', .inl acts))
    (hanswers : ¬ CheckinService.Silent acts) :
    CheckinService.next d.env m.checkinService e = some (m'.checkinService, acts) := by
  obtain ⟨acts', heq, hmortal⟩ := next_inl hnext
  cases heq
  obtain ⟨-, ⟨hstep, -⟩ | ⟨-, hcrash, -⟩⟩ := mortal_inl hmortal
  · exact hstep
  · exact absurd (CheckinService.crash_step hcrash).silent_acts hanswers

/-- A step leaves the check-in service as it is, or is one of its own, or starts
it again. -/
theorem next_checkinService_cases (hnext : next d m h = some (m', o)) :
    m'.checkinService = m.checkinService ∨
      (∃ e acts, h = .inl (.inl e) ∧ o = .inl acts ∧
        CheckinService.next d.env m.checkinService e = some (m'.checkinService, acts)) ∨
      ∃ found, CheckinService.boot d.env found = .ok m'.checkinService := by
  rcases h with (e | r) | ev
  · obtain ⟨acts, rfl, hmortal⟩ := next_inl hnext
    obtain ⟨-, ⟨hstep, -⟩ | ⟨-, -, heq, -⟩⟩ := mortal_inl hmortal
    · exact .inr (.inl ⟨e, acts, rfl, rfl, hstep⟩)
    · exact .inl heq
  · obtain ⟨acts, rfl, hmortal⟩ := next_inl hnext
    obtain ⟨hreboot, -, -⟩ := mortal_inr hmortal
    exact .inr (.inr ⟨_, CheckinService.reboot_eq_some.mp hreboot⟩)
  · have hstill : m'.1 = m.1 := (part_checkinService d).still hnext rfl
    exact .inl (congrArg Prod.fst hstill)

/-- At each of its steps the ID service does what its handler does. -/
theorem exists_idCall {e : VoterIDService.Event} {acts : List VoterIDService.Action}
    (hnext : next d m (.inr (.inl (.inl e))) = some (m', .inr (.inl acts))) :
    ∃ call, VoterIDService.Process.step d.idEnv m.idService e = some call ∧
      call.actions = acts := by
  obtain ⟨acts', heq, hmortal⟩ := next_inr_inl hnext
  cases heq
  obtain ⟨-, ⟨hstep, -⟩ | ⟨-, hcrash, -⟩⟩ := mortal_inl hmortal
  · unfold VoterIDService.Process.next at hstep
    split at hstep
    · next s' acts' hcall =>
      cases hstep
      exact ⟨_, hcall, rfl⟩
    · cases hstep
  · unfold VoterIDService.Process.crash at hcrash
    split at hcrash
    · next trap acts' hcall =>
      cases hcrash
      exact ⟨_, hcall, rfl⟩
    · cases hcrash

/-- At each of its turns a client does what its handler does. -/
theorem exists_clientCall {i : ι} {t : Turn} {acts : List PollbookClient.Action}
    (hnext : next d m (.inr (.inr (i, .inl t))) = some (m', .inr (.inr acts))) :
    ∃ call, (m.client i).turn d.lib t = some call ∧ call.actions = acts := by
  obtain ⟨acts', heq, hmortal⟩ := next_inr_inr hnext
  cases heq
  obtain ⟨-, ⟨hstep, -⟩ | ⟨-, hcrash, -⟩⟩ := mortal_inl hmortal
  · unfold Requester.nextTurn at hstep
    split at hstep
    · next s' acts' hcall =>
      cases hstep
      exact ⟨_, hcall, rfl⟩
    · cases hstep
  · unfold Requester.crashTurn at hcrash
    split at hcrash
    · unfold Requester.crash at hcrash
      split at hcrash
      · next trap acts' hcall =>
        cases hcrash
        exact ⟨_, hcall, rfl⟩
      · cases hcrash
    · cases hcrash

/-! ### Who signed -/

/-- A program signs a payload at a step. -/
inductive SignedBy (d : Deployment ι) (m m' : System ι) :
    Happening ι → Deeds → EnvelopeKey → SignedPayload → Prop
  | checkin {e : Event} {acts : List Action} {clientIp : Endpoint} {request : CheckinRequest}
      {response : CheckinResponse} (ha : .checkinAnswer clientIp request response ∈ acts) :
      SignedBy d m m' (.inl (.inl e)) (.inl acts) d.checkinConfig.localPrivateKey
        (.checkinResponse response.body)
  | ticket {e : Event} {acts : List Action} {clientIp : Endpoint} {request : TicketRequest}
      {response : TicketResponse} (ha : .ticketAnswer clientIp request response ∈ acts) :
      SignedBy d m m' (.inl (.inl e)) (.inl acts) d.checkinConfig.localPrivateKey
        (.ticketResponse response.body)
  | idService {e : VoterIDService.Event} {acts : List VoterIDService.Action}
      {request : VoterIDRequest} {voterUniqueId : UInt32} {key : EnvelopeKey}
      (hattests : Attests d.idEnv e.io m.idService.toVoterIDService request voterUniqueId key
        acts) :
      SignedBy d m m' (.inr (.inl (.inl e))) (.inr (.inl acts)) d.idConfig.localPrivateKey
        (.idStatement request voterUniqueId)
  | client {i : ι} {t : Turn} {acts : List PollbookClient.Action} {p : SignedPayload}
      (hsigns : (m.client i).Signs d.lib acts t p) :
      SignedBy d m m' (.inr (.inr (i, .inl t))) (.inr (.inr acts)) (d.clients i).privateKeySigner p

theorem signedBy_of_signs (hnext : next d m h = some (m', o))
    (hsigns : (key, text) ∈ signs d (h, o)) :
    ∃ p : SignedPayload, p.signed d.lib = .ok text ∧ SignedBy d m m' h o key p := by
  rcases h with ev | ev | ⟨i, ev⟩
  · obtain ⟨acts, rfl, hmortal⟩ := next_inl hnext
    simp only [signs, List.mem_map, List.mem_filterMap, Prod.mk.injEq] at hsigns
    obtain ⟨text', ⟨a, ha, htext⟩, rfl, rfl⟩ := hsigns
    cases ev with
    | inr r =>
      obtain ⟨-, -, rfl⟩ := mortal_inr hmortal
      cases ha
    | inl e =>
      have hwritten (hanswers : ¬ CheckinService.Silent acts) :=
        CheckinService.next_written (next_of_answer hnext hanswers) a ha
      cases a with
      | checkinAnswer clientIp request response =>
        rw [← Option.some.inj htext]
        refine ⟨.checkinResponse response.body, d.lib.dump_of_utf8 ?_, .checkin ha⟩
        exact (hwritten fun hsilent => hsilent.no_checkinAnswer ha).2
      | ticketAnswer clientIp request response =>
        rw [← Option.some.inj htext]
        refine ⟨.ticketResponse response.body, d.lib.dump_of_utf8 ?_, .ticket ha⟩
        exact (hwritten fun hsilent => hsilent.no_ticketAnswer ha).2
      | _ => cases htext
  · obtain ⟨acts, rfl, hmortal⟩ := next_inr_inl hnext
    simp only [signs, List.mem_filterMap] at hsigns
    obtain ⟨a, ha, htext⟩ := hsigns
    cases a with
    | signed message =>
      cases htext
      cases ev with
      | inr r =>
        obtain ⟨-, -, rfl⟩ := mortal_inr hmortal
        cases ha
      | inl e =>
        obtain ⟨call, hcall, rfl⟩ := exists_idCall hnext
        obtain ⟨request, voterUniqueId, k, rfl, hattests⟩ :=
          VoterIDService.Process.step_signed hcall ha
        exact ⟨.idStatement request voterUniqueId, d.lib.dump_of_utf8 hattests.written,
          .idService hattests⟩
    | _ => cases htext
  · obtain ⟨acts, rfl, hmortal⟩ := next_inr_inr hnext
    simp only [signs, List.mem_filterMap] at hsigns
    obtain ⟨a, ha, htext⟩ := hsigns
    cases a with
    | signed message =>
      cases htext
      cases ev with
      | inr r => exact r.elim
      | inl t =>
        obtain ⟨call, hcall, rfl⟩ := exists_clientCall hnext
        obtain ⟨p, hp, hsigns⟩ := Requester.turn_signed hcall ha
        exact ⟨p, hp, .client hsigns⟩
    | _ => cases htext

omit [DecidableEq ι] in
theorem Unforgeable.past {tr post : List (Happening ι × Deeds)}
    (hunforgeable : Unforgeable d (tr ++ post)) : Unforgeable d tr := by
  intro pre x mid htr
  apply hunforgeable pre x (mid ++ post)
  rw [htr, List.append_assoc, List.cons_append]

/-- A payload is signed at a step, with the key. -/
def Signing (d : Deployment ι) (key : EnvelopeKey) (p : SignedPayload) (h : Happening ι)
    (o : Deeds) : Prop :=
  ∃ text, p.signed d.lib = .ok text ∧ (key, text) ∈ signs d (h, o)

/-- Who signed a payload that verifies. -/
theorem Unforgeable.signer {s₀ : System ι} {tr pre post : List (Happening ι × Deeds)}
    {x : Happening ι × Deeds} (hunforgeable : Unforgeable d tr) (hc : d.lib.toCodec.Lawful)
    (htr : tr = pre ++ x :: post) (hpre : Run (next d) s₀ pre m)
    (hverifies : (key, text) ∈ verifies x) (hkey : d.Holds key) {p : SignedPayload}
    (hp : p.signed d.lib = .ok text) :
    Once (next d) s₀ (fun _ m h o m' => Signing d key p h o ∧ SignedBy d m m' h o key p) pre := by
  obtain ⟨z, hz, hsigns⟩ := hunforgeable pre x post htr _ hverifies hkey
  refine Once.of_mem hpre hz fun _ k k' _ _ _ hnext => ⟨⟨text, hp, hsigns⟩, ?_⟩
  obtain ⟨q, hq, hsigned⟩ := signedBy_of_signs hnext hsigns
  rw [SignedPayload.signed_injective hc hp hq]
  exact hsigned

/-! ### The states of the parts -/

section States

variable {found : CheckinService.Found} {idFound : VoterIDService.Surroundings}
  {checkinService : CheckinService} {idService : VoterIDService.Process}
  {tr : List (Happening ι × Deeds)}

omit [DecidableEq ι] in
/-- The service starts with eligible voters. -/
theorem boot_eligible (hboot : CheckinService.boot d.env found = .ok checkinService) {v : UInt32}
    {status : VoterStatus} (hv : checkinService.voterStatusTable v = some status) :
    status = .eligible := by
  obtain ⟨keys, -, hstart⟩ := CheckinService.boot_eq_ok.mp hboot
  exact CheckinService.start_eligible hstart hv

theorem coupled_of_run (hboot : CheckinService.boot d.env found = .ok checkinService)
    (hrun : Run (next d) (opening d checkinService idService) tr m) :
    m.checkinService.toSessions.Coupled m.checkinService.steadyNow := by
  refine (hrun.part (part_checkinService d)).invariant
    (I := fun s => s.1.toSessions.Coupled s.1.steadyNow) ?_ ?_
  · obtain ⟨keys, -, hstart⟩ := CheckinService.boot_eq_ok.mp hboot
    exact CheckinService.start_coupled hstart
  · rintro ⟨s, alive⟩ ev ⟨s', alive'⟩ acts hcoupled hnext
    cases ev with
    | inl e =>
      obtain ⟨-, ⟨hstep, -⟩ | ⟨-, -, rfl, -⟩⟩ := mortal_inl hnext
      · exact CheckinService.next_coupled hcoupled hstep
      · exact hcoupled
    | inr r =>
      obtain ⟨hreboot, -, -⟩ := mortal_inr hnext
      obtain ⟨keys, -, hstart⟩ :=
        CheckinService.boot_eq_ok.mp (CheckinService.reboot_eq_some.mp hreboot)
      exact CheckinService.start_coupled hstart

/-- The roll the current process of the ID service has read. -/
def currentRoll (roll : Bytes)
    (tr : List ((VoterIDService.Event ⊕ VoterIDService.Process.Reboot) ×
      List VoterIDService.Action)) : Bytes :=
  tr.foldl (fun roll x =>
    match x.1 with
    | .inl _ => roll
    | .inr r => r.voterListFile) roll

theorem roll_of_run (hstart : VoterIDService.start d.idEnv idFound = .ok idService)
    (hrun : Run (next d) (opening d checkinService idService) tr m) :
    m.idService.voterData = VoterIDService.loadVoterDataFromCsv
      (currentRoll idFound.voterListFile (tr.filterMap idStep)) := by
  have hkept : m.2.1.1.voterData = VoterIDService.loadVoterDataFromCsv
      (currentRoll idFound.voterListFile (tr.filterMap idStep)) ∧ m.2.1.1.HasStreams := by
    refine (hrun.part (part_idService d)).history (I := fun tr s => s.1.voterData =
      VoterIDService.loadVoterDataFromCsv (currentRoll idFound.voterListFile tr) ∧
        s.1.HasStreams) ?_ ?_
    · obtain ⟨keys, -, rfl⟩ := VoterIDService.start_eq_ok hstart
      exact ⟨rfl, fun ip hread => by cases hread⟩
    · rintro tr ⟨s, alive⟩ ev ⟨s', alive'⟩ acts - ⟨hroll, hstreams⟩ hnext
      rw [currentRoll, List.foldl_append]
      cases ev with
      | inl e =>
        obtain ⟨-, ⟨hstep, -⟩ | ⟨-, -, rfl, -⟩⟩ := mortal_inl hnext
        · obtain ⟨hroll', hstreams'⟩ := (VoterIDService.Process.next_step hstep).keeps hstreams
          exact ⟨hroll'.trans hroll, hstreams'⟩
        · exact ⟨hroll, hstreams⟩
      | inr r =>
        obtain ⟨hreboot, -, -⟩ := mortal_inr hnext
        obtain ⟨keys, -, rfl⟩ :=
          VoterIDService.start_eq_ok (VoterIDService.Process.reboot_eq_some.mp hreboot)
        exact ⟨rfl, fun ip hread => by cases hread⟩
  exact hkept.1

/-- A client keeps its ID, its key and the keys it knows. -/
structure Keeps (c : PollbookClient) (s : Requester) : Prop where
  clientId : s.clientId = c.clientId
  privateKeySigner : s.privateKeySigner = c.privateKeySigner
  idServiceVerifier : s.idServiceVerifier = c.idServiceVerifier
  checkinServiceVerifier : s.checkinServiceVerifier = c.checkinServiceVerifier

omit [DecidableEq ι] in
theorem Keeps.turn {c : PollbookClient} {s s' : Requester} {t : Turn}
    {acts : List PollbookClient.Action} (hkeeps : Keeps c s)
    (hturn : s.nextTurn d.lib t = some (s', acts)) : Keeps c s' := by
  unfold Requester.nextTurn at hturn
  split at hturn
  swap
  · cases hturn
  next call =>
  cases hturn
  cases t with
  | checkInVoter now firstName middleName lastName voterIdData =>
    simp only [Requester.turn] at call
    split at call
    · have hcall := Option.some.inj call
      obtain ⟨⟨c', size⟩, acts₁, acts₂, hwriting, hpure, -⟩ := Call.bind_eq_returned.mp hcall
      obtain ⟨rfl, -⟩ := Call.pure_eq_returned.mp hpure
      obtain ⟨hcheckin, -⟩ := PollbookClient.writing_eq_returned.mp hwriting
      unfold PollbookClient.checkInVoter at hcheckin
      split at hcheckin
      · cases hcheckin
      · obtain ⟨_, _, _, -, hpure, -⟩ := Call.bind_eq_returned.mp hcheckin
        obtain ⟨rfl, -⟩ := Call.pure_eq_returned.mp hpure
        exact ⟨hkeeps.clientId, hkeeps.privateKeySigner, hkeeps.idServiceVerifier,
          hkeeps.checkinServiceVerifier⟩
    · cases call
  | verifyTicket now ticket pin =>
    simp only [Requester.turn] at call
    split at call
    · have hcall := Option.some.inj call
      obtain ⟨_, _, _, -, hpure, -⟩ := Call.bind_eq_returned.mp hcall
      obtain ⟨rfl, -⟩ := Call.pure_eq_returned.mp hpure
      exact ⟨hkeeps.clientId, hkeeps.privateKeySigner, hkeeps.idServiceVerifier,
        hkeeps.checkinServiceVerifier⟩
    · cases call
  | completed e =>
    have hstep : s.step d.lib e = some (.returned s' acts) := call
    unfold Requester.step at hstep
    obtain ⟨handled, -, hcall⟩ := Option.map_eq_some_iff.mp hstep
    cases handled with
    | threw trap acts' => cases hcall
    | returned operation acts' =>
      obtain ⟨_, _, _, -, hpure, -⟩ := Call.bind_eq_returned.mp hcall
      obtain ⟨rfl, -⟩ := Call.pure_eq_returned.mp hpure
      exact ⟨hkeeps.clientId, hkeeps.privateKeySigner, hkeeps.idServiceVerifier,
        hkeeps.checkinServiceVerifier⟩

theorem keeps_of_run (hrun : Run (next d) (opening d checkinService idService) tr m) (i : ι) :
    Keeps (d.clients i) (m.client i) := by
  refine (hrun.part (part_client d i)).invariant (I := fun s => Keeps (d.clients i) s.1) ?_ ?_
  · exact ⟨rfl, rfl, rfl, rfl⟩
  · rintro ⟨s, alive⟩ ev ⟨s', alive'⟩ acts hkeeps hnext
    cases ev with
    | inl t =>
      obtain ⟨-, ⟨hturn, -⟩ | ⟨-, -, rfl, -⟩⟩ := mortal_inl hnext
      · exact hkeeps.turn hturn
      · exact hkeeps
    | inr r => exact r.elim

end States

end System

end Pollbook
