import Pollbook.Verify.Sessions

/-!
# What an approval presupposes

A step that answers a request with an approval has checked everything the
handlers check on the way there. `Accepts` and `Redeems` collect it in the terms
of the state before the step, for the two phases of a check-in.
-/

namespace Pollbook

namespace CheckinService

variable {env : Env} {io : Io} {s s' : CheckinService} {clientIp : Endpoint}
  {acts : List Action} {occurrence : Occurrence}

/-- Signatures that verified and faults: the actions that are no answer. -/
def Silent (acts : List Action) : Prop :=
  ∀ a ∈ acts, (∀ ip request response, a ≠ .checkinAnswer ip request response) ∧
    ∀ ip request response, a ≠ .ticketAnswer ip request response

theorem Checks.silent (h : s.Checks clientIp acts) : Silent acts := by
  intro a ha
  rcases h a ha with ⟨key, message, signature, rfl⟩ | ⟨id, faultDesc, rfl, -⟩
  · exact ⟨fun _ _ _ => nofun, fun _ _ _ => nofun⟩
  · exact ⟨fun _ _ _ => nofun, fun _ _ _ => nofun⟩

theorem Silent.no_checkinAnswer (h : Silent acts) {ip : Endpoint} {request : CheckinRequest}
    {response : CheckinResponse} : .checkinAnswer ip request response ∉ acts := by
  intro ha
  exact (h _ ha).1 _ _ _ rfl

theorem Silent.no_ticketAnswer (h : Silent acts) {ip : Endpoint} {request : TicketRequest}
    {response : TicketResponse} : .ticketAnswer ip request response ∉ acts := by
  intro ha
  exact (h _ ha).2 _ _ _ rfl

/-! ## Steps that answer -/

/-- The steps that answer something are those that handle a decoded message. -/
theorem Step.answers (h : Step env io s occurrence s' acts) :
    Silent acts ∨
    (∃ clientIp clientId client json request acts',
      s.clientIdMap clientIp = some clientId ∧ s.clients clientId = some client ∧
      client.type = .untrustedClient ∧ occurrence = .lineRead clientIp ∧
      env.parse (s.line clientIp) = .ok json ∧
      CheckinRequest.fromJson env.toCodec json = .ok request ∧
      acts = .dispatched clientIp clientId client.type (s.line clientIp) :: acts' ∧
      CheckinOutcome env io (s.deliver clientIp clientId) clientIp request s' acts') ∨
    ∃ clientIp clientId client json request acts',
      s.clientIdMap clientIp = some clientId ∧ s.clients clientId = some client ∧
      client.type = .trustedClient ∧ occurrence = .lineRead clientIp ∧
      env.parse (s.line clientIp) = .ok json ∧
      TicketRequest.fromJson env.toCodec json = .ok request ∧
      acts = .dispatched clientIp clientId client.type (s.line clientIp) :: acts' ∧
      TicketOutcome env io (s.deliver clientIp clientId).readFromCsv clientIp request s' acts' := by
  cases h with
  | accepted | acceptFailed | uncertified | received | sizeRead | disconnected | timerExpired
  | timedOut | waitAborted | signed =>
    apply Or.inl
    intro a ha
    cases ha
  | handshakeFailed | mismatch | payloadLost | unknownIp | unknownId =>
    apply Or.inl
    intro a ha
    rw [List.mem_singleton.mp ha]
    exact ⟨fun _ _ _ => nofun, fun _ _ _ => nofun⟩
  | certified _ _ _ _ hacts =>
    apply Or.inl
    intro a ha
    obtain ⟨faultDesc, rfl⟩ := hacts a ha
    exact ⟨fun _ _ _ => nofun, fun _ _ _ => nofun⟩
  | undecoded _ _ _ _ hchecks =>
    apply Or.inl
    intro a ha
    rcases List.mem_cons.mp ha with rfl | ha
    · exact ⟨fun _ _ _ => nofun, fun _ _ _ => nofun⟩
    · exact hchecks.silent a ha
  | checkinRequest _ hid hclient htype hparse hrequest houtcome =>
    exact .inr (.inl ⟨_, _, _, _, _, _, hid, hclient, htype, rfl, hparse, hrequest, rfl,
      houtcome⟩)
  | ticketRequest _ hid hclient htype hparse hrequest houtcome =>
    exact .inr (.inr ⟨_, _, _, _, _, _, hid, hclient, htype, rfl, hparse, hrequest, rfl,
      houtcome⟩)

/-! ## Accepting a check-in request -/

/-- A step accepts a check-in request that came in on `clientIp`. -/
structure Accepts (env : Env) (io : Io) (s : CheckinService) (clientIp : Endpoint)
    (request : CheckinRequest) (ticket : Bytes) (s' : CheckinService) (acts : List Action) :
    Prop where
  identity : s.clientIdMap clientIp = some request.body.clientIdNum
  client : ∃ info, s.clients request.body.clientIdNum = some info ∧
    info.type = .untrustedClient
  keeps : s.toKeys.Keeps s'.toKeys
  validated : Validated env s'.toKeys request io.systemNow acts
  eligible : s.voterStatusTable request.body.voterUniqueId = some .eligible
  fresh : ∃ t : Vector UInt8 16, io.ticketRandom = some t ∧ ticket = hex t.toList
  sessions : ∃ secret, s'.toSessions = s.toSessions.accept request.body.voterUniqueId
    (io.steadyNow + minutes env.config.timeoutInterval) ticket secret io.csvOpens

theorem Validated.mono {k : Keys} {request : CheckinRequest} {now : UInt64}
    (h : Validated env k request now acts) {acts' : List Action} (hsub : acts ⊆ acts') :
    Validated env k request now acts' := by
  obtain ⟨key, hkey, hverified⟩ := h.client
  exact ⟨⟨key, hkey, hsub hverified⟩, hsub h.idService, h.voter, h.fresh⟩

theorem Step.accepts (h : Step env io s occurrence s' acts) {request : CheckinRequest}
    {response : CheckinResponse} (ha : .checkinAnswer clientIp request response ∈ acts)
    (happroved : response.body.approved = true) :
    Accepts env io s clientIp request response.body.ticket s' acts ∧
      response.body.voterUniqueId = request.body.voterUniqueId ∧
      occurrence = .lineRead clientIp := by
  rcases h.answers with hsilent |
    ⟨ip, clientId, info, json, request', acts', hid, hclient, htype, rfl, -, -, rfl, houtcome⟩ |
    ⟨ip, clientId, info, json, request', acts', -, -, -, rfl, -, -, rfl, houtcome⟩
  · exact absurd ha hsilent.no_checkinAnswer
  · rcases List.mem_cons.mp ha with hdispatched | ha
    · cases hdispatched
    cases houtcome with
    | unanswered => cases ha
    | denied _ hchecks =>
      rcases List.mem_append.mp ha with ha | ha
      · exact absurd ha hchecks.silent.no_checkinAnswer
      · simp only [List.mem_singleton, Action.checkinAnswer.injEq] at ha
        obtain ⟨-, -, rfl⟩ := ha
        cases happroved
    | @accepted k acts₁ t sec hk hchecks hidentity hvalid heligible hticket hsecret =>
      rcases List.mem_append.mp ha with ha | ha
      · exact absurd ha hchecks.silent.no_checkinAnswer
      · simp only [List.mem_singleton, Action.checkinAnswer.injEq] at ha
        obtain ⟨rfl, rfl, rfl⟩ := ha
        have hidentity : clientId = request.body.clientIdNum := by
          change request.body.clientIdNum = (s.clientIdMap clientIp).getD 0 at hidentity
          rw [hid, Option.getD_some] at hidentity
          exact hidentity.symm
        subst hidentity
        refine ⟨⟨hid, ⟨info, hclient, htype⟩, hk, hvalid.mono fun a ha => ?_, heligible,
          ⟨t, hticket, rfl⟩, ⟨hex sec.toList, rfl⟩⟩, rfl, rfl⟩
        exact List.mem_cons_of_mem _ (List.mem_append_left _ ha)
  · rcases List.mem_cons.mp ha with hdispatched | ha
    · cases hdispatched
    cases houtcome with
    | refused _ hchecks => exact absurd ha hchecks.silent.no_checkinAnswer
    | denied _ hchecks hfaults =>
      rcases List.mem_append.mp ha with ha | ha
      · exact absurd ha hchecks.silent.no_checkinAnswer
      · rcases List.mem_cons.mp ha with hanswer | ha
        · cases hanswer
        · exact absurd ha hfaults.silent.no_checkinAnswer
    | approved _ hchecks _ _ _ =>
      rcases List.mem_append.mp ha with ha | ha
      · exact absurd ha hchecks.silent.no_checkinAnswer
      · cases List.mem_singleton.mp ha

/-! ## Redeeming a ticket -/

/-- A step hands a ticket request to the handler of trusted clients. -/
def Presents (env : Env) (acts : List Action) (request : TicketRequest) : Prop :=
  ∃ clientIp clientId msgString json,
    .dispatched clientIp clientId .trustedClient msgString ∈ acts ∧
    env.parse msgString = .ok json ∧ TicketRequest.fromJson env.toCodec json = .ok request

/-- A step redeems the ticket of a request that came in on `clientIp`, for the
voter it is bound to. -/
structure Redeems (env : Env) (io : Io) (s : CheckinService) (clientIp : Endpoint)
    (request : TicketRequest) (voterId : UInt32) (s' : CheckinService) (acts : List Action) :
    Prop where
  presented : Presents env acts request
  identity : s.clientIdMap clientIp = some request.body.clientId
  client : ∃ info, s.clients request.body.clientId = some info ∧ info.type = .trustedClient
  keeps : s.toKeys.Keeps s'.toKeys
  signature : ∃ key, s'.clientVerifiers request.body.clientId = some key ∧
    .verified key (env.render request.body.toJson) request.signature ∈ acts
  ticket : ∃ secret,
    s.toSessions.readFromCsv.clientTicketsMap request.body.ticket = some (voterId, secret)
  pin : decimal request.body.pin.toNat = (findVoter env.config.voterListFile voterId).pin
  sessions : ∃ timer, s.requestTimers voterId = some timer ∧
    withinWindow env.config timer io.steadyNow = true ∧
    s'.toSessions = s.toSessions.readFromCsv.confirm voterId timer

theorem Step.redeems (h : Step env io s occurrence s' acts) {request : TicketRequest}
    {response : TicketResponse} (ha : .ticketAnswer clientIp request response ∈ acts)
    (happroved : response.body.approved = true) :
    Redeems env io s clientIp request response.body.voterUniqueId s' acts := by
  rcases h.answers with hsilent |
    ⟨ip, clientId, info, json, request', acts', -, -, -, rfl, -, -, rfl, houtcome⟩ |
    ⟨ip, clientId, info, json, request', acts', hid, hclient, htype, rfl, hparse, hrequest, rfl,
      houtcome⟩
  · exact absurd ha hsilent.no_ticketAnswer
  · rcases List.mem_cons.mp ha with hdispatched | ha
    · cases hdispatched
    cases houtcome with
    | unanswered => cases ha
    | denied _ hchecks =>
      rcases List.mem_append.mp ha with ha | ha
      · exact absurd ha hchecks.silent.no_ticketAnswer
      · cases List.mem_singleton.mp ha
    | accepted _ hchecks _ _ _ _ _ =>
      rcases List.mem_append.mp ha with ha | ha
      · exact absurd ha hchecks.silent.no_ticketAnswer
      · cases List.mem_singleton.mp ha
  · rcases List.mem_cons.mp ha with hdispatched | ha
    · cases hdispatched
    cases houtcome with
    | refused _ hchecks => exact absurd ha hchecks.silent.no_ticketAnswer
    | denied _ hchecks hfaults =>
      rcases List.mem_append.mp ha with ha | ha
      · exact absurd ha hchecks.silent.no_ticketAnswer
      · rcases List.mem_cons.mp ha with hanswer | ha
        · rw [Action.ticketAnswer.injEq] at hanswer
          obtain ⟨-, -, rfl⟩ := hanswer
          cases happroved
        · exact absurd ha hfaults.silent.no_ticketAnswer
    | @approved k voterId secret timer acts₁ hk hchecks hauthentic htimer hwindow =>
      rcases List.mem_append.mp ha with ha | ha
      · exact absurd ha hchecks.silent.no_ticketAnswer
      · simp only [List.mem_singleton, Action.ticketAnswer.injEq] at ha
        obtain ⟨rfl, rfl, rfl⟩ := ha
        have hidentity : clientId = request.body.clientId := by
          have hidentity := hauthentic.identity
          change request.body.clientId = (s.clientIdMap clientIp).getD 0 at hidentity
          rw [hid, Option.getD_some] at hidentity
          exact hidentity.symm
        subst hidentity
        obtain ⟨key, hkey, hverified⟩ := hauthentic.client
        have htimer : s.toSessions.readFromCsv.requestTimers voterId = some timer := htimer
        rw [Sessions.readFromCsv_requestTimers] at htimer
        refine ⟨⟨clientIp, request.body.clientId, s.line clientIp, json, ?_, hparse, hrequest⟩,
          hid, ⟨info, hclient, htype⟩, hk,
          ⟨key, hkey, List.mem_cons_of_mem _ (List.mem_append_left _ hverified)⟩,
          ⟨secret, hauthentic.ticket⟩, hauthentic.pin, ⟨timer, htimer, hwindow, rfl⟩⟩
        rw [← htype]
        exact List.mem_cons_self

/-! ## From the change of the sessions to the answer -/

/-- A voter a step admits was named in an accepted request. -/
theorem exists_checkinAnswer {u : UInt32} {ticket : Bytes}
    (h : (u, ticket) ∈ acts.filterMap Action.admitted) :
    ∃ clientIp request response, .checkinAnswer clientIp request response ∈ acts ∧
      response.body.approved = true ∧ response.body.voterUniqueId = u ∧
      response.body.ticket = ticket := by
  obtain ⟨a, ha, hadmitted⟩ := List.mem_filterMap.mp h
  cases a with
  | checkinAnswer clientIp request response =>
    simp only [Action.admitted, Option.ite_none_right_eq_some, Option.some.injEq,
      Prod.mk.injEq] at hadmitted
    obtain ⟨happroved, hvoter, hticket⟩ := hadmitted
    exact ⟨clientIp, request, response, ha, happroved, hvoter, hticket⟩
  | _ => cases hadmitted

/-- A voter a step checks in was bound to the ticket of an approved request. -/
theorem exists_ticketAnswer {u : UInt32} {ticket : Bytes}
    (h : (u, ticket) ∈ acts.filterMap Action.redeemed) :
    ∃ clientIp request response, .ticketAnswer clientIp request response ∈ acts ∧
      response.body.approved = true ∧ response.body.voterUniqueId = u ∧
      request.body.ticket = ticket := by
  obtain ⟨a, ha, hredeemed⟩ := List.mem_filterMap.mp h
  cases a with
  | ticketAnswer clientIp request response =>
    simp only [Action.redeemed, Option.ite_none_right_eq_some, Option.some.injEq,
      Prod.mk.injEq] at hredeemed
    obtain ⟨happroved, hvoter, hticket⟩ := hredeemed
    exact ⟨clientIp, request, response, ha, happroved, hvoter, hticket⟩
  | _ => cases hredeemed

end CheckinService

end Pollbook
