import Pollbook.Verify.Framing
import Pollbook.Verify.Survival

/-!
# What the service decides

Every message the service has handled was decided by the checks of its handler
and by nothing else. A check-in request is approved just when it is
`Acceptable`, and denied otherwise; without a word stays only a request of the
own client for which there is no key (`checkin_requests_are_decided`). A ticket
request is answered just when it is `Proven`, and approved just when its PIN is
right and its voter's window open, too (`ticket_requests_are_decided`).
-/

namespace Pollbook

/-- An answer to a check-in request, with the request. -/
def Action.checkinReply : Action → Option (Endpoint × CheckinRequest × CheckinResponse)
  | .checkinAnswer clientIp request response => some (clientIp, request, response)
  | _ => none

/-- An answer to a ticket request, with the request. -/
def Action.ticketReply : Action → Option (Endpoint × TicketRequest × TicketResponse)
  | .ticketAnswer clientIp request response => some (clientIp, request, response)
  | _ => none

namespace CheckinService

variable {env : Env} {io : Io} {s s' : CheckinService} {clientIp : Endpoint} {clientId : UInt32}
  {acts : List Action} {e : Event} {n : UInt64}

theorem Checks.checkinReply (h : s.Checks clientIp acts) :
    acts.filterMap Action.checkinReply = [] := by
  rw [List.filterMap_eq_nil_iff]
  intro a ha
  obtain ⟨_, _, _, rfl⟩ | ⟨_, _, rfl, -⟩ := h a ha <;> rfl

theorem Checks.ticketReply (h : s.Checks clientIp acts) :
    acts.filterMap Action.ticketReply = [] := by
  rw [List.filterMap_eq_nil_iff]
  intro a ha
  obtain ⟨_, _, _, rfl⟩ | ⟨_, _, rfl, -⟩ := h a ha <;> rfl

/-! ## Check-in requests -/

/-- A check-in request of the client `clientId` that passes every check. -/
structure Acceptable (env : Env) (io : Io) (s : CheckinService) (clientId : UInt32)
    (request : CheckinRequest) : Prop where
  own : request.body.clientIdNum = clientId
  valid : ∃ key, keyOf env s.toKeys clientId = some key ∧ Valid env key request io.systemNow
  eligible : s.voterStatusTable request.body.voterUniqueId = some .eligible

/-- A request of the client's own for which there is no key. -/
def Unheard (env : Env) (s : CheckinService) (clientId : UInt32) (request : CheckinRequest) :
    Prop :=
  request.body.clientIdNum = clientId ∧ keyOf env s.toKeys clientId = none

/-- How a check-in request ends: `accept` and `ticket` are what its answer says. -/
structure CheckinDecided (env : Env) (io : Io) (s : CheckinService) (clientId : UInt32)
    (request : CheckinRequest) (accept : Bool) (ticket : Bytes) : Prop where
  accept_iff : accept = true ↔ Acceptable env io s clientId request
  approved : accept = true → ∃ t, io.ticketRandom = some t ∧ ticket = hex t.toList
  denied : accept = false → ticket = []

theorem handleCheckinRequest_decides (hc : env.toCodec.Lawful) {request : CheckinRequest}
    (h : s.handleCheckinRequest env io clientIp request = .returned s' acts) :
    (Unheard env s ((s.clientIdMap clientIp).getD 0) request ∧ s' = s ∧ acts = []) ∨
      ¬ Unheard env s ((s.clientIdMap clientIp).getD 0) request ∧
      ∃ accept ticket checks,
        CheckinDecided env io s ((s.clientIdMap clientIp).getD 0) request accept ticket ∧
        s.Checks clientIp checks ∧
        acts = checks ++ [.checkinAnswer clientIp request
          (env.signCheckinResponse (checkinResponseBody io request accept ticket))] := by
  obtain ⟨text, hdump⟩ := dump_of_handleCheckinRequest ⟨s', acts, h⟩
  have hutf8 : request.body.Utf8 := CheckinRequest.Body.utf8_of_toJson (Codec.dump_eq_ok hdump).1
  unfold handleCheckinRequest at h
  by_cases hid : request.body.clientIdNum = (s.clientIdMap clientIp).getD 0
  · simp only [hid, beq_self_eq_true, Bool.not_true, Bool.false_eq_true, if_false,
      Call.bind_eq_returned, Call.ofCpp_eq_returned] at h
    obtain ⟨_, _, _, ⟨-, rfl⟩, ⟨_, _, _, ⟨-, rfl⟩, h, rfl⟩, rfl⟩ := h
    rw [← hid] at h ⊢
    cases hkey : keyOf env s.toKeys request.body.clientIdNum with
    | none =>
      rw [ensureVerifier_none hkey] at h
      obtain ⟨rfl, rfl⟩ := Call.pure_eq_returned.mp h
      exact .inl ⟨⟨rfl, hkey⟩, rfl, rfl⟩
    | some key =>
      right
      refine ⟨fun hunheard => ?_, ?_⟩
      · have hnone := hunheard.2
        rw [hkey] at hnone
        cases hnone
      obtain ⟨k, hensure, hverifier⟩ := ensureVerifier_some hkey
      rw [hensure] at h
      dsimp only at h
      rw [Call.bind_eq_returned] at h
      obtain ⟨valid, checks, _, hvalid, h, rfl⟩ := h
      obtain ⟨hchecks, -⟩ := validateClientRequest_returned clientIp hvalid
      -- the verdict of `validate_client_request`
      have hverdict : valid = true ↔ Valid env key request io.systemNow := by
        obtain ⟨-, hnot⟩ | ⟨-, valid', checks', hreturned, hiff⟩ :=
          validateClientRequest_cases (s := { s with toKeys := k }) hc io.systemNow hutf8 hverifier
        · exact absurd ⟨valid, checks, hvalid⟩ hnot
        · rw [hvalid, Call.returned.injEq] at hreturned
          rw [hreturned.1]
          exact hiff
      have hacceptable : Acceptable env io s request.body.clientIdNum request ↔ valid = true ∧
          s.voterStatusTable request.body.voterUniqueId = some .eligible := by
        constructor
        · intro hacceptable
          obtain ⟨key', hkey', hpasses⟩ := hacceptable.valid
          rw [hkey, Option.some.injEq] at hkey'
          subst hkey'
          exact ⟨hverdict.mpr hpasses, hacceptable.eligible⟩
        · rintro ⟨hpasses, heligible⟩
          exact ⟨rfl, ⟨key, hkey, hverdict.mp hpasses⟩, heligible⟩
      split at h
      · next hcond =>
        rw [Bool.and_eq_true, beq_iff_eq] at hcond
        rw [Call.bind_eq_returned] at h
        obtain ⟨_, _, _, hissue, h, rfl⟩ := h
        obtain ⟨t, sec, ht, -, rfl, rfl⟩ := issueTicket_makePending_returned.mp hissue
        obtain ⟨-, rfl, rfl⟩ := answerCheckin_returned.mp h
        refine ⟨true, hex t.toList, checks, ⟨?_, fun _ => ⟨t, ht, rfl⟩, Bool.noConfusion⟩, hchecks,
          rfl⟩
        exact iff_of_true rfl (hacceptable.mpr hcond)
      · next hcond =>
        rw [Bool.and_eq_true, beq_iff_eq] at hcond
        obtain ⟨-, rfl, rfl⟩ := answerCheckin_returned.mp h
        refine ⟨false, [], checks, ⟨?_, Bool.noConfusion, fun _ => rfl⟩, hchecks, rfl⟩
        exact iff_of_false Bool.false_ne_true fun hyes => hcond (hacceptable.mp hyes)
  · have hbeq : (request.body.clientIdNum == (s.clientIdMap clientIp).getD 0) = false := by
      simpa using hid
    simp only [hbeq, Bool.not_false, if_true, Call.bind_eq_returned, Call.ofCpp_eq_returned,
      Call.perform_eq_returned] at h
    obtain ⟨_, _, _, rfl, ⟨_, _, _, ⟨-, rfl⟩, ⟨_, _, _, ⟨-, rfl⟩, h, rfl⟩, rfl⟩, rfl⟩ := h
    obtain ⟨-, rfl, rfl⟩ := answerCheckin_returned.mp h
    refine .inr ⟨fun hunheard => hid hunheard.1, false, [], [_],
      ⟨?_, Bool.noConfusion, fun _ => rfl⟩, .fault _ (.inr rfl), rfl⟩
    exact iff_of_false Bool.false_ne_true fun hyes => hid hyes.own

theorem Arrived.atTime (h : s.Arrived clientIp n) (now : Int) :
    (s.atTime now).Arrived clientIp n :=
  ⟨⟨h.outstanding, h.complete⟩, h.size⟩

/-- The service has handled the check-in request it read. -/
theorem next_checkin_request (hserves : s.Serves clientIp clientId)
    (harrived : s.Arrived clientIp n) {request : CheckinRequest}
    (hdecodes : Decodes env (s.line clientIp) request) (hocc : e.occurrence = .lineRead clientIp)
    (hnext : next env s e = some (s', acts)) :
    ∃ s₁ acts₁, ((s.atTime e.io.steadyNow).deliver clientIp clientId).handleCheckinRequest env e.io
        clientIp request = .returned s₁ acts₁ ∧
      acts = .dispatched clientIp clientId .untrustedClient (s.line clientIp) :: acts₁ ∧
      s' = s₁.charge acts := by
  obtain ⟨s₁, hhandle, rfl⟩ := next_handle hnext
  have hserves' : (s.atTime e.io.steadyNow).Serves clientIp clientId :=
    ⟨hserves.id, hserves.client⟩
  rw [hocc, handle_message hserves' (harrived.atTime _), Option.some.injEq,
    Call.after_eq_returned] at hhandle
  obtain ⟨acts₁, hreturned, rfl⟩ := hhandle
  obtain ⟨json, hparse, hrequest⟩ := hdecodes
  have hline : (s.atTime e.io.steadyNow).line clientIp = s.line clientIp := rfl
  unfold handleUntrustedClient at hreturned
  rw [hline, hparse, Call.ofCpp_ok, Call.returned_bind, Call.after_nil, hrequest,
    Call.ofCpp_ok, Call.returned_bind, Call.after_nil] at hreturned
  exact ⟨s₁, acts₁, hreturned, rfl, rfl⟩

/-- **Check-in requests.** A check-in request that the service has handled is
answered once, with an approval and a ticket just when it is acceptable; there
is no answer only to a request of the client's own without a key. -/
theorem checkin_requests_are_decided (hc : env.toCodec.Lawful)
    (hserves : s.Serves clientIp clientId) (harrived : s.Arrived clientIp n)
    {request : CheckinRequest} (hdecodes : Decodes env (s.line clientIp) request)
    (hocc : e.occurrence = .lineRead clientIp) (hnext : next env s e = some (s', acts)) :
    (Unheard env s clientId request ∧ acts.filterMap Action.checkinReply = []) ∨
      ¬ Unheard env s clientId request ∧
      ∃ accept ticket, CheckinDecided env e.io s clientId request accept ticket ∧
        acts.filterMap Action.checkinReply = [(clientIp, request,
          env.signCheckinResponse (checkinResponseBody e.io request accept ticket))] := by
  obtain ⟨s₁, acts₁, hhandled, rfl, -⟩ :=
    next_checkin_request hserves harrived hdecodes hocc hnext
  have hid : (((s.atTime e.io.steadyNow).deliver clientIp clientId).clientIdMap clientIp).getD 0 =
      clientId := by
    change (s.clientIdMap clientIp).getD 0 = clientId
    rw [hserves.id, Option.getD_some]
  have hdecides := handleCheckinRequest_decides hc hhandled
  rw [hid] at hdecides
  rw [List.filterMap_cons_none rfl]
  obtain ⟨hunheard, -, rfl⟩ | ⟨hheard, accept, ticket, checks, hdecided, hchecks, rfl⟩ := hdecides
  · exact .inl ⟨hunheard, rfl⟩
  · refine .inr ⟨hheard, accept, ticket, ⟨?_, hdecided.approved, hdecided.denied⟩, ?_⟩
    · rw [hdecided.accept_iff]
      exact ⟨fun h => ⟨h.own, h.valid, h.eligible⟩, fun h => ⟨h.own, h.valid, h.eligible⟩⟩
    · rw [List.filterMap_append, hchecks.checkinReply]
      rfl

/-! ## Ticket requests -/

/-- A ticket request of the client `clientId` that has a ticket of `voterId`, the
client's signature and a fresh timestamp. -/
structure Proven (env : Env) (io : Io) (s : CheckinService) (clientId : UInt32)
    (request : TicketRequest) (voterId : UInt32) (secret : Bytes) : Prop where
  own : request.body.clientId = clientId
  ticket : s.clientTicketsMap request.body.ticket = some (voterId, secret)
  signed : ∃ key, keyOf env s.toKeys clientId = some key ∧
    env.verify key (env.render request.body.toJson) request.signature = .ok true
  fresh : stale env.config.requestFreshnessInterval io.systemNow request.body.timestamp = false

/-- The PIN is the voter's, and the voter's window is open. -/
def Confirms (env : Env) (io : Io) (s : Sessions) (request : TicketRequest) (voterId : UInt32) :
    Prop :=
  decimal request.body.pin.toNat = (findVoter env.config.voterListFile voterId).pin ∧
    Redeemable env io s voterId

theorem redeemTicket_decides {request : TicketRequest} {voterId : UInt32} {secret : Bytes}
    (h : s.redeemTicket env io clientIp request clientId voterId secret = .returned s' acts) :
    ∃ accept, (accept = true ↔ Redeemable env io s.toSessions voterId) ∧
      acts.filterMap Action.ticketReply = [(clientIp, request,
        if accept then ticketApproval env request voterId secret
        else ticketDenial env request voterId)] := by
  unfold redeemTicket at h
  cases htimer : s.requestTimers voterId with
  | none =>
    simp only [htimer, Call.bind_eq_returned, Call.perform_eq_returned,
      sendTicketResponse_returned, rejectWith_returned] at h
    obtain ⟨_, _, _, rfl, ⟨_, _, _, ⟨-, rfl⟩, ⟨_, _, _, rfl, ⟨rfl, rfl⟩, rfl⟩, rfl⟩, rfl⟩ := h
    refine ⟨false, iff_of_false Bool.false_ne_true ?_, rfl⟩
    rintro ⟨timer, hsome, -⟩
    rw [htimer] at hsome
    cases hsome
  | some timer =>
    simp only [htimer] at h
    split at h
    · next hwindow =>
      simp only [Call.bind_eq_returned, sendTicketResponse_returned, Call.pure_eq_returned] at h
      obtain ⟨_, _, _, ⟨-, rfl⟩, ⟨rfl, rfl⟩, rfl⟩ := h
      exact ⟨true, iff_of_true rfl ⟨timer, htimer, hwindow⟩, rfl⟩
    · next hwindow =>
      simp only [Call.bind_eq_returned, Call.perform_eq_returned, sendTicketResponse_returned,
        rejectWith_returned] at h
      obtain ⟨_, _, _, rfl, ⟨_, _, _, ⟨-, rfl⟩, ⟨rfl, rfl⟩, rfl⟩, rfl⟩ := h
      refine ⟨false, iff_of_false Bool.false_ne_true ?_, rfl⟩
      rintro ⟨timer', hsome, hopen⟩
      rw [htimer, Option.some.injEq] at hsome
      exact hwindow (hsome ▸ hopen)

/-- How a ticket request ends: it is answered just when it is proven. -/
inductive TicketDecided (env : Env) (io : Io) (s : CheckinService) (clientIp : Endpoint)
    (clientId : UInt32) (request : TicketRequest) :
    List (Endpoint × TicketRequest × TicketResponse) → Prop
  | unanswered (hnone : ∀ voterId secret, ¬ Proven env io s clientId request voterId secret) :
      TicketDecided env io s clientIp clientId request []
  | approved {voterId : UInt32} {secret : Bytes}
      (hproven : Proven env io s clientId request voterId secret)
      (hconfirms : Confirms env io s.toSessions request voterId) :
      TicketDecided env io s clientIp clientId request
        [(clientIp, request, ticketApproval env request voterId secret)]
  | denied {voterId : UInt32} {secret : Bytes}
      (hproven : Proven env io s clientId request voterId secret)
      (hconfirms : ¬ Confirms env io s.toSessions request voterId) :
      TicketDecided env io s clientIp clientId request
        [(clientIp, request, ticketDenial env request voterId)]

theorem handleTicketRequest_decides {request : TicketRequest}
    (h : s.handleTicketRequest env io clientIp request = .returned s' acts) :
    TicketDecided env io s clientIp ((s.clientIdMap clientIp).getD 0) request
      (acts.filterMap Action.ticketReply) := by
  -- a rejection without an answer
  have hreject {s₁ : CheckinService} {faultDesc : String} {acts₁ : List Action}
      (hnone : ∀ voterId secret,
        ¬ Proven env io s ((s.clientIdMap clientIp).getD 0) request voterId secret)
      {checks : List Action} (hchecks : s.Checks clientIp checks)
      (h : s₁.rejectWith ((s.clientIdMap clientIp).getD 0) faultDesc = .returned s' acts₁) :
      TicketDecided env io s clientIp ((s.clientIdMap clientIp).getD 0) request
        ((checks ++ acts₁).filterMap Action.ticketReply) := by
    obtain ⟨-, rfl⟩ := rejectWith_returned.mp h
    rw [List.filterMap_append, hchecks.ticketReply]
    exact .unanswered hnone
  unfold handleTicketRequest at h
  dsimp only at h
  by_cases hid : request.body.clientId = (s.clientIdMap clientIp).getD 0
  swap
  · rw [if_pos hid] at h
    exact hreject (fun _ _ hproven => hid hproven.own) .nil h
  rw [if_neg (not_not.mpr hid)] at h
  cases hticket : s.clientTicketsMap request.body.ticket with
  | none =>
    rw [hticket] at h
    refine hreject (fun _ _ hproven => ?_) .nil h
    rw [hproven.ticket] at hticket
    cases hticket
  | some bound =>
  obtain ⟨voterId, secret⟩ := bound
  rw [hticket] at h
  dsimp only at h
  cases hkey : keyOf env s.toKeys request.body.clientId with
  | none =>
    rw [ensureVerifier_none hkey] at h
    refine hreject (fun _ _ hproven => ?_) .nil h
    obtain ⟨key, hsome, -⟩ := hproven.signed
    rw [← hid, hkey] at hsome
    cases hsome
  | some key =>
  obtain ⟨k, hensure, hverifier⟩ := ensureVerifier_some hkey
  rw [hensure] at h
  simp only [Call.bind_eq_returned, Call.ofCpp_eq_returned, mapAt_eq_ok] at h
  obtain ⟨_, _, _, ⟨hbody, rfl⟩, ⟨key', _, _, ⟨hkey', rfl⟩, ⟨valid, checks, _, hvalid, h, rfl⟩,
    rfl⟩, rfl⟩ := h
  obtain ⟨-, rfl⟩ := Codec.dump_eq_ok hbody
  rw [hverifier, Option.some.injEq] at hkey'
  subst hkey'
  have hchecks : s.Checks clientIp checks := .verifyBytes hvalid
  obtain ⟨hverify, -⟩ := verifyBytes_returned.mp hvalid
  simp only [List.nil_append]
  cases valid with
  | false =>
    rw [Bool.not_false, if_pos rfl] at h
    refine hreject (fun _ _ hproven => ?_) hchecks h
    obtain ⟨key', hsome, htrue⟩ := hproven.signed
    rw [← hid, hkey, Option.some.injEq] at hsome
    rw [← hsome, hverify] at htrue
    cases htrue
  | true =>
  rw [Bool.not_true, if_neg Bool.false_ne_true] at h
  by_cases hstale : stale env.config.requestFreshnessInterval io.systemNow
      request.body.timestamp = true
  · rw [if_pos hstale] at h
    refine hreject (fun _ _ hproven => ?_) hchecks h
    rw [hproven.fresh] at hstale
    cases hstale
  rw [if_neg hstale] at h
  have hproven : Proven env io s ((s.clientIdMap clientIp).getD 0) request voterId secret :=
    ⟨hid, hticket, ⟨key, hid ▸ hkey, hverify⟩, Bool.not_eq_true _ ▸ hstale⟩
  rw [List.filterMap_append, hchecks.ticketReply, List.nil_append]
  by_cases hpin : decimal request.body.pin.toNat = (findVoter env.config.voterListFile voterId).pin
  · rw [if_neg (not_not.mpr hpin)] at h
    obtain ⟨accept, hopen, hreply⟩ := redeemTicket_decides h
    rw [hreply]
    cases accept with
    | true => exact .approved hproven ⟨hpin, hopen.mp rfl⟩
    | false =>
      refine .denied hproven fun hconfirms => ?_
      exact Bool.false_ne_true (hopen.mpr hconfirms.2)
  · rw [if_pos hpin, Call.bind_eq_returned] at h
    obtain ⟨_, _, _, hsend, hreturn, rfl⟩ := h
    obtain ⟨-, rfl⟩ := Call.pure_eq_returned.mp hreturn
    obtain ⟨-, rfl⟩ := sendTicketResponse_returned.mp hsend
    exact .denied hproven fun hconfirms => hpin hconfirms.1

/-- The endpoint belongs to a trusted client. -/
structure Trusts (s : CheckinService) (clientIp : Endpoint) (clientId : UInt32) : Prop where
  id : s.clientIdMap clientIp = some clientId
  client : ∃ client, s.clients clientId = some client ∧ client.type = .trustedClient

/-- `handle_message` for a trusted client. -/
theorem handle_trusted_message (htrusts : s.Trusts clientIp clientId)
    (harrived : s.Arrived clientIp n) :
    handle env io s (.lineRead clientIp) =
      some (((s.deliver clientIp clientId).handleTrustedClient env io (s.line clientIp)
        clientIp).after [.dispatched clientIp clientId .trustedClient (s.line clientIp)]) := by
  obtain ⟨hid, client, hclient, htype⟩ := htrusts
  have hcomplete : newline ∈ s.unread clientIp := harrived.complete
  simp only [handle, harrived.outstanding, if_pos hcomplete]
  have hsize : n.toNat = (firstLine (s.unread clientIp)).length - 1 := harrived.size
  have hid' : ((s.finishRead clientIp).consume clientIp
      (firstLine (s.unread clientIp)).length).clientIdMap clientIp = some clientId := hid
  rw [payloadRead, if_pos hsize, dispatch, hid']
  dsimp only
  have hclient' : { (s.finishRead clientIp).consume clientIp
      (firstLine (s.unread clientIp)).length with clientId := clientId }.clients clientId =
        some client := hclient
  rw [hclient']
  dsimp only
  rw [Call.perform_eq, Call.returned_bind, htype]
  rfl

/-- **Ticket requests.** A ticket request that the service has handled, after it
has read the ticket file, is answered once if it is proven and not at all
otherwise; the answer is an approval with the ticket's secret just when it also
confirms its voter. -/
theorem ticket_requests_are_decided (htrusts : s.Trusts clientIp clientId)
    (harrived : s.Arrived clientIp n) {json : Json} {request : TicketRequest}
    (hparse : env.parse (s.line clientIp) = .ok json)
    (hdecodes : TicketRequest.fromJson env.toCodec json = .ok request)
    (hocc : e.occurrence = .lineRead clientIp) (hnext : next env s e = some (s', acts)) :
    TicketDecided env e.io s.readFromCsv clientIp clientId request
      (acts.filterMap Action.ticketReply) := by
  obtain ⟨s₁, hhandle, -⟩ := next_handle hnext
  have htrusts' : (s.atTime e.io.steadyNow).Trusts clientIp clientId :=
    ⟨htrusts.id, htrusts.client⟩
  rw [hocc, handle_trusted_message htrusts' (harrived.atTime _), Option.some.injEq,
    Call.after_eq_returned] at hhandle
  obtain ⟨acts₁, hreturned, rfl⟩ := hhandle
  have hline : (s.atTime e.io.steadyNow).line clientIp = s.line clientIp := rfl
  unfold handleTrustedClient at hreturned
  rw [hline, hparse] at hreturned
  dsimp only at hreturned
  rw [hdecodes] at hreturned
  have hdecides := handleTicketRequest_decides hreturned
  have hid : ((((s.atTime e.io.steadyNow).deliver clientIp clientId).readFromCsv).clientIdMap
      clientIp).getD 0 = clientId := by
    change (s.clientIdMap clientIp).getD 0 = clientId
    rw [htrusts.id, Option.getD_some]
  rw [hid] at hdecides
  rw [List.singleton_append, List.filterMap_cons_none rfl]
  generalize acts₁.filterMap Action.ticketReply = replies at hdecides ⊢
  cases hdecides with
  | unanswered hnone =>
    exact .unanswered fun voterId secret h =>
      hnone voterId secret ⟨h.own, h.ticket, h.signed, h.fresh⟩
  | approved hproven hconfirms =>
    exact .approved ⟨hproven.own, hproven.ticket, hproven.signed, hproven.fresh⟩ hconfirms
  | denied hproven hconfirms =>
    exact .denied ⟨hproven.own, hproven.ticket, hproven.signed, hproven.fresh⟩ hconfirms

section Rehearsal

open Rehearsal

/-- What comes before the line of the kiosk's request is read. -/
def kioskAsked : List Event :=
  connect (instant 1 0) kioskIp (some (certificate kioskId kioskKey)) ++
    [⟨instant 10 7, .received kioskIp (PollbookClient.frame (requestText (checkinRequest
      (instant 10 7).systemNow)))⟩, ⟨instant 10 7, .lineRead kioskIp⟩]

/-- The kiosk's request is acceptable: it is answered with an approval. -/
theorem checkin_requests_are_decided_rehearsal :
    ∃ tr s s' acts, Run (next Rehearsal.env) opening tr s ∧
      next Rehearsal.env s ⟨instant 10 7, .lineRead kioskIp⟩ = some (s', acts) ∧
      Acceptable Rehearsal.env (instant 10 7) s kioskId
        (checkinRequest (instant 10 7).systemNow) := by
  have hexec : (exec (next Rehearsal.env) opening kioskAsked).any (fun r =>
      decide (r.2.clientIdMap kioskIp = some kioskId) &&
      (decide (r.2.clients kioskId = some ⟨kioskId, .untrustedClient⟩) &&
      (decide (r.2.reads kioskIp = some (.payload (UInt64.ofNat (requestText (checkinRequest
        (instant 10 7).systemNow)).length))) &&
      (decide (r.2.unread kioskIp = requestText (checkinRequest (instant 10 7).systemNow) ++
        [newline]) &&
      (next Rehearsal.env r.2 ⟨instant 10 7, .lineRead kioskIp⟩).any fun x =>
        decide ((x.2.filterMap Action.checkinReply).map (·.2.2.body.approved) = [true]))))) =
        true := by
    decide +kernel
  obtain ⟨tr, s, hrun, hs⟩ := Run.exists_of_exec hexec
  simp only [Bool.and_eq_true, decide_eq_true_eq, Option.any_eq_true] at hs
  obtain ⟨hid, hclient, hread, hunread, ⟨s', acts⟩, hnext, happroved⟩ := hs
  have hline : s.line kioskIp = requestText (checkinRequest (instant 10 7).systemNow) ++
      [newline] := by
    unfold line
    rw [hunread]
    decide +kernel
  have hdecodes : Decodes Rehearsal.env (s.line kioskIp)
      (checkinRequest (instant 10 7).systemNow) := by
    rw [hline]
    exact decodes_requestText rfl kioskBody_utf8
  have harrived : s.Arrived kioskIp (UInt64.ofNat (requestText (checkinRequest
      (instant 10 7).systemNow)).length) := by
    refine ⟨⟨hread, ?_⟩, ?_⟩
    · rw [hunread]
      exact List.mem_append_right _ (List.mem_singleton_self _)
    · rw [hline]
      decide +kernel
  refine ⟨tr, s, s', acts, hrun, hnext, ?_⟩
  obtain ⟨-, hnone⟩ | ⟨-, accept, ticket, hdecided, hreply⟩ :=
    checkin_requests_are_decided Codec.reference_lawful ⟨hid, _, hclient, rfl⟩ harrived hdecodes
      rfl hnext
  · rw [hnone] at happroved
    cases happroved
  · rw [hreply] at happroved
    exact hdecided.accept_iff.mp (List.cons.inj happroved).1

/-- The tablet's request for the voter's ticket. -/
def tabletText : Bytes :=
  Rehearsal.env.render ((ticketRequest (instant 20 7).systemNow 7 4321).toJson
    Rehearsal.env.toCodec)

/-- What comes before the line of the tablet's request is read. -/
def tabletAsked : List Event :=
  connections ++ checkin 10 7 ++
    [⟨instant 20 7, .received tabletIp (PollbookClient.frame tabletText)⟩,
      ⟨instant 20 7, .lineRead tabletIp⟩]

/-- The tablet's request is proven and confirms the voter: it is answered with
an approval. -/
theorem ticket_requests_are_decided_rehearsal :
    ∃ tr s s' acts, Run (next Rehearsal.env) opening tr s ∧
      next Rehearsal.env s ⟨instant 20 7, .lineRead tabletIp⟩ = some (s', acts) ∧
      ∃ voterId secret, Confirms Rehearsal.env (instant 20 7) s.readFromCsv.toSessions
          (ticketRequest (instant 20 7).systemNow 7 4321) voterId ∧
        acts.filterMap Action.ticketReply =
          [(tabletIp, ticketRequest (instant 20 7).systemNow 7 4321, ticketApproval Rehearsal.env
            (ticketRequest (instant 20 7).systemNow 7 4321) voterId secret)] := by
  have hexec : (exec (next Rehearsal.env) opening tabletAsked).any (fun r =>
      decide (r.2.clientIdMap tabletIp = some tabletId) &&
      (decide (r.2.clients tabletId = some ⟨tabletId, .trustedClient⟩) &&
      (decide (r.2.reads tabletIp = some (.payload (UInt64.ofNat tabletText.length))) &&
      (decide (r.2.unread tabletIp = tabletText ++ [newline]) &&
      (next Rehearsal.env r.2 ⟨instant 20 7, .lineRead tabletIp⟩).any fun x =>
        decide ((x.2.filterMap Action.ticketReply).map (·.2.2.body.approved) = [true]))))) =
        true := by
    decide +kernel
  obtain ⟨tr, s, hrun, hs⟩ := Run.exists_of_exec hexec
  simp only [Bool.and_eq_true, decide_eq_true_eq, Option.any_eq_true] at hs
  obtain ⟨hid, hclient, hread, hunread, ⟨s', acts⟩, hnext, happroved⟩ := hs
  have hline : s.line tabletIp = tabletText ++ [newline] := by
    unfold line
    rw [hunread]
    decide +kernel
  have hutf8 : (ticketRequest (instant 20 7).systemNow 7 4321).body.Utf8 := by
    unfold TicketRequest.Body.Utf8
    decide +kernel
  have hparse : Rehearsal.env.parse (s.line tabletIp) =
      .ok ((ticketRequest (instant 20 7).systemNow 7 4321).toJson Rehearsal.env.toCodec) := by
    rw [hline]
    refine Codec.reference_lawful.parse_render
      (TicketRequest.plain_toJson Codec.reference_lawful hutf8) _ ?_
    intro b hb
    rw [List.mem_singleton.mp hb]
    rfl
  have harrived : s.Arrived tabletIp (UInt64.ofNat tabletText.length) := by
    refine ⟨⟨hread, ?_⟩, ?_⟩
    · rw [hunread]
      exact List.mem_append_right _ (List.mem_singleton_self _)
    · rw [hline]
      decide +kernel
  refine ⟨tr, s, s', acts, hrun, hnext, ?_⟩
  have hdecided := ticket_requests_are_decided ⟨hid, _, hclient, rfl⟩ harrived hparse
    (TicketRequest.fromJson_toJson Codec.reference_lawful _) rfl hnext
  generalize acts.filterMap Action.ticketReply = replies at hdecided happroved
  cases hdecided with
  | unanswered hnone => cases happroved
  | @approved voterId secret hproven hconfirms =>
    exact ⟨voterId, secret, hconfirms, rfl⟩
  | denied hproven hconfirms => cases happroved

end Rehearsal

end CheckinService

end Pollbook
