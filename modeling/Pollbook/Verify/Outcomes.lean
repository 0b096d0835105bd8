import Pollbook.Checkin.Handlers

/-!
# What the request handlers do

The handlers of `Checkin/Handlers.lean`, inverted: when a handler returns, its
state and its actions have one of a few shapes, listed with everything the
handler checked on the way. `CheckinOutcome` is the inversion of
`handle_checkin_request` and `TicketOutcome` that of `handle_trusted_client`;
no later proof unfolds a handler.
-/

namespace Pollbook

/-- Nothing that verifies signatures is ever replaced. -/
def Keys.Keeps (k k' : Keys) : Prop :=
  ∀ id key, k.clientVerifiers id = some key → k'.clientVerifiers id = some key

theorem Keys.Keeps.refl (k : Keys) : k.Keeps k := fun _ _ h => h

theorem Keys.Keeps.trans {k₁ k₂ k₃ : Keys} (h₁₂ : k₁.Keeps k₂) (h₂₃ : k₂.Keeps k₃) :
    k₁.Keeps k₃ := fun id key h => h₂₃ id key (h₁₂ id key h)

/-- A check-in session begins: the voter is pending, with a timer and a ticket. -/
def Sessions.accept (s : Sessions) (voterId : UInt32) (expiry : Int) (ticket secret : Bytes)
    (opens : Bool) : Sessions :=
  let pending := { s with voterStatusTable := s.voterStatusTable.set voterId .pending }
  let timed := pending.startTimer voterId expiry
  let clientTicketsMap := timed.clientTicketsMap.set ticket (voterId, secret)
  let issued := { timed with clientTicketsMap }
  issued.writeToCsv opens ticket secret voterId

/-- The two responses as they are sent. -/
def Env.signCheckinResponse (env : Env) (body : CheckinResponse.Body) : CheckinResponse :=
  ⟨body, env.sign env.config.localPrivateKey (env.render body.toJson)⟩

@[inherit_doc Env.signCheckinResponse]
def Env.signTicketResponse (env : Env) (body : TicketResponse.Body) : TicketResponse :=
  ⟨body, env.sign env.config.localPrivateKey (env.render body.toJson)⟩

theorem exists_dump_eq_ok {c : Codec} {j : Json} {text : Bytes} :
    c.dump j = .ok text ↔ j.utf8 = true ∧ text = c.render j := by
  refine ⟨Codec.dump_eq_ok, ?_⟩
  rintro ⟨hutf8, rfl⟩
  exact c.dump_of_utf8 hutf8

namespace CheckinService

variable {env : Env} {io : Io} {s s' : CheckinService} {clientIp : Endpoint}
  {acts : List Action}

/-! ## Client keys -/

/-- Only the keys change, and those that were there stay. -/
theorem ensureVerifier_eq_some {clientId : UInt32} {s₁ : CheckinService}
    (h : s.ensureVerifier env clientId = some s₁) :
    ∃ k : Keys, s₁ = { s with toKeys := k } ∧ s.toKeys.Keeps k := by
  unfold ensureVerifier at h
  split at h
  · cases h
    exact ⟨s.toKeys, rfl, .refl _⟩
  · unfold loadClientPublicKey at h
    split at h
    · cases h
      exact ⟨_, rfl, fun id key hkey => Map.emplace_keeps hkey _ _⟩
    · cases h

/-- The key a client's messages are checked with: the one in memory, or else
the one in the client's key file. -/
def keyOf (env : Env) (k : Keys) (clientId : UInt32) : Option EnvelopeKey :=
  match k.clientVerifiers clientId with
  | some key => some key
  | none => (fromPemPublic k.pemFiles (keyFileToLoad env.config clientId)).toOption

theorem ensureVerifier_none {clientId : UInt32} (h : keyOf env s.toKeys clientId = none) :
    s.ensureVerifier env clientId = none := by
  unfold keyOf at h
  split at h
  · cases h
  · next hnone =>
    unfold ensureVerifier loadClientPublicKey
    rw [hnone, Option.isSome_none, if_neg Bool.false_ne_true]
    split
    · next key hkey =>
      rw [hkey] at h
      cases h
    · rfl

theorem ensureVerifier_some {clientId : UInt32} {key : EnvelopeKey}
    (h : keyOf env s.toKeys clientId = some key) :
    ∃ k : Keys, s.ensureVerifier env clientId = some { s with toKeys := k } ∧
      k.clientVerifiers clientId = some key := by
  unfold keyOf at h
  unfold ensureVerifier
  split at h
  · next hkey =>
    rw [hkey, Option.isSome_some, if_pos rfl]
    exact ⟨s.toKeys, rfl, by rw [hkey, h]⟩
  · next hnone =>
    rw [hnone, Option.isSome_none, if_neg Bool.false_ne_true]
    unfold loadClientPublicKey
    split
    · next key' hkey' =>
      rw [hkey'] at h
      cases h
      refine ⟨_, rfl, ?_⟩
      change s.clientVerifiers.emplace clientId key clientId = some key
      rw [Map.emplace_of_none hnone, Map.set_self]
    · next hkey' =>
      rw [hkey'] at h
      cases h

theorem verifyBytes_returned {key : EnvelopeKey} {message signature : Bytes} {valid : Bool} :
    verifyBytes env key message signature = .returned valid acts ↔
      env.verify key message signature = .ok valid ∧
        acts = if valid then [.verified key message signature] else [] := by
  unfold verifyBytes
  simp only [Call.bind_eq_returned, Call.ofCpp_eq_returned]
  constructor
  · rintro ⟨v, _, acts₂, ⟨hv, rfl⟩, hrest, rfl⟩
    cases v with
    | false =>
      simp only [Bool.false_eq_true, if_false, Call.pure_eq_returned] at hrest
      obtain ⟨rfl, rfl⟩ := hrest
      exact ⟨hv, rfl⟩
    | true =>
      simp only [if_true, Call.bind_eq_returned, Call.perform_eq_returned,
        Call.pure_eq_returned] at hrest
      obtain ⟨_, _, _, rfl, ⟨rfl, rfl⟩, rfl⟩ := hrest
      exact ⟨hv, rfl⟩
  · rintro ⟨hv, rfl⟩
    refine ⟨valid, [], _, ⟨hv, rfl⟩, ?_, rfl⟩
    cases valid <;> rfl

/-! ## Checking a request -/

/-- The actions of checking a request that came in on `clientIp`: signatures
that verified, and faults. -/
def Checks (s : CheckinService) (clientIp : Endpoint) (acts : List Action) : Prop :=
  ∀ a ∈ acts, (∃ key message signature, a = .verified key message signature) ∨
    ∃ id faultDesc, a = .reportFault id faultDesc ∧
      (id = s.clientId ∨ id = (s.clientIdMap clientIp).getD 0)

theorem Checks.nil : s.Checks clientIp [] := fun _ h => absurd h List.not_mem_nil

theorem Checks.append {acts₁ acts₂ : List Action} (h₁ : s.Checks clientIp acts₁)
    (h₂ : s.Checks clientIp acts₂) : s.Checks clientIp (acts₁ ++ acts₂) := fun a ha =>
  (List.mem_append.mp ha).elim (h₁ a) (h₂ a)

theorem Checks.verified (key : EnvelopeKey) (message signature : Bytes) :
    s.Checks clientIp [.verified key message signature] := fun _ ha =>
  .inl ⟨key, message, signature, List.mem_singleton.mp ha⟩

theorem Checks.fault {id : UInt32} (faultDesc : String)
    (h : id = s.clientId ∨ id = (s.clientIdMap clientIp).getD 0) :
    s.Checks clientIp [.reportFault id faultDesc] := fun _ ha =>
  .inr ⟨id, faultDesc, List.mem_singleton.mp ha, h⟩

theorem Checks.verifyBytes {key : EnvelopeKey} {message signature : Bytes} {valid : Bool}
    (h : verifyBytes env key message signature = .returned valid acts) :
    s.Checks clientIp acts := by
  obtain ⟨-, rfl⟩ := verifyBytes_returned.mp h
  cases valid with
  | false => exact .nil
  | true => exact .verified key message signature

/-- Everything `validate_client_request` checks: both signatures, that they
are about the same voter, and the timestamp. -/
structure Validated (env : Env) (k : Keys) (request : CheckinRequest) (now : UInt64)
    (acts : List Action) : Prop where
  client : ∃ key, k.clientVerifiers request.body.clientIdNum = some key ∧
    .verified key (env.render (request.body.toJson env.toCodec)) request.clientSignature ∈ acts
  idService : .verified env.config.idServicePublicKey
    (env.render (idStatement env.toCodec request.body.verifiedIdMessage.presentedId
      request.body.verifiedIdMessage.voterUniqueId))
    request.body.verifiedIdMessage.idServiceSignature ∈ acts
  voter : request.body.voterUniqueId = request.body.verifiedIdMessage.voterUniqueId
  fresh : stale env.config.requestFreshnessInterval now request.body.timestamp = false

theorem validateClientRequest_returned {request : CheckinRequest} {now : UInt64} {valid : Bool}
    (clientIp : Endpoint) (h : s.validateClientRequest env request now = .returned valid acts) :
    s.Checks clientIp acts ∧ (valid = true → Validated env s.toKeys request now acts) := by
  unfold validateClientRequest at h
  simp only [Call.bind_eq_returned, Call.ofCpp_eq_returned, mapAt_eq_ok] at h
  obtain ⟨_, _, _, ⟨hbody, rfl⟩, ⟨key, _, _, ⟨hkey, rfl⟩, h, rfl⟩, rfl⟩ := h
  obtain ⟨v₁, acts₁, _, hv₁, h, rfl⟩ := h
  obtain ⟨-, rfl⟩ := Codec.dump_eq_ok hbody
  have hc₁ : s.Checks clientIp acts₁ := .verifyBytes hv₁
  cases v₁ with
  | false =>
    simp only [Bool.not_false, if_true, Call.bind_eq_returned, Call.perform_eq_returned,
      Call.pure_eq_returned] at h
    obtain ⟨_, _, _, rfl, ⟨rfl, rfl⟩, rfl⟩ := h
    exact ⟨hc₁.append (.fault _ (.inl rfl)), fun h => by cases h⟩
  | true =>
    simp only [Bool.not_true, Bool.false_eq_true, if_false, Call.bind_eq_returned,
      Call.ofCpp_eq_returned] at h
    obtain ⟨_, _, _, ⟨hstmt, rfl⟩, ⟨v₂, acts₂, acts₃, hv₂, h, rfl⟩, rfl⟩ := h
    obtain ⟨-, rfl⟩ := Codec.dump_eq_ok hstmt
    have hc₂ : s.Checks clientIp acts₂ := .verifyBytes hv₂
    simp only [List.nil_append]
    cases v₂ with
    | false =>
      simp only [Bool.not_false, if_true, Call.pure_eq_returned] at h
      obtain ⟨rfl, rfl⟩ := h
      exact ⟨hc₁.append (hc₂.append .nil), fun h => by cases h⟩
    | true =>
      simp only [Bool.not_true, Bool.false_eq_true, if_false] at h
      split at h
      · simp only [Call.bind_eq_returned, Call.perform_eq_returned, Call.pure_eq_returned] at h
        obtain ⟨_, _, _, rfl, ⟨rfl, rfl⟩, rfl⟩ := h
        exact ⟨hc₁.append (hc₂.append (.fault _ (.inl rfl))), fun h => by cases h⟩
      · next hvoter =>
        simp only [Call.pure_eq_returned] at h
        obtain ⟨rfl, rfl⟩ := h
        refine ⟨hc₁.append (hc₂.append .nil), fun hfresh => ⟨⟨key, hkey, ?_⟩, ?_, ?_, ?_⟩⟩
        · obtain ⟨-, rfl⟩ := verifyBytes_returned.mp hv₁
          simp
        · obtain ⟨-, rfl⟩ := verifyBytes_returned.mp hv₂
          simp
        · exact Decidable.not_not.mp hvoter
        · simpa using hfresh

/-! ## Check-in requests -/

theorem answerCheckin_returned {request : CheckinRequest} {accept : Bool} {ticket : Bytes} :
    s.answerCheckin env io clientIp request accept ticket = .returned s' acts ↔
      ((checkinResponseBody io request accept ticket).toJson.utf8 = true ∧
        ((env.signCheckinResponse (checkinResponseBody io request accept ticket)).toJson
          env.toCodec).utf8 = true ∧
        (∃ stream, s.clientSslStreams clientIp = some stream) ∧ io.writes = true) ∧
      s' = s.startSizeRead clientIp ∧
      acts = [.checkinAnswer clientIp request
        (env.signCheckinResponse (checkinResponseBody io request accept ticket))] := by
  unfold answerCheckin
  simp only [Call.bind_eq_returned, Call.ofCpp_eq_returned, mapAt_eq_ok, exists_dump_eq_ok]
  constructor
  · rintro ⟨_, _, _, ⟨⟨hbody, rfl⟩, rfl⟩, ⟨_, _, _, ⟨⟨hresp, rfl⟩, rfl⟩, h, rfl⟩, rfl⟩
    obtain ⟨stream, _, _, ⟨hstream, rfl⟩, h, rfl⟩ := h
    split at h
    · next hwrites =>
      simp only [Call.bind_eq_returned, Call.perform_eq_returned, Call.pure_eq_returned] at h
      obtain ⟨_, _, _, rfl, ⟨rfl, rfl⟩, rfl⟩ := h
      exact ⟨⟨hbody, hresp, ⟨stream, hstream⟩, hwrites⟩, rfl, rfl⟩
    · cases h
  · rintro ⟨⟨hbody, hresp, ⟨stream, hstream⟩, hwrites⟩, rfl, rfl⟩
    refine ⟨_, [], _, ⟨⟨hbody, rfl⟩, rfl⟩, ⟨_, [], _, ⟨⟨hresp, rfl⟩, rfl⟩, ?_, rfl⟩, rfl⟩
    refine ⟨stream, [], _, ⟨hstream, rfl⟩, ?_, rfl⟩
    rw [if_pos hwrites]
    rfl

/-- The ways `handle_checkin_request` returns. -/
inductive CheckinOutcome (env : Env) (io : Io) (s : CheckinService) (clientIp : Endpoint)
    (request : CheckinRequest) : CheckinService → List Action → Prop
  /-- There is no key for the client: it gets no answer. -/
  | unanswered (hkey : s.ensureVerifier env request.body.clientIdNum = none) :
      CheckinOutcome env io s clientIp request s []
  | denied {k : Keys} {acts : List Action} (hk : s.toKeys.Keeps k)
      (hchecks : s.Checks clientIp acts) :
      CheckinOutcome env io s clientIp request
        ({ s with toKeys := k }.startSizeRead clientIp)
        (acts ++ [.checkinAnswer clientIp request
          (env.signCheckinResponse (checkinResponseBody io request false []))])
  | accepted {k : Keys} {acts : List Action} {t : Vector UInt8 16} {sec : Vector UInt8 32}
      (hk : s.toKeys.Keeps k) (hchecks : s.Checks clientIp acts)
      (hidentity : request.body.clientIdNum = (s.clientIdMap clientIp).getD 0)
      (hvalid : Validated env k request io.systemNow acts)
      (heligible : s.voterStatusTable request.body.voterUniqueId = some .eligible)
      (hticket : io.ticketRandom = some t) (hsecret : io.secretRandom = some sec) :
      CheckinOutcome env io s clientIp request
        ({ s with
          toKeys := k
          toSessions := s.toSessions.accept request.body.voterUniqueId
            (io.steadyNow + minutes env.config.timeoutInterval) (hex t.toList) (hex sec.toList)
            io.csvOpens }.startSizeRead clientIp)
        (acts ++ [.checkinAnswer clientIp request
          (env.signCheckinResponse (checkinResponseBody io request true (hex t.toList)))])

theorem generateSecret_eq_ok {n : Nat} {random : Option (Vector UInt8 n)} {secret : Bytes} :
    generateSecret (random.map (·.toList)) = .ok secret ↔
      ∃ r, random = some r ∧ secret = hex r.toList := by
  cases random with
  | none => simp [generateSecret]
  | some r =>
    simp only [generateSecret, Option.map_some, Except.ok.injEq, Option.some.injEq]
    exact ⟨fun h => ⟨r, rfl, h.symm⟩, fun ⟨_, hr, h⟩ => by rw [h, hr]⟩

/-- Making a voter pending and issuing the ticket is one change of the sessions. -/
theorem issueTicket_makePending_returned {voterId : UInt32} {r : Bytes × CheckinService} :
    (s.makePending env io voterId).issueTicket io voterId = .returned r acts ↔
      ∃ t sec, io.ticketRandom = some t ∧ io.secretRandom = some sec ∧ acts = [] ∧
        r = (hex t.toList, { s with
          toSessions := s.toSessions.accept voterId
            (io.steadyNow + minutes env.config.timeoutInterval) (hex t.toList) (hex sec.toList)
            io.csvOpens }) := by
  unfold issueTicket
  simp only [Call.bind_eq_returned, Call.ofCpp_eq_returned, Call.pure_eq_returned,
    generateSecret_eq_ok]
  constructor
  · rintro ⟨_, _, _, ⟨⟨t, ht, rfl⟩, rfl⟩, ⟨_, _, _, ⟨⟨sec, hsec, rfl⟩, rfl⟩, ⟨rfl, rfl⟩, rfl⟩, rfl⟩
    exact ⟨t, sec, ht, hsec, rfl, rfl⟩
  · rintro ⟨t, sec, ht, hsec, rfl, rfl⟩
    exact ⟨_, [], [], ⟨⟨t, ht, rfl⟩, rfl⟩,
      ⟨_, [], [], ⟨⟨sec, hsec, rfl⟩, rfl⟩, ⟨rfl, rfl⟩, rfl⟩, rfl⟩

theorem handleCheckinRequest_returned {request : CheckinRequest}
    (h : s.handleCheckinRequest env io clientIp request = .returned s' acts) :
    CheckinOutcome env io s clientIp request s' acts := by
  unfold handleCheckinRequest at h
  by_cases hid : request.body.clientIdNum = (s.clientIdMap clientIp).getD 0
  · simp only [hid, beq_self_eq_true, Bool.not_true, Bool.false_eq_true, if_false,
      Call.bind_eq_returned, Call.ofCpp_eq_returned] at h
    obtain ⟨_, _, _, ⟨-, rfl⟩, ⟨_, _, _, ⟨-, rfl⟩, h, rfl⟩, rfl⟩ := h
    rw [← hid] at h
    split at h
    · next hnone =>
      simp only [Call.pure_eq_returned] at h
      obtain ⟨rfl, rfl⟩ := h
      exact .unanswered hnone
    · next s₁ hsome =>
      obtain ⟨k, rfl, hk⟩ := ensureVerifier_eq_some hsome
      rw [Call.bind_eq_returned] at h
      obtain ⟨valid, vacts, _, hv, h, rfl⟩ := h
      obtain ⟨hchecks, hvalid⟩ := validateClientRequest_returned clientIp hv
      split at h
      · next hcond =>
        simp only [Bool.and_eq_true, beq_iff_eq] at hcond
        rw [Call.bind_eq_returned] at h
        obtain ⟨_, _, _, hissue, h, rfl⟩ := h
        obtain ⟨t, sec, ht, hsec, rfl, rfl⟩ := issueTicket_makePending_returned.mp hissue
        obtain ⟨-, rfl, rfl⟩ := answerCheckin_returned.mp h
        exact .accepted hk hchecks hid (hvalid hcond.1) hcond.2 ht hsec
      · obtain ⟨-, rfl, rfl⟩ := answerCheckin_returned.mp h
        exact .denied hk hchecks
  · have hbeq : (request.body.clientIdNum == (s.clientIdMap clientIp).getD 0) = false := by
      simpa using hid
    simp only [hbeq, Bool.not_false, if_true, Call.bind_eq_returned, Call.ofCpp_eq_returned,
      Call.perform_eq_returned] at h
    obtain ⟨_, _, _, rfl, ⟨_, _, _, ⟨-, rfl⟩, ⟨_, _, _, ⟨-, rfl⟩, h, rfl⟩, rfl⟩, rfl⟩ := h
    obtain ⟨-, rfl, rfl⟩ := answerCheckin_returned.mp h
    exact .denied (.refl _) (.fault _ (.inr rfl))

/-! ## Ticket requests -/

theorem rejectWith_returned {clientId : UInt32} {faultDesc : String} :
    s.rejectWith clientId faultDesc = .returned s' acts ↔
      s' = s ∧ acts = [.reportFault clientId faultDesc] := by
  unfold rejectWith
  simp only [Call.bind_eq_returned, Call.perform_eq_returned, Call.pure_eq_returned]
  constructor
  · rintro ⟨_, _, _, rfl, ⟨rfl, rfl⟩, rfl⟩
    exact ⟨rfl, rfl⟩
  · rintro ⟨rfl, rfl⟩
    exact ⟨(), _, _, rfl, ⟨rfl, rfl⟩, rfl⟩

theorem sendTicketResponse_returned {request : TicketRequest} {body : TicketResponse.Body}
    {u : Unit} :
    s.sendTicketResponse env clientIp request body = .returned u acts ↔
      (body.toJson.utf8 = true ∧ ((env.signTicketResponse body).toJson env.toCodec).utf8 = true ∧
        ∃ stream, s.clientSslStreams clientIp = some stream) ∧
      acts = [.ticketAnswer clientIp request (env.signTicketResponse body)] := by
  unfold sendTicketResponse
  simp only [Call.bind_eq_returned, Call.ofCpp_eq_returned, mapAt_eq_ok, exists_dump_eq_ok,
    Call.perform_eq_returned]
  constructor
  · rintro ⟨_, _, _, ⟨⟨hbody, rfl⟩, rfl⟩, ⟨_, _, _, ⟨⟨hresp, rfl⟩, rfl⟩, h, rfl⟩, rfl⟩
    obtain ⟨stream, _, _, ⟨hstream, rfl⟩, rfl, rfl⟩ := h
    exact ⟨⟨hbody, hresp, stream, hstream⟩, rfl⟩
  · rintro ⟨⟨hbody, hresp, stream, hstream⟩, rfl⟩
    exact ⟨_, [], _, ⟨⟨hbody, rfl⟩, rfl⟩, ⟨_, [], _, ⟨⟨hresp, rfl⟩, rfl⟩,
      ⟨stream, [], _, ⟨hstream, rfl⟩, rfl, rfl⟩, rfl⟩, rfl⟩

/-- The denial of a ticket request about a voter. -/
def ticketDenial (env : Env) (request : TicketRequest) (voterId : UInt32) : TicketResponse :=
  env.signTicketResponse (ticketResponseBody false (findVoter env.config.voterListFile voterId)
    voterId [] request.body.pin)

/-- The approval of a ticket request about a voter. -/
def ticketApproval (env : Env) (request : TicketRequest) (voterId : UInt32) (secret : Bytes) :
    TicketResponse :=
  env.signTicketResponse (ticketResponseBody true (findVoter env.config.voterListFile voterId)
    voterId secret request.body.pin)

/-- Everything a ticket request has passed when the PIN was right. -/
structure Authentic (env : Env) (io : Io) (s : CheckinService) (k : Keys) (clientIp : Endpoint)
    (request : TicketRequest) (voterId : UInt32) (secret : Bytes) (acts : List Action) : Prop where
  identity : request.body.clientId = (s.clientIdMap clientIp).getD 0
  ticket : s.clientTicketsMap request.body.ticket = some (voterId, secret)
  client : ∃ key, k.clientVerifiers request.body.clientId = some key ∧
    .verified key (env.render request.body.toJson) request.signature ∈ acts
  fresh : stale env.config.requestFreshnessInterval io.systemNow request.body.timestamp = false
  pin : decimal request.body.pin.toNat = (findVoter env.config.voterListFile voterId).pin

/-- The ways `handle_trusted_client` returns, once it has a request. -/
inductive TicketOutcome (env : Env) (io : Io) (s : CheckinService) (clientIp : Endpoint)
    (request : TicketRequest) : CheckinService → List Action → Prop
  /-- No answer, but a fault. -/
  | refused {k : Keys} {acts : List Action} (hk : s.toKeys.Keeps k)
      (hchecks : s.Checks clientIp acts) :
      TicketOutcome env io s clientIp request { s with toKeys := k } acts
  | denied {k : Keys} {voterId : UInt32} {acts faults : List Action} (hk : s.toKeys.Keeps k)
      (hchecks : s.Checks clientIp acts) (hfaults : s.Checks clientIp faults) :
      TicketOutcome env io s clientIp request { s with toKeys := k }
        (acts ++ .ticketAnswer clientIp request (ticketDenial env request voterId) :: faults)
  | approved {k : Keys} {voterId : UInt32} {secret : Bytes} {timer : Timer} {acts : List Action}
      (hk : s.toKeys.Keeps k) (hchecks : s.Checks clientIp acts)
      (hauthentic : Authentic env io s k clientIp request voterId secret acts)
      (htimer : s.requestTimers voterId = some timer)
      (hwindow : withinWindow env.config timer io.steadyNow = true) :
      TicketOutcome env io s clientIp request
        { s with toKeys := k, toSessions := s.toSessions.confirm voterId timer }
        (acts ++ [.ticketAnswer clientIp request (ticketApproval env request voterId secret)])

theorem redeemTicket_returned {request : TicketRequest} {clientId voterId : UInt32}
    {secret : Bytes} (h : s.redeemTicket env io clientIp request clientId voterId secret =
      .returned s' acts) :
    (∃ acts' faults, s' = s ∧
        acts = acts' ++
          .ticketAnswer clientIp request (ticketDenial env request voterId) :: faults ∧
        ∀ a ∈ acts' ++ faults, ∃ faultDesc, a = .reportFault clientId faultDesc) ∨
      ∃ timer, s.requestTimers voterId = some timer ∧
        withinWindow env.config timer io.steadyNow = true ∧
        s' = { s with toSessions := s.toSessions.confirm voterId timer } ∧
        acts = [.ticketAnswer clientIp request (ticketApproval env request voterId secret)] := by
  unfold redeemTicket at h
  split at h
  · simp only [Call.bind_eq_returned, Call.perform_eq_returned, sendTicketResponse_returned,
      rejectWith_returned] at h
    obtain ⟨_, _, _, rfl, ⟨_, _, _, ⟨-, rfl⟩, ⟨_, _, _, rfl, ⟨rfl, rfl⟩, rfl⟩, rfl⟩, rfl⟩ := h
    exact .inl ⟨[_], [_, _], rfl, rfl, by simp⟩
  · next timer htimer =>
    split at h
    · next hwindow =>
      simp only [Call.bind_eq_returned, sendTicketResponse_returned, Call.pure_eq_returned] at h
      obtain ⟨_, _, _, ⟨-, rfl⟩, ⟨rfl, rfl⟩, rfl⟩ := h
      exact .inr ⟨timer, htimer, hwindow, rfl, rfl⟩
    · simp only [Call.bind_eq_returned, Call.perform_eq_returned, sendTicketResponse_returned,
        rejectWith_returned] at h
      obtain ⟨_, _, _, rfl, ⟨_, _, _, ⟨-, rfl⟩, ⟨rfl, rfl⟩, rfl⟩, rfl⟩ := h
      exact .inl ⟨[_], [_], rfl, rfl, by simp⟩

theorem handleTicketRequest_returned {request : TicketRequest}
    (h : s.handleTicketRequest env io clientIp request = .returned s' acts) :
    TicketOutcome env io s clientIp request s' acts := by
  have hfault : ∀ faultDesc,
      s.Checks clientIp [.reportFault ((s.clientIdMap clientIp).getD 0) faultDesc] :=
    fun faultDesc => .fault faultDesc (.inr rfl)
  unfold handleTicketRequest at h
  simp only at h
  split at h
  · obtain ⟨rfl, rfl⟩ := rejectWith_returned.mp h
    exact .refused (.refl _) (hfault _)
  · next hid =>
    have hidentity := Decidable.not_not.mp hid
    split at h
    · obtain ⟨rfl, rfl⟩ := rejectWith_returned.mp h
      exact .refused (.refl _) (hfault _)
    · next voterId secret hticket =>
      split at h
      · obtain ⟨rfl, rfl⟩ := rejectWith_returned.mp h
        exact .refused (.refl _) (hfault _)
      · next s₁ hsome =>
        obtain ⟨k, rfl, hk⟩ := ensureVerifier_eq_some hsome
        simp only [Call.bind_eq_returned, Call.ofCpp_eq_returned, mapAt_eq_ok] at h
        obtain ⟨_, _, _, ⟨hbody, rfl⟩, ⟨key, _, _, ⟨hkey, rfl⟩, h, rfl⟩, rfl⟩ := h
        obtain ⟨-, rfl⟩ := Codec.dump_eq_ok hbody
        obtain ⟨valid, vacts, _, hv, h, rfl⟩ := h
        have hchecks : s.Checks clientIp vacts := .verifyBytes hv
        cases valid with
        | false =>
          simp only [Bool.not_false, if_true, rejectWith_returned] at h
          obtain ⟨rfl, rfl⟩ := h
          exact .refused hk (hchecks.append (hfault _))
        | true =>
          simp only [Bool.not_true, Bool.false_eq_true, if_false] at h
          split at h
          · obtain ⟨rfl, rfl⟩ := rejectWith_returned.mp h
            exact .refused hk (hchecks.append (hfault _))
          · next hfresh =>
            split at h
            · simp only [Call.bind_eq_returned, sendTicketResponse_returned,
                Call.pure_eq_returned] at h
              obtain ⟨_, _, _, ⟨-, rfl⟩, ⟨rfl, rfl⟩, rfl⟩ := h
              exact .denied hk hchecks .nil
            · next hpin =>
              obtain ⟨-, rfl⟩ := verifyBytes_returned.mp hv
              obtain ⟨acts', faults, rfl, rfl, hall⟩ | ⟨timer, htimer, hwindow, rfl, rfl⟩ :=
                redeemTicket_returned h
              · have hsub : ∀ l : List Action, (∀ a ∈ l, a ∈ acts' ++ faults) →
                    s.Checks clientIp l := by
                  intro l hl a ha
                  obtain ⟨faultDesc, rfl⟩ := hall a (hl a ha)
                  exact .inr ⟨_, faultDesc, rfl, .inr rfl⟩
                rw [← List.append_assoc]
                exact .denied hk
                  (hchecks.append (hsub acts' fun a => List.mem_append_left _))
                  (hsub faults fun a => List.mem_append_right _)
              · refine .approved hk hchecks ⟨hidentity, hticket, ⟨key, hkey, by simp⟩, ?_, ?_⟩
                  htimer hwindow
                · simpa using hfresh
                · exact Decidable.not_not.mp hpin

/-- The ways `handle_trusted_client` returns. -/
theorem handleTrustedClient_returned {msgString : Bytes}
    (h : s.handleTrustedClient env io msgString clientIp = .returned s' acts) :
    (s' = s.readFromCsv ∧ s.Checks clientIp acts) ∨
      ∃ json request, env.parse msgString = .ok json ∧
        TicketRequest.fromJson env.toCodec json = .ok request ∧
        TicketOutcome env io s.readFromCsv clientIp request s' acts := by
  unfold handleTrustedClient at h
  split at h
  · simp only [Call.pure_eq_returned] at h
    obtain ⟨rfl, rfl⟩ := h
    exact .inl ⟨rfl, .nil⟩
  · cases h
  · next json hparse =>
    split at h
    · split at h
      · obtain ⟨rfl, rfl⟩ := rejectWith_returned.mp h
        exact .inl ⟨rfl, .fault _ (.inl rfl)⟩
      · cases h
    · next request hrequest =>
      exact .inr ⟨json, request, hparse, hrequest, handleTicketRequest_returned h⟩

/-! ## When an exception escapes

A handler that does not return has answered nothing: it was still checking.
-/

variable {trap : Trap}

theorem verifyBytes_threw {key : EnvelopeKey} {message signature : Bytes}
    (h : verifyBytes env key message signature = .threw trap acts) : acts = [] := by
  unfold verifyBytes at h
  simp only [Call.bind_eq_threw, Call.ofCpp_eq_threw, Call.ofCpp_eq_returned] at h
  obtain ⟨-, rfl⟩ | ⟨valid, _, _, -, h, -⟩ := h
  · rfl
  · cases valid <;> cases h

theorem validateClientRequest_threw {request : CheckinRequest} {now : UInt64}
    (clientIp : Endpoint) (h : s.validateClientRequest env request now = .threw trap acts) :
    s.Checks clientIp acts := by
  unfold validateClientRequest at h
  simp only [Call.bind_eq_threw, Call.ofCpp_eq_threw, Call.ofCpp_eq_returned] at h
  obtain ⟨-, rfl⟩ | ⟨_, _, _, ⟨-, rfl⟩, ⟨-, rfl⟩ | ⟨_, _, _, ⟨-, rfl⟩, h, rfl⟩, rfl⟩ := h
  · exact .nil
  · exact .nil
  · obtain h | ⟨v₁, acts₁, _, hv₁, h, rfl⟩ := h
    · rw [verifyBytes_threw h]
      exact .nil
    · have hc₁ : s.Checks clientIp acts₁ := .verifyBytes hv₁
      cases v₁ with
      | false => simp [Call.bind_eq_threw] at h
      | true =>
        simp only [Bool.not_true, Bool.false_eq_true, if_false, Call.bind_eq_threw,
          Call.ofCpp_eq_threw, Call.ofCpp_eq_returned] at h
        obtain ⟨-, rfl⟩ | ⟨_, _, _, ⟨-, rfl⟩, h | ⟨v₂, acts₂, _, hv₂, h, rfl⟩, rfl⟩ := h
        · exact hc₁.append .nil
        · rw [verifyBytes_threw h]
          exact hc₁.append .nil
        · have hc₂ : s.Checks clientIp acts₂ := .verifyBytes hv₂
          cases v₂ with
          | false => simp at h
          | true =>
            simp only [Bool.not_true, Bool.false_eq_true, if_false] at h
            split at h
            · simp [Call.bind_eq_threw] at h
            · simp at h

theorem answerCheckin_threw {request : CheckinRequest} {accept : Bool} {ticket : Bytes}
    (h : s.answerCheckin env io clientIp request accept ticket = .threw trap acts) : acts = [] := by
  unfold answerCheckin at h
  simp only [Call.bind_eq_threw, Call.ofCpp_eq_threw, Call.ofCpp_eq_returned] at h
  obtain ⟨-, rfl⟩ | ⟨_, _, _, ⟨-, rfl⟩, ⟨-, rfl⟩ | ⟨_, _, _, ⟨-, rfl⟩, h, rfl⟩, rfl⟩ := h
  · rfl
  · rfl
  · obtain ⟨-, rfl⟩ | ⟨_, _, _, ⟨-, rfl⟩, h, rfl⟩ := h
    · rfl
    · split at h
      · simp [Call.bind_eq_threw] at h
      · cases h
        rfl

theorem issueTicket_threw {voterId : UInt32}
    (h : s.issueTicket io voterId = .threw trap acts) : acts = [] := by
  unfold issueTicket at h
  simp only [Call.bind_eq_threw, Call.ofCpp_eq_threw, Call.ofCpp_eq_returned,
    Call.pure_eq_threw] at h
  obtain ⟨-, rfl⟩ | ⟨_, _, _, ⟨-, rfl⟩, ⟨-, rfl⟩ | ⟨_, _, _, ⟨-, rfl⟩, h, rfl⟩, rfl⟩ := h
  · rfl
  · rfl
  · exact absurd h id

theorem handleCheckinRequest_threw {request : CheckinRequest}
    (h : s.handleCheckinRequest env io clientIp request = .threw trap acts) :
    s.Checks clientIp acts := by
  have hfault : ∀ faultDesc,
      s.Checks clientIp [.reportFault ((s.clientIdMap clientIp).getD 0) faultDesc] :=
    fun faultDesc => .fault faultDesc (.inr rfl)
  unfold handleCheckinRequest at h
  by_cases hid : request.body.clientIdNum = (s.clientIdMap clientIp).getD 0
  · simp only [hid, beq_self_eq_true, Bool.not_true, Bool.false_eq_true, if_false,
      Call.bind_eq_threw, Call.ofCpp_eq_threw, Call.ofCpp_eq_returned] at h
    obtain ⟨-, rfl⟩ | ⟨_, _, _, ⟨-, rfl⟩, ⟨-, rfl⟩ | ⟨_, _, _, ⟨-, rfl⟩, h, rfl⟩, rfl⟩ := h
    · exact .nil
    · exact .nil
    · rw [← hid] at h
      split at h
      · simp at h
      · next s₁ hsome =>
        obtain ⟨k, rfl, -⟩ := ensureVerifier_eq_some hsome
        rw [Call.bind_eq_threw] at h
        obtain h | ⟨valid, vacts, _, hv, h, rfl⟩ := h
        · have hchecks := validateClientRequest_threw clientIp h
          exact hchecks
        · have hchecks := (validateClientRequest_returned clientIp hv).1
          refine Checks.append hchecks ?_
          split at h
          · rw [Call.bind_eq_threw] at h
            obtain h | ⟨_, _, _, hissue, h, rfl⟩ := h
            · rw [issueTicket_threw h]
              exact .nil
            · obtain ⟨_, _, -, -, rfl, -⟩ := issueTicket_makePending_returned.mp hissue
              rw [answerCheckin_threw h]
              exact .nil
          · rw [answerCheckin_threw h]
            exact .nil
  · have hbeq : (request.body.clientIdNum == (s.clientIdMap clientIp).getD 0) = false := by
      simpa using hid
    simp only [hbeq, Bool.not_false, if_true, Call.bind_eq_threw, Call.ofCpp_eq_threw,
      Call.ofCpp_eq_returned, Call.perform_eq_threw, Call.perform_eq_returned, false_or] at h
    obtain ⟨_, _, _, rfl, ⟨-, rfl⟩ | ⟨_, _, _, ⟨-, rfl⟩, h, rfl⟩, rfl⟩ := h
    · exact hfault _
    · obtain ⟨-, rfl⟩ | ⟨_, _, _, ⟨-, rfl⟩, h, rfl⟩ := h
      · exact hfault _
      · rw [answerCheckin_threw h]
        exact hfault _

theorem rejectWith_not_threw {clientId : UInt32} {faultDesc : String} :
    s.rejectWith clientId faultDesc ≠ .threw trap acts := by
  simp [rejectWith, Call.bind_eq_threw]

theorem sendTicketResponse_threw {request : TicketRequest} {body : TicketResponse.Body}
    (h : s.sendTicketResponse env clientIp request body = .threw trap acts) : acts = [] := by
  unfold sendTicketResponse at h
  simp only [Call.bind_eq_threw, Call.ofCpp_eq_threw, Call.ofCpp_eq_returned,
    Call.perform_eq_threw] at h
  obtain ⟨-, rfl⟩ | ⟨_, _, _, ⟨-, rfl⟩, ⟨-, rfl⟩ | ⟨_, _, _, ⟨-, rfl⟩, h, rfl⟩, rfl⟩ := h
  · rfl
  · rfl
  · obtain ⟨-, rfl⟩ | ⟨_, _, _, ⟨-, rfl⟩, h, rfl⟩ := h
    · rfl
    · exact absurd h id

theorem redeemTicket_threw {request : TicketRequest} {clientId voterId : UInt32} {secret : Bytes}
    (h : s.redeemTicket env io clientIp request clientId voterId secret = .threw trap acts) :
    ∀ a ∈ acts, ∃ faultDesc, a = .reportFault clientId faultDesc := by
  unfold redeemTicket at h
  split at h
  · simp only [Call.bind_eq_threw, Call.perform_eq_threw, Call.perform_eq_returned,
      rejectWith_not_threw, false_or, and_false, exists_false, or_false, false_and] at h
    obtain ⟨_, _, _, rfl, h, rfl⟩ := h
    rw [sendTicketResponse_threw h]
    simp
  · split at h
    · simp only [Call.bind_eq_threw, Call.pure_eq_threw, false_and, and_false, exists_false,
        or_false] at h
      rw [sendTicketResponse_threw h]
      simp
    · simp only [Call.bind_eq_threw, Call.perform_eq_threw, Call.perform_eq_returned,
        rejectWith_not_threw, false_or, and_false, exists_false, or_false, false_and] at h
      obtain ⟨_, _, _, rfl, h, rfl⟩ := h
      rw [sendTicketResponse_threw h]
      simp

theorem handleTicketRequest_threw {request : TicketRequest}
    (h : s.handleTicketRequest env io clientIp request = .threw trap acts) :
    s.Checks clientIp acts := by
  unfold handleTicketRequest at h
  simp only at h
  split at h
  · exact absurd h rejectWith_not_threw
  split at h
  · exact absurd h rejectWith_not_threw
  split at h
  · exact absurd h rejectWith_not_threw
  next s₁ hsome =>
    obtain ⟨k, rfl, -⟩ := ensureVerifier_eq_some hsome
    simp only [Call.bind_eq_threw, Call.ofCpp_eq_threw, Call.ofCpp_eq_returned] at h
    obtain ⟨-, rfl⟩ | ⟨_, _, _, ⟨-, rfl⟩, ⟨-, rfl⟩ | ⟨_, _, _, ⟨-, rfl⟩, h, rfl⟩, rfl⟩ := h
    · exact .nil
    · exact .nil
    · obtain h | ⟨valid, vacts, _, hv, h, rfl⟩ := h
      · rw [verifyBytes_threw h]
        exact .nil
      · refine Checks.append (.verifyBytes hv) ?_
        cases valid with
        | false => exact absurd h rejectWith_not_threw
        | true =>
          simp only [Bool.not_true, Bool.false_eq_true, if_false] at h
          split at h
          · exact absurd h rejectWith_not_threw
          · split at h
            · simp only [Call.bind_eq_threw, Call.pure_eq_threw, false_and, and_false,
                exists_false, or_false] at h
              rw [sendTicketResponse_threw h]
              exact .nil
            · intro a ha
              obtain ⟨faultDesc, rfl⟩ := redeemTicket_threw h a ha
              exact .inr ⟨_, faultDesc, rfl, .inr rfl⟩

theorem handleTrustedClient_threw {msgString : Bytes}
    (h : s.handleTrustedClient env io msgString clientIp = .threw trap acts) :
    s.Checks clientIp acts := by
  unfold handleTrustedClient at h
  split at h
  · simp at h
  · cases h
    exact .nil
  · split at h
    · split at h
      · exact absurd h rejectWith_not_threw
      · cases h
        exact .nil
    · have hchecks := handleTicketRequest_threw h
      exact hchecks

end CheckinService

end Pollbook
