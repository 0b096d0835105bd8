import Pollbook.Rehearsal
import Pollbook.Verify.Rejections
import Pollbook.Verify.Statuses

/-!
# What a client's bytes can do to the process

Nothing catches the exceptions that escape from a completion handler, so each
line a client sends must be one its handler survives. `LineSurvives` says which
lines are: the handler returns on them and on no others (`survives_iff`), and
an empty line is already one that ends the process (`empty_line_kills`). A
handler that returns without an approval leaves the voters alone.
-/

namespace Pollbook

/-- The names in a voter's row can be written. -/
def VoterInfo.Utf8 (info : VoterInfo) : Prop :=
  validUtf8 info.lastName = true ∧ validUtf8 info.firstName = true ∧
    validUtf8 info.middleName = true

namespace CheckinService

variable {env : Env} {io : Io} {s s' : CheckinService} {clientIp : Endpoint}
  {acts : List Action}

/-! ## The handler of check-in requests -/

/-- The text of the statement inside a check-in request. -/
def idMsg (env : Env) (request : CheckinRequest) : Bytes :=
  env.render (idStatement env.toCodec request.body.verifiedIdMessage.presentedId
    request.body.verifiedIdMessage.voterUniqueId)

/-- OpenSSL comes to a verdict on each signature of the request it gets to. -/
def Checkable (env : Env) (key : EnvelopeKey) (request : CheckinRequest) : Prop :=
  (∃ valid, env.verify key (env.render (request.body.toJson env.toCodec))
    request.clientSignature = .ok valid) ∧
  (env.verify key (env.render (request.body.toJson env.toCodec)) request.clientSignature =
      .ok true →
    ∃ valid, env.verify env.config.idServicePublicKey (idMsg env request)
      request.body.verifiedIdMessage.idServiceSignature = .ok valid)

/-- The request passes `validate_client_request`. -/
def Valid (env : Env) (key : EnvelopeKey) (request : CheckinRequest) (now : UInt64) : Prop :=
  env.verify key (env.render (request.body.toJson env.toCodec)) request.clientSignature =
    .ok true ∧
  env.verify env.config.idServicePublicKey (idMsg env request)
    request.body.verifiedIdMessage.idServiceSignature = .ok true ∧
  request.body.voterUniqueId = request.body.verifiedIdMessage.voterUniqueId ∧
  stale env.config.requestFreshnessInterval now request.body.timestamp = false

theorem verifyBytes_of_ok {key : EnvelopeKey} {message signature : Bytes} {valid : Bool}
    (h : env.verify key message signature = .ok valid) :
    verifyBytes env key message signature =
      .returned valid (if valid then [.verified key message signature] else []) :=
  verifyBytes_returned.mpr ⟨h, rfl⟩

theorem verifyBytes_of_error {key : EnvelopeKey} {message signature : Bytes} {trap : Trap}
    (h : env.verify key message signature = .error trap) :
    verifyBytes env key message signature = .threw trap [] := by
  unfold verifyBytes
  rw [h]
  rfl

/-- What `validate_client_request` does on a request it can write. -/
theorem validateClientRequest_cases (hc : env.toCodec.Lawful) {request : CheckinRequest}
    {key : EnvelopeKey} (now : UInt64) (hutf8 : request.body.Utf8)
    (hkey : s.clientVerifiers request.body.clientIdNum = some key) :
    (¬ Checkable env key request ∧ ¬ (s.validateClientRequest env request now).Returns) ∨
      Checkable env key request ∧ ∃ valid acts,
        s.validateClientRequest env request now = .returned valid acts ∧
        (valid = true ↔ Valid env key request now) := by
  have hbody : env.dump (request.body.toJson env.toCodec) =
      .ok (env.render (request.body.toJson env.toCodec)) :=
    Codec.dump_of_utf8 _ (CheckinRequest.Body.plain_toJson hc hutf8).utf8
  have hstatement : env.dump (idStatement env.toCodec
      request.body.verifiedIdMessage.presentedId request.body.verifiedIdMessage.voterUniqueId) =
      .ok (idMsg env request) :=
    Codec.dump_of_utf8 _ (plain_idStatement hc hutf8.2.2.2 _).utf8
  have hmap : mapAt s.clientVerifiers request.body.clientIdNum = .ok key := mapAt_eq_ok.mpr hkey
  unfold validateClientRequest Checkable Valid
  simp only [hbody, hmap, hstatement, Call.ofCpp_ok, Call.returned_bind, Call.after_nil]
  cases hclient : env.verify key (env.render (request.body.toJson env.toCodec))
      request.clientSignature with
  | error trap =>
    left
    simp [verifyBytes_of_error hclient, Call.threw_bind]
  | ok valid =>
    cases valid with
    | false =>
      right
      rw [verifyBytes_of_ok hclient]
      simp [Call.returned_bind, Call.perform_eq, Call.pure_eq, Call.after]
    | true =>
      rw [verifyBytes_of_ok hclient]
      cases hid : env.verify env.config.idServicePublicKey (idMsg env request)
          request.body.verifiedIdMessage.idServiceSignature with
      | error trap =>
        left
        simp [verifyBytes_of_error hid, Call.threw_bind, Call.returned_bind]
      | ok valid =>
        right
        rw [verifyBytes_of_ok hid]
        cases valid with
        | false => simp [Call.returned_bind, Call.pure_eq, Call.after]
        | true =>
          by_cases hvoter :
              request.body.voterUniqueId = request.body.verifiedIdMessage.voterUniqueId
          · simp [hvoter, Call.returned_bind, Call.pure_eq, Call.after]
          · simp [hvoter, Call.returned_bind, Call.perform_eq, Call.pure_eq, Call.after]

theorem validUtf8_hex (bs : Bytes) : validUtf8 (hex bs) = true := by
  apply validUtf8_of_ascii
  intro b hb
  have hrange := hex_range hb
  omega

/-- The answer to a check-in request can be written; sending it can fail. -/
theorem answerCheckin_returns (hc : env.toCodec.Lawful) {request : CheckinRequest}
    (hutf8 : request.body.Utf8) {ticket : Bytes} (hticket : validUtf8 ticket = true)
    (hstream : ∃ stream, s.clientSslStreams clientIp = some stream) (accept : Bool) :
    (s.answerCheckin env io clientIp request accept ticket).Returns ↔ io.writes = true := by
  have hbody : (checkinResponseBody io request accept ticket).Utf8 :=
    ⟨hutf8.1, hutf8.2.1, hutf8.2.2.1, hticket⟩
  have hresponse : ((env.signCheckinResponse
      (checkinResponseBody io request accept ticket)).toJson env.toCodec).Plain :=
    CheckinResponse.plain_toJson hc hbody
  constructor
  · rintro ⟨s', acts, h⟩
    exact (answerCheckin_returned.mp h).1.2.2.2
  · intro hwrites
    exact ⟨_, _, answerCheckin_returned.mpr ⟨⟨(CheckinResponse.Body.plain_toJson hbody).utf8,
      hresponse.utf8,
      hstream, hwrites⟩, rfl, rfl⟩⟩

/-- The conditions under which `handle_checkin_request` returns on a request of
the client `clientId`: the strings can be written again, the signatures can be
checked, the ticket can be made and the answer can be sent. -/
structure CheckinSurvives (env : Env) (io : Io) (s : Sessions) (k : Keys) (clientId : UInt32)
    (request : CheckinRequest) : Prop where
  utf8 : request.body.Utf8
  foreign : request.body.clientIdNum ≠ clientId → io.writes = true
  own : request.body.clientIdNum = clientId →
    ∀ key, keyOf env k request.body.clientIdNum = some key →
      Checkable env key request ∧ io.writes = true ∧
      (Valid env key request io.systemNow →
        s.voterStatusTable request.body.voterUniqueId = some .eligible →
        io.ticketRandom.isSome = true ∧ io.secretRandom.isSome = true)

/-- The first thing the handler does is to write the body again. -/
theorem dump_of_handleCheckinRequest {request : CheckinRequest}
    (h : (s.handleCheckinRequest env io clientIp request).Returns) :
    ∃ text, env.dump (request.body.toJson env.toCodec) = .ok text := by
  cases hdump : env.dump (request.body.toJson env.toCodec) with
  | ok text => exact ⟨text, rfl⟩
  | error trap =>
    unfold handleCheckinRequest at h
    simp only [hdump, Call.ofCpp_error, Call.threw_bind] at h
    split at h
    · rw [Call.perform_eq, Call.returned_bind, Call.returns_after] at h
      exact absurd h (Call.not_returns_threw _ _)
    · exact absurd h (Call.not_returns_threw _ _)

theorem handleCheckinRequest_returns (hc : env.toCodec.Lawful) {request : CheckinRequest}
    (hstream : ∃ stream, s.clientSslStreams clientIp = some stream) :
    (s.handleCheckinRequest env io clientIp request).Returns ↔
      CheckinSurvives env io s.toSessions s.toKeys ((s.clientIdMap clientIp).getD 0) request := by
  by_cases hutf8 : request.body.Utf8
  · have hbody : env.dump (request.body.toJson env.toCodec) = .ok _ :=
      Codec.dump_of_utf8 _ (CheckinRequest.Body.plain_toJson hc hutf8).utf8
    have hrequest : env.dump (request.toJson env.toCodec) = .ok _ :=
      Codec.dump_of_utf8 _ (CheckinRequest.plain_toJson hc hutf8).utf8
    have hempty : validUtf8 [] = true := rfl
    have hdeny : ∀ m : CheckinService, m.clientSslStreams = s.clientSslStreams →
        ((m.answerCheckin env io clientIp request false []).Returns ↔ io.writes = true) := by
      intro m hm
      apply answerCheckin_returns hc hutf8 hempty
      rw [hm]
      exact hstream
    unfold handleCheckinRequest
    simp only [hbody, hrequest, Call.ofCpp_ok, Call.returned_bind, Call.after_nil]
    by_cases hid : request.body.clientIdNum = (s.clientIdMap clientIp).getD 0
    · simp only [hid, beq_self_eq_true, Bool.not_true, Bool.false_eq_true, if_false]
      rw [← hid]
      cases hkey : keyOf env s.toKeys request.body.clientIdNum with
      | none =>
        rw [ensureVerifier_none hkey]
        refine iff_of_true (Call.returns_pure _) ⟨hutf8, fun hne => absurd rfl hne, ?_⟩
        intro _ key hsome
        rw [hkey] at hsome
        cases hsome
      | some key =>
        obtain ⟨k, hensure, hverifier⟩ := ensureVerifier_some hkey
        rw [hensure]
        dsimp only
        obtain ⟨hno, hnot⟩ | ⟨hyes, valid, acts, hreturned, hvalid⟩ :=
          validateClientRequest_cases (s := { s with toKeys := k }) hc io.systemNow hutf8 hverifier
        · refine iff_of_false (fun h => ?_) fun h => hno (h.own rfl key hkey).1
          obtain ⟨valid, acts, hreturned, -⟩ := Call.returns_bind.mp h
          exact hnot ⟨valid, acts, hreturned⟩
        · rw [hreturned, Call.returned_bind, Call.returns_after]
          have hsurvives : CheckinSurvives env io s.toSessions s.toKeys request.body.clientIdNum
              request ↔ io.writes = true ∧
              (Valid env key request io.systemNow →
                s.voterStatusTable request.body.voterUniqueId = some .eligible →
                io.ticketRandom.isSome = true ∧ io.secretRandom.isSome = true) := by
            constructor
            · intro h
              exact (h.own rfl key hkey).2
            · rintro ⟨hwrites, hrandom⟩
              refine ⟨hutf8, fun _ => hwrites, fun _ key' hkey' => ?_⟩
              rw [hkey, Option.some.injEq] at hkey'
              subst hkey'
              exact ⟨hyes, hwrites, hrandom⟩
          rw [hsurvives]
          split
          · next hcond =>
            rw [Bool.and_eq_true, beq_iff_eq, hvalid] at hcond
            rw [Call.returns_bind]
            constructor
            · rintro ⟨⟨ticket, s₁⟩, acts₁, hissue, hanswer⟩
              obtain ⟨t, sec, ht, hsec, -, heq⟩ := issueTicket_makePending_returned.mp hissue
              rw [Prod.mk.injEq] at heq
              obtain ⟨rfl, rfl⟩ := heq
              refine ⟨(answerCheckin_returns hc hutf8 (validUtf8_hex _) ?_ true).mp hanswer,
                fun _ _ => ⟨by rw [ht]; rfl, by rw [hsec]; rfl⟩⟩
              exact hstream
            · rintro ⟨hwrites, hrandom⟩
              obtain ⟨ht, hsec⟩ := hrandom hcond.1 hcond.2
              obtain ⟨t, ht⟩ := Option.isSome_iff_exists.mp ht
              obtain ⟨sec, hsec⟩ := Option.isSome_iff_exists.mp hsec
              refine ⟨_, _, issueTicket_makePending_returned.mpr ⟨t, sec, ht, hsec, rfl, rfl⟩,
                (answerCheckin_returns hc hutf8 (validUtf8_hex _) ?_ true).mpr hwrites⟩
              exact hstream
          · next hcond =>
            rw [Bool.and_eq_true, beq_iff_eq, hvalid] at hcond
            rw [hdeny { s with toKeys := k } rfl]
            constructor
            · intro hwrites
              exact ⟨hwrites, fun hv he => absurd ⟨hv, he⟩ hcond⟩
            · exact fun h => h.1
    · have hbeq : (request.body.clientIdNum == (s.clientIdMap clientIp).getD 0) = false := by
        simpa using hid
      simp only [hbeq, Bool.not_false, if_true, Call.perform_eq, Call.returned_bind,
        Call.returns_after]
      rw [hdeny s rfl]
      constructor
      · intro hwrites
        exact ⟨hutf8, fun _ => hwrites, fun heq => absurd heq hid⟩
      · exact fun h => h.foreign hid
  · refine iff_of_false (fun h => hutf8 ?_) fun h => hutf8 h.utf8
    obtain ⟨text, hdump⟩ := dump_of_handleCheckinRequest h
    exact CheckinRequest.Body.utf8_of_toJson (Codec.dump_eq_ok hdump).1

/-! ## The handler of ticket requests -/

theorem sendTicketResponse_returns (hc : env.toCodec.Lawful)
    (hstream : ∃ stream, s.clientSslStreams clientIp = some stream) (request : TicketRequest)
    (approved : Bool) (info : VoterInfo) (voterId : UInt32) (secret : Bytes) (pin : UInt32) :
    (s.sendTicketResponse env clientIp request
      (ticketResponseBody approved info voterId secret pin)).Returns ↔
      info.Utf8 ∧ validUtf8 secret = true := by
  constructor
  · rintro ⟨u, acts, h⟩
    obtain ⟨hlast, hfirst, hmiddle, hsecret⟩ :=
      TicketResponse.Body.utf8_of_toJson (sendTicketResponse_returned.mp h).1.1
    exact ⟨⟨hlast, hfirst, hmiddle⟩, hsecret⟩
  · rintro ⟨⟨hlast, hfirst, hmiddle⟩, hsecret⟩
    have hbody : (ticketResponseBody approved info voterId secret pin).Utf8 :=
      ⟨hlast, hfirst, hmiddle, hsecret⟩
    have hresponse : ((env.signTicketResponse
        (ticketResponseBody approved info voterId secret pin)).toJson env.toCodec).Plain :=
      TicketResponse.plain_toJson hc hbody
    exact ⟨(), _, sendTicketResponse_returned.mpr ⟨⟨(TicketResponse.Body.plain_toJson hbody).utf8,
      hresponse.utf8,
      hstream⟩, rfl⟩⟩

theorem rejectWith_returns (s : CheckinService) (clientId : UInt32) (faultDesc : String) :
    (s.rejectWith clientId faultDesc).Returns :=
  ⟨s, _, rejectWith_returned.mpr ⟨rfl, rfl⟩⟩

/-- A voter's ticket can be redeemed now. -/
def Redeemable (env : Env) (io : Io) (s : Sessions) (voterId : UInt32) : Prop :=
  ∃ timer, s.requestTimers voterId = some timer ∧
    withinWindow env.config timer io.steadyNow = true

theorem redeemTicket_returns (hc : env.toCodec.Lawful) {request : TicketRequest}
    {clientId voterId : UInt32} {secret : Bytes}
    (hstream : ∃ stream, s.clientSslStreams clientIp = some stream) :
    (s.redeemTicket env io clientIp request clientId voterId secret).Returns ↔
      (findVoter env.config.voterListFile voterId).Utf8 ∧
        (Redeemable env io s.toSessions voterId → validUtf8 secret = true) := by
  have hempty : validUtf8 [] = true := rfl
  have hdeny : ∀ f : Unit → Call Action CheckinService, (∀ u, (f u).Returns) →
      ((s.sendTicketResponse env clientIp request (ticketResponseBody false
        (findVoter env.config.voterListFile voterId) voterId [] request.body.pin) >>= f).Returns ↔
        (findVoter env.config.voterListFile voterId).Utf8) := by
    intro f hf
    rw [Call.returns_bind]
    constructor
    · rintro ⟨u, acts, h, -⟩
      exact ((sendTicketResponse_returns hc hstream ..).mp ⟨u, acts, h⟩).1
    · intro hinfo
      obtain ⟨u, acts, h⟩ := (sendTicketResponse_returns hc hstream request false
        (findVoter env.config.voterListFile voterId) voterId [] request.body.pin).mpr
        ⟨hinfo, hempty⟩
      exact ⟨u, acts, h, hf u⟩
  unfold redeemTicket Redeemable
  dsimp only
  cases htimer : s.requestTimers voterId with
  | none =>
    simp only [Call.perform_eq, Call.returned_bind, Call.returns_after]
    rw [hdeny _ fun u => by
      rw [Call.returns_after]
      exact rejectWith_returns ..]
    refine ⟨fun h => ⟨h, ?_⟩, fun h => h.1⟩
    rintro ⟨timer, htimer', -⟩
    cases htimer'
  | some timer =>
    dsimp only
    split
    · next hwindow =>
      have hsend := sendTicketResponse_returns
        (s := { s with toSessions := s.toSessions.confirm voterId timer }) hc hstream request true
        (findVoter env.config.voterListFile voterId) voterId secret request.body.pin
      rw [Call.returns_bind]
      constructor
      · rintro ⟨u, acts, h, -⟩
        obtain ⟨hinfo, hsecret⟩ := hsend.mp ⟨u, acts, h⟩
        exact ⟨hinfo, fun _ => hsecret⟩
      · rintro ⟨hinfo, hsecret⟩
        obtain ⟨u, acts, h⟩ := hsend.mpr ⟨hinfo, hsecret ⟨timer, rfl, hwindow⟩⟩
        exact ⟨u, acts, h, Call.returns_pure _⟩
    · next hwindow =>
      simp only [Call.perform_eq, Call.returned_bind, Call.returns_after]
      rw [hdeny _ fun u => rejectWith_returns ..]
      refine ⟨fun h => ⟨h, ?_⟩, fun h => h.1⟩
      rintro ⟨timer', htimer', hwindow'⟩
      cases htimer'
      exact absurd hwindow' hwindow

/-- A ticket request with a key to check it can be handled: its body can be
written again, the signature can be checked, and where an answer is sent the
answer can be written. -/
structure Answerable (env : Env) (io : Io) (s : Sessions) (request : TicketRequest)
    (voterId : UInt32) (secret : Bytes) (key : EnvelopeKey) : Prop where
  utf8 : request.body.Utf8
  checkable : ∃ valid,
    env.verify key (env.render request.body.toJson) request.signature = .ok valid
  names : env.verify key (env.render request.body.toJson) request.signature = .ok true →
    stale env.config.requestFreshnessInterval io.systemNow request.body.timestamp = false →
    (findVoter env.config.voterListFile voterId).Utf8 ∧
      (decimal request.body.pin.toNat = (findVoter env.config.voterListFile voterId).pin →
        Redeemable env io s voterId → validUtf8 secret = true)

/-- The conditions under which the handler of a ticket request of the client
`clientId` returns: they matter once the ticket and a key have been found. -/
def TicketSurvives (env : Env) (io : Io) (s : Sessions) (k : Keys) (clientId : UInt32)
    (request : TicketRequest) : Prop :=
  request.body.clientId = clientId →
    ∀ voterId secret key, s.clientTicketsMap request.body.ticket = some (voterId, secret) →
      keyOf env k request.body.clientId = some key →
      Answerable env io s request voterId secret key

theorem handleTicketRequest_returns (hc : env.toCodec.Lawful) {request : TicketRequest}
    (hstream : ∃ stream, s.clientSslStreams clientIp = some stream) :
    (s.handleTicketRequest env io clientIp request).Returns ↔
      TicketSurvives env io s.toSessions s.toKeys ((s.clientIdMap clientIp).getD 0) request := by
  unfold handleTicketRequest TicketSurvives
  dsimp only
  by_cases hid : request.body.clientId = (s.clientIdMap clientIp).getD 0
  swap
  · rw [if_pos hid]
    exact iff_of_true (rejectWith_returns ..) fun heq => absurd heq hid
  rw [if_neg (not_not.mpr hid)]
  cases hticket : s.clientTicketsMap request.body.ticket with
  | none =>
    refine iff_of_true (rejectWith_returns ..) ?_
    rintro _ voterId secret key ⟨⟩
  | some bound =>
  obtain ⟨voterId, secret⟩ := bound
  dsimp only
  cases hkey : keyOf env s.toKeys request.body.clientId with
  | none =>
    rw [ensureVerifier_none hkey]
    refine iff_of_true (rejectWith_returns ..) ?_
    rintro _ voterId secret key - ⟨⟩
  | some key =>
  -- the condition speaks of this voter, secret and key
  have hthese : (request.body.clientId = (s.clientIdMap clientIp).getD 0 →
      ∀ voterId' secret' key', some (voterId, secret) = some (voterId', secret') →
        some key = some key' → Answerable env io s.toSessions request voterId' secret' key') ↔
      Answerable env io s.toSessions request voterId secret key := by
    constructor
    · exact fun h => h hid _ _ _ rfl rfl
    · rintro h - voterId' secret' key' ⟨⟩ ⟨⟩
      exact h
  rw [hthese]
  obtain ⟨k, hensure, hverifier⟩ := ensureVerifier_some hkey
  rw [hensure]
  have hmap : mapAt k.clientVerifiers request.body.clientId = .ok key := mapAt_eq_ok.mpr hverifier
  have hstream' : ∃ stream, { s with toKeys := k }.clientSslStreams clientIp = some stream :=
    hstream
  dsimp only
  by_cases hutf8 : request.body.Utf8
  swap
  · refine iff_of_false (fun h => hutf8 ?_) fun h => hutf8 h.utf8
    obtain ⟨text, acts, hdump, -⟩ := Call.returns_bind.mp h
    rw [Call.ofCpp_eq_returned] at hdump
    exact TicketRequest.Body.utf8_of_toJson (Codec.dump_eq_ok hdump.1).1
  have hbody : env.dump request.body.toJson = .ok _ :=
    Codec.dump_of_utf8 _ (TicketRequest.Body.plain_toJson hutf8).utf8
  simp only [hbody, hmap, Call.ofCpp_ok, Call.returned_bind, Call.after_nil]
  cases hverify : env.verify key (env.render request.body.toJson) request.signature with
  | error trap =>
    rw [verifyBytes_of_error hverify, Call.threw_bind]
    refine iff_of_false (Call.not_returns_threw _ _) fun h => ?_
    obtain ⟨valid, hvalid⟩ := h.checkable
    rw [hverify] at hvalid
    cases hvalid
  | ok valid =>
  have hcheckable : ∃ valid,
      env.verify key (env.render request.body.toJson) request.signature = .ok valid :=
    ⟨valid, hverify⟩
  rw [verifyBytes_of_ok hverify, Call.returned_bind, Call.returns_after]
  cases valid with
  | false =>
    refine iff_of_true (rejectWith_returns ..) ⟨hutf8, hcheckable, fun htrue => ?_⟩
    rw [hverify] at htrue
    cases htrue
  | true =>
  rw [Bool.not_true, if_neg Bool.false_ne_true]
  by_cases hstale : stale env.config.requestFreshnessInterval io.systemNow
      request.body.timestamp = true
  · rw [if_pos hstale]
    refine iff_of_true (rejectWith_returns ..) ⟨hutf8, hcheckable, fun _ hfresh => ?_⟩
    rw [hstale] at hfresh
    cases hfresh
  rw [if_neg hstale]
  have hfresh := Bool.not_eq_true _ ▸ hstale
  have hanswerable : Answerable env io s.toSessions request voterId secret key ↔
      (findVoter env.config.voterListFile voterId).Utf8 ∧
        (decimal request.body.pin.toNat = (findVoter env.config.voterListFile voterId).pin →
          Redeemable env io s.toSessions voterId → validUtf8 secret = true) :=
    ⟨fun h => h.names hverify hfresh, fun h => ⟨hutf8, hcheckable, fun _ _ => h⟩⟩
  rw [hanswerable]
  by_cases hpin : decimal request.body.pin.toNat = (findVoter env.config.voterListFile voterId).pin
  · rw [if_neg (not_not.mpr hpin), redeemTicket_returns hc hstream']
    exact and_congr_right fun _ => ⟨fun h _ => h, fun h => h hpin⟩
  · rw [if_pos hpin]
    have hsend := sendTicketResponse_returns hc hstream' request false
      (findVoter env.config.voterListFile voterId) voterId [] request.body.pin
    rw [Call.returns_bind]
    constructor
    · rintro ⟨u, acts, h, -⟩
      exact ⟨(hsend.mp ⟨u, acts, h⟩).1, fun heq => absurd heq hpin⟩
    · intro h
      obtain ⟨u, acts, hreturned⟩ := hsend.mpr ⟨h.1, rfl⟩
      exact ⟨u, acts, hreturned, Call.returns_pure _⟩

/-! ## Lines -/

/-- A message of a trusted client is survived: text that does not parse is
caught, and so is every exception of `FromJson`, but neither a number out of
range nor undefined behaviour is. -/
structure TrustedSurvives (env : Env) (io : Io) (s : Sessions) (k : Keys) (clientId : UInt32)
    (msgString : Bytes) : Prop where
  text : ∀ trap, env.parse msgString = .error trap → ∃ what, trap = .jsonParseError what
  shape : ∀ json trap, env.parse msgString = .ok json →
    TicketRequest.fromJson env.toCodec json = .error trap → trap.caught = true
  request : ∀ json request, env.parse msgString = .ok json →
    TicketRequest.fromJson env.toCodec json = .ok request →
    TicketSurvives env io s.readFromCsv k clientId request

/-- A message of an untrusted client is survived: nothing is caught. -/
def UntrustedSurvives (env : Env) (io : Io) (s : Sessions) (k : Keys) (clientId : UInt32)
    (msgString : Bytes) : Prop :=
  ∃ json request, env.parse msgString = .ok json ∧
    CheckinRequest.fromJson env.toCodec json = .ok request ∧
    CheckinSurvives env io s k clientId request

/-- The line the client at `clientIp` sent is survived: a size line starts with a
number, and a message of the announced size of a known client is survived. -/
structure LineSurvives (env : Env) (io : Io) (s : CheckinService) (clientIp : Endpoint) : Prop where
  size : s.reads clientIp = some .size → ∃ n, stoul (s.line clientIp) = .ok n
  message : ∀ n clientId client, s.reads clientIp = some (.payload n) →
    n.toNat = (s.line clientIp).length - 1 → s.clientIdMap clientIp = some clientId →
    s.clients clientId = some client →
    match client.type with
    | .trustedClient =>
      TrustedSurvives env io s.toSessions s.toKeys clientId (s.line clientIp)
    | .untrustedClient =>
      UntrustedSurvives env io s.toSessions s.toKeys clientId (s.line clientIp)

theorem handleTrustedClient_returns (hc : env.toCodec.Lawful) {msgString : Bytes}
    (hstream : ∃ stream, s.clientSslStreams clientIp = some stream) :
    (s.handleTrustedClient env io msgString clientIp).Returns ↔
      TrustedSurvives env io s.toSessions s.toKeys ((s.clientIdMap clientIp).getD 0)
        msgString := by
  unfold handleTrustedClient
  dsimp only
  cases hparse : env.parse msgString with
  | error trap =>
    constructor
    · intro h
      refine ⟨fun trap' htrap' => ?_, fun _ _ hok => ?_, fun _ _ hok => ?_⟩
      · rw [hparse, Except.error.injEq] at htrap'
        subst htrap'
        cases trap with
        | jsonParseError what => exact ⟨what, rfl⟩
        | _ => exact absurd h (Call.not_returns_threw _ _)
      · rw [hparse] at hok
        cases hok
      · rw [hparse] at hok
        cases hok
    · intro h
      obtain ⟨what, rfl⟩ := h.text trap hparse
      exact Call.returns_pure _
  | ok json =>
    dsimp only
    cases hrequest : TicketRequest.fromJson env.toCodec json with
    | error trap =>
      dsimp only
      constructor
      · intro h
        refine ⟨fun trap' htrap' => ?_, fun json' trap' hok herror => ?_,
          fun json' request hok hok' => ?_⟩
        · rw [hparse] at htrap'
          cases htrap'
        · rw [hparse, Except.ok.injEq] at hok
          subst hok
          rw [hrequest, Except.error.injEq] at herror
          subst herror
          by_contra hcaught
          rw [if_neg hcaught] at h
          exact Call.not_returns_threw _ _ h
        · rw [hparse, Except.ok.injEq] at hok
          subst hok
          rw [hrequest] at hok'
          cases hok'
      · intro h
        rw [if_pos (h.shape json trap hparse hrequest)]
        exact rejectWith_returns ..
    | ok request =>
      have hreturns : (s.readFromCsv.handleTicketRequest env io clientIp request).Returns ↔
          TicketSurvives env io s.toSessions.readFromCsv s.toKeys
            ((s.clientIdMap clientIp).getD 0) request :=
        handleTicketRequest_returns hc hstream
      dsimp only
      rw [hreturns]
      constructor
      · intro h
        refine ⟨fun trap htrap => ?_, fun json' trap hok herror => ?_,
          fun json' request' hok hok' => ?_⟩
        · rw [hparse] at htrap
          cases htrap
        · rw [hparse, Except.ok.injEq] at hok
          subst hok
          rw [hrequest] at herror
          cases herror
        · rw [hparse, Except.ok.injEq] at hok
          subst hok
          rw [hrequest, Except.ok.injEq] at hok'
          subst hok'
          exact h
      · exact fun h => h.request json request hparse hrequest

theorem handleUntrustedClient_returns (hc : env.toCodec.Lawful) {msgString : Bytes}
    (hstream : ∃ stream, s.clientSslStreams clientIp = some stream) :
    (s.handleUntrustedClient env io msgString clientIp).Returns ↔
      UntrustedSurvives env io s.toSessions s.toKeys ((s.clientIdMap clientIp).getD 0)
        msgString := by
  constructor
  · rintro ⟨s', acts, h⟩
    have hreturned := h
    obtain ⟨json, request, hparse, hrequest, -⟩ := handleUntrustedClient_returned h
    refine ⟨json, request, hparse, hrequest, (handleCheckinRequest_returns hc hstream).mp ?_⟩
    unfold handleUntrustedClient at hreturned
    rw [hparse] at hreturned
    simp only [Call.ofCpp_ok, Call.returned_bind, Call.after_nil, hrequest] at hreturned
    exact ⟨s', acts, hreturned⟩
  · rintro ⟨json, request, hparse, hrequest, hsurvives⟩
    unfold handleUntrustedClient
    rw [hparse]
    simp only [Call.ofCpp_ok, Call.returned_bind, Call.after_nil, hrequest]
    exact (handleCheckinRequest_returns hc hstream).mpr hsurvives

theorem dispatch_returns (hc : env.toCodec.Lawful) (msgString : Bytes)
    (hstream : ∃ stream, s.clientSslStreams clientIp = some stream) :
    (s.dispatch env io msgString clientIp).Returns ↔
      ∀ clientId client, s.clientIdMap clientIp = some clientId →
        s.clients clientId = some client →
        match client.type with
        | .trustedClient => TrustedSurvives env io s.toSessions s.toKeys clientId msgString
        | .untrustedClient =>
          UntrustedSurvives env io s.toSessions s.toKeys clientId msgString := by
  unfold dispatch
  cases hid : s.clientIdMap clientIp with
  | none =>
    refine iff_of_true (rejectWith_returns ..) ?_
    rintro clientId client ⟨⟩
  | some clientId =>
    dsimp only
    cases hclient : s.clients clientId with
    | none =>
      refine iff_of_true (rejectWith_returns ..) ?_
      rintro clientId' client ⟨⟩ hclient'
      rw [hclient] at hclient'
      cases hclient'
    | some client =>
      have hthis : ∀ P : UInt32 → ClientInfo → Prop, (∀ clientId' client',
          some clientId = some clientId' → s.clients clientId' = some client' →
            P clientId' client') ↔ P clientId client := by
        intro P
        constructor
        · exact fun h => h _ _ rfl hclient
        · rintro h clientId' client' ⟨⟩ hclient'
          rw [hclient, Option.some.injEq] at hclient'
          exact hclient' ▸ h
      have hown : (s.clientIdMap clientIp).getD 0 = clientId := by
        rw [hid, Option.getD_some]
      dsimp only
      rw [Call.perform_eq, Call.returned_bind, Call.returns_after, hthis]
      cases client.type with
      | trustedClient =>
        have hreturns :
            ({ s with clientId }.handleTrustedClient env io msgString clientIp).Returns ↔
            TrustedSurvives env io s.toSessions s.toKeys ((s.clientIdMap clientIp).getD 0)
              msgString := handleTrustedClient_returns hc hstream
        rw [hown] at hreturns
        exact hreturns
      | untrustedClient =>
        have hreturns :
            ({ s with clientId }.handleUntrustedClient env io msgString clientIp).Returns ↔
            UntrustedSurvives env io s.toSessions s.toKeys ((s.clientIdMap clientIp).getD 0)
              msgString := handleUntrustedClient_returns hc hstream
        rw [hown] at hreturns
        exact hreturns

/-- The handler of a line returns exactly on the lines it survives. -/
theorem lineRead_returns (hc : env.toCodec.Lawful)
    (hstream : ∀ read, s.reads clientIp = some read →
      ∃ stream, s.clientSslStreams clientIp = some stream)
    {call : Call Action CheckinService} (h : handle env io s (.lineRead clientIp) = some call) :
    call.Returns ↔ LineSurvives env io s clientIp := by
  simp only [handle] at h
  cases hread : s.reads clientIp with
  | none =>
    rw [hread] at h
    cases h
  | some read =>
    rw [hread] at h
    dsimp only at h
    split at h
    swap
    · cases h
    cases read with
    | size =>
      rw [← Option.some.inj h]
      have hnone : ∀ n, s.reads clientIp ≠ some (.payload n) := by
        intro n hn
        rw [hread] at hn
        cases hn
      constructor
      · rintro ⟨s', acts, hreturned⟩
        unfold sizeRead at hreturned
        simp only [Call.bind_eq_returned, Call.ofCpp_eq_returned] at hreturned
        obtain ⟨n, _, _, ⟨hsize, -⟩, -⟩ := hreturned
        exact ⟨fun _ => ⟨n, hsize⟩, fun n _ _ hn => absurd hn (hnone n)⟩
      · intro hsurvives
        obtain ⟨n, hsize⟩ := hsurvives.size hread
        have hsize : stoul (firstLine (s.unread clientIp)) = .ok n := hsize
        unfold sizeRead
        rw [hsize, Call.ofCpp_ok, Call.returned_bind, Call.after_nil]
        exact Call.returns_pure _
    | payload n =>
      rw [← Option.some.inj h]
      have hnone : s.reads clientIp ≠ some .size := by
        rw [hread]
        simp
      unfold payloadRead
      split
      · next hsize =>
        have hreturns : ((s.takeLine clientIp).dispatch env io (s.line clientIp) clientIp).Returns ↔
            _ := dispatch_returns hc (s.line clientIp) (hstream _ hread)
        refine hreturns.trans ?_
        constructor
        · intro hall
          exact ⟨fun hn => absurd hn hnone,
            fun _ clientId client _ _ hid hclient => hall clientId client hid hclient⟩
        · intro hsurvives clientId client hid hclient
          exact hsurvives.message n clientId client hread hsize hid hclient
      · next hsize =>
        refine iff_of_true (rejectWith_returns ..) ⟨fun hn => absurd hn hnone, ?_⟩
        intro n' clientId client hn hsize'
        rw [hread, Option.some.injEq, PendingRead.payload.injEq] at hn
        subst hn
        exact absurd hsize' hsize

/-! ## Reachable states -/

/-- Every connection with an outstanding read has a stream. -/
def HasStreams (s : CheckinService) : Prop :=
  ∀ clientIp read, s.reads clientIp = some read →
    ∃ stream, s.clientSslStreams clientIp = some stream

theorem HasStreams.set {reads : Map Endpoint PendingRead} {streams : Map Endpoint Nat}
    (h : ∀ ip read, reads ip = some read → ∃ stream, streams ip = some stream)
    (hstream : ∃ stream, streams clientIp = some stream) (read : PendingRead) :
    ∀ ip read', reads.set clientIp read ip = some read' → ∃ stream, streams ip = some stream := by
  intro ip read' hread
  by_cases hip : ip = clientIp
  · rw [hip]
    exact hstream
  · rw [Map.set_of_ne _ hip] at hread
    exact h ip read' hread

theorem HasStreams.erase {reads : Map Endpoint PendingRead} {streams : Map Endpoint Nat}
    (h : ∀ ip read, reads ip = some read → ∃ stream, streams ip = some stream)
    (clientIp : Endpoint) :
    ∀ ip read, reads.erase clientIp ip = some read → ∃ stream, streams ip = some stream := by
  intro ip read hread
  rw [Map.erase_apply] at hread
  split at hread
  · cases hread
  · exact h ip read hread

theorem HasStreams.openSession (h : s.HasStreams) (clientIp : Endpoint) :
    (s.openSession clientIp).HasStreams := by
  apply HasStreams.set
  · intro ip read hread
    by_cases hip : ip = clientIp
    · rw [hip]
      exact ⟨_, Map.set_self ..⟩
    · obtain ⟨stream, hstream⟩ := h ip read hread
      exact ⟨stream, (Map.set_of_ne _ hip _).trans hstream⟩
  · exact ⟨_, Map.set_self ..⟩

theorem HasStreams.step (h : s.HasStreams) {occurrence : Occurrence}
    (hstep : Step env io s occurrence s' acts) : s'.HasStreams := by
  cases hstep with
  | uncertified clientIp _ => exact h.openSession clientIp
  | @certified clientIp _ clientId k clients _ _ _ _ _ _ =>
    have hadmit : (s.admitAs clientIp clientId k clients).HasStreams := h
    exact hadmit.openSession clientIp
  | sizeRead hread _ =>
    exact HasStreams.set (HasStreams.erase h _) (h _ _ hread.outstanding) _
  | mismatch _ _ | disconnected _ _ | payloadLost _ => exact HasStreams.erase h _
  | unknownIp _ _ | unknownId _ _ _ | undecoded _ _ _ _ _ => exact HasStreams.erase h _
  | ticketRequest _ _ _ _ _ _ houtcome =>
    cases houtcome with
    | refused | denied | approved => exact HasStreams.erase h _
  | checkinRequest harrived _ _ _ _ _ houtcome =>
    cases houtcome with
    | unanswered => exact HasStreams.erase h _
    | denied | accepted =>
      exact HasStreams.set (HasStreams.erase h _) (h _ _ harrived.outstanding) _
  | _ => exact h

theorem hasStreams_of_run {found : Surroundings} {s₀ : CheckinService}
    {tr : List (Event × List Action)} (hstart : start env found = .ok s₀)
    (hrun : Run (next env) s₀ tr s) : s.HasStreams := by
  apply hrun.invariant (I := HasStreams)
  · obtain ⟨table, -, rfl⟩ := start_eq_ok hstart
    intro clientIp read hread
    cases hread
  · intro s e s' acts hstreams hnext
    obtain ⟨-, s₁, hstep, rfl⟩ := next_step hnext
    have hnow : (s.atTime e.io.steadyNow).HasStreams := hstreams
    have hafter : s₁.HasStreams := hnow.step hstep
    exact hafter

/-- The handler returns, and where it approves nothing it leaves the voters
and their timers alone. -/
def Survives (s : CheckinService) (call : Call Action CheckinService) : Prop :=
  ∃ s' acts, call = .returned s' acts ∧ ((∀ a ∈ acts, a.approved = false) →
    s'.voterStatusTable = s.voterStatusTable ∧ s'.requestTimers = s.requestTimers)

/-- A line that is not approved leaves the voters and their timers alone. -/
theorem Step.not_approved (h : Step env io s (.lineRead clientIp) s' acts)
    (hacts : ∀ a ∈ acts, a.approved = false) :
    s'.voterStatusTable = s.voterStatusTable ∧ s'.requestTimers = s.requestTimers := by
  have hread : ∀ m : CheckinService, m.readFromCsv.voterStatusTable = m.voterStatusTable ∧
      m.readFromCsv.requestTimers = m.requestTimers := by
    intro m
    obtain ⟨tickets, heq⟩ := Sessions.readFromCsv_eq m.toSessions
    have hsessions : m.readFromCsv.toSessions = m.toSessions.readFromCsv := rfl
    rw [hsessions, heq]
    exact ⟨rfl, rfl⟩
  cases h with
  | sizeRead | mismatch | unknownIp | unknownId => exact ⟨rfl, rfl⟩
  | undecoded => exact hread _
  | ticketRequest _ _ _ _ _ _ houtcome =>
    cases houtcome with
    | refused | denied => exact hread _
    | approved =>
      have happroved := hacts _
        (List.mem_cons_of_mem _ (List.mem_append_right _ List.mem_cons_self))
      cases happroved
  | checkinRequest _ _ _ _ _ _ houtcome =>
    cases houtcome with
    | unanswered | denied => exact ⟨rfl, rfl⟩
    | accepted =>
      have happroved := hacts _
        (List.mem_cons_of_mem _ (List.mem_append_right _ List.mem_cons_self))
      cases happroved

theorem LineSurvives.atTime (now : Int) :
    LineSurvives env io (s.atTime now) clientIp ↔ LineSurvives env io s clientIp :=
  ⟨fun h => ⟨h.size, h.message⟩, fun h => ⟨h.size, h.message⟩⟩

/-- **Survival.** Of what a client sends, exactly the lines that are not survived
end the process. -/
theorem survives_iff {found : Surroundings} {s₀ : CheckinService}
    {tr : List (Event × List Action)} (hc : env.toCodec.Lawful)
    (hstart : start env found = .ok s₀) (hrun : Run (next env) s₀ tr s) (io : Io)
    (clientIp : Endpoint) :
    (∀ bytes call, step env s ⟨io, .received clientIp bytes⟩ = some call → Survives s call) ∧
    (∀ error call, step env s ⟨io, .readFailed clientIp error⟩ = some call → Survives s call) ∧
    ∀ call, step env s ⟨io, .lineRead clientIp⟩ = some call →
      (Survives s call ↔ LineSurvives env io s clientIp) := by
  refine ⟨?_, ?_, ?_⟩
  · intro bytes call hstep
    simp only [step, handle] at hstep
    split at hstep
    swap
    · cases hstep
    split at hstep
    swap
    · cases hstep
    split at hstep
    · cases hstep
    · rw [← Option.some.inj hstep]
      exact ⟨_, [], rfl, fun _ => ⟨rfl, rfl⟩⟩
  · intro error call hstep
    simp only [step, handle] at hstep
    split at hstep
    swap
    · cases hstep
    split at hstep
    swap
    · cases hstep
    rw [← Option.some.inj hstep]
    unfold readFailed
    split
    · exact ⟨_, _, rejectWith_returned.mpr ⟨rfl, rfl⟩, fun _ => ⟨rfl, rfl⟩⟩
    · exact ⟨_, [], rfl, fun _ => ⟨rfl, rfl⟩⟩
  · intro call hstep
    unfold step at hstep
    split at hstep
    swap
    · cases hstep
    have hreturns := lineRead_returns (s := s.atTime io.steadyNow) hc
      (hasStreams_of_run hstart hrun clientIp) hstep
    rw [LineSurvives.atTime] at hreturns
    rw [← hreturns]
    constructor
    · rintro ⟨s', acts, rfl, -⟩
      exact Call.returns_returned _ _
    · rintro ⟨s', acts, rfl⟩
      exact ⟨s', acts, rfl, (handle_step hstep).not_approved⟩

/-- The kiosk connects and sends an empty line where a size is expected: the
exception of `stoul` ends the process. -/
theorem empty_line_kills :
    ¬ ∀ s, Reachable (next Rehearsal.env) Rehearsal.opening s → ∀ call,
      step Rehearsal.env s ⟨Rehearsal.instant 20 0, .lineRead Rehearsal.kioskIp⟩ = some call →
      Survives s call := by
  intro hall
  have hexec : (exec (next Rehearsal.env) Rehearsal.opening (Rehearsal.connections ++
      [⟨Rehearsal.instant 10 0, .received Rehearsal.kioskIp [newline]⟩])).any (fun r =>
        (step Rehearsal.env r.2 ⟨Rehearsal.instant 20 0, .lineRead Rehearsal.kioskIp⟩).any
          Call.trapped) = true := by decide +kernel
  obtain ⟨tr, s, hrun, hs⟩ := Run.exists_of_exec hexec
  obtain ⟨call, hstep, htrapped⟩ := (Option.any_eq_true _ _).mp hs
  obtain ⟨s', acts', rfl, -⟩ := hall s hrun.reachable call hstep
  cases htrapped

/-- A size line with a number is survived. -/
theorem survives_iff_rehearsal :
    ∃ s call, Reachable (next Rehearsal.env) Rehearsal.opening s ∧
      step Rehearsal.env s ⟨Rehearsal.instant 20 0, .lineRead Rehearsal.kioskIp⟩ = some call ∧
      Survives s call := by
  have hexec : (exec (next Rehearsal.env) Rehearsal.opening (Rehearsal.connections ++
      [⟨Rehearsal.instant 10 0, .received Rehearsal.kioskIp (decimal 12 ++ [newline])⟩])).any
      (fun r => r.2.reads Rehearsal.kioskIp == some .size &&
        (stoul (r.2.line Rehearsal.kioskIp)).toOption == some 12 &&
        (step Rehearsal.env r.2
          ⟨Rehearsal.instant 20 0, .lineRead Rehearsal.kioskIp⟩).isSome) = true := by
    decide +kernel
  obtain ⟨tr, s, hrun, hs⟩ := Run.exists_of_exec hexec
  rw [Bool.and_eq_true, Bool.and_eq_true, beq_iff_eq, beq_iff_eq,
    Option.isSome_iff_exists] at hs
  obtain ⟨⟨hread, hsize⟩, call, hcall⟩ := hs
  refine ⟨s, call, hrun.reachable, hcall, ((survives_iff Codec.reference_lawful
    Rehearsal.start_opening hrun (Rehearsal.instant 20 0) Rehearsal.kioskIp).2.2 call hcall).mpr
    ⟨fun _ => ?_, fun n _ _ hn => ?_⟩⟩
  · cases hstoul : stoul (s.line Rehearsal.kioskIp) with
    | ok n => exact ⟨n, rfl⟩
    | error trap =>
      rw [hstoul] at hsize
      cases hsize
  · have hread : s.reads Rehearsal.kioskIp = some .size := hread
    rw [hread] at hn
    cases hn

end CheckinService

end Pollbook
