import Pollbook.Client.Handlers
import Pollbook.IdService.Handlers
import Pollbook.Rehearsal
import Pollbook.Verify.Outcomes

/-!
# Signed bytes

Whoever verifies a signature writes the signed JSON again, from a message that
has been written, sent and read, the ID service's statement even inside two
other messages. The bytes are those the signer signed, so what a program
signed with a key that verifies what it signs is never turned down for its
signature (`signed_bytes_agree`).
-/

namespace Pollbook

/-- A line: a message as a server or a client gets it. -/
def Libraries.line (lib : Libraries) (j : Json) : Bytes := lib.render j ++ [newline]

/-- Every message is read back. -/
structure RoundTrips (c : Codec) : Prop where
  voterIDRequest : ∀ m, VoterIDRequest.fromJson c (m.toJson c) = .ok m
  verifiedVoterID : ∀ m, VerifiedVoterID.fromJson c (m.toJson c) = .ok m
  checkinRequest : ∀ m, CheckinRequest.fromJson c (m.toJson c) = .ok m
  checkinResponse : ∀ m, CheckinResponse.fromJson c (m.toJson c) = .ok m
  ticketRequest : ∀ m, TicketRequest.fromJson c (m.toJson c) = .ok m
  ticketResponse : ∀ m, TicketResponse.fromJson c (m.toJson c) = .ok m

theorem Codec.Lawful.roundTrips {c : Codec} (hc : c.Lawful) : RoundTrips c where
  voterIDRequest := VoterIDRequest.fromJson_toJson hc
  verifiedVoterID := VerifiedVoterID.fromJson_toJson hc
  checkinRequest := CheckinRequest.fromJson_toJson hc
  checkinResponse := CheckinResponse.fromJson_toJson hc
  ticketRequest := TicketRequest.fromJson_toJson hc
  ticketResponse := TicketResponse.fromJson_toJson hc

/-- A line is read back. -/
theorem Codec.Lawful.parse_line {lib : Libraries} (hlib : lib.toCodec.Lawful) {j : Json}
    (hj : j.Plain) : lib.parse (lib.line j) = .ok j :=
  hlib.parse_render hj [newline] (by simp [Json.isWhite, newline])

theorem Json.Plain.dump {j : Json} (hj : j.Plain) (c : Codec) : c.dump j = .ok (c.render j) :=
  c.dump_of_utf8 hj.utf8

variable {lib : Libraries}

/-! ## The voter's ID -/

/-- The ID service finds the request's signature good. -/
theorem VoterIDService.checkRequest_of_signed (env : VoterIDService.Env) {s : VoterIDService}
    (hlib : env.toCodec.Lawful) {body : VoterIDRequest.Body} (hutf8 : body.Utf8)
    {key : EnvelopeKey} (hkey : s.clientVerifiers body.clientIdNum = some key)
    (hverifies : env.Verifies key) :
    s.checkRequest env ⟨body, env.sign key (env.render (body.toJson env.toCodec))⟩ =
      .returned true [.verified key (env.render (body.toJson env.toCodec))
        (env.sign key (env.render (body.toJson env.toCodec)))] := by
  have hbody := VoterIDRequest.Body.plain_toJson hlib hutf8
  unfold checkRequest
  simp only [hbody.dump, mapAt_eq_ok.mpr hkey, hverifies _, Call.ofCpp_ok, Call.returned_bind,
    Call.after_nil, if_true, Call.perform_eq, Call.pure_eq, Call.after_returned, List.append_nil,
    List.nil_append]

/-- A request that is in order goes on to its endorsement. -/
theorem VoterIDService.handleValidationRequest_of_signed (env : VoterIDService.Env)
    (io : VoterIDService.Io) (clientIp : Endpoint) (hlib : env.toCodec.Lawful) {s : VoterIDService}
    {body : VoterIDRequest.Body} (hutf8 : body.Utf8) {key : EnvelopeKey}
    (hkey : s.clientVerifiers body.clientIdNum = some key) (hverifies : env.Verifies key)
    (hfresh : stale env.config.requestFreshnessInterval io.systemNow body.timestamp = false)
    {uid : UInt32} (hmatch : validateAndMatchIdData body.voterIdData = .ok uid)
    (hvalid : uid ≠ invalidVoterId)
    (hname : s.validateVoterName body.firstName body.middleName body.lastName uid = true) :
    let text := env.render (body.toJson env.toCodec)
    let request : VoterIDRequest := ⟨body, env.sign key text⟩
    s.handleValidationRequest env io clientIp request =
      (s.endorse env io clientIp request uid).after
        [.verified key text request.clientSignature] := by
  intro text request
  have hensure : s.ensureVerifier env body.clientIdNum = .ok (some s) := by
    rw [ensureVerifier, hkey, Option.isSome_some, if_pos rfl]
  have hcheck : s.checkRequest env request =
      .returned true [.verified key text request.clientSignature] :=
    checkRequest_of_signed env hlib hutf8 hkey hverifies
  unfold handleValidationRequest
  simp only [request, hfresh, hmatch, hname, hensure, Bool.false_eq_true, if_false, if_neg hvalid,
    Bool.not_true, Call.ofCpp_ok, Call.returned_bind, Call.after_nil]
  rw [hcheck, Call.returned_bind, Bool.not_true, if_neg Bool.false_ne_true]

/-- The first write of `check_in_voter`. -/
theorem PollbookClient.startIdRequestWrite_eq (hlib : lib.toCodec.Lawful) (c : PollbookClient)
    {body : VoterIDRequest.Body} (hutf8 : body.Utf8) (hid : body.clientIdNum = c.clientId) :
    c.startIdRequestWrite lib body.timestamp body.firstName body.middleName body.lastName
        body.voterIdData =
      .returned () [.signed (lib.render (body.toJson lib.toCodec)),
        .wrote .idService (frame (lib.render (VoterIDRequest.toJson lib.toCodec ⟨body,
          lib.sign c.privateKeySigner (lib.render (body.toJson lib.toCodec))⟩)))] := by
  have hbody := VoterIDRequest.Body.plain_toJson hlib hutf8
  have hrequest : (VoterIDRequest.toJson lib.toCodec ⟨body,
      lib.sign c.privateKeySigner (lib.render (body.toJson lib.toCodec))⟩).Plain :=
    VoterIDRequest.plain_toJson hlib hutf8
  obtain ⟨clientIdNum, timestamp, lastName, middleName, firstName, voterIdData⟩ := body
  subst hid
  unfold startIdRequestWrite
  simp only [hbody.dump, hrequest.dump, Call.ofCpp_ok, Call.returned_bind,
    Call.perform_eq, Call.after_returned]
  rfl

/-- The request for the voter's ID, from the client to the ID service: what the
service verifies is what the client signed, and the request is endorsed unless
something else is wrong with it. -/
def IdRequestAgrees (lib : Libraries) : Prop :=
  ∀ (client : PollbookClient) (now : UInt64) (firstName middleName lastName voterIdData : Bytes),
    validUtf8 firstName = true → validUtf8 middleName = true → validUtf8 lastName = true →
    ∃ (request : VoterIDRequest) (text : Bytes),
      client.startIdRequestWrite lib now firstName middleName lastName voterIdData =
        .returned () [.signed text,
          .wrote .idService (PollbookClient.frame (lib.render (request.toJson lib.toCodec)))] ∧
      ∀ (config : VoterIDService.Config) (io : VoterIDService.Io) (s : VoterIDService)
        (clientIp : Endpoint) (n : UInt64) (voterUniqueId : UInt32),
        n.toNat = (lib.render (request.toJson lib.toCodec)).length →
        s.clientVerifiers client.clientId = some client.privateKeySigner →
        lib.Verifies client.privateKeySigner →
        stale config.requestFreshnessInterval io.systemNow now = false →
        VoterIDService.validateAndMatchIdData voterIdData = .ok voterUniqueId →
        voterUniqueId ≠ VoterIDService.invalidVoterId →
        s.validateVoterName firstName middleName lastName voterUniqueId = true →
        s.payloadRead ⟨lib, config⟩ io clientIp n (lib.line (request.toJson lib.toCodec)) =
          (s.endorse ⟨lib, config⟩ io clientIp request voterUniqueId).after
            [.verified client.privateKeySigner text request.clientSignature]

theorem Codec.Lawful.idRequestAgrees (hlib : lib.toCodec.Lawful) : IdRequestAgrees lib := by
  intro client now firstName middleName lastName voterIdData hfirst hmiddle hlast
  let body : VoterIDRequest.Body :=
    ⟨client.clientId, now, lastName, middleName, firstName, voterIdData⟩
  let request : VoterIDRequest :=
    ⟨body, lib.sign client.privateKeySigner (lib.render (body.toJson lib.toCodec))⟩
  have hutf8 : body.Utf8 := ⟨hlast, hmiddle, hfirst⟩
  have hrequest : (request.toJson lib.toCodec).Plain :=
    VoterIDRequest.plain_toJson hlib hutf8
  refine ⟨request, lib.render (body.toJson lib.toCodec), ?_, ?_⟩
  · exact PollbookClient.startIdRequestWrite_eq hlib client hutf8 rfl
  · intro config io s clientIp n voterUniqueId hsize hkey hverifies hfresh hmatch hvalid hname
    have hlength : n.toNat = (lib.line (request.toJson lib.toCodec)).length - 1 := by
      rw [hsize, Libraries.line, List.length_append, List.length_singleton, Nat.add_sub_cancel]
    unfold VoterIDService.payloadRead
    rw [if_pos hlength]
    simp only [hlib.parse_line hrequest, VoterIDRequest.fromJson_toJson hlib,
      Call.ofCpp_ok, Call.returned_bind, Call.after_nil]
    exact VoterIDService.handleValidationRequest_of_signed ⟨lib, config⟩ io clientIp hlib hutf8
      hkey hverifies hfresh hmatch hvalid hname

/-- The ID service reads back the number that `check_in_voter` put in front of the
ID data. -/
theorem VoterIDService.validateAndMatchIdData_littleEndian (n : UInt32) (idData : Bytes) :
    validateAndMatchIdData (PollbookClient.littleEndian n ++ idData) = .ok n := by
  have h8 : (8 : UInt32).toBitVec % 32 = 8#32 := rfl
  have h16 : (16 : UInt32).toBitVec % 32 = 16#32 := rfl
  have h24 : (24 : UInt32).toBitVec % 32 = 24#32 := rfl
  refine congrArg Except.ok (UInt32.toBitVec_inj.mp (BitVec.eq_of_getLsbD_eq fun i hi => ?_))
  -- bit for bit, by the byte it is in
  simp only [UInt32.toBitVec_or, UInt32.toBitVec_shiftLeft, UInt32.toBitVec_shiftRight,
    UInt8.toBitVec_toUInt32, UInt32.toBitVec_toUInt8, BitVec.getLsbD_or, BitVec.getLsbD_setWidth,
    BitVec.getLsbD_shiftLeft, BitVec.getLsbD_ushiftRight, BitVec.shiftLeft_eq',
    BitVec.ushiftRight_eq', BitVec.toNat_ofNat, h8, h16, h24]
  grind

/-- A user who gives the voter's unique ID gets an endorsement for this voter,
unless something else is wrong with the request. -/
theorem PollbookClient.checkInVoterAs_agrees (hlib : lib.toCodec.Lawful) (client : PollbookClient)
    (now : UInt64) {firstName middleName lastName : Bytes} (hfirst : validUtf8 firstName = true)
    (hmiddle : validUtf8 middleName = true) (hlast : validUtf8 lastName = true)
    (desiredVoterUniqueId : UInt32) (voterIdData : Bytes)
    (hconnected : client.checkinConnected = true) (hidConnected : client.idConnected = true) :
    ∃ (request : VoterIDRequest) (text : Bytes),
      client.checkInVoterAs lib now firstName middleName lastName desiredVoterUniqueId voterIdData =
        .returned { client with currentRequestVoterName := (firstName, middleName, lastName) }
          [.signed text,
            .wrote .idService (frame (lib.render (request.toJson lib.toCodec)))] ∧
      ∀ (config : VoterIDService.Config) (io : VoterIDService.Io) (s : VoterIDService)
        (clientIp : Endpoint) (n : UInt64),
        n.toNat = (lib.render (request.toJson lib.toCodec)).length →
        s.clientVerifiers client.clientId = some client.privateKeySigner →
        lib.Verifies client.privateKeySigner →
        stale config.requestFreshnessInterval io.systemNow now = false →
        desiredVoterUniqueId ≠ VoterIDService.invalidVoterId →
        s.validateVoterName firstName middleName lastName desiredVoterUniqueId = true →
        s.payloadRead ⟨lib, config⟩ io clientIp n (lib.line (request.toJson lib.toCodec)) =
          (s.endorse ⟨lib, config⟩ io clientIp request desiredVoterUniqueId).after
            [.verified client.privateKeySigner text request.clientSignature] := by
  obtain ⟨request, text, hwrite, hread⟩ := hlib.idRequestAgrees
    { client with currentRequestVoterName := (firstName, middleName, lastName) } now firstName
    middleName lastName (littleEndian desiredVoterUniqueId ++ voterIdData) hfirst hmiddle hlast
  refine ⟨request, text, ?_, fun config io s clientIp n hsize hkey hverifies hfresh =>
    hread config io s clientIp n desiredVoterUniqueId hsize hkey hverifies hfresh
      (VoterIDService.validateAndMatchIdData_littleEndian desiredVoterUniqueId voterIdData)⟩
  unfold checkInVoterAs checkInVoter
  rw [if_neg (by rw [hconnected, hidConnected]; decide)]
  dsimp only
  rw [hwrite]
  rfl

/-! ## The ID service's statement -/

/-- The ID service endorses a request whose strings are UTF-8. -/
theorem VoterIDService.endorse_of_utf8 (env : VoterIDService.Env) {io : VoterIDService.Io}
    (hlib : env.toCodec.Lawful) {s : VoterIDService} {clientIp : Endpoint}
    {presentedId : VoterIDRequest} (hutf8 : presentedId.body.Utf8) (voterUniqueId : UInt32)
    {stream : Nat} (hstream : s.clientSslStreams clientIp = some stream)
    (hwrites : io.writes = true) :
    let statement := env.render (idStatement env.toCodec presentedId voterUniqueId)
    let response : VerifiedVoterID :=
      ⟨presentedId, voterUniqueId, env.sign env.config.localPrivateKey statement⟩
    s.endorse env io clientIp presentedId voterUniqueId = .returned s
      [.signed statement, .wrote clientIp (env.line (response.toJson env.toCodec))] := by
  intro statement response
  have hstatement := plain_idStatement hlib hutf8 voterUniqueId
  have hresponse : (response.toJson env.toCodec).Plain := VerifiedVoterID.plain_toJson hlib hutf8
  unfold endorse
  simp only [hstatement.dump, hresponse.dump, response, statement, mapAt_eq_ok.mpr hstream,
    hwrites, Call.ofCpp_ok, Call.returned_bind, Call.after_nil, Call.perform_eq, if_true]
  rfl

/-- What the client makes of the ID service's answer goes through when the
statement was signed. -/
theorem PollbookClient.idResponseRead_of_signed (hlib : lib.toCodec.Lawful)
    (client : PollbookClient) (hverifies : lib.Verifies client.idServiceVerifier) (now : UInt64)
    {presentedId : VoterIDRequest} (hutf8 : presentedId.body.Utf8) (voterUniqueId : UInt32) :
    let text := lib.render (idStatement lib.toCodec presentedId voterUniqueId)
    let response : VerifiedVoterID :=
      ⟨presentedId, voterUniqueId, lib.sign client.idServiceVerifier text⟩
    client.idResponseRead lib now (lib.line (response.toJson lib.toCodec)) =
      (client.startCheckinRequestWrite lib now response).after
        [.verified client.idServiceVerifier text response.idServiceSignature] := by
  intro text response
  have hstatement := plain_idStatement hlib hutf8 voterUniqueId
  have hresponse : (response.toJson lib.toCodec).Plain :=
    VerifiedVoterID.plain_toJson hlib hutf8
  unfold idResponseRead handleIdResponse verifyBytes
  simp only [hlib.parse_line hresponse, VerifiedVoterID.fromJson_toJson hlib,
    Call.ofCpp_ok, Call.returned_bind, Call.after_nil, response, text, hstatement.dump,
    hverifies _, if_true, Call.perform_eq, Call.pure_eq, Call.after_returned]
  rfl

/-- The text of a check-in request is handled as the request. -/
theorem CheckinService.handleUntrustedClient_line (env : Env) (io : Io) (s : CheckinService)
    (clientIp : Endpoint) (hlib : env.toCodec.Lawful) {request : CheckinRequest}
    (hplain : (request.toJson env.toCodec).Plain) :
    s.handleUntrustedClient env io (env.line (request.toJson env.toCodec)) clientIp =
      s.handleCheckinRequest env io clientIp request := by
  unfold handleUntrustedClient
  rw [hlib.parse_line hplain]
  dsimp only
  rw [Call.ofCpp_ok, Call.returned_bind, CheckinRequest.fromJson_toJson hlib, Call.ofCpp_ok,
    Call.returned_bind, Call.after_nil, Call.after_nil]

/-- The check-in service finds both signatures good, the client's and, inside
its request, the ID service's. -/
theorem CheckinService.validateClientRequest_of_signed (env : Env) (s : CheckinService)
    (hlib : env.toCodec.Lawful) {body : CheckinRequest.Body} (hutf8 : body.Utf8)
    {key : EnvelopeKey} (hkey : s.clientVerifiers body.clientIdNum = some key)
    (hverifies : env.Verifies key) (hidVerifies : env.Verifies env.config.idServicePublicKey)
    (hvoter : body.voterUniqueId = body.verifiedIdMessage.voterUniqueId)
    (hstatement : body.verifiedIdMessage.idServiceSignature =
      env.sign env.config.idServicePublicKey (env.render (idStatement env.toCodec
        body.verifiedIdMessage.presentedId body.verifiedIdMessage.voterUniqueId)))
    (now : UInt64) :
    s.validateClientRequest env ⟨body, env.sign key (env.render (body.toJson env.toCodec))⟩ now =
      .returned (!stale env.config.requestFreshnessInterval now body.timestamp)
        [.verified key (env.render (body.toJson env.toCodec))
            (env.sign key (env.render (body.toJson env.toCodec))),
          .verified env.config.idServicePublicKey (env.render (idStatement env.toCodec
              body.verifiedIdMessage.presentedId body.verifiedIdMessage.voterUniqueId))
            body.verifiedIdMessage.idServiceSignature] := by
  have hbody := CheckinRequest.Body.plain_toJson hlib hutf8
  have hidMsg := plain_idStatement hlib hutf8.2.2.2 body.verifiedIdMessage.voterUniqueId
  have hverify := hidVerifies (env.render (idStatement env.toCodec
    body.verifiedIdMessage.presentedId body.verifiedIdMessage.voterUniqueId))
  rw [← hstatement] at hverify
  unfold validateClientRequest verifyBytes
  simp only [hbody.dump, hidMsg.dump, mapAt_eq_ok.mpr hkey, hverifies _, hverify, hvoter,
    Call.ofCpp_ok, Call.returned_bind, Call.after_nil, if_true, Call.perform_eq, Call.pure_eq,
    Call.after_returned, Bool.not_true, Bool.false_eq_true, if_false, ne_eq, not_true_eq_false]
  rfl

/-- The ID service's statement, from the ID service to the client and, inside
the client's request, to the check-in service, with the request itself. -/
def StatementAgrees (lib : Libraries) : Prop :=
  ∀ (config : VoterIDService.Config) (io : VoterIDService.Io) (s : VoterIDService)
    (clientIp : Endpoint) (presentedId : VoterIDRequest) (voterUniqueId : UInt32) (stream : Nat),
    presentedId.body.Utf8 → s.clientSslStreams clientIp = some stream → io.writes = true →
    lib.Verifies config.localPrivateKey →
    ∃ (response : VerifiedVoterID) (statement : Bytes),
      s.endorse ⟨lib, config⟩ io clientIp presentedId voterUniqueId = .returned s
        [.signed statement, .wrote clientIp (lib.line (response.toJson lib.toCodec))] ∧
      ∀ (client : PollbookClient) (now : UInt64) (firstName middleName lastName : Bytes),
        client.idServiceVerifier = config.localPrivateKey →
        client.currentRequestVoterName = (firstName, middleName, lastName) →
        validUtf8 firstName = true → validUtf8 middleName = true → validUtf8 lastName = true →
        ∃ (request : CheckinRequest) (text : Bytes),
          client.idResponseRead lib now (lib.line (response.toJson lib.toCodec)) = .returned ()
            [.verified config.localPrivateKey statement response.idServiceSignature, .signed text,
              .wrote .checkinService
                (PollbookClient.frame (lib.render (request.toJson lib.toCodec)))] ∧
          ∀ (config' : Config) (io : Io) (s : CheckinService) (clientIp : Endpoint),
            config'.idServicePublicKey = config.localPrivateKey →
            s.clientVerifiers client.clientId = some client.privateKeySigner →
            lib.Verifies client.privateKeySigner →
            s.handleUntrustedClient ⟨lib, config'⟩ io (lib.line (request.toJson lib.toCodec))
                clientIp = s.handleCheckinRequest ⟨lib, config'⟩ io clientIp request ∧
              ∀ now', s.validateClientRequest ⟨lib, config'⟩ request now' =
                .returned (!stale config'.requestFreshnessInterval now' now)
                  [.verified client.privateKeySigner text request.clientSignature,
                    .verified config.localPrivateKey statement response.idServiceSignature]

theorem Codec.Lawful.statementAgrees (hlib : lib.toCodec.Lawful) : StatementAgrees lib := by
  intro config io s clientIp presentedId voterUniqueId stream hutf8 hstream hwrites hidVerifies
  let statement := lib.render (idStatement lib.toCodec presentedId voterUniqueId)
  let response : VerifiedVoterID :=
    ⟨presentedId, voterUniqueId, lib.sign config.localPrivateKey statement⟩
  refine ⟨response, statement, ?_, ?_⟩
  · exact VoterIDService.endorse_of_utf8 ⟨lib, config⟩ hlib hutf8 voterUniqueId hstream hwrites
  · intro client now firstName middleName lastName hverifier hname hfirst hmiddle hlast
    let body : CheckinRequest.Body :=
      ⟨client.clientId, now, lastName, firstName, middleName, voterUniqueId, response⟩
    let text := lib.render (body.toJson lib.toCodec)
    let request : CheckinRequest := ⟨body, lib.sign client.privateKeySigner text⟩
    have hbodyUtf8 : body.Utf8 := ⟨hlast, hfirst, hmiddle, hutf8⟩
    have hbody := CheckinRequest.Body.plain_toJson hlib hbodyUtf8
    have hrequest : (request.toJson lib.toCodec).Plain :=
      CheckinRequest.plain_toJson hlib hbodyUtf8
    refine ⟨request, text, ?_, ?_⟩
    · have hread := client.idResponseRead_of_signed hlib (hverifier ▸ hidVerifies) now hutf8
        voterUniqueId
      rw [hverifier] at hread
      rw [hread]
      have hwrite : client.startCheckinRequestWrite lib now response = .returned () [.signed text,
          .wrote .checkinService
            (PollbookClient.frame (lib.render (request.toJson lib.toCodec)))] := by
        unfold PollbookClient.startCheckinRequestWrite
        rw [hname]
        simp only [body, request, text, response] at hbody hrequest ⊢
        simp only [hbody.dump, hrequest.dump, Call.ofCpp_ok, Call.returned_bind,
          Call.perform_eq, Call.after_returned]
        rfl
      rw [hwrite, Call.after_returned]
      rfl
    · intro config' io s clientIp hidKey hkey hverifies
      constructor
      · exact s.handleUntrustedClient_line ⟨lib, config'⟩ io clientIp hlib hrequest
      · intro now'
        have hvalid := CheckinService.validateClientRequest_of_signed ⟨lib, config'⟩ s hlib
          hbodyUtf8 hkey hverifies (hidKey ▸ hidVerifies) rfl (by rw [hidKey]) now'
        rw [hidKey] at hvalid
        exact hvalid

/-! ## The answer to a check-in request -/

/-- The response to a check-in request, from the check-in service to the
client. -/
def CheckinResponseAgrees (lib : Libraries) : Prop :=
  ∀ (config : Config) (io : Io) (s s' : CheckinService) (clientIp : Endpoint)
    (request : CheckinRequest) (accept : Bool) (ticket : Bytes) (acts : List Action),
    s.answerCheckin ⟨lib, config⟩ io clientIp request accept ticket = .returned s' acts →
    ∃ (response : CheckinResponse) (text : Bytes),
      acts = [.checkinAnswer clientIp request response] ∧
      response.checkinServiceSignature = lib.sign config.localPrivateKey text ∧
      ∀ client : PollbookClient, client.checkinServiceVerifier = config.localPrivateKey →
        lib.Verifies config.localPrivateKey →
        client.checkinResponseRead lib (lib.line (response.toJson lib.toCodec)) = .returned ()
          [.verified config.localPrivateKey text response.checkinServiceSignature,
            if accept then .setValue true []
            else .setValue false (bytes "Check-in service rejected the request")]

/-- A response to a check-in request that the check-in service has signed. -/
theorem PollbookClient.checkinResponseRead_of_signed (hlib : lib.toCodec.Lawful)
    (c : PollbookClient) (hverifies : lib.Verifies c.checkinServiceVerifier)
    {response : CheckinResponse} (hutf8 : response.body.Utf8)
    (hsigned : response.checkinServiceSignature =
      lib.sign c.checkinServiceVerifier (lib.render response.body.toJson)) :
    c.checkinResponseRead lib (lib.line (response.toJson lib.toCodec)) =
      .returned () [.verified c.checkinServiceVerifier (lib.render response.body.toJson)
          response.checkinServiceSignature,
        if response.body.approved then .setValue true []
        else .setValue false (bytes "Check-in service rejected the request")] := by
  have hbody := CheckinResponse.Body.plain_toJson hutf8
  have hresponse : (response.toJson lib.toCodec).Plain := CheckinResponse.plain_toJson hlib hutf8
  have hverify : lib.verify c.checkinServiceVerifier (lib.render response.body.toJson)
      response.checkinServiceSignature = .ok true := by
    rw [hsigned]
    exact hverifies _
  unfold checkinResponseRead handleCheckinResponse verifyBytes
  simp only [hlib.parse_line hresponse, CheckinResponse.fromJson_toJson hlib, Call.ofCpp_ok,
    Call.returned_bind, Call.after_nil, hbody.dump, hverify, if_true, Call.perform_eq,
    Call.pure_eq, Call.after_returned, Bool.not_true, Bool.false_eq_true, if_false]
  cases response.body.approved with
  | true => rfl
  | false => rfl

theorem Codec.Lawful.checkinResponseAgrees (hlib : lib.toCodec.Lawful) :
    CheckinResponseAgrees lib := by
  intro config io s s' clientIp request accept ticket acts h
  obtain ⟨⟨hutf8, -⟩, -, rfl⟩ := CheckinService.answerCheckin_returned.mp h
  let body := CheckinService.checkinResponseBody io request accept ticket
  let text := lib.render body.toJson
  let response : CheckinResponse := ⟨body, lib.sign config.localPrivateKey text⟩
  have hbodyUtf8 : body.Utf8 := CheckinResponse.Body.utf8_of_toJson hutf8
  refine ⟨response, text, rfl, rfl, ?_⟩
  intro client hverifier hverifies
  have hsigned : response.checkinServiceSignature =
      lib.sign client.checkinServiceVerifier (lib.render response.body.toJson) := by
    rw [hverifier]
  have hread := client.checkinResponseRead_of_signed hlib (hverifier ▸ hverifies) hbodyUtf8 hsigned
  rw [hverifier] at hread
  exact hread

/-! ## Tickets -/

/-- The fault of a ticket request whose signature is wrong. -/
def wrongTicketSignature : String := "Invalid client signature on ticket request"

section TicketSignature

variable {env : Env} {s : CheckinService} {clientIp : Endpoint} {request : TicketRequest}

/-- Not the fault of a wrong signature. -/
def Action.SignatureGood (a : Action) : Prop := ∀ id, a ≠ .reportFault id wrongTicketSignature

theorem signatureGood_of_ne {id : UInt32} {faultDesc : String}
    (h : faultDesc ≠ wrongTicketSignature) : (Action.reportFault id faultDesc).SignatureGood :=
  fun _ heq => h (Action.reportFault.inj heq).2

namespace CheckinService

variable {p : Action → Prop} {clientId : UInt32}

theorem rejectWith_performs {faultDesc : String} (h : p (.reportFault clientId faultDesc)) :
    (s.rejectWith clientId faultDesc).Performs p :=
  Call.performs_bind (Call.performs_perform h) fun _ => Call.performs_pure _

theorem sendTicketResponse_performs (h : ∀ response, p (.ticketAnswer clientIp request response))
    (body : TicketResponse.Body) : (s.sendTicketResponse env clientIp request body).Performs p := by
  unfold sendTicketResponse
  refine Call.performs_bind (Call.performs_ofCpp _) fun _ => ?_
  refine Call.performs_bind (Call.performs_ofCpp _) fun _ => ?_
  refine Call.performs_bind (Call.performs_ofCpp _) fun _ => ?_
  exact Call.performs_perform (h _)

/-- The faults of a ticket request with the right PIN. -/
def redeemFaults : List String :=
  ["No timer found for voter ID",
    "No pending ticket for voter (already used, expired, or never issued)",
    "Request outside valid time window", "Invalid ticket"]

theorem redeemTicket_performs (hanswer : ∀ response, p (.ticketAnswer clientIp request response))
    (hfault : ∀ faultDesc ∈ redeemFaults, p (.reportFault clientId faultDesc)) (io : Io)
    (voterId : UInt32) (secret : Bytes) :
    (s.redeemTicket env io clientIp request clientId voterId secret).Performs p := by
  have hreported (faultDesc : String) (h : faultDesc ∈ redeemFaults) :
      (Call.perform (.reportFault clientId faultDesc)).Performs p :=
    Call.performs_perform (hfault faultDesc h)
  unfold redeemTicket
  split
  · refine Call.performs_bind (hreported _ (by decide)) fun _ => ?_
    refine Call.performs_bind (sendTicketResponse_performs hanswer _) fun _ => ?_
    refine Call.performs_bind (hreported _ (by decide)) fun _ => ?_
    exact rejectWith_performs (hfault _ (by decide))
  · dsimp only
    split
    · refine Call.performs_bind (sendTicketResponse_performs hanswer _) fun _ => ?_
      exact Call.performs_pure _
    · refine Call.performs_bind (hreported _ (by decide)) fun _ => ?_
      refine Call.performs_bind (sendTicketResponse_performs hanswer _) fun _ => ?_
      exact rejectWith_performs (hfault _ (by decide))

/-- The check-in service verifies the request, and finds its signature good. -/
theorem handleTicketRequest_of_signed (env : Env) (io : Io)
    {body : TicketRequest.Body} (hutf8 : body.Utf8)
    {key : EnvelopeKey} (hid : s.clientIdMap clientIp = some body.clientId)
    {binding : UInt32 × Bytes} (hticket : s.clientTicketsMap body.ticket = some binding)
    (hkey : s.clientVerifiers body.clientId = some key) (hverifies : env.Verifies key) :
    let text := env.render body.toJson
    ∃ rest, (s.handleTicketRequest env io clientIp ⟨body, env.sign key text⟩).actions =
      .verified key text (env.sign key text) :: rest ∧ ∀ a ∈ rest, a.SignatureGood := by
  intro text
  have hbody := TicketRequest.Body.plain_toJson hutf8
  have hensure : s.ensureVerifier env body.clientId = some s := by
    rw [ensureVerifier, hkey, Option.isSome_some, if_pos rfl]
  have hverify : verifyBytes env key text (env.sign key text) =
      .returned true [.verified key text (env.sign key text)] := by
    unfold verifyBytes
    rw [hverifies]
    rfl
  obtain ⟨voterId, secret⟩ := binding
  unfold handleTicketRequest
  simp only [hid, Option.getD_some, ne_eq, not_true_eq_false, if_false, hticket, hensure,
    hbody.dump, mapAt_eq_ok.mpr hkey, Call.ofCpp_ok, Call.returned_bind, Call.after_nil]
  rw [hverify, Call.returned_bind, Call.actions_after]
  refine ⟨_, rfl, ?_⟩
  change Call.Performs Action.SignatureGood _
  rw [Bool.not_true, if_neg Bool.false_ne_true]
  have hanswer : ∀ response,
      (Action.ticketAnswer clientIp ⟨body, env.sign key text⟩ response).SignatureGood := by
    rintro response id ⟨⟩
  split
  · exact rejectWith_performs (signatureGood_of_ne (by decide))
  split
  · refine Call.performs_bind (sendTicketResponse_performs hanswer _) fun _ => ?_
    exact Call.performs_pure _
  · refine redeemTicket_performs hanswer (fun faultDesc hfault => signatureGood_of_ne ?_) io voterId
      secret
    rintro rfl
    exact absurd hfault (by decide)

end CheckinService

end TicketSignature

/-- The ticket request, from the client to the check-in service. -/
def TicketRequestAgrees (lib : Libraries) : Prop :=
  ∀ (client : PollbookClient) (now : UInt64) (ticket : Bytes) (pin : UInt32),
    client.checkinConnected = true → validUtf8 ticket = true →
    ∃ (request : TicketRequest) (text : Bytes),
      client.verifyTicket lib now ticket pin = .returned () [.signed text,
        .wrote .checkinService (PollbookClient.frame (lib.render (request.toJson lib.toCodec)))] ∧
      ∀ (config : Config) (io : Io) (s : CheckinService) (clientIp : Endpoint),
        s.handleTrustedClient ⟨lib, config⟩ io (lib.line (request.toJson lib.toCodec)) clientIp =
            s.readFromCsv.handleTicketRequest ⟨lib, config⟩ io clientIp request ∧
          ∀ s : CheckinService, s.clientIdMap clientIp = some client.clientId →
            (∃ binding, s.clientTicketsMap ticket = some binding) →
            s.clientVerifiers client.clientId = some client.privateKeySigner →
            lib.Verifies client.privateKeySigner →
            ∃ rest, (s.handleTicketRequest ⟨lib, config⟩ io clientIp request).actions =
                .verified client.privateKeySigner text request.signature :: rest ∧
              ∀ a ∈ rest, a.SignatureGood

/-- The write of `verify_ticket`. -/
theorem PollbookClient.verifyTicket_eq (hlib : lib.toCodec.Lawful) {c : PollbookClient}
    (hconnected : c.checkinConnected = true) {body : TicketRequest.Body} (hutf8 : body.Utf8)
    (hclient : body.clientId = c.clientId) :
    c.verifyTicket lib body.timestamp body.ticket body.pin =
      .returned () [.signed (lib.render body.toJson),
        .wrote .checkinService (frame (lib.render (TicketRequest.toJson lib.toCodec ⟨body,
          lib.sign c.privateKeySigner (lib.render body.toJson)⟩)))] := by
  have hbody := TicketRequest.Body.plain_toJson hutf8
  have hrequest : (TicketRequest.toJson lib.toCodec ⟨body,
      lib.sign c.privateKeySigner (lib.render body.toJson)⟩).Plain :=
    TicketRequest.plain_toJson hlib hutf8
  obtain ⟨clientId, timestamp, ticket, pin⟩ := body
  subst hclient
  unfold verifyTicket
  simp only [hconnected, Bool.not_true, Bool.false_eq_true, if_false, hbody.dump, hrequest.dump,
    Call.ofCpp_ok, Call.returned_bind, Call.perform_eq, Call.after_returned]
  rfl

/-- The text of a ticket request is handled as the request, when the ticket file
has been read. -/
theorem CheckinService.handleTrustedClient_line (env : Env) (io : Io) (s : CheckinService)
    (clientIp : Endpoint) (hlib : env.toCodec.Lawful) {request : TicketRequest}
    (hplain : (request.toJson env.toCodec).Plain) :
    s.handleTrustedClient env io (env.line (request.toJson env.toCodec)) clientIp =
      s.readFromCsv.handleTicketRequest env io clientIp request := by
  unfold handleTrustedClient
  rw [hlib.parse_line hplain]
  dsimp only
  rw [TicketRequest.fromJson_toJson hlib]

theorem Codec.Lawful.ticketRequestAgrees (hlib : lib.toCodec.Lawful) : TicketRequestAgrees lib := by
  intro client now ticket pin hconnected hticket
  let body : TicketRequest.Body := ⟨client.clientId, now, ticket, pin⟩
  let text := lib.render body.toJson
  let request : TicketRequest := ⟨body, lib.sign client.privateKeySigner text⟩
  have hutf8 : body.Utf8 := hticket
  have hrequest : (request.toJson lib.toCodec).Plain :=
    TicketRequest.plain_toJson hlib hutf8
  refine ⟨request, text, ?_, ?_⟩
  · exact PollbookClient.verifyTicket_eq hlib hconnected hutf8 rfl
  · intro config io s clientIp
    constructor
    · exact s.handleTrustedClient_line ⟨lib, config⟩ io clientIp hlib hrequest
    · rintro s hid ⟨binding, hbound⟩ hkey hverifies
      exact CheckinService.handleTicketRequest_of_signed ⟨lib, config⟩ io hutf8 hid hbound hkey
        hverifies

/-- The response to a ticket request, from the check-in service to the client. -/
def TicketResponseAgrees (lib : Libraries) : Prop :=
  ∀ (config : Config) (s : CheckinService) (clientIp : Endpoint) (request : TicketRequest)
    (body : TicketResponse.Body) (acts : List Action),
    s.sendTicketResponse ⟨lib, config⟩ clientIp request body = .returned () acts →
    ∃ (response : TicketResponse) (text : Bytes),
      acts = [.ticketAnswer clientIp request response] ∧ response.body = body ∧
      response.signature = lib.sign config.localPrivateKey text ∧
      ∀ client : PollbookClient, client.checkinServiceVerifier = config.localPrivateKey →
        lib.Verifies config.localPrivateKey →
        client.ticketResponseRead lib (lib.line (response.toJson lib.toCodec)) = .returned ()
          [.verified config.localPrivateKey text response.signature,
            .setValue body.approved body.secret]

/-- A response to a ticket request that the check-in service has signed. -/
theorem PollbookClient.ticketResponseRead_of_signed (hlib : lib.toCodec.Lawful) (c : PollbookClient)
    (hverifies : lib.Verifies c.checkinServiceVerifier) {response : TicketResponse}
    (hutf8 : response.body.Utf8) (hsigned : response.signature =
      lib.sign c.checkinServiceVerifier (lib.render response.body.toJson)) :
    c.ticketResponseRead lib (lib.line (response.toJson lib.toCodec)) =
      .returned () [.verified c.checkinServiceVerifier (lib.render response.body.toJson)
          response.signature, .setValue response.body.approved response.body.secret] := by
  have hbody := TicketResponse.Body.plain_toJson hutf8
  have hresponse : (response.toJson lib.toCodec).Plain := TicketResponse.plain_toJson hlib hutf8
  have hverify : lib.verify c.checkinServiceVerifier (lib.render response.body.toJson)
      response.signature = .ok true := by
    rw [hsigned]
    exact hverifies _
  have hhandle : c.handleTicketResponse lib (lib.line (response.toJson lib.toCodec)) =
      .returned () [.verified c.checkinServiceVerifier (lib.render response.body.toJson)
        response.signature, .setValue response.body.approved response.body.secret] := by
    unfold handleTicketResponse verifyBytes
    simp only [hlib.parse_line hresponse, TicketResponse.fromJson_toJson hlib, Call.ofCpp_ok,
      Call.returned_bind, hbody.dump, hverify, if_true, Call.perform_eq, Call.pure_eq,
      Call.after_returned]
    rfl
  unfold ticketResponseRead
  rw [hhandle]

theorem Codec.Lawful.ticketResponseAgrees (hlib : lib.toCodec.Lawful) :
    TicketResponseAgrees lib := by
  intro config s clientIp request body acts h
  obtain ⟨⟨hutf8, -⟩, rfl⟩ := CheckinService.sendTicketResponse_returned.mp h
  let text := lib.render body.toJson
  let response : TicketResponse := ⟨body, lib.sign config.localPrivateKey text⟩
  have hbodyUtf8 : body.Utf8 := TicketResponse.Body.utf8_of_toJson hutf8
  refine ⟨response, text, rfl, rfl, rfl, ?_⟩
  intro client hverifier hverifies
  have hsigned : response.signature =
      lib.sign client.checkinServiceVerifier (lib.render response.body.toJson) := by
    rw [hverifier]
  have hread := client.ticketResponseRead_of_signed hlib (hverifier ▸ hverifies) hbodyUtf8 hsigned
  rw [hverifier] at hread
  exact hread

/-! ## All of them -/

/-- **Byte agreement.** -/
theorem signed_bytes_agree (hlib : lib.toCodec.Lawful) :
    RoundTrips lib.toCodec ∧ IdRequestAgrees lib ∧ StatementAgrees lib ∧
      CheckinResponseAgrees lib ∧ TicketRequestAgrees lib ∧ TicketResponseAgrees lib :=
  ⟨hlib.roundTrips, hlib.idRequestAgrees, hlib.statementAgrees,
    hlib.checkinResponseAgrees, hlib.ticketRequestAgrees, hlib.ticketResponseAgrees⟩

/-- The kiosk asks for a check-in, and the tablet presents a ticket, both to a
service that finds the signatures good. -/
theorem signed_bytes_agree_rehearsal :
    RoundTrips Rehearsal.env.toCodec ∧ IdRequestAgrees Rehearsal.env.toLibraries ∧
      StatementAgrees Rehearsal.env.toLibraries ∧
      CheckinResponseAgrees Rehearsal.env.toLibraries ∧
      TicketRequestAgrees Rehearsal.env.toLibraries ∧
      TicketResponseAgrees Rehearsal.env.toLibraries :=
  signed_bytes_agree Codec.reference_lawful

end Pollbook
