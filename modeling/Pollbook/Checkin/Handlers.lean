import Pollbook.Checkin.Roll
import Pollbook.Lib.Call

/-!
# The request handlers of the check-in service

`handle_checkin_request` and `handle_trusted_client` of `checkin_service.cpp`,
with the functions they call. A handler takes the state of the service and
returns the state it leaves; what others can see of it is in its actions. Log
lines are left out.
-/

namespace Pollbook

/-! ## Timers -/

/-- `std::chrono::minutes(n)` as a duration of the steady clock. -/
def minutes (n : Int32) : Int := nanoseconds (n.toInt * 60000000000)

/-- 292 years fit. -/
theorem minutes_eq {n : Int32} (hlo : -153722867 ≤ n.toInt) (hhi : n.toInt ≤ 153722867) :
    minutes n = n.toInt * 60000000000 :=
  nanoseconds_eq (by omega) (by omega)

namespace Sessions

/-- `steady_timer::cancel`, also part of destroying the timer: it stops the
wait if that is still waiting. -/
def cancel (s : Sessions) (id : Nat) : Sessions :=
  match s.waits id with
  | some wait =>
    if wait.status = .waiting then
      { s with waits := s.waits.set id { wait with status := .cancelled } }
    else s
  | none => s

/-- Drop the `shared_ptr` in `request_timers[voter_id]`, the last one to its
`Timer`. -/
def destroyTimer (s : Sessions) (voterId : UInt32) : Sessions :=
  match s.requestTimers voterId with
  | some timer => s.cancel timer.id
  | none => s

/-- `CheckinService::start_timer`, with the expiry its `expires_after` sets. An
expiry past the end of the clock, where `expires_after` stops, is one that no
reading comes to. -/
def startTimer (s : Sessions) (voterId : UInt32) (expiry : Int) : Sessions :=
  let timer : Timer := ⟨s.timers, voterId, expiry⟩
  let s := s.destroyTimer voterId
  { s with
    requestTimers := s.requestTimers.set voterId timer
    waits := s.waits.set timer.id ⟨voterId, expiry, .waiting⟩
    timers := timer.id + 1 }

/-- `CheckinService::handle_verification_timeout` -/
def handleVerificationTimeout (s : Sessions) (voterId : UInt32) : Sessions :=
  let s := s.destroyTimer voterId
  let s := { s with requestTimers := s.requestTimers.erase voterId }
  if s.voterStatusTable voterId = some .pending then
    { s with voterStatusTable := s.voterStatusTable.set voterId .eligible }
  else s

/-- The approval block of `handle_trusted_client`, after its window check: the
timer leaves the map, a pending voter is checked in, the timer is cancelled. -/
def confirm (s : Sessions) (voterId : UInt32) (timer : Timer) : Sessions :=
  let s := { s with requestTimers := s.requestTimers.erase voterId }
  let s :=
    if s.voterStatusTable voterId = some .pending then
      { s with voterStatusTable := s.voterStatusTable.set voterId .checkedIn }
    else s
  s.cancel timer.id

end Sessions

namespace CheckinService

/-- `reportFault`, and the handler is done. -/
def rejectWith (s : CheckinService) (clientId : UInt32) (faultDesc : String) :
    Call Action CheckinService := do
  Call.perform (.reportFault clientId faultDesc)
  return s

/-! ## Client keys -/

/-- The name `load_client_public_key` builds. -/
def keyFileToLoad (config : Config) (clientId : UInt32) : Bytes :=
  normalize (config.clientKeysFolder ++ slash :: (config.clientKeyFilePrefix ++
    (decimal clientId.toNat ++ bytes ".pem")))

/-- `EnvelopeKey::from_pem_public` on a file. -/
def fromPemPublic (pemFiles : Map Bytes PemFile) (pemFileName : Bytes) : Cpp EnvelopeKey :=
  match pemFiles pemFileName with
  | some (.publicKey key) => .ok key
  | some .invalid => .error (.runtimeError "Load public key")
  | some (.unopenable permissionDenied) => .error (PemFile.openError permissionDenied)
  | none => .error (.runtimeError "File not found")

/-- `CheckinService::load_client_public_key`: every exception is caught, and
makes it return false. -/
def loadClientPublicKey (env : Env) (s : CheckinService) (clientId : UInt32) :
    Option CheckinService :=
  match fromPemPublic s.pemFiles (keyFileToLoad env.config clientId) with
  | .ok key =>
    some { s with
      clientPublicKeys := s.clientPublicKeys.emplace clientId key
      clientVerifiers := s.clientVerifiers.emplace clientId key }
  | .error _ => none

/-- Ensure the public key for this client is in memory. -/
def ensureVerifier (env : Env) (s : CheckinService) (clientId : UInt32) : Option CheckinService :=
  if (s.clientVerifiers clientId).isSome then some s else s.loadClientPublicKey env clientId

/-- Verify a message. -/
def verifyBytes (env : Env) (key : EnvelopeKey) (message signature : Bytes) :
    Call Action Bool := do
  let valid ← Call.ofCpp (env.verify key message signature)
  if valid then
    Call.perform (.verified key message signature)
    return true
  else return false

/-! ## Check-in requests -/

/-- `CheckinService::validate_client_request` -/
def validateClientRequest (env : Env) (s : CheckinService) (request : CheckinRequest)
    (currentTimestamp : UInt64) : Call Action Bool := do
  let requestBodyStr ← Call.ofCpp (env.dump (request.body.toJson env.toCodec))
  let verifier ← Call.ofCpp (mapAt s.clientVerifiers request.body.clientIdNum)
  if !(← verifyBytes env verifier requestBodyStr request.clientSignature) then
    Call.perform (.reportFault s.clientId
      "Invalid client signature on check-in request (tampered body)")
    return false
  else
    let verifiedId := request.body.verifiedIdMessage
    let idMsg ← Call.ofCpp (env.dump
      (idStatement env.toCodec verifiedId.presentedId verifiedId.voterUniqueId))
    if !(← verifyBytes env env.config.idServicePublicKey idMsg verifiedId.idServiceSignature) then
      return false
    else if request.body.voterUniqueId ≠ verifiedId.voterUniqueId then
      Call.perform (.reportFault s.clientId
        "Claimed voter UID does not match ID-service-verified UID")
      return false
    else return !stale env.config.requestFreshnessInterval currentTimestamp request.body.timestamp

/-- `start_size_read`: the buffer of the peer is made if it is not there. -/
def startSizeRead (s : CheckinService) (clientIp : Endpoint) : CheckinService :=
  { s with
    clientBuffers := s.clientBuffers.emplace clientIp []
    reads := s.reads.set clientIp .size }

/-- The body of the response to a check-in request. -/
def checkinResponseBody (io : Io) (request : CheckinRequest) (accept : Bool) (ticket : Bytes) :
    CheckinResponse.Body :=
  ⟨accept, request.body.clientIdNum, io.systemNow, request.body.lastName,
    request.body.firstName, request.body.middleName, request.body.voterUniqueId, ticket⟩

/-- The end of `handle_checkin_request`: sign the response, send it, and wait
for the next message. A write that fails throws. -/
def answerCheckin (env : Env) (io : Io) (s : CheckinService) (clientIp : Endpoint)
    (request : CheckinRequest) (accept : Bool) (ticket : Bytes) :
    Call Action CheckinService := do
  let responseBody := checkinResponseBody io request accept ticket
  let responseBodyStr ← Call.ofCpp (env.dump responseBody.toJson)
  let response : CheckinResponse :=
    ⟨responseBody, env.sign env.config.localPrivateKey responseBodyStr⟩
  let _ ← Call.ofCpp (env.dump (response.toJson env.toCodec))
  let _ ← Call.ofCpp (mapAt s.clientSslStreams clientIp)
  if io.writes then
    Call.perform (.checkinAnswer clientIp request response)
    return s.startSizeRead clientIp
  else Call.threw (.systemError "write") []

/-- An accepted voter becomes pending, with a timer. -/
def makePending (env : Env) (io : Io) (s : CheckinService) (voterId : UInt32) : CheckinService :=
  let sessions : Sessions :=
    { s.toSessions with voterStatusTable := s.voterStatusTable.set voterId .pending }
  { s with
    toSessions := sessions.startTimer voterId (io.steadyNow + minutes env.config.timeoutInterval) }

/-- An accepted request gets a ticket and a secret. -/
def issueTicket (io : Io) (s : CheckinService) (voterId : UInt32) :
    Call Action (Bytes × CheckinService) := do
  let ticket ← Call.ofCpp (generateSecret (io.ticketRandom.map (·.toList)))
  let secret ← Call.ofCpp (generateSecret (io.secretRandom.map (·.toList)))
  let sessions : Sessions :=
    { s.toSessions with clientTicketsMap := s.clientTicketsMap.set ticket (voterId, secret) }
  return (ticket, { s with toSessions := sessions.writeToCsv io.csvOpens ticket secret voterId })

/-- `CheckinService::handle_checkin_request`. The two dumps at the start serve
nothing, but they can throw. -/
def handleCheckinRequest (env : Env) (io : Io) (s : CheckinService) (clientIp : Endpoint)
    (request : CheckinRequest) : Call Action CheckinService := do
  let clientId := (s.clientIdMap clientIp).getD 0
  let identityOk := request.body.clientIdNum == clientId
  if !identityOk then
    Call.perform (.reportFault clientId
      "Claimed client_id_num does not match TLS-authenticated client identity")
  let _ ← Call.ofCpp (env.dump (request.body.toJson env.toCodec))
  let _ ← Call.ofCpp (env.dump (request.toJson env.toCodec))
  if !identityOk then s.answerCheckin env io clientIp request false []
  else
    match s.ensureVerifier env request.body.clientIdNum with
    | none => return s
    | some s =>
      let valid ← s.validateClientRequest env request io.systemNow
      if valid && s.voterStatusTable request.body.voterUniqueId == some .eligible then
        let s := s.makePending env io request.body.voterUniqueId
        let (ticket, s) ← s.issueTicket io request.body.voterUniqueId
        s.answerCheckin env io clientIp request true ticket
      else s.answerCheckin env io clientIp request false []

/-! ## Ticket requests -/

/-- Sign a ticket response and send it; how the write ends is only logged. -/
def sendTicketResponse (env : Env) (s : CheckinService) (clientIp : Endpoint)
    (request : TicketRequest) (responseBody : TicketResponse.Body) : Call Action Unit := do
  let bodyString ← Call.ofCpp (env.dump responseBody.toJson)
  let response : TicketResponse :=
    ⟨responseBody, env.sign env.config.localPrivateKey bodyString⟩
  let _ ← Call.ofCpp (env.dump (response.toJson env.toCodec))
  let _ ← Call.ofCpp (mapAt s.clientSslStreams clientIp)
  Call.perform (.ticketAnswer clientIp request response)

/-- The body of the response about a voter. -/
def ticketResponseBody (approved : Bool) (info : VoterInfo) (voterId : UInt32) (secret : Bytes)
    (pin : UInt32) : TicketResponse.Body :=
  ⟨approved, info.lastName, info.firstName, info.middleName, voterId, secret, pin⟩

/-- The current time is in the window of the timer, both ends included. -/
def withinWindow (config : Config) (timer : Timer) (now : Int) : Bool :=
  timer.expiry - minutes config.timeoutInterval ≤ now && now ≤ timer.expiry

/-- The end of `handle_trusted_client`, for a request with the right PIN. The
ticket is bound to `voterId` and `secret`. -/
def redeemTicket (env : Env) (io : Io) (s : CheckinService) (clientIp : Endpoint)
    (request : TicketRequest) (clientId voterId : UInt32) (secret : Bytes) :
    Call Action CheckinService := do
  let info := findVoter env.config.voterListFile voterId
  let deny (s : CheckinService) :=
    s.sendTicketResponse env clientIp request
      (ticketResponseBody false info voterId [] request.body.pin)
  match s.requestTimers voterId with
  | none =>
    Call.perform (.reportFault clientId "No timer found for voter ID")
    deny s
    Call.perform (.reportFault clientId
      "No pending ticket for voter (already used, expired, or never issued)")
    s.rejectWith clientId "Invalid ticket"
  | some timer =>
    if withinWindow env.config timer io.steadyNow then
      let s := { s with toSessions := s.toSessions.confirm voterId timer }
      s.sendTicketResponse env clientIp request
        (ticketResponseBody true info voterId secret request.body.pin)
      return s
    else
      Call.perform (.reportFault clientId "Request outside valid time window")
      deny s
      s.rejectWith clientId "Invalid ticket"

/-- `CheckinService::handle_trusted_client`, from a decoded request on. -/
def handleTicketRequest (env : Env) (io : Io) (s : CheckinService) (clientIp : Endpoint)
    (request : TicketRequest) : Call Action CheckinService := do
  let clientId := (s.clientIdMap clientIp).getD 0
  if request.body.clientId ≠ clientId then
    s.rejectWith clientId
      "Client ID in the message does not match the client ID from the client's certificate!"
  else
    match s.clientTicketsMap request.body.ticket with
    | none => s.rejectWith clientId "Ticket in the message was not found on the server"
    | some (voterId, secret) =>
      match s.ensureVerifier env request.body.clientId with
      | none =>
        s.rejectWith clientId
          "Could not load the public key for client. Ignoring a voter ID validation request."
      | some s =>
        let requestBodyStr ← Call.ofCpp (env.dump request.body.toJson)
        let verifier ← Call.ofCpp (mapAt s.clientVerifiers request.body.clientId)
        if !(← verifyBytes env verifier requestBodyStr request.signature) then
          s.rejectWith clientId "Invalid client signature on ticket request"
        else if stale env.config.requestFreshnessInterval io.systemNow request.body.timestamp then
          s.rejectWith clientId "Ticket request timestamp outside freshness interval"
        else
          let info := findVoter env.config.voterListFile voterId
          if decimal request.body.pin.toNat ≠ info.pin then
            s.sendTicketResponse env clientIp request
              (ticketResponseBody false info voterId [] request.body.pin)
            return s
          else s.redeemTicket env io clientIp request clientId voterId secret

/-- `CheckinService::read_from_csv` -/
def readFromCsv (s : CheckinService) : CheckinService :=
  { s with toSessions := s.toSessions.readFromCsv }

/-- `CheckinService::handle_trusted_client`. Every exception of `FromJson` is
caught; of the exceptions of `parse` only `parse_error` is. -/
def handleTrustedClient (env : Env) (io : Io) (s : CheckinService) (msgString : Bytes)
    (clientIp : Endpoint) : Call Action CheckinService :=
  let s := s.readFromCsv
  match env.parse msgString with
  | .error (.jsonParseError _) => return s
  | .error trap => Call.threw trap []
  | .ok json =>
    match TicketRequest.fromJson env.toCodec json with
    | .error trap =>
      if trap.caught then s.rejectWith s.clientId trap.what else Call.threw trap []
    | .ok request => s.handleTicketRequest env io clientIp request

end CheckinService

end Pollbook
