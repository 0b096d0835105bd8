import Pollbook.Common
import Pollbook.Lib.Call

/-!
# The client

The functions of `pollbook_client.cpp` that make requests, and the handlers of
the answers. `wrote` is the call of `async_write` with a buffer, which may be
destroyed before all of it is sent; `setValue` is the promise that gets its
value. Log lines are left out.
-/

namespace Pollbook

/-- The two servers a client talks to. -/
inductive Server where
  | idService
  | checkinService
  deriving DecidableEq, Repr

structure PollbookClient where
  /-- `CLIENT_ID` of the configuration. -/
  clientId : UInt32
  checkinConnected : Bool
  idConnected : Bool
  /-- The key pair of the client, by its public half. -/
  privateKeySigner : EnvelopeKey
  idServiceVerifier : EnvelopeKey
  checkinServiceVerifier : EnvelopeKey
  /-- First, middle and last name. -/
  currentRequestVoterName : Bytes × Bytes × Bytes

namespace PollbookClient

/-- What a function of the client does that others can see. -/
inductive Action where
  | verified (key : EnvelopeKey) (message signature : Bytes)
  | signed (message : Bytes)
  | wrote (server : Server) (buffer : Bytes)
  | setValue (success : Bool) (message : Bytes)
  deriving DecidableEq

/-- A message as it is sent, with its size in front of it. -/
def frame (message : Bytes) : Bytes :=
  decimal message.length ++ newline :: (message ++ [newline])

/-! ## Signatures -/

/-- The text of a promise whose server's signature is wrong; OpenSSL's error
string comes behind it. -/
def invalidSignature : Bytes :=
  bytes "Invalid signature from the ID verification service on the voter's ID. OpenSSL error: "

@[inherit_doc invalidSignature]
def invalidCheckinSignature : Bytes :=
  bytes "Invalid signature on check-in service's response. OpenSSL error: "

/-- `init`, `add_bytes` and `finalize` of a verifier. -/
def verifyBytes (lib : Libraries) (verifier : EnvelopeKey) (message signature : Bytes) :
    Call Action Bool := do
  let valid ← Call.ofCpp (lib.verify verifier message signature)
  if valid then
    Call.perform (.verified verifier message signature)
    return true
  else return false

/-! ## Checking a voter in -/

/-- `start_id_request_write` -/
def startIdRequestWrite (lib : Libraries) (c : PollbookClient) (timestamp : UInt64)
    (firstName middleName lastName voterIdData : Bytes) : Call Action Unit := do
  let validationRequestBody : VoterIDRequest.Body :=
    ⟨c.clientId, timestamp, lastName, middleName, firstName, voterIdData⟩
  let bodyString ← Call.ofCpp (lib.dump (validationRequestBody.toJson lib.toCodec))
  Call.perform (.signed bodyString)
  let validationRequest : VoterIDRequest :=
    ⟨validationRequestBody, lib.sign c.privateKeySigner bodyString⟩
  let message ← Call.ofCpp (lib.dump (validationRequest.toJson lib.toCodec))
  Call.perform (.wrote .idService (frame message))

/-- `check_in_voter`, with the ID data as it is. -/
def checkInVoter (lib : Libraries) (c : PollbookClient) (now : UInt64)
    (firstName middleName lastName voterIdData : Bytes) : Call Action PollbookClient := do
  if !c.checkinConnected || !c.idConnected then
    Call.threw (.runtimeError "Client must be connected before calling check_in_voter!") []
  else
    let c := { c with currentRequestVoterName := (firstName, middleName, lastName) }
    c.startIdRequestWrite lib now firstName middleName lastName voterIdData
    return c

/-- `memcpy` of a number into a buffer. -/
def littleEndian (n : UInt32) : Bytes :=
  [n.toUInt8, (n >>> 8).toUInt8, (n >>> 16).toUInt8, (n >>> 24).toUInt8]

/-- `check_in_voter`, with the voter's unique ID in front of the ID data. -/
def checkInVoterAs (lib : Libraries) (c : PollbookClient) (now : UInt64)
    (firstName middleName lastName : Bytes) (desiredVoterUniqueId : UInt32)
    (voterIdData : Bytes) : Call Action PollbookClient :=
  c.checkInVoter lib now firstName middleName lastName
    (littleEndian desiredVoterUniqueId ++ voterIdData)

/-- `start_checkin_request_write` -/
def startCheckinRequestWrite (lib : Libraries) (c : PollbookClient) (now : UInt64)
    (verifiedIdResponse : VerifiedVoterID) : Call Action Unit := do
  let (firstName, middleName, lastName) := c.currentRequestVoterName
  let requestBody : CheckinRequest.Body :=
    ⟨c.clientId, now, lastName, firstName, middleName, verifiedIdResponse.voterUniqueId,
      verifiedIdResponse⟩
  let requestBodyStr ← Call.ofCpp (lib.dump (requestBody.toJson lib.toCodec))
  Call.perform (.signed requestBodyStr)
  let request : CheckinRequest := ⟨requestBody, lib.sign c.privateKeySigner requestBodyStr⟩
  let message ← Call.ofCpp (lib.dump (request.toJson lib.toCodec))
  Call.perform (.wrote .checkinService (frame message))

/-- `handle_id_response` -/
def handleIdResponse (lib : Libraries) (c : PollbookClient) (now : UInt64)
    (response : VerifiedVoterID) : Call Action Unit := do
  let responseStr ← Call.ofCpp (lib.dump
    (idStatement lib.toCodec response.presentedId response.voterUniqueId))
  if ← verifyBytes lib c.idServiceVerifier responseStr response.idServiceSignature then
    c.startCheckinRequestWrite lib now response
  else Call.perform (.setValue false invalidSignature)

/-- The handler `start_message_read` installs for the ID service, on the line it
read. -/
def idResponseRead (lib : Libraries) (c : PollbookClient) (now : UInt64) (line : Bytes) :
    Call Action Unit := do
  let json ← Call.ofCpp (lib.parse line)
  let response ← Call.ofCpp (VerifiedVoterID.fromJson lib.toCodec json)
  c.handleIdResponse lib now response

/-- `handle_checkin_response` -/
def handleCheckinResponse (lib : Libraries) (c : PollbookClient) (response : CheckinResponse) :
    Call Action Unit := do
  let responseBodyStr ← Call.ofCpp (lib.dump response.body.toJson)
  if !(← verifyBytes lib c.checkinServiceVerifier responseBodyStr
      response.checkinServiceSignature) then
    Call.perform (.setValue false invalidCheckinSignature)
  else if response.body.approved then Call.perform (.setValue true [])
  else Call.perform (.setValue false (bytes "Check-in service rejected the request"))

/-- The handler `start_checkin_response_read` installs, on the line it read. -/
def checkinResponseRead (lib : Libraries) (c : PollbookClient) (line : Bytes) :
    Call Action Unit := do
  let json ← Call.ofCpp (lib.parse line)
  let response ← Call.ofCpp (CheckinResponse.fromJson lib.toCodec json)
  c.handleCheckinResponse lib response

/-! ## Redeeming a ticket -/

/-- `verify_ticket` -/
def verifyTicket (lib : Libraries) (c : PollbookClient) (now : UInt64) (ticket : Bytes)
    (pin : UInt32) : Call Action Unit := do
  if !c.checkinConnected then
    Call.threw (.runtimeError "Client must be connected before calling check_in_voter!") []
  else
    let body : TicketRequest.Body := ⟨c.clientId, now, ticket, pin⟩
    let bodyString ← Call.ofCpp (lib.dump body.toJson)
    Call.perform (.signed bodyString)
    let request : TicketRequest := ⟨body, lib.sign c.privateKeySigner bodyString⟩
    let message ← Call.ofCpp (lib.dump (request.toJson lib.toCodec))
    Call.perform (.wrote .checkinService (frame message))

/-- The `try` block of the handler of ticket responses. -/
def handleTicketResponse (lib : Libraries) (c : PollbookClient) (line : Bytes) :
    Call Action Unit := do
  let json ← Call.ofCpp (lib.parse line)
  let response ← Call.ofCpp (TicketResponse.fromJson lib.toCodec json)
  let responseBodyStr ← Call.ofCpp (lib.dump response.body.toJson)
  if ← verifyBytes lib c.checkinServiceVerifier responseBodyStr response.signature then
    Call.perform (.setValue response.body.approved response.body.secret)
  else Call.perform (.setValue false invalidSignature)

/-- The handler `start_verify_ticket_response_read` installs, on the line it
read. -/
def ticketResponseRead (lib : Libraries) (c : PollbookClient) (line : Bytes) :
    Call Action Unit :=
  match c.handleTicketResponse lib line with
  | .returned u actions => .returned u actions
  | .threw trap actions =>
    if trap.caught then
      .returned () (actions ++ [.setValue false (bytes "Error parsing server response")])
    else .threw trap actions

end PollbookClient

end Pollbook
