import Pollbook.Lib.Codec

/-!
# The six messages

The structures of `voter_id_request.hpp`, `checkin_request.hpp` and
`trusted_client_request.hpp`, with their hand-written `ToJson` and `FromJson`.
`toJson` lists the assignments in the order of the source. `fromJson` reads the
arguments of a constructor as the compiler (GCC) evaluates them, the last one
first: it decides which of two unreadable fields ends it.

For each message `fromJson_toJson` says that the receiver gets back what the
sender had, and `plain_toJson` that the JSON of a message whose strings are
UTF-8 is one the text codec carries.
-/

namespace Pollbook

variable (c : Codec)

/-- `json["body"][key]` -/
def Json.inBody (json : Json) (key : String) : Cpp Json := do
  (← json.index "body").index key

/-! ## Voter ID service -/

structure VoterIDRequest.Body where
  clientIdNum : UInt32
  timestamp : UInt64
  lastName : Bytes
  middleName : Bytes
  firstName : Bytes
  voterIdData : Bytes
  deriving DecidableEq

structure VoterIDRequest where
  body : VoterIDRequest.Body
  clientSignature : Bytes
  deriving DecidableEq

def VoterIDRequest.Body.toJson (body : VoterIDRequest.Body) : Json :=
  Json.build [
    ("client_id_num", .numberUnsigned body.clientIdNum.toUInt64),
    ("timestamp", .numberUnsigned body.timestamp),
    ("last_name", .string body.lastName),
    ("middle_name", .string body.middleName),
    ("first_name", .string body.firstName),
    ("voter_id_data", .string (c.encode body.voterIdData))]

def VoterIDRequest.toJson (request : VoterIDRequest) : Json :=
  Json.build [
    ("body", request.body.toJson c),
    ("client_signature", .string (c.encode request.clientSignature))]

def VoterIDRequest.fromJson (json : Json) : Cpp VoterIDRequest := do
  let voterId ← c.decode (← (← json.inBody "voter_id_data").toBytes)
  let firstName ← (← json.inBody "first_name").toBytes
  let middleName ← (← json.inBody "middle_name").toBytes
  let lastName ← (← json.inBody "last_name").toBytes
  let timestamp ← (← json.inBody "timestamp").toUInt64
  let clientIdNum ← (← json.inBody "client_id_num").toUInt32
  let clientSignature ← c.decode (← (← json.index "client_signature").toBytes)
  pure ⟨⟨clientIdNum, timestamp, lastName, middleName, firstName, voterId⟩, clientSignature⟩

structure VerifiedVoterID where
  presentedId : VoterIDRequest
  voterUniqueId : UInt32
  idServiceSignature : Bytes
  deriving DecidableEq

def VerifiedVoterID.toJson (id : VerifiedVoterID) : Json :=
  Json.build [
    ("presented_id", id.presentedId.toJson c),
    ("voter_unique_id", .numberUnsigned id.voterUniqueId.toUInt64),
    ("id_service_signature", .string (c.encode id.idServiceSignature))]

def VerifiedVoterID.fromJson (json : Json) : Cpp VerifiedVoterID := do
  let presentedId ← VoterIDRequest.fromJson c (← json.index "presented_id")
  let voterUniqueId ← (← json.index "voter_unique_id").toUInt32
  let idServiceSignature ← c.decode (← (← json.index "id_service_signature").toBytes)
  pure ⟨presentedId, voterUniqueId, idServiceSignature⟩

/-- The statement the ID service signs, which its readers build again: the
request it was presented with and the voter it matched it to. -/
def idStatement (presentedId : VoterIDRequest) (voterUniqueId : UInt32) : Json :=
  Json.build [
    ("presented_id", presentedId.toJson c),
    ("voter_unique_id", .numberUnsigned voterUniqueId.toUInt64)]

/-! ## Check-in service, untrusted clients -/

structure CheckinRequest.Body where
  clientIdNum : UInt32
  timestamp : UInt64
  lastName : Bytes
  firstName : Bytes
  middleName : Bytes
  voterUniqueId : UInt32
  verifiedIdMessage : VerifiedVoterID
  deriving DecidableEq

structure CheckinRequest where
  body : CheckinRequest.Body
  clientSignature : Bytes
  deriving DecidableEq

def CheckinRequest.Body.toJson (body : CheckinRequest.Body) : Json :=
  Json.build [
    ("client_id_num", .numberUnsigned body.clientIdNum.toUInt64),
    ("timestamp", .numberUnsigned body.timestamp),
    ("last_name", .string body.lastName),
    ("first_name", .string body.firstName),
    ("middle_name", .string body.middleName),
    ("voter_unique_id", .numberUnsigned body.voterUniqueId.toUInt64),
    ("verified_id_message", body.verifiedIdMessage.toJson c)]

def CheckinRequest.toJson (request : CheckinRequest) : Json :=
  Json.build [
    ("body", request.body.toJson c),
    ("client_signature", .string (c.encode request.clientSignature))]

def CheckinRequest.fromJson (json : Json) : Cpp CheckinRequest := do
  let verifiedIdMessage ← VerifiedVoterID.fromJson c (← json.inBody "verified_id_message")
  let voterUniqueId ← (← json.inBody "voter_unique_id").toUInt32
  let middleName ← (← json.inBody "middle_name").toBytes
  let firstName ← (← json.inBody "first_name").toBytes
  let lastName ← (← json.inBody "last_name").toBytes
  let timestamp ← (← json.inBody "timestamp").toUInt64
  let clientIdNum ← (← json.inBody "client_id_num").toUInt32
  let clientSignature ← c.decode (← (← json.index "client_signature").toBytes)
  pure ⟨⟨clientIdNum, timestamp, lastName, firstName, middleName, voterUniqueId,
    verifiedIdMessage⟩, clientSignature⟩

/-- `null` is no check-in request. -/
theorem CheckinRequest.fromJson_null (request : CheckinRequest) :
    fromJson c .null ≠ .ok request := by
  simp [fromJson, Json.inBody, Json.index, bind, Except.bind]

structure CheckinResponse.Body where
  approved : Bool
  requestingClientId : UInt32
  timestamp : UInt64
  lastName : Bytes
  firstName : Bytes
  middleName : Bytes
  voterUniqueId : UInt32
  ticket : Bytes
  deriving DecidableEq

structure CheckinResponse where
  body : CheckinResponse.Body
  checkinServiceSignature : Bytes
  deriving DecidableEq

def CheckinResponse.Body.toJson (body : CheckinResponse.Body) : Json :=
  Json.build [
    ("approved", .boolean body.approved),
    ("requesting_client_id", .numberUnsigned body.requestingClientId.toUInt64),
    ("timestamp", .numberUnsigned body.timestamp),
    ("last_name", .string body.lastName),
    ("first_name", .string body.firstName),
    ("middle_name", .string body.middleName),
    ("voter_unique_id", .numberUnsigned body.voterUniqueId.toUInt64),
    ("ticket", .string body.ticket)]

def CheckinResponse.toJson (response : CheckinResponse) : Json :=
  Json.build [
    ("body", response.body.toJson),
    ("checkin_service_signature", .string (c.encode response.checkinServiceSignature))]

def CheckinResponse.fromJson (json : Json) : Cpp CheckinResponse := do
  let ticket ← (← json.inBody "ticket").toBytes
  let voterUniqueId ← (← json.inBody "voter_unique_id").toUInt32
  let middleName ← (← json.inBody "middle_name").toBytes
  let firstName ← (← json.inBody "first_name").toBytes
  let lastName ← (← json.inBody "last_name").toBytes
  let timestamp ← (← json.inBody "timestamp").toUInt64
  let requestingClientId ← (← json.inBody "requesting_client_id").toUInt32
  let approved ← (← json.inBody "approved").toBool
  let serviceSignature ← c.decode (← (← json.index "checkin_service_signature").toBytes)
  pure ⟨⟨approved, requestingClientId, timestamp, lastName, firstName, middleName, voterUniqueId,
    ticket⟩, serviceSignature⟩

/-! ## Check-in service, trusted clients -/

structure TicketRequest.Body where
  clientId : UInt32
  timestamp : UInt64
  ticket : Bytes
  pin : UInt32
  deriving DecidableEq

structure TicketRequest where
  body : TicketRequest.Body
  signature : Bytes
  deriving DecidableEq

def TicketRequest.Body.toJson (body : TicketRequest.Body) : Json :=
  Json.build [
    ("client_id", .numberUnsigned body.clientId.toUInt64),
    ("timestamp", .numberUnsigned body.timestamp),
    ("ticket", .string body.ticket),
    ("pin", .numberUnsigned body.pin.toUInt64)]

def TicketRequest.toJson (request : TicketRequest) : Json :=
  Json.build [
    ("body", request.body.toJson),
    ("signature", .string (c.encode request.signature))]

/-- This one looks for its fields before it reads them. -/
def TicketRequest.fromJson (json : Json) : Cpp TicketRequest := do
  if !json.contains "body" || !json.contains "signature" then
    throw (.runtimeError "Missing 'body' or 'signature' in JSON")
  let body ← json.index "body"
  if !body.isObject || !body.contains "client_id" || !body.contains "timestamp" ||
      !body.contains "ticket" || !body.contains "pin" then
    throw (.runtimeError "Invalid or incomplete 'body' structure in JSON")
  let pin ← (← json.inBody "pin").toUInt32
  let ticket ← (← json.inBody "ticket").toBytes
  let timestamp ← (← json.inBody "timestamp").toUInt64
  let clientId ← (← json.inBody "client_id").toUInt32
  let signature ← c.decode (← (← json.index "signature").toBytes)
  pure ⟨⟨clientId, timestamp, ticket, pin⟩, signature⟩

structure TicketResponse.Body where
  approved : Bool
  lastName : Bytes
  firstName : Bytes
  middleName : Bytes
  voterUniqueId : UInt32
  secret : Bytes
  pin : UInt32
  deriving DecidableEq

structure TicketResponse where
  body : TicketResponse.Body
  signature : Bytes
  deriving DecidableEq

/-- The source assigns `pin` twice. -/
def TicketResponse.Body.toJson (body : TicketResponse.Body) : Json :=
  Json.build [
    ("approved", .boolean body.approved),
    ("last_name", .string body.lastName),
    ("first_name", .string body.firstName),
    ("middle_name", .string body.middleName),
    ("voter_unique_id", .numberUnsigned body.voterUniqueId.toUInt64),
    ("pin", .numberUnsigned body.pin.toUInt64),
    ("secret", .string body.secret),
    ("pin", .numberUnsigned body.pin.toUInt64)]

def TicketResponse.toJson (response : TicketResponse) : Json :=
  Json.build [
    ("body", response.body.toJson),
    ("signature", .string (c.encode response.signature))]

def TicketResponse.fromJson (json : Json) : Cpp TicketResponse := do
  let pin ← (← json.inBody "pin").toUInt32
  let secret ← (← json.inBody "secret").toBytes
  let voterUniqueId ← (← json.inBody "voter_unique_id").toUInt32
  let middleName ← (← json.inBody "middle_name").toBytes
  let firstName ← (← json.inBody "first_name").toBytes
  let lastName ← (← json.inBody "last_name").toBytes
  let approved ← (← json.inBody "approved").toBool
  let signature ← c.decode (← (← json.index "signature").toBytes)
  pure ⟨⟨approved, lastName, firstName, middleName, voterUniqueId, secret, pin⟩, signature⟩

/-! ## Reading back what was written -/

section RoundTrip

variable {c} (hc : c.Lawful)
include hc

theorem VoterIDRequest.fromJson_toJson (request : VoterIDRequest) :
    fromJson c (request.toJson c) = .ok request := by
  simp [fromJson, toJson, Body.toJson, Json.inBody, Json.index_build, Json.find,
    hc.decode_encode, bind, Except.bind, pure, Except.pure]

theorem VerifiedVoterID.fromJson_toJson (id : VerifiedVoterID) :
    fromJson c (id.toJson c) = .ok id := by
  simp [fromJson, toJson, Json.index_build, Json.find, VoterIDRequest.fromJson_toJson hc,
    hc.decode_encode, bind, Except.bind, pure, Except.pure]

theorem CheckinRequest.fromJson_toJson (request : CheckinRequest) :
    fromJson c (request.toJson c) = .ok request := by
  simp [fromJson, toJson, Body.toJson, Json.inBody, Json.index_build, Json.find,
    VerifiedVoterID.fromJson_toJson hc, hc.decode_encode, bind, Except.bind, pure, Except.pure]

theorem CheckinResponse.fromJson_toJson (response : CheckinResponse) :
    fromJson c (response.toJson c) = .ok response := by
  simp [fromJson, toJson, Body.toJson, Json.inBody, Json.index_build, Json.find,
    hc.decode_encode, bind, Except.bind, pure, Except.pure]

theorem TicketRequest.fromJson_toJson (request : TicketRequest) :
    fromJson c (request.toJson c) = .ok request := by
  simp [fromJson, toJson, Body.toJson, Json.inBody, Json.index_build, Json.contains_build,
    Json.build_isObject, Json.find, hc.decode_encode, bind, Except.bind, pure, Except.pure]

theorem TicketResponse.fromJson_toJson (response : TicketResponse) :
    fromJson c (response.toJson c) = .ok response := by
  simp [fromJson, toJson, Body.toJson, Json.inBody, Json.index_build, Json.find,
    hc.decode_encode, bind, Except.bind, pure, Except.pure]

end RoundTrip

/-! ## Messages that can be written

A message can be written when its strings are UTF-8. Bytes that are sent as
base64 may be anything.
-/

def VoterIDRequest.Body.Utf8 (body : VoterIDRequest.Body) : Prop :=
  validUtf8 body.lastName = true ∧ validUtf8 body.middleName = true ∧
    validUtf8 body.firstName = true

def CheckinRequest.Body.Utf8 (body : CheckinRequest.Body) : Prop :=
  validUtf8 body.lastName = true ∧ validUtf8 body.firstName = true ∧
    validUtf8 body.middleName = true ∧ body.verifiedIdMessage.presentedId.body.Utf8

def CheckinResponse.Body.Utf8 (body : CheckinResponse.Body) : Prop :=
  validUtf8 body.lastName = true ∧ validUtf8 body.firstName = true ∧
    validUtf8 body.middleName = true ∧ validUtf8 body.ticket = true

def TicketRequest.Body.Utf8 (body : TicketRequest.Body) : Prop := validUtf8 body.ticket = true

def TicketResponse.Body.Utf8 (body : TicketResponse.Body) : Prop :=
  validUtf8 body.lastName = true ∧ validUtf8 body.firstName = true ∧
    validUtf8 body.middleName = true ∧ validUtf8 body.secret = true

section Plain

variable {c} (hc : c.Lawful)

include hc in
theorem VoterIDRequest.Body.plain_toJson {body : VoterIDRequest.Body} (h : body.Utf8) :
    (body.toJson c).Plain := by
  obtain ⟨hlast, hmiddle, hfirst⟩ := h
  refine Json.plain_build (by simp) ?_
    ⟨.numberUnsigned _, .numberUnsigned _, .string hlast, .string hmiddle, .string hfirst,
      hc.plain_encode _⟩
  simp [Json.asciiKey]

include hc in
theorem VoterIDRequest.plain_toJson {request : VoterIDRequest} (h : request.body.Utf8) :
    (request.toJson c).Plain := by
  refine Json.plain_build (by simp) ?_ ⟨Body.plain_toJson hc h, hc.plain_encode _⟩
  simp [Json.asciiKey]

include hc in
theorem VerifiedVoterID.plain_toJson {id : VerifiedVoterID} (h : id.presentedId.body.Utf8) :
    (id.toJson c).Plain := by
  refine Json.plain_build (by simp) ?_
    ⟨VoterIDRequest.plain_toJson hc h, .numberUnsigned _, hc.plain_encode _⟩
  simp [Json.asciiKey]

include hc in
theorem plain_idStatement {presentedId : VoterIDRequest} (h : presentedId.body.Utf8)
    (voterUniqueId : UInt32) : (idStatement c presentedId voterUniqueId).Plain := by
  refine Json.plain_build (by simp) ?_ ⟨VoterIDRequest.plain_toJson hc h, .numberUnsigned _⟩
  simp [Json.asciiKey]

include hc in
theorem CheckinRequest.Body.plain_toJson {body : CheckinRequest.Body} (h : body.Utf8) :
    (body.toJson c).Plain := by
  obtain ⟨hlast, hfirst, hmiddle, hid⟩ := h
  refine Json.plain_build (by simp) ?_
    ⟨.numberUnsigned _, .numberUnsigned _, .string hlast, .string hfirst, .string hmiddle,
      .numberUnsigned _, VerifiedVoterID.plain_toJson hc hid⟩
  simp [Json.asciiKey]

include hc in
theorem CheckinRequest.plain_toJson {request : CheckinRequest} (h : request.body.Utf8) :
    (request.toJson c).Plain := by
  refine Json.plain_build (by simp) ?_ ⟨Body.plain_toJson hc h, hc.plain_encode _⟩
  simp [Json.asciiKey]

theorem CheckinResponse.Body.plain_toJson {body : CheckinResponse.Body} (h : body.Utf8) :
    body.toJson.Plain := by
  obtain ⟨hlast, hfirst, hmiddle, hticket⟩ := h
  refine Json.plain_build (by simp) ?_
    ⟨.boolean _, .numberUnsigned _, .numberUnsigned _, .string hlast, .string hfirst, .string
      hmiddle, .numberUnsigned _, .string hticket⟩
  simp [Json.asciiKey]

include hc in
theorem CheckinResponse.plain_toJson {response : CheckinResponse} (h : response.body.Utf8) :
    (response.toJson c).Plain := by
  refine Json.plain_build (by simp) ?_ ⟨Body.plain_toJson h, hc.plain_encode _⟩
  simp [Json.asciiKey]

theorem TicketRequest.Body.plain_toJson {body : TicketRequest.Body} (h : body.Utf8) :
    body.toJson.Plain := by
  refine Json.plain_build (by simp) ?_
    ⟨.numberUnsigned _, .numberUnsigned _, .string h, .numberUnsigned _⟩
  simp [Json.asciiKey]

include hc in
theorem TicketRequest.plain_toJson {request : TicketRequest} (h : request.body.Utf8) :
    (request.toJson c).Plain := by
  refine Json.plain_build (by simp) ?_ ⟨Body.plain_toJson h, hc.plain_encode _⟩
  simp [Json.asciiKey]

theorem TicketResponse.Body.plain_toJson {body : TicketResponse.Body} (h : body.Utf8) :
    body.toJson.Plain := by
  obtain ⟨hlast, hfirst, hmiddle, hsecret⟩ := h
  refine Json.plain_build (by simp) ?_
    ⟨.boolean _, .string hlast, .string hfirst, .string hmiddle, .numberUnsigned _, .numberUnsigned
      _, .string hsecret, .numberUnsigned _⟩
  simp [Json.asciiKey]

include hc in
theorem TicketResponse.plain_toJson {response : TicketResponse} (h : response.body.Utf8) :
    (response.toJson c).Plain := by
  refine Json.plain_build (by simp) ?_ ⟨Body.plain_toJson h, hc.plain_encode _⟩
  simp [Json.asciiKey]

/-! What has been written was UTF-8. -/

theorem VoterIDRequest.Body.utf8_of_toJson {body : VoterIDRequest.Body}
    (h : (body.toJson c).utf8 = true) : body.Utf8 := by
  have hfield := Json.utf8_of_index h
  refine ⟨hfield "last_name" (.string _) ?_, hfield "middle_name" (.string _) ?_,
    hfield "first_name" (.string _) ?_⟩ <;> simp [toJson, Json.index_build, Json.find]

theorem VerifiedVoterID.utf8_of_toJson {id : VerifiedVoterID} (h : (id.toJson c).utf8 = true) :
    id.presentedId.body.Utf8 := by
  have hrequest := Json.utf8_of_index h "presented_id" (id.presentedId.toJson c)
    (by simp [toJson, Json.index_build, Json.find])
  have hbody := Json.utf8_of_index hrequest "body" (id.presentedId.body.toJson c)
    (by simp [VoterIDRequest.toJson, Json.index_build, Json.find])
  exact VoterIDRequest.Body.utf8_of_toJson hbody

theorem CheckinRequest.Body.utf8_of_toJson {body : CheckinRequest.Body}
    (h : (body.toJson c).utf8 = true) : body.Utf8 := by
  have hfield := Json.utf8_of_index h
  refine ⟨hfield "last_name" (.string _) ?_, hfield "first_name" (.string _) ?_,
    hfield "middle_name" (.string _) ?_, VerifiedVoterID.utf8_of_toJson
      (hfield "verified_id_message" (body.verifiedIdMessage.toJson c) ?_)⟩ <;>
    simp [toJson, Json.index_build, Json.find]

theorem CheckinResponse.Body.utf8_of_toJson {body : CheckinResponse.Body}
    (h : body.toJson.utf8 = true) : body.Utf8 := by
  have hfield := Json.utf8_of_index h
  refine ⟨hfield "last_name" (.string _) ?_, hfield "first_name" (.string _) ?_,
    hfield "middle_name" (.string _) ?_, hfield "ticket" (.string _) ?_⟩ <;>
    simp [toJson, Json.index_build, Json.find]

theorem TicketRequest.Body.utf8_of_toJson {body : TicketRequest.Body}
    (h : body.toJson.utf8 = true) : body.Utf8 :=
  Json.utf8_of_index h "ticket" (.string body.ticket)
    (by simp [toJson, Json.index_build, Json.find])

theorem TicketResponse.Body.utf8_of_toJson {body : TicketResponse.Body}
    (h : body.toJson.utf8 = true) : body.Utf8 := by
  have hfield := Json.utf8_of_index h
  refine ⟨hfield "last_name" (.string _) ?_, hfield "first_name" (.string _) ?_,
    hfield "middle_name" (.string _) ?_, hfield "secret" (.string _) ?_⟩ <;>
    simp [toJson, Json.index_build, Json.find]

/-! What has been written is plain, whatever base64 makes of its bytes. -/

theorem VoterIDRequest.Body.plain_of_utf8 {body : VoterIDRequest.Body}
    (h : (body.toJson c).utf8 = true) : (body.toJson c).Plain := by
  obtain ⟨hlast, hmiddle, hfirst⟩ := utf8_of_toJson h
  have hdata : (Json.string (c.encode body.voterIdData)).utf8 = true :=
    Json.utf8_of_index h "voter_id_data" _ (by simp [toJson, Json.index_build, Json.find])
  refine Json.plain_build (by simp) ?_
    ⟨.numberUnsigned _, .numberUnsigned _, .string hlast, .string hmiddle, .string hfirst,
      .string hdata⟩
  simp [Json.asciiKey]

theorem VoterIDRequest.plain_of_utf8 {request : VoterIDRequest}
    (h : (request.toJson c).utf8 = true) : (request.toJson c).Plain := by
  have hbody : (request.body.toJson c).utf8 = true :=
    Json.utf8_of_index h "body" _ (by simp [toJson, Json.index_build, Json.find])
  have hsignature : (Json.string (c.encode request.clientSignature)).utf8 = true :=
    Json.utf8_of_index h "client_signature" _ (by simp [toJson, Json.index_build, Json.find])
  refine Json.plain_build (by simp) ?_ ⟨Body.plain_of_utf8 hbody, .string hsignature⟩
  simp [Json.asciiKey]

theorem VerifiedVoterID.plain_of_utf8 {id : VerifiedVoterID} (h : (id.toJson c).utf8 = true) :
    (id.toJson c).Plain := by
  have hrequest : (id.presentedId.toJson c).utf8 = true :=
    Json.utf8_of_index h "presented_id" _ (by simp [toJson, Json.index_build, Json.find])
  have hsignature : (Json.string (c.encode id.idServiceSignature)).utf8 = true :=
    Json.utf8_of_index h "id_service_signature" _ (by simp [toJson, Json.index_build, Json.find])
  refine Json.plain_build (by simp) ?_
    ⟨VoterIDRequest.plain_of_utf8 hrequest, .numberUnsigned _, .string hsignature⟩
  simp [Json.asciiKey]

theorem plain_idStatement_of_utf8 {presentedId : VoterIDRequest} {voterUniqueId : UInt32}
    (h : (idStatement c presentedId voterUniqueId).utf8 = true) :
    (idStatement c presentedId voterUniqueId).Plain := by
  have hrequest : (presentedId.toJson c).utf8 = true :=
    Json.utf8_of_index h "presented_id" _ (by simp [idStatement, Json.index_build, Json.find])
  refine Json.plain_build (by simp) ?_
    ⟨VoterIDRequest.plain_of_utf8 hrequest, .numberUnsigned _⟩
  simp [Json.asciiKey]

theorem CheckinRequest.Body.plain_of_utf8 {body : CheckinRequest.Body}
    (h : (body.toJson c).utf8 = true) : (body.toJson c).Plain := by
  obtain ⟨hlast, hfirst, hmiddle, -⟩ := utf8_of_toJson h
  have hid : (body.verifiedIdMessage.toJson c).utf8 = true :=
    Json.utf8_of_index h "verified_id_message" _ (by simp [toJson, Json.index_build, Json.find])
  refine Json.plain_build (by simp) ?_
    ⟨.numberUnsigned _, .numberUnsigned _, .string hlast, .string hfirst, .string hmiddle,
      .numberUnsigned _, VerifiedVoterID.plain_of_utf8 hid⟩
  simp [Json.asciiKey]

end Plain

end Pollbook
