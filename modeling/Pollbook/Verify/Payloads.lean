import Pollbook.Client.Handlers
import Pollbook.IdService.Handlers
import Pollbook.Rehearsal

/-!
# What is signed

Six kinds of JSON objects are signed, none of which says what it is. They can be
told apart by their keys alone, and every field of a message is in the object
that is signed for it, so the bytes of a signature's message give the message
back (`signed_payloads_are_separated`).
-/

namespace Pollbook

/-- A body or statement that one of the programs signs. -/
inductive SignedPayload where
  | voterIDRequest (body : VoterIDRequest.Body)
  | checkinRequest (body : CheckinRequest.Body)
  | ticketRequest (body : TicketRequest.Body)
  | checkinResponse (body : CheckinResponse.Body)
  | ticketResponse (body : TicketResponse.Body)
  | idStatement (presentedId : VoterIDRequest) (voterUniqueId : UInt32)
  deriving DecidableEq

namespace SignedPayload

def toJson (c : Codec) : SignedPayload → Json
  | voterIDRequest body => body.toJson c
  | checkinRequest body => body.toJson c
  | ticketRequest body => body.toJson
  | checkinResponse body => body.toJson
  | ticketResponse body => body.toJson
  | idStatement presentedId voterUniqueId => Pollbook.idStatement c presentedId voterUniqueId

/-- A key that no other kind of payload has. -/
def ownKey : SignedPayload → String
  | voterIDRequest _ => "voter_id_data"
  | checkinRequest _ => "verified_id_message"
  | ticketRequest _ => "client_id"
  | checkinResponse _ => "requesting_client_id"
  | ticketResponse _ => "secret"
  | idStatement _ _ => "presented_id"

variable {c : Codec}

theorem contains_ownKey (p q : SignedPayload) :
    (p.toJson c).contains q.ownKey = true ↔ p.ownKey = q.ownKey := by
  cases p <;> cases q <;>
    simp [toJson, ownKey, VoterIDRequest.Body.toJson, CheckinRequest.Body.toJson,
      TicketRequest.Body.toJson, CheckinResponse.Body.toJson, TicketResponse.Body.toJson,
      Pollbook.idStatement, Json.contains_build, Json.find]

theorem plain_of_utf8 {p : SignedPayload} (h : (p.toJson c).utf8 = true) : (p.toJson c).Plain := by
  cases p with
  | voterIDRequest body => exact VoterIDRequest.Body.plain_of_utf8 h
  | checkinRequest body => exact CheckinRequest.Body.plain_of_utf8 h
  | ticketRequest body =>
    exact TicketRequest.Body.plain_toJson (TicketRequest.Body.utf8_of_toJson h)
  | checkinResponse body =>
    exact CheckinResponse.Body.plain_toJson (CheckinResponse.Body.utf8_of_toJson h)
  | ticketResponse body =>
    exact TicketResponse.Body.plain_toJson (TicketResponse.Body.utf8_of_toJson h)
  | idStatement presentedId voterUniqueId => exact plain_idStatement_of_utf8 h

end SignedPayload

/-! ## Every field is signed

The fields of a message are read off the object that is built from it, one key
at a time.
-/

section Injective

variable {c : Codec} (hencode : Function.Injective c.encode)

include hencode in
theorem VoterIDRequest.Body.toJson_injective {a b : VoterIDRequest.Body}
    (h : a.toJson c = b.toJson c) : a = b := by
  obtain ⟨clientIdNum, timestamp, lastName, middleName, firstName, voterIdData⟩ := a
  obtain ⟨clientIdNum', timestamp', lastName', middleName', firstName', voterIdData'⟩ := b
  have hfield := fun key => congrArg (Json.index · key) h
  have hid := hfield "client_id_num"
  have htime := hfield "timestamp"
  have hlast := hfield "last_name"
  have hmiddle := hfield "middle_name"
  have hfirst := hfield "first_name"
  have hdata := hfield "voter_id_data"
  simp [toJson, Json.index_build, Json.find, UInt32.toUInt64_inj]
    at hid htime hlast hmiddle hfirst hdata
  rw [hid, htime, hlast, hmiddle, hfirst, hencode hdata]

include hencode in
theorem VoterIDRequest.toJson_injective {a b : VoterIDRequest} (h : a.toJson c = b.toJson c) :
    a = b := by
  obtain ⟨body, clientSignature⟩ := a
  obtain ⟨body', clientSignature'⟩ := b
  have hfield := fun key => congrArg (Json.index · key) h
  have hbody := hfield "body"
  have hsignature := hfield "client_signature"
  simp [toJson, Json.index_build, Json.find] at hbody hsignature
  rw [Body.toJson_injective hencode hbody, hencode hsignature]

include hencode in
theorem VerifiedVoterID.toJson_injective {a b : VerifiedVoterID} (h : a.toJson c = b.toJson c) :
    a = b := by
  obtain ⟨presentedId, voterUniqueId, idServiceSignature⟩ := a
  obtain ⟨presentedId', voterUniqueId', idServiceSignature'⟩ := b
  have hfield := fun key => congrArg (Json.index · key) h
  have hrequest := hfield "presented_id"
  have huid := hfield "voter_unique_id"
  have hsignature := hfield "id_service_signature"
  simp [toJson, Json.index_build, Json.find, UInt32.toUInt64_inj] at hrequest huid hsignature
  rw [VoterIDRequest.toJson_injective hencode hrequest, huid, hencode hsignature]

include hencode in
theorem idStatement_injective {presentedId presentedId' : VoterIDRequest}
    {voterUniqueId voterUniqueId' : UInt32}
    (h : idStatement c presentedId voterUniqueId = idStatement c presentedId' voterUniqueId') :
    presentedId = presentedId' ∧ voterUniqueId = voterUniqueId' := by
  have hfield := fun key => congrArg (Json.index · key) h
  have hrequest := hfield "presented_id"
  have huid := hfield "voter_unique_id"
  simp [idStatement, Json.index_build, Json.find, UInt32.toUInt64_inj] at hrequest huid
  exact ⟨VoterIDRequest.toJson_injective hencode hrequest, huid⟩

include hencode in
theorem CheckinRequest.Body.toJson_injective {a b : CheckinRequest.Body}
    (h : a.toJson c = b.toJson c) : a = b := by
  obtain ⟨clientIdNum, timestamp, lastName, firstName, middleName, uid, id⟩ := a
  obtain ⟨clientIdNum', timestamp', lastName', firstName', middleName', uid', id'⟩ := b
  have hfield := fun key => congrArg (Json.index · key) h
  have hclient := hfield "client_id_num"
  have htime := hfield "timestamp"
  have hlast := hfield "last_name"
  have hfirst := hfield "first_name"
  have hmiddle := hfield "middle_name"
  have huid := hfield "voter_unique_id"
  have hid := hfield "verified_id_message"
  simp [toJson, Json.index_build, Json.find, UInt32.toUInt64_inj]
    at hclient htime hlast hfirst hmiddle huid hid
  rw [hclient, htime, hlast, hfirst, hmiddle, huid, VerifiedVoterID.toJson_injective hencode hid]

theorem CheckinResponse.Body.toJson_injective {a b : CheckinResponse.Body}
    (h : a.toJson = b.toJson) : a = b := by
  obtain ⟨approved, clientId, timestamp, lastName, firstName, middleName, uid, ticket⟩ := a
  obtain ⟨approved', clientId', timestamp', lastName', firstName', middleName', uid', ticket'⟩ := b
  have hfield := fun key => congrArg (Json.index · key) h
  have happroved := hfield "approved"
  have hclient := hfield "requesting_client_id"
  have htime := hfield "timestamp"
  have hlast := hfield "last_name"
  have hfirst := hfield "first_name"
  have hmiddle := hfield "middle_name"
  have huid := hfield "voter_unique_id"
  have hticket := hfield "ticket"
  simp [toJson, Json.index_build, Json.find, UInt32.toUInt64_inj]
    at happroved hclient htime hlast hfirst hmiddle huid hticket
  rw [happroved, hclient, htime, hlast, hfirst, hmiddle, huid, hticket]

theorem TicketRequest.Body.toJson_injective {a b : TicketRequest.Body} (h : a.toJson = b.toJson) :
    a = b := by
  obtain ⟨clientId, timestamp, ticket, pin⟩ := a
  obtain ⟨clientId', timestamp', ticket', pin'⟩ := b
  have hfield := fun key => congrArg (Json.index · key) h
  have hclient := hfield "client_id"
  have htime := hfield "timestamp"
  have hticket := hfield "ticket"
  have hpin := hfield "pin"
  simp [toJson, Json.index_build, Json.find, UInt32.toUInt64_inj] at hclient htime hticket hpin
  rw [hclient, htime, hticket, hpin]

theorem TicketResponse.Body.toJson_injective {a b : TicketResponse.Body}
    (h : a.toJson = b.toJson) : a = b := by
  obtain ⟨approved, lastName, firstName, middleName, uid, secret, pin⟩ := a
  obtain ⟨approved', lastName', firstName', middleName', uid', secret', pin'⟩ := b
  have hfield := fun key => congrArg (Json.index · key) h
  have happroved := hfield "approved"
  have hlast := hfield "last_name"
  have hfirst := hfield "first_name"
  have hmiddle := hfield "middle_name"
  have huid := hfield "voter_unique_id"
  have hsecret := hfield "secret"
  have hpin := hfield "pin"
  simp [toJson, Json.index_build, Json.find, UInt32.toUInt64_inj]
    at happroved hlast hfirst hmiddle huid hsecret hpin
  rw [happroved, hlast, hfirst, hmiddle, huid, hsecret, hpin]

include hencode in
theorem SignedPayload.toJson_injective {p q : SignedPayload} (h : p.toJson c = q.toJson c) :
    p = q := by
  have hkey : p.ownKey = q.ownKey := by
    rw [← contains_ownKey (c := c), h, contains_ownKey]
  cases p with
  | voterIDRequest a =>
    cases q with
    | voterIDRequest b => rw [VoterIDRequest.Body.toJson_injective hencode h]
    | _ => simp [ownKey] at hkey
  | checkinRequest a =>
    cases q with
    | checkinRequest b => rw [CheckinRequest.Body.toJson_injective hencode h]
    | _ => simp [ownKey] at hkey
  | ticketRequest a =>
    cases q with
    | ticketRequest b => rw [TicketRequest.Body.toJson_injective h]
    | _ => simp [ownKey] at hkey
  | checkinResponse a =>
    cases q with
    | checkinResponse b => rw [CheckinResponse.Body.toJson_injective h]
    | _ => simp [ownKey] at hkey
  | ticketResponse a =>
    cases q with
    | ticketResponse b => rw [TicketResponse.Body.toJson_injective h]
    | _ => simp [ownKey] at hkey
  | idStatement presentedId voterUniqueId =>
    cases q with
    | idStatement presentedId' voterUniqueId' =>
      obtain ⟨rfl, rfl⟩ := idStatement_injective hencode h
      rfl
    | _ => simp [ownKey] at hkey

end Injective

/-! ## The programs sign payloads only -/

/-- The bytes that are signed for a payload. -/
def SignedPayload.signed (lib : Libraries) (p : SignedPayload) : Cpp Bytes :=
  lib.dump (p.toJson lib.toCodec)

/-- The bytes are those of a payload. -/
def OfPayload (lib : Libraries) (text : Bytes) : Prop :=
  ∃ p : SignedPayload, p.signed lib = .ok text

def PollbookClient.Action.SignsPayload (lib : Libraries) : PollbookClient.Action → Prop
  | .signed message => OfPayload lib message
  | _ => True

def VoterIDService.Action.SignsPayload (lib : Libraries) : VoterIDService.Action → Prop
  | .signed message => OfPayload lib message
  | _ => True

/-- The signature of an answer is over a payload. -/
def Action.SignsPayload (env : Env) : Action → Prop
  | .checkinAnswer _ _ response => ∃ text, OfPayload env.toLibraries text ∧
      response.checkinServiceSignature = env.sign env.config.localPrivateKey text
  | .ticketAnswer _ _ response => ∃ text, OfPayload env.toLibraries text ∧
      response.signature = env.sign env.config.localPrivateKey text
  | _ => True

theorem PollbookClient.startIdRequestWrite_signsPayload (lib : Libraries) (c : PollbookClient)
    (timestamp : UInt64) (firstName middleName lastName voterIdData : Bytes) :
    (c.startIdRequestWrite lib timestamp firstName middleName lastName voterIdData).Performs
      (Action.SignsPayload lib) := by
  apply Call.performs_ofCpp_bind
  intro text htext
  refine Call.performs_bind (Call.performs_perform ⟨.voterIDRequest _, htext⟩) fun _ => ?_
  apply Call.performs_ofCpp_bind
  intro message _
  exact Call.performs_perform trivial

theorem PollbookClient.startCheckinRequestWrite_signsPayload (lib : Libraries)
    (c : PollbookClient) (now : UInt64) (verifiedIdResponse : VerifiedVoterID) :
    (c.startCheckinRequestWrite lib now verifiedIdResponse).Performs (Action.SignsPayload lib) := by
  apply Call.performs_ofCpp_bind
  intro text htext
  refine Call.performs_bind (Call.performs_perform ⟨.checkinRequest _, htext⟩) fun _ => ?_
  apply Call.performs_ofCpp_bind
  intro message _
  exact Call.performs_perform trivial

theorem PollbookClient.verifyTicket_signsPayload (lib : Libraries) (c : PollbookClient)
    (now : UInt64) (ticket : Bytes) (pin : UInt32) :
    (c.verifyTicket lib now ticket pin).Performs (Action.SignsPayload lib) := by
  unfold verifyTicket
  split
  · exact Call.performs_threw _
  · apply Call.performs_ofCpp_bind
    intro text htext
    refine Call.performs_bind (Call.performs_perform ⟨.ticketRequest _, htext⟩) fun _ => ?_
    apply Call.performs_ofCpp_bind
    intro message _
    exact Call.performs_perform trivial

theorem VoterIDService.endorse_signsPayload (env : VoterIDService.Env) (io : VoterIDService.Io)
    (s : VoterIDService) (clientIp : Endpoint) (request : VoterIDRequest)
    (voterUniqueId : UInt32) :
    (s.endorse env io clientIp request voterUniqueId).Performs
      (Action.SignsPayload env.toLibraries) := by
  apply Call.performs_ofCpp_bind
  intro text htext
  refine Call.performs_bind (Call.performs_perform ⟨.idStatement _ _, htext⟩) fun _ => ?_
  apply Call.performs_ofCpp_bind
  intro message _
  apply Call.performs_ofCpp_bind
  intro stream _
  split
  · exact Call.performs_bind (Call.performs_perform trivial) fun _ => Call.performs_pure _
  · exact Call.performs_threw _

theorem CheckinService.answerCheckin_signsPayload (env : Env) (io : Io) (s : CheckinService)
    (clientIp : Endpoint) (request : CheckinRequest) (accept : Bool) (ticket : Bytes) :
    (s.answerCheckin env io clientIp request accept ticket).Performs (Action.SignsPayload env) := by
  apply Call.performs_ofCpp_bind
  intro text htext
  apply Call.performs_ofCpp_bind
  intro message _
  apply Call.performs_ofCpp_bind
  intro stream _
  split
  · refine Call.performs_bind (Call.performs_perform ⟨text, ⟨.checkinResponse _, htext⟩, rfl⟩)
      fun _ => ?_
    exact Call.performs_pure _
  · exact Call.performs_threw _

theorem CheckinService.sendTicketResponse_signsPayload (env : Env) (s : CheckinService)
    (clientIp : Endpoint) (request : TicketRequest) (responseBody : TicketResponse.Body) :
    (s.sendTicketResponse env clientIp request responseBody).Performs
      (Action.SignsPayload env) := by
  apply Call.performs_ofCpp_bind
  intro text htext
  apply Call.performs_ofCpp_bind
  intro message _
  apply Call.performs_ofCpp_bind
  intro stream _
  exact Call.performs_perform ⟨text, ⟨.ticketResponse _, htext⟩, rfl⟩

/-! ## Separation -/

/-- A signature is good for the message it was made for only. -/
def Libraries.Binding (lib : Libraries) : Prop :=
  ∀ key message message', lib.verify key message (lib.sign key message') = .ok true →
    message = message'

/-- **Separated payloads.** The signed bytes determine what kind of message was
signed and every field of it, so a signature for one message is no good for
another. -/
theorem signed_payloads_are_separated {lib : Libraries}
    (hdump : ∀ j k text, j.Plain → k.Plain → lib.dump j = .ok text → lib.dump k = .ok text → j = k)
    (hencode : Function.Injective lib.encode) :
    (∀ p q text, SignedPayload.signed lib p = .ok text → SignedPayload.signed lib q = .ok text →
      p = q) ∧
    (lib.Binding → ∀ key p q text text', SignedPayload.signed lib p = .ok text →
      SignedPayload.signed lib q = .ok text' →
      lib.verify key text' (lib.sign key text) = .ok true → p = q) := by
  have hseparated : ∀ p q text, SignedPayload.signed lib p = .ok text →
      SignedPayload.signed lib q = .ok text → p = q := by
    intro p q text hp hq
    have hpp := SignedPayload.plain_of_utf8 (Codec.dump_eq_ok hp).1
    have hpq := SignedPayload.plain_of_utf8 (Codec.dump_eq_ok hq).1
    exact SignedPayload.toJson_injective hencode (hdump _ _ text hpp hpq hp hq)
  refine ⟨hseparated, ?_⟩
  intro hbinding key p q text text' hp hq hverify
  rw [hbinding key text' text hverify] at hq
  exact hseparated p q text hp hq

/-- Libraries whose signatures show the message. -/
def Rehearsal.transparent : Libraries where
  toCodec := Codec.reference
  verify key message signature := .ok (signature == key.der ++ message)
  sign key message := key.der ++ message

/-- What the kiosk signed for the ID service is no check-in request of its. -/
theorem signed_payloads_are_separated_rehearsal :
    ∃ text text', SignedPayload.signed Rehearsal.transparent
        (.voterIDRequest (Rehearsal.presentedId 1000000).body) = .ok text ∧
      SignedPayload.signed Rehearsal.transparent
        (.checkinRequest (Rehearsal.checkinBody 1000000)) = .ok text' ∧
      Rehearsal.transparent.verify Rehearsal.kioskKey text'
        (Rehearsal.transparent.sign Rehearsal.kioskKey text) ≠ .ok true := by
  have hdump : ∀ j k text, j.Plain → k.Plain → Rehearsal.transparent.dump j = .ok text →
      Rehearsal.transparent.dump k = .ok text → j = k := by
    intro j k text hj hk hjt hkt
    apply Codec.reference_lawful.render_injective hj hk
    exact (Codec.dump_eq_ok hjt).2.symm.trans (Codec.dump_eq_ok hkt).2
  have hencode : Function.Injective Rehearsal.transparent.encode := by
    intro a b hab
    have ha := Codec.reference_lawful.decode_encode a
    have hb := Codec.reference_lawful.decode_encode b
    rw [show Codec.reference.encode a = Codec.reference.encode b from hab, hb] at ha
    exact (Except.ok.inj ha).symm
  have hbinding : Rehearsal.transparent.Binding := by
    intro key message message' h
    have heq : (key.der ++ message' == key.der ++ message) = true := Except.ok.inj h
    exact (List.append_cancel_left (beq_iff_eq.mp heq)).symm
  have hrequest : ((Rehearsal.presentedId 1000000).body.toJson Codec.reference).Plain :=
    VoterIDRequest.Body.plain_toJson Codec.reference_lawful
      ⟨by decide +kernel, by decide +kernel, by decide +kernel⟩
  have hcheckin : ((Rehearsal.checkinBody 1000000).toJson Codec.reference).Plain :=
    CheckinRequest.Body.plain_toJson Codec.reference_lawful
      ⟨by decide +kernel, by decide +kernel, by decide +kernel,
        by decide +kernel, by decide +kernel, by decide +kernel⟩
  have htext := Codec.reference.dump_of_utf8 hrequest.utf8
  have htext' := Codec.reference.dump_of_utf8 hcheckin.utf8
  refine ⟨_, _, htext, htext', ?_⟩
  intro hverify
  have heq := (signed_payloads_are_separated hdump hencode).2 hbinding Rehearsal.kioskKey
    (.voterIDRequest (Rehearsal.presentedId 1000000).body)
    (.checkinRequest (Rehearsal.checkinBody 1000000)) _ _ htext htext' hverify
  cases heq

end Pollbook
