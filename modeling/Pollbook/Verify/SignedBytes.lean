import Pollbook.Client.Python
import Pollbook.Lib.Reference
import Pollbook.Rehearsal
import Pollbook.Verify.IdOutcomes
import Pollbook.Verify.Outcomes

/-!
# The Python client and the services sign the same bytes

The ID request is signed as `dump()` writes it. The other three places escape:
they agree with the services just when no character of a name comes from DEL on
(`python_signature_verifies`).
-/

namespace Pollbook

/-! ## The JSON of a message

It has base64 inside, and nothing else of the codec.
-/

namespace Codec.Standard

variable {c : Codec} (hc : c.Standard)

include hc

theorem encode_eq : c.encode = Codec.reference.encode := funext hc.encode

theorem voterIDRequestBody (body : VoterIDRequest.Body) :
    body.toJson c = body.toJson Codec.reference := by
  simp only [VoterIDRequest.Body.toJson, hc.encode_eq]

theorem voterIDRequest (request : VoterIDRequest) :
    request.toJson c = request.toJson Codec.reference := by
  simp only [VoterIDRequest.toJson, hc.voterIDRequestBody, hc.encode_eq]

theorem verifiedVoterID (id : VerifiedVoterID) : id.toJson c = id.toJson Codec.reference := by
  simp only [VerifiedVoterID.toJson, hc.voterIDRequest, hc.encode_eq]

theorem statement (presentedId : VoterIDRequest) (voterUniqueId : UInt32) :
    idStatement c presentedId voterUniqueId =
      idStatement Codec.reference presentedId voterUniqueId := by
  simp only [idStatement, hc.voterIDRequest]

theorem checkinRequestBody (body : CheckinRequest.Body) :
    body.toJson c = body.toJson Codec.reference := by
  simp only [CheckinRequest.Body.toJson, hc.verifiedVoterID]

theorem checkinRequest (request : CheckinRequest) :
    request.toJson c = request.toJson Codec.reference := by
  simp only [CheckinRequest.toJson, hc.checkinRequestBody, hc.encode_eq]

theorem checkinResponse (response : CheckinResponse) :
    response.toJson c = response.toJson Codec.reference := by
  simp only [CheckinResponse.toJson, hc.encode_eq]

end Codec.Standard

namespace PyClient

open PyJson
open PollbookClient (littleEndian)
open CheckinService (validateClientRequest answerCheckin)
open VoterIDService (checkRequest endorse verifiedVoterID endorse_returned)

/-- No character of a name comes from DEL on. -/
def Voter.Printable (v : Voter) : Prop :=
  printable v.firstName = true ∧ printable v.middleName = true ∧ printable v.lastName = true

/-! ## An honest check-in -/

/-- The ID service decodes the request from the line. -/
def ReadsIdRequest (lib : Libraries) (line : Bytes) (request : VoterIDRequest) : Prop :=
  ∃ json, lib.parse line = .ok json ∧ VoterIDRequest.fromJson lib.toCodec json = .ok request

/-- The check-in service decodes the request from the line. -/
def ReadsCheckin (lib : Libraries) (line : Bytes) (request : CheckinRequest) : Prop :=
  ∃ json, lib.parse line = .ok json ∧ CheckinRequest.fromJson lib.toCodec json = .ok request

/-- The ID service signs the text and sends the line when it endorses the
client's request. -/
def Endorses (lib : Libraries) (cfg : Cfg) (v : Voter) (t₁ : UInt64) (text line : Bytes) : Prop :=
  ∃ request config io s clientIp uid s', config.localPrivateKey = cfg.idPubkeyFile ∧
    ReadsIdRequest lib (sendRequest (buildVoterIdRequest lib cfg t₁ v)) request ∧
    endorse ⟨lib, config⟩ io s clientIp request uid =
      .returned s' [.signed text, .wrote clientIp line]

/-- The check-in service answers the client's request, with a ticket or
without. -/
def Answers (lib : Libraries) (cfg : Cfg) (v : Voter) (t₁ t₂ : UInt64)
    (response : CheckinResponse) : Prop :=
  ∃ text line value body request config io s clientIp accept ticket s',
    config.localPrivateKey = cfg.checkinPubkeyFile ∧
    Endorses lib cfg v t₁ text line ∧ receive line = some value ∧
    checkinBody cfg t₂ v value = some body ∧
    ReadsCheckin lib (sendRequest (checkinRequest lib cfg body)) request ∧
    answerCheckin ⟨lib, config⟩ io s clientIp request accept (hex ticket) =
      .returned s' [.checkinAnswer clientIp request response]

/-- The bytes that are checked are the bytes that were signed, in both directions
and with both services, and the signatures are found to be good. -/
structure SignedBytesAgree (lib : Libraries) (cfg : Cfg) (v : Voter) (t₁ t₂ : UInt64) : Prop where
  idRequest : ∃ request,
    ReadsIdRequest lib (sendRequest (buildVoterIdRequest lib cfg t₁ v)) request ∧
    ∀ config (s : VoterIDService), s.clientVerifiers cfg.clientId = some cfg.privateKey →
      s.checkRequest ⟨lib, config⟩ request = .returned true
        [.verified cfg.privateKey (idRequestSigned cfg t₁ v) request.clientSignature]
  verifiedId : ∀ text line, Endorses lib cfg v t₁ text line → ∃ response data sig,
    receive line = some response ∧ vvidData response = some data ∧
    response.get "id_service_signature" = some sig ∧ checked data = text ∧
    verifySignature lib cfg.idPubkeyFile data sig = some true
  checkinRequest : ∀ text line, Endorses lib cfg v t₁ text line → ∃ response body request,
    receive line = some response ∧ checkinBody cfg t₂ v response = some body ∧
    ReadsCheckin lib (sendRequest (PyClient.checkinRequest lib cfg body)) request ∧
    ∀ config (s : CheckinService) now, s.clientVerifiers cfg.clientId = some cfg.privateKey →
      .verified cfg.privateKey (checkinSigned body) request.clientSignature ∈
        (s.validateClientRequest ⟨lib, config⟩ request now).actions
  checkinResponse : ∀ response, Answers lib cfg v t₁ t₂ response → ∃ value data sig,
    receive (lib.render (response.toJson lib.toCodec) ++ [newline]) = some value ∧
    value.get "body" = some data ∧ value.get "checkin_service_signature" = some sig ∧
    checked data = lib.render response.body.toJson ∧
    verifySignature lib cfg.checkinPubkeyFile data sig = some true

/-! ## base64 -/

theorem bytes_b64encode (data : Bytes) : bytes (b64encode data) = Base64.encode data := by
  have hchar : ∀ n < 128, (Char.ofNat n).toNat = n := by decide
  have hbyte : ∀ n < 128, (Char.ofNat n).toUInt8 = UInt8.ofNat n := by decide
  unfold b64encode
  rw [bytes_of_ascii, String.toList_ofList, List.map_map]
  · refine (List.map_congr_left fun b hb => ?_).trans (List.map_id _)
    rw [Function.comp_apply, hbyte _ (Base64.encode_ascii data b hb), UInt8.ofNat_toNat, id]
  · intro c hc
    rw [String.toList_ofList] at hc
    obtain ⟨b, hb, rfl⟩ := List.mem_map.mp hc
    have hb := Base64.encode_ascii data b hb
    rwa [hchar _ hb]

theorem b64decode_of_bytes {text : String} {data : Bytes} (h : bytes text = Base64.encode data) :
    b64decode text = some data := by
  have hascii : (bytes text).all (·.toNat < 128) = true := by
    rw [h, List.all_eq_true]
    exact fun b hb => decide_eq_true (Base64.encode_ascii data b hb)
  rw [b64decode, if_pos hascii, h, Base64.a2b_encode]

@[simp] theorem toJson_uint32 (n : UInt32) :
    (Value.int n.toNat).toJson = .numberUnsigned n.toUInt64 := by
  rw [Value.toJson, if_neg (Int.not_lt.mpr (Int.natCast_nonneg _)), Int.natAbs_natCast]
  congr 1
  apply UInt64.toNat_inj.mp
  rw [UInt32.toNat_toUInt64, UInt64.toNat_ofNat_of_lt' (Nat.lt_trans n.toNat_lt (by decide))]

@[simp] theorem toJson_uint64 (n : UInt64) :
    (Value.int n.toNat).toJson = .numberUnsigned n := by
  rw [Value.toJson, if_neg (Int.not_lt.mpr (Int.natCast_nonneg _)), Int.natAbs_natCast,
    UInt64.ofNat_toNat]

@[simp] theorem toJson_b64 (data : Bytes) :
    (Value.str (b64encode data)).toJson = .string (Base64.encode data) := by
  rw [Value.toJson, bytes_b64encode]

/-! ## The ID request -/

variable {lib : Libraries} {cfg : Cfg} {v : Voter} {t₁ t₂ : UInt64}

/-- The body the ID service decodes. -/
def idBody (cfg : Cfg) (t₁ : UInt64) (v : Voter) : VoterIDRequest.Body :=
  ⟨cfg.clientId, t₁, bytes v.lastName, bytes v.middleName, bytes v.firstName,
    littleEndian v.id ++ dummyBytes⟩

def idRequestSent (lib : Libraries) (cfg : Cfg) (t₁ : UInt64) (v : Voter) : VoterIDRequest :=
  ⟨idBody cfg t₁ v, lib.sign cfg.privateKey (idRequestSigned cfg t₁ v)⟩

theorem idBody_utf8 : (idBody cfg t₁ v).Utf8 :=
  ⟨validUtf8_bytes _, validUtf8_bytes _, validUtf8_bytes _⟩

theorem toJson_idRequestBody :
    (idRequestBody cfg t₁ v).toJson = (idBody cfg t₁ v).toJson Codec.reference := by
  rw [idRequestBody, toJson_dict (by simp), VoterIDRequest.Body.toJson]
  simp only [List.map_cons, List.map_nil, toJson_uint32, toJson_uint64, toJson_b64]
  rfl

theorem simple_idRequestBody : Simple (idRequestBody cfg t₁ v) := by
  refine .dict (by simp) (by simp [Json.asciiKey]) ?_
  simp only [List.forall_mem_cons, List.not_mem_nil, false_imp_iff, implies_true, and_true]
  exact ⟨.int (Nat.lt_trans cfg.clientId.toNat_lt (by decide)), .int t₁.toNat_lt, .str _, .str _,
    .str _, .str _⟩

/-- A message of the client: its body and the signature on it. -/
theorem simple_signed {body : Value} (h : Simple body) (signature : Bytes) :
    Simple (.dict [("body", body), ("client_signature", .str (b64encode signature))]) := by
  refine .dict (by simp) (by simp [Json.asciiKey]) ?_
  simp only [List.forall_mem_cons, List.not_mem_nil, false_imp_iff, implies_true, and_true]
  exact ⟨h, .str _⟩

/-- A line of the client is read as its message. -/
theorem parse_sendRequest (hlib : lib.toCodec.Standard) {message : Value}
    (h : Simple message) : lib.parse (sendRequest message) = .ok message.toJson := by
  apply hlib.parse ?_ (plain_toJson h)
  exact parse_dumps h [newline] (by simp [newline, Json.isWhite])

theorem readsIdRequest (hlib : lib.toCodec.Standard) :
    ReadsIdRequest lib (sendRequest (buildVoterIdRequest lib cfg t₁ v))
      (idRequestSent lib cfg t₁ v) := by
  refine ⟨_, parse_sendRequest hlib (simple_signed simple_idRequestBody _), ?_⟩
  have hjson : (buildVoterIdRequest lib cfg t₁ v).toJson =
      (idRequestSent lib cfg t₁ v).toJson Codec.reference := by
    rw [buildVoterIdRequest, toJson_dict (by simp), VoterIDRequest.toJson]
    simp only [List.map_cons, List.map_nil, toJson_b64, toJson_idRequestBody]
    rfl
  rw [hjson, ← hlib.voterIDRequest]
  exact VoterIDRequest.fromJson_toJson hlib.lawful _

theorem eq_of_readsIdRequest (hlib : lib.toCodec.Standard) {request : VoterIDRequest}
    (h : ReadsIdRequest lib (sendRequest (buildVoterIdRequest lib cfg t₁ v)) request) :
    request = idRequestSent lib cfg t₁ v := by
  obtain ⟨json, hparse, hrequest⟩ := h
  obtain ⟨json', hparse', hrequest'⟩ := @readsIdRequest lib cfg v t₁ hlib
  rw [hparse] at hparse'
  obtain rfl := Except.ok.inj hparse'
  rw [hrequest] at hrequest'
  exact Except.ok.inj hrequest'

/-- The ID request is signed as the ID service writes it again. -/
theorem render_idBody : JsonText.render ((idBody cfg t₁ v).toJson Codec.reference) =
    idRequestSigned cfg t₁ v := by
  rw [← toJson_idRequestBody, ← dumps_sorted simple_idRequestBody]
  rfl

theorem checkRequest_idRequest (hlib : lib.toCodec.Standard)
    (hverifies : lib.Verifies cfg.privateKey)
    (config : VoterIDService.Config) {s : VoterIDService}
    (hkey : s.clientVerifiers cfg.clientId = some cfg.privateKey) :
    s.checkRequest ⟨lib, config⟩ (idRequestSent lib cfg t₁ v) = .returned true
      [.verified cfg.privateKey (idRequestSigned cfg t₁ v)
        (idRequestSent lib cfg t₁ v).clientSignature] := by
  have hdump : lib.dump ((idBody cfg t₁ v).toJson lib.toCodec) =
      .ok (idRequestSigned cfg t₁ v) := by
    rw [hlib.voterIDRequestBody, ← render_idBody]
    exact hlib.dump (VoterIDRequest.Body.plain_toJson Codec.reference_lawful idBody_utf8)
  unfold VoterIDService.checkRequest mapAt
  change (Call.ofCpp (lib.dump ((idBody cfg t₁ v).toJson lib.toCodec)) >>= _) = _
  rw [hdump]
  change (Call.ofCpp (mapAt s.clientVerifiers cfg.clientId) >>= _).after [] = _
  rw [Call.after_nil, mapAt_eq_ok.mpr hkey, Call.ofCpp_ok, Call.returned_bind, Call.after_nil]
  change (Call.ofCpp (lib.verify cfg.privateKey (idRequestSigned cfg t₁ v)
    (lib.sign cfg.privateKey (idRequestSigned cfg t₁ v))) >>= _) = _
  rw [hverifies]
  rfl

/-! ## Answers -/

theorem exists_object {j : Json} (h : j.isObject = true) : ∃ fields, j = .object fields := by
  cases j with
  | object fields => exact ⟨fields, rfl⟩
  | _ => cases h

/-- The line with an object is received as the object. -/
theorem receive_line {j : Json} (h : j.Plain) (hobject : j.isObject = true) :
    ∃ value, receive (JsonText.render j ++ [newline]) = some value ∧ Simple value ∧
      value.toJson = j := by
  obtain ⟨fields, rfl⟩ := exists_object hobject
  have hstrip : strip (JsonText.render (.object fields) ++ [newline]) =
      JsonText.render (.object fields) := by
    have hbrace : isspace 123 = false := by decide
    have hend : isspace 125 = false := by decide
    have hnewline : isspace newline = true := by decide
    simp [strip, JsonText.render, hbrace, hend, hnewline]
  obtain ⟨value, hloads, hsimple, hjson⟩ := loads_render h
  exact ⟨value, by rw [receive, hstrip, hloads], hsimple, hjson⟩

/-- What a message received from a service has under a key. -/
theorem get_build {value : Value} (h : Simple value) {fields : List (String × Json)}
    (hne : fields ≠ []) (hjson : value.toJson = Json.build fields) (key : String) {j : Json}
    (hfind : Json.find key fields.reverse = some j) :
    ∃ w, value.get key = some w ∧ Simple w ∧ w.toJson = j := by
  refine get_of_index h ?_
  rw [hjson, Json.index_build hne, hfind]

theorem checked_eq_iff {data : Value} (h : Simple data) :
    checked data = JsonText.render data.toJson ↔ printableJson data.toJson = true :=
  dumps_escaped_eq_render_iff h

/-- A service's signature on the bytes that are checked is good. -/
theorem verifySignature_sign
    {key : EnvelopeKey} (hverifies : lib.Verifies key) {data sig : Value} (hsimple : Simple sig)
    (hsig : sig.toJson = .string (Base64.encode (lib.sign key (checked data)))) :
    verifySignature lib key data sig = some true := by
  cases hsimple with
  | bool b => cases hsig
  | int h =>
    rw [Value.toJson, if_neg (Int.not_lt.mpr (Int.natCast_nonneg _))] at hsig
    cases hsig
  | str s =>
    rw [Value.toJson] at hsig
    simp only [verifySignature, b64decode_of_bytes (Json.string.inj hsig), hverifies _]
  | dict => cases hsig

theorem printable_b64 (data : Bytes) : printableJson (.string (Base64.encode data)) = true := by
  rw [printableJson, List.all_eq_true]
  intro b hb
  have hle := Base64.encode_le data b hb
  exact decide_eq_true (by omega)

theorem printable_str (s : String) : printableJson (.string (bytes s)) = printable s :=
  all_bytes_eq_printable s

/-! ## The ID service's answer -/

/-- What the ID service answers when it matches the voter. -/
def endorsement (lib : Libraries) (cfg : Cfg) (t₁ : UInt64) (v : Voter) (uid : UInt32) :
    VerifiedVoterID :=
  ⟨idRequestSent lib cfg t₁ v, uid, lib.sign cfg.idPubkeyFile
    (JsonText.render (idStatement Codec.reference (idRequestSent lib cfg t₁ v) uid))⟩

theorem plain_endorsement (uid : UInt32) :
    ((endorsement lib cfg t₁ v uid).toJson Codec.reference).Plain :=
  VerifiedVoterID.plain_toJson Codec.reference_lawful idBody_utf8

theorem plain_statement (uid : UInt32) :
    (idStatement Codec.reference (idRequestSent lib cfg t₁ v) uid).Plain :=
  plain_idStatement Codec.reference_lawful idBody_utf8 uid

/-- An ID service with the client's idea of its key, and a connection. -/
def idServiceConfig (cfg : Cfg) : VoterIDService.Config := ⟨0, cfg.idPubkeyFile, [], []⟩

def idServiceState : VoterIDService where
  clientVerifiers := Map.empty
  clientPublicKeys := Map.empty
  pemFiles := Map.empty
  voterData := Map.empty
  clientSslStreams := Map.empty.set ⟨0, 0⟩ 0

theorem endorses_iff (hlib : lib.toCodec.Standard) {text line : Bytes} :
    Endorses lib cfg v t₁ text line ↔ ∃ uid,
      text = JsonText.render (idStatement Codec.reference (idRequestSent lib cfg t₁ v) uid) ∧
      line = JsonText.render ((endorsement lib cfg t₁ v uid).toJson Codec.reference) ++
        [newline] := by
  constructor
  · rintro ⟨request, config, io, s, clientIp, uid, s', hconfig, hreads, hendorse⟩
    obtain rfl := eq_of_readsIdRequest hlib hreads
    obtain ⟨-, -, hacts⟩ := endorse_returned hendorse
    refine ⟨uid, ?_⟩
    simp only [List.cons.injEq, and_true, VoterIDService.Action.signed.injEq,
      VoterIDService.Action.wrote.injEq, true_and] at hacts
    obtain ⟨htext, hline⟩ := hacts
    rw [hlib.statement, hlib.render (plain_statement uid)] at htext
    rw [verifiedVoterID, hconfig, hlib.statement, hlib.render (plain_statement uid),
      hlib.verifiedVoterID] at hline
    exact ⟨htext, hline.trans (by rw [← hlib.render (plain_endorsement uid)]; rfl)⟩
  · rintro ⟨uid, rfl, rfl⟩
    refine ⟨idRequestSent lib cfg t₁ v, idServiceConfig cfg, ⟨0, true⟩, idServiceState, ⟨0, 0⟩, uid,
      idServiceState, rfl, readsIdRequest hlib, ?_⟩
    have hstatement : lib.dump (idStatement lib.toCodec (idRequestSent lib cfg t₁ v) uid) =
        .ok (JsonText.render (idStatement Codec.reference (idRequestSent lib cfg t₁ v) uid)) := by
      rw [hlib.statement]
      exact hlib.dump (plain_statement uid)
    have hresponse : lib.dump ((endorsement lib cfg t₁ v uid).toJson lib.toCodec) =
        .ok (JsonText.render ((endorsement lib cfg t₁ v uid).toJson Codec.reference)) := by
      rw [hlib.verifiedVoterID]
      exact hlib.dump (plain_endorsement uid)
    unfold VoterIDService.endorse
    change (Call.ofCpp (lib.dump (idStatement lib.toCodec (idRequestSent lib cfg t₁ v) uid)) >>= _)
      = _
    rw [hstatement, Call.ofCpp_ok, Call.returned_bind, Call.after_nil, Call.perform_eq,
      Call.returned_bind]
    change (Call.ofCpp (lib.dump ((endorsement lib cfg t₁ v uid).toJson lib.toCodec)) >>= _).after
      _ = _
    rw [hresponse]
    rfl

/-- What the client makes of the ID service's answer. -/
structure Received (lib : Libraries) (cfg : Cfg) (t₁ : UInt64) (v : Voter) (uid : UInt32)
    (response : Value) : Prop where
  simple : Simple response
  json : response.toJson = (endorsement lib cfg t₁ v uid).toJson Codec.reference

theorem exists_received (uid : UInt32) :
    ∃ response, receive (JsonText.render
        ((endorsement lib cfg t₁ v uid).toJson Codec.reference) ++ [newline]) = some response ∧
      Received lib cfg t₁ v uid response := by
  obtain ⟨response, hreceive, hsimple, hjson⟩ :=
    receive_line (@plain_endorsement lib cfg v t₁ uid) (Json.build_isObject (by simp))
  exact ⟨response, hreceive, hsimple, hjson⟩

namespace Received

variable {uid : UInt32} {response : Value}

theorem vvidData (h : Received lib cfg t₁ v uid response) :
    ∃ data, vvidData response = some data ∧ Simple data ∧
      data.toJson = idStatement Codec.reference (idRequestSent lib cfg t₁ v) uid := by
  obtain ⟨presented, hpresented, hsimple, hjson⟩ := get_build h.simple (by simp) h.json
    "presented_id" (j := (idRequestSent lib cfg t₁ v).toJson Codec.reference)
    (by simp [Json.find]; rfl)
  obtain ⟨number, hnumber, hsimple', hjson'⟩ := get_build h.simple (by simp) h.json
    "voter_unique_id" (j := .numberUnsigned uid.toUInt64) (by simp [Json.find]; rfl)
  refine ⟨.dict [("presented_id", presented), ("voter_unique_id", number)], ?_, ?_, ?_⟩
  · simp only [PyClient.vvidData, hpresented, hnumber]
  · refine .dict (by simp) (by simp [Json.asciiKey]) ?_
    simp only [List.forall_mem_cons, List.not_mem_nil, false_imp_iff, implies_true, and_true]
    exact ⟨hsimple, hsimple'⟩
  · rw [toJson_dict (by simp)]
    simp only [List.map_cons, List.map_nil, hjson, hjson']
    rfl

theorem signature (h : Received lib cfg t₁ v uid response) :
    ∃ sig, response.get "id_service_signature" = some sig ∧ Simple sig ∧
      sig.toJson = .string (Base64.encode (lib.sign cfg.idPubkeyFile (JsonText.render
        (idStatement Codec.reference (idRequestSent lib cfg t₁ v) uid)))) :=
  get_build h.simple (by simp) h.json "id_service_signature" (by simp [Json.find]; rfl)

theorem number (h : Received lib cfg t₁ v uid response) :
    ∃ number, response.get "voter_unique_id" = some number ∧ Simple number ∧
      number.toJson = .numberUnsigned uid.toUInt64 :=
  get_build h.simple (by simp) h.json "voter_unique_id" (by simp [Json.find]; rfl)

end Received

/-! ## Names in messages -/

theorem printable_idBody : printableJson ((idBody cfg t₁ v).toJson Codec.reference) = true ↔
    v.Printable := by
  rw [VoterIDRequest.Body.toJson, printableJson_build (by simp) (by simp) (by simp [printable])]
  simp only [List.map_cons, List.map_nil, List.all_cons, List.all_nil, Bool.and_true,
    Bool.and_eq_true]
  change _ ∧ _ ∧ printableJson (.string (bytes v.lastName)) = true ∧
    printableJson (.string (bytes v.middleName)) = true ∧
    printableJson (.string (bytes v.firstName)) = true ∧
    printableJson (.string (Base64.encode _)) = true ↔ _
  rw [printable_str, printable_str, printable_str]
  exact ⟨fun h => ⟨h.2.2.2.2.1, h.2.2.2.1, h.2.2.1⟩,
    fun h => ⟨rfl, rfl, h.2.2, h.2.1, h.1, printable_b64 _⟩⟩

theorem printable_idRequest :
    printableJson ((idRequestSent lib cfg t₁ v).toJson Codec.reference) = true ↔
      v.Printable := by
  rw [VoterIDRequest.toJson, printableJson_build (by simp) (by simp) (by simp [printable])]
  simp only [List.map_cons, List.map_nil, List.all_cons, List.all_nil, Bool.and_true,
    Bool.and_eq_true]
  change printableJson ((idBody cfg t₁ v).toJson Codec.reference) = true ∧
    printableJson (.string (Base64.encode _)) = true ↔ _
  rw [printable_idBody]
  exact and_iff_left (printable_b64 _)

theorem printable_statement (uid : UInt32) :
    printableJson (idStatement Codec.reference (idRequestSent lib cfg t₁ v) uid) = true ↔
      v.Printable := by
  rw [idStatement, printableJson_build (by simp) (by simp) (by simp [printable])]
  simp only [List.map_cons, List.map_nil, List.all_cons, List.all_nil, Bool.and_true,
    Bool.and_eq_true, printable_idRequest]
  exact and_iff_left rfl

theorem printable_endorsement (uid : UInt32) :
    printableJson ((endorsement lib cfg t₁ v uid).toJson Codec.reference) = true ↔
      v.Printable := by
  rw [VerifiedVoterID.toJson, printableJson_build (by simp) (by simp) (by simp [printable])]
  simp only [List.map_cons, List.map_nil, List.all_cons, List.all_nil, Bool.and_true,
    Bool.and_eq_true]
  change printableJson ((idRequestSent lib cfg t₁ v).toJson Codec.reference) = true ∧ _ ∧
    printableJson (.string (Base64.encode _)) = true ↔ _
  rw [printable_idRequest]
  exact and_iff_left ⟨rfl, printable_b64 _⟩

/-! ## The check-in request -/

/-- The request the check-in service decodes. -/
def checkinSent (lib : Libraries) (cfg : Cfg) (t₁ t₂ : UInt64) (v : Voter) (uid : UInt32) :
    CheckinRequest.Body :=
  ⟨cfg.clientId, t₂, bytes v.lastName, bytes v.firstName, bytes v.middleName, uid,
    endorsement lib cfg t₁ v uid⟩

theorem checkinSent_utf8 (uid : UInt32) : (checkinSent lib cfg t₁ t₂ v uid).Utf8 :=
  ⟨validUtf8_bytes _, validUtf8_bytes _, validUtf8_bytes _, idBody_utf8⟩

theorem printable_checkin (uid : UInt32) :
    printableJson ((checkinSent lib cfg t₁ t₂ v uid).toJson Codec.reference) = true ↔
      v.Printable := by
  rw [CheckinRequest.Body.toJson, printableJson_build (by simp) (by simp) (by simp [printable])]
  simp only [List.map_cons, List.map_nil, List.all_cons, List.all_nil, Bool.and_true,
    Bool.and_eq_true]
  change _ ∧ _ ∧ printableJson (.string (bytes v.lastName)) = true ∧
    printableJson (.string (bytes v.firstName)) = true ∧
    printableJson (.string (bytes v.middleName)) = true ∧ _ ∧
    printableJson ((endorsement lib cfg t₁ v uid).toJson Codec.reference) = true ↔ _
  rw [printable_endorsement, printable_str, printable_str, printable_str]
  exact ⟨fun h => h.2.2.2.2.2.2, fun h => ⟨rfl, rfl, h.2.2, h.1, h.2.1, rfl, h⟩⟩

variable {uid : UInt32} {response : Value}

theorem Received.checkinBody (h : Received lib cfg t₁ v uid response) (t₂ : UInt64) :
    ∃ body, checkinBody cfg t₂ v response = some body ∧ Simple body ∧
      body.toJson = (checkinSent lib cfg t₁ t₂ v uid).toJson Codec.reference := by
  obtain ⟨number, hnumber, hsimple, hjson⟩ := h.number
  refine ⟨_, by rw [PyClient.checkinBody, hnumber], ?_, ?_⟩
  · refine .dict (by simp) (by simp [Json.asciiKey]) ?_
    simp only [List.forall_mem_cons, List.not_mem_nil, false_imp_iff, implies_true, and_true]
    exact ⟨.int (Nat.lt_trans cfg.clientId.toNat_lt (by decide)), .int t₂.toNat_lt, .str _, .str _,
      .str _, hsimple, h.simple⟩
  · rw [toJson_dict (by simp)]
    simp only [List.map_cons, List.map_nil, toJson_uint32, toJson_uint64, hjson, h.json]
    refine build_perm ?_ (by simp) (by simp [Json.asciiKey])
    -- The client puts the last name behind the others.
    refine .cons _ (.cons _ ?_)
    exact ((List.Perm.swap _ _ _).cons _).trans (List.Perm.swap _ _ _)

/-- The request, with the signature on what the client wrote of its body. -/
def checkinRequestSent (lib : Libraries) (cfg : Cfg) (t₁ t₂ : UInt64) (v : Voter) (uid : UInt32)
    (body : Value) : CheckinRequest :=
  ⟨checkinSent lib cfg t₁ t₂ v uid, lib.sign cfg.privateKey (checkinSigned body)⟩

theorem readsCheckin (hlib : lib.toCodec.Standard) {body : Value} (hsimple : Simple body)
    (hjson : body.toJson = (checkinSent lib cfg t₁ t₂ v uid).toJson Codec.reference) :
    ReadsCheckin lib (sendRequest (checkinRequest lib cfg body))
      (checkinRequestSent lib cfg t₁ t₂ v uid body) := by
  refine ⟨_, parse_sendRequest hlib (simple_signed hsimple _), ?_⟩
  have hrequest : (checkinRequest lib cfg body).toJson =
      (checkinRequestSent lib cfg t₁ t₂ v uid body).toJson Codec.reference := by
    rw [checkinRequest, toJson_dict (by simp), CheckinRequest.toJson]
    simp only [List.map_cons, List.map_nil, toJson_b64, hjson]
    rfl
  rw [hrequest, ← hlib.checkinRequest]
  exact CheckinRequest.fromJson_toJson hlib.lawful _

theorem eq_of_readsCheckin {line : Bytes} {request request' : CheckinRequest}
    (h : ReadsCheckin lib line request) (h' : ReadsCheckin lib line request') :
    request = request' := by
  obtain ⟨json, hparse, hrequest⟩ := h
  obtain ⟨json', hparse', hrequest'⟩ := h'
  rw [hparse] at hparse'
  obtain rfl := Except.ok.inj hparse'
  rw [hrequest] at hrequest'
  exact Except.ok.inj hrequest'

/-- The check-in service finds the client's signature to be good when what was
signed is what it writes again. -/
theorem verified_checkin (hlib : lib.toCodec.Standard)
    (hverifies : lib.Verifies cfg.privateKey) {body : Value}
    (hsigned : checkinSigned body =
      JsonText.render ((checkinSent lib cfg t₁ t₂ v uid).toJson Codec.reference))
    (config : Config) {s : CheckinService} (now : UInt64)
    (hkey : s.clientVerifiers cfg.clientId = some cfg.privateKey) :
    .verified cfg.privateKey (checkinSigned body)
        (checkinRequestSent lib cfg t₁ t₂ v uid body).clientSignature ∈
      (s.validateClientRequest ⟨lib, config⟩ (checkinRequestSent lib cfg t₁ t₂ v uid body)
        now).actions := by
  have hdump : lib.dump ((checkinSent lib cfg t₁ t₂ v uid).toJson lib.toCodec) =
      .ok (checkinSigned body) := by
    rw [hlib.checkinRequestBody, hsigned]
    exact hlib.dump
      (CheckinRequest.Body.plain_toJson Codec.reference_lawful (checkinSent_utf8 uid))
  have hcheck : CheckinService.verifyBytes ⟨lib, config⟩ cfg.privateKey (checkinSigned body)
      (lib.sign cfg.privateKey (checkinSigned body)) = .returned true
        [.verified cfg.privateKey (checkinSigned body)
          (lib.sign cfg.privateKey (checkinSigned body))] := by
    unfold CheckinService.verifyBytes
    change (Call.ofCpp (lib.verify cfg.privateKey (checkinSigned body)
      (lib.sign cfg.privateKey (checkinSigned body))) >>= _) = _
    rw [hverifies]
    rfl
  unfold CheckinService.validateClientRequest
  change _ ∈ (Call.ofCpp (lib.dump ((checkinSent lib cfg t₁ t₂ v uid).toJson lib.toCodec)) >>=
    _).actions
  rw [hdump, Call.ofCpp_ok, Call.returned_bind, Call.after_nil]
  change _ ∈ (Call.ofCpp (mapAt s.clientVerifiers cfg.clientId) >>= _).actions
  rw [mapAt_eq_ok.mpr hkey, Call.ofCpp_ok, Call.returned_bind, Call.after_nil]
  change _ ∈ (CheckinService.verifyBytes ⟨lib, config⟩ cfg.privateKey (checkinSigned body)
    (lib.sign cfg.privateKey (checkinSigned body)) >>= _).actions
  rw [hcheck, Call.returned_bind, Call.actions_after]
  exact List.mem_append_left _ List.mem_cons_self

/-! ## The check-in service's answer -/

theorem printable_response {body : CheckinResponse.Body}
    (hlast : body.lastName = bytes v.lastName) (hfirst : body.firstName = bytes v.firstName)
    (hmiddle : body.middleName = bytes v.middleName) {random : Bytes}
    (hticket : body.ticket = hex random) (hprintable : v.Printable) :
    printableJson body.toJson = true := by
  rw [CheckinResponse.Body.toJson, printableJson_build (by simp) (by simp) (by simp [printable])]
  simp only [List.map_cons, List.map_nil, List.all_cons, List.all_nil, Bool.and_true,
    Bool.and_eq_true, hlast, hfirst, hmiddle, hticket, printable_str]
  refine ⟨rfl, rfl, rfl, hprintable.2.2, hprintable.1, hprintable.2.1, rfl, ?_⟩
  rw [printableJson, List.all_eq_true]
  intro b hb
  have hrange := (hex_range hb).2
  exact decide_eq_true (by omega)

theorem utf8_response {body : CheckinResponse.Body}
    (hlast : body.lastName = bytes v.lastName) (hfirst : body.firstName = bytes v.firstName)
    (hmiddle : body.middleName = bytes v.middleName) {random : Bytes}
    (hticket : body.ticket = hex random) : body.Utf8 := by
  refine ⟨hlast ▸ validUtf8_bytes _, hfirst ▸ validUtf8_bytes _, hmiddle ▸ validUtf8_bytes _, ?_⟩
  rw [hticket]
  apply validUtf8_of_ascii
  intro b hb
  have hrange := (hex_range hb).2
  omega

/-- The client finds the check-in service's signature on these names to be
good. -/
theorem checked_response (hlib : lib.toCodec.Standard) {key : EnvelopeKey}
    (hverifies : lib.Verifies key) {body : CheckinResponse.Body}
    (hlast : body.lastName = bytes v.lastName) (hfirst : body.firstName = bytes v.firstName)
    (hmiddle : body.middleName = bytes v.middleName) {random : Bytes}
    (hticket : body.ticket = hex random) (hprintable : v.Printable) : ∃ value data sig,
      receive (lib.render ((⟨body, lib.sign key (lib.render body.toJson)⟩ :
        CheckinResponse).toJson lib.toCodec) ++ [newline]) = some value ∧
      value.get "body" = some data ∧ value.get "checkin_service_signature" = some sig ∧
      checked data = lib.render body.toJson ∧ verifySignature lib key data sig = some true := by
  have hutf8 := utf8_response hlast hfirst hmiddle hticket
  have hplain : ((⟨body, lib.sign key (JsonText.render body.toJson)⟩ : CheckinResponse).toJson
      Codec.reference).Plain := CheckinResponse.plain_toJson Codec.reference_lawful hutf8
  rw [hlib.checkinResponse, hlib.render (CheckinResponse.Body.plain_toJson hutf8),
    hlib.render hplain]
  obtain ⟨value, hreceive, hsimple, hjson⟩ := receive_line hplain (Json.build_isObject (by simp))
  obtain ⟨data, hdata, hsimple', hjson'⟩ := get_build hsimple (by simp) hjson "body"
    (j := body.toJson) (by simp [Json.find])
  obtain ⟨sig, hsig, hsimple'', hjson''⟩ := get_build hsimple (by simp) hjson
    "checkin_service_signature" (j := .string (Base64.encode (lib.sign key
      (JsonText.render body.toJson)))) (by simp [Json.find]; rfl)
  have hchecked : checked data = JsonText.render body.toJson := by
    rw [← hjson']
    rw [checked_eq_iff hsimple', hjson']
    exact printable_response hlast hfirst hmiddle hticket hprintable
  refine ⟨value, data, sig, hreceive, hdata, hsig, hchecked, ?_⟩
  exact verifySignature_sign hverifies hsimple'' (hchecked ▸ hjson'')

/-- The client checks what the ID service signed just when the names are
printable. -/
theorem Received.checked_iff (h : Received lib cfg t₁ v uid response) {data : Value}
    (hdata : PyClient.vvidData response = some data) :
    checked data = JsonText.render (idStatement Codec.reference (idRequestSent lib cfg t₁ v) uid) ↔
      v.Printable := by
  obtain ⟨data', hdata', hsimple, hjson⟩ := h.vvidData
  rw [hdata] at hdata'
  obtain rfl := Option.some.inj hdata'
  rw [← hjson, checked_eq_iff hsimple, hjson, printable_statement]

/-- The client's check of the ID service's signature settles it. -/
theorem printable_of_agree (hlib : lib.toCodec.Standard)
    (h : SignedBytesAgree lib cfg v t₁ t₂) : v.Printable := by
  obtain ⟨response, hreceive, hreceived⟩ := @exists_received lib cfg v t₁ 0
  obtain ⟨response', data, sig, hreceive', hdata, -, hchecked, -⟩ :=
    h.verifiedId _ _ ((endorses_iff hlib).mpr ⟨0, rfl, rfl⟩)
  rw [hreceive] at hreceive'
  obtain rfl := Option.some.inj hreceive'
  exact (hreceived.checked_iff hdata).mp hchecked

/-- **Signed bytes.** The Python client and the services sign and check the same
bytes just when no character of a name comes from DEL on. -/
theorem python_signature_verifies (hlib : lib.toCodec.Standard)
    (hverifies : ∀ key ∈ [cfg.privateKey, cfg.idPubkeyFile, cfg.checkinPubkeyFile],
      lib.Verifies key) :
    SignedBytesAgree lib cfg v t₁ t₂ ↔ v.Printable := by
  refine ⟨printable_of_agree hlib, ?_⟩
  have hclient : lib.Verifies cfg.privateKey := hverifies _ (by simp)
  have hid : lib.Verifies cfg.idPubkeyFile := hverifies _ (by simp)
  have hcheckinService : lib.Verifies cfg.checkinPubkeyFile := hverifies _ (by simp)
  intro hprintable
  have hcheckin : ∀ {uid : UInt32} {body : Value}, Simple body →
      body.toJson = (checkinSent lib cfg t₁ t₂ v uid).toJson Codec.reference →
      checkinSigned body =
        JsonText.render ((checkinSent lib cfg t₁ t₂ v uid).toJson Codec.reference) := by
    intro uid body hsimple hjson
    rw [← hjson]
    refine (dumps_escaped_eq_render_iff hsimple).mpr ?_
    rw [hjson]
    exact (printable_checkin uid).mpr hprintable
  constructor
  · exact ⟨_, readsIdRequest hlib, fun config s hkey =>
      checkRequest_idRequest hlib hclient config hkey⟩
  · intro text line hendorses
    obtain ⟨uid, rfl, rfl⟩ := (endorses_iff hlib).mp hendorses
    obtain ⟨response, hreceive, hreceived⟩ := @exists_received lib cfg v t₁ uid
    obtain ⟨data, hdata, -, -⟩ := hreceived.vvidData
    obtain ⟨sig, hsig, hsimple, hjson⟩ := hreceived.signature
    have hchecked := (hreceived.checked_iff hdata).mpr hprintable
    refine ⟨response, data, sig, hreceive, hdata, hsig, hchecked, ?_⟩
    exact verifySignature_sign hid hsimple (hchecked ▸ hjson)
  · intro text line hendorses
    obtain ⟨uid, rfl, rfl⟩ := (endorses_iff hlib).mp hendorses
    obtain ⟨response, hreceive, hreceived⟩ := @exists_received lib cfg v t₁ uid
    obtain ⟨body, hbody, hsimple, hjson⟩ := hreceived.checkinBody t₂
    exact ⟨response, body, _, hreceive, hbody, readsCheckin hlib hsimple hjson,
      fun config s now hkey =>
        verified_checkin hlib hclient (hcheckin hsimple hjson) config now hkey⟩
  · rintro response ⟨text, line, value, body, request, config, io, s, clientIp, accept, ticket, s',
      hconfig, hendorses, hvalue, hbody, hreads, hanswer⟩
    obtain ⟨uid, rfl, rfl⟩ := (endorses_iff hlib).mp hendorses
    obtain ⟨value', hreceive, hreceived⟩ := @exists_received lib cfg v t₁ uid
    rw [hreceive] at hvalue
    obtain rfl := Option.some.inj hvalue
    obtain ⟨body', hbody', hsimple, hjson⟩ := hreceived.checkinBody t₂
    rw [hbody] at hbody'
    obtain rfl := Option.some.inj hbody'
    obtain rfl := eq_of_readsCheckin hreads (readsCheckin hlib hsimple hjson)
    obtain ⟨-, -, hacts⟩ := CheckinService.answerCheckin_returned.mp hanswer
    simp only [List.cons.injEq, and_true, Action.checkinAnswer.injEq, true_and] at hacts
    obtain rfl := hacts
    rw [← hconfig] at hcheckinService ⊢
    exact @checked_response lib v hlib _ hcheckinService
      (CheckinService.checkinResponseBody io (checkinRequestSent lib cfg t₁ t₂ v uid body) accept
        (hex ticket)) rfl rfl rfl ticket rfl hprintable

section Rehearsal

open Rehearsal

/-- The kiosk, as a client in Python. -/
def pyKiosk : Cfg := ⟨kioskId, kioskKey, idServiceKey, checkinServiceKey⟩

/-- A voter called José. -/
theorem accent_spoils_signatures :
    ¬ ∀ (lib : Libraries) (cfg : Cfg) (v : Voter) (t₁ t₂ : UInt64),
      lib.toCodec.Standard →
      (∀ key ∈ [cfg.privateKey, cfg.idPubkeyFile, cfg.checkinPubkeyFile], lib.Verifies key) →
      SignedBytesAgree lib cfg v t₁ t₂ := by
  intro hall
  have hagree := hall env.toLibraries pyKiosk ⟨voter, "José", "Q", "Doe"⟩ 1000 2000
    Codec.reference_standard fun key _ => verifies key
  have haccent : printable "José" = false := by decide +kernel
  have hprintable := (printable_of_agree Codec.reference_standard hagree).1
  rw [haccent] at hprintable
  cases hprintable

/-- Jane Q. Doe. -/
theorem python_signature_verifies_rehearsal :
    SignedBytesAgree env.toLibraries pyKiosk ⟨voter, "Jane", "Q", "Doe"⟩ 1000 2000 :=
  (python_signature_verifies Codec.reference_standard fun key _ => verifies key).mpr
    ⟨by decide +kernel, by decide +kernel, by decide +kernel⟩

end Rehearsal

end PyClient

end Pollbook
