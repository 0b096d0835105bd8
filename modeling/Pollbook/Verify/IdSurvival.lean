import Pollbook.Rehearsal
import Pollbook.Verify.IdOutcomes

/-!
# The lines the ID service survives

Nothing catches what the ID service's payload handler throws, and it reads the
voter's UID from the first four bytes of the ID data without looking how many
there are. `payload_survives_iff` says which lines the handler answers or
ignores; every other line ends the process.
-/

namespace Pollbook

namespace VoterIDService

variable {env : Env} {io : Io} {s : VoterIDService} {clientIp : Endpoint}
  {request : VoterIDRequest}

/-! ## The client's key -/

/-- The key a client's requests are checked with, if there is one. -/
def keyOf (env : Env) (k : Keys) (clientId : UInt32) : Option EnvelopeKey :=
  match k.clientVerifiers clientId with
  | some key => some key
  | none =>
    match k.pemFiles (keyFile env.config clientId) with
    | some (.publicKey key) => some key
    | _ => none

/-- The key is in memory, or there is a file to read, and it can be opened. -/
def HasKeyFile (env : Env) (k : Keys) (clientId : UInt32) : Prop :=
  (k.clientVerifiers clientId).isSome = true ∨
    (k.pemFiles (keyFile env.config clientId)).any PemFile.opens = true

theorem ensureVerifier_cases (env : Env) (s : VoterIDService) (clientId : UInt32) :
    (¬ HasKeyFile env s.toKeys clientId ∧ ∃ trap, s.ensureVerifier env clientId = .error trap) ∨
    (HasKeyFile env s.toKeys clientId ∧ keyOf env s.toKeys clientId = none ∧
      s.ensureVerifier env clientId = .ok none) ∨
    ∃ k key, HasKeyFile env s.toKeys clientId ∧ keyOf env s.toKeys clientId = some key ∧
      s.ensureVerifier env clientId = .ok (some { s with toKeys := k }) ∧
      k.clientVerifiers clientId = some key := by
  unfold ensureVerifier keyOf HasKeyFile
  cases hkey : s.clientVerifiers clientId with
  | some key => exact .inr (.inr ⟨s.toKeys, key, .inl rfl, rfl, rfl, hkey⟩)
  | none =>
    rw [Option.isSome_none, if_neg Bool.false_ne_true]
    unfold loadClientPublicKey
    cases hfile : s.pemFiles (keyFile env.config clientId) with
    | none =>
      refine .inl ⟨?_, _, rfl⟩
      rintro (h | h) <;> cases h
    | some file =>
      cases file with
      | invalid => exact .inr (.inl ⟨.inr rfl, rfl, rfl⟩)
      | unopenable permissionDenied =>
        refine .inl ⟨?_, _, rfl⟩
        rintro (h | h) <;> cases h
      | publicKey key =>
        refine .inr (.inr ⟨_, key, .inr rfl, rfl, rfl, ?_⟩)
        change Map.emplace s.clientVerifiers clientId key clientId = some key
        rw [Map.emplace_of_none hkey, Map.set_self]

/-! ## Requests -/

/-- The signature of a request can be checked, and if it is good the answer can
be sent. -/
structure Answerable (env : Env) (io : Io) (s : VoterIDService) (clientIp : Endpoint)
    (request : VoterIDRequest) (key : EnvelopeKey) : Prop where
  utf8 : request.body.Utf8
  checkable : ∃ valid, env.verify key (env.render (request.body.toJson env.toCodec))
    request.clientSignature = .ok valid
  sendable : env.verify key (env.render (request.body.toJson env.toCodec))
    request.clientSignature = .ok true →
    (s.clientSslStreams clientIp).isSome = true ∧ io.writes = true

/-- The conditions under which the handler of a request returns. A fresh request
needs the four bytes of a UID; one that names the voter with this UID needs a
file for its client's key that can be opened, and what is in it makes the
difference after that. -/
def RequestSurvives (env : Env) (io : Io) (s : VoterIDService) (clientIp : Endpoint)
    (request : VoterIDRequest) : Prop :=
  stale env.config.requestFreshnessInterval io.systemNow request.body.timestamp = false →
    4 ≤ request.body.voterIdData.length ∧
    ∀ voterUniqueId, validateAndMatchIdData request.body.voterIdData = .ok voterUniqueId →
      voterUniqueId ≠ invalidVoterId →
      s.validateVoterName request.body.firstName request.body.middleName request.body.lastName
        voterUniqueId = true →
      HasKeyFile env s.toKeys request.body.clientIdNum ∧
        ∀ key, keyOf env s.toKeys request.body.clientIdNum = some key →
          Answerable env io s clientIp request key

theorem validateAndMatchIdData_cases (idData : Bytes) :
    (4 ≤ idData.length ∧ ∃ voterUniqueId, validateAndMatchIdData idData = .ok voterUniqueId) ∨
      (¬ 4 ≤ idData.length ∧ ∃ what, validateAndMatchIdData idData = .error (.undefined what)) := by
  match idData with
  | _ :: _ :: _ :: _ :: _ => exact .inl ⟨by simp, _, rfl⟩
  | [] | [_] | [_, _] | [_, _, _] => exact .inr ⟨by simp, _, rfl⟩

theorem endorse_returns (hc : env.toCodec.Lawful) (hutf8 : request.body.Utf8)
    (voterUniqueId : UInt32) :
    (s.endorse env io clientIp request voterUniqueId).Returns ↔
      (s.clientSslStreams clientIp).isSome = true ∧ io.writes = true := by
  have hstatement : env.dump (idStatement env.toCodec request voterUniqueId) = .ok _ :=
    Codec.dump_of_utf8 _ (plain_idStatement hc hutf8 voterUniqueId).utf8
  have hresponse : ∀ signature, env.dump ((⟨request, voterUniqueId, signature⟩ :
      VerifiedVoterID).toJson env.toCodec) = .ok _ := fun signature =>
    Codec.dump_of_utf8 _ (VerifiedVoterID.plain_toJson hc hutf8).utf8
  unfold endorse
  simp only [hstatement, hresponse, Call.ofCpp_ok, Call.perform_eq, Call.returned_bind,
    Call.after_nil, Call.returns_after]
  cases hstream : s.clientSslStreams clientIp with
  | none =>
    have hmap : mapAt s.clientSslStreams clientIp = .error (.outOfRange "map::at") := by
      rw [mapAt, hstream]
    rw [hmap, Call.ofCpp_error, Call.threw_bind]
    simp
  | some stream =>
    rw [mapAt_eq_ok.mpr hstream, Call.ofCpp_ok, Call.returned_bind, Call.after_nil]
    cases hwrites : io.writes with
    | false => simp
    | true => simp

theorem checkRequest_of_error {key : EnvelopeKey} {trap : Trap} (hc : env.toCodec.Lawful)
    (hutf8 : request.body.Utf8) (hkey : s.clientVerifiers request.body.clientIdNum = some key)
    (hverify : env.verify key (env.render (request.body.toJson env.toCodec))
      request.clientSignature = .error trap) :
    s.checkRequest env request = .threw trap [] := by
  have hbody : env.dump (request.body.toJson env.toCodec) = .ok _ :=
    Codec.dump_of_utf8 _ (VoterIDRequest.Body.plain_toJson hc hutf8).utf8
  unfold checkRequest
  simp only [hbody, mapAt_eq_ok.mpr hkey, hverify, Call.ofCpp_ok, Call.ofCpp_error,
    Call.returned_bind, Call.after_nil, Call.threw_bind]

theorem checkRequest_of_ok {key : EnvelopeKey} {valid : Bool} (hc : env.toCodec.Lawful)
    (hutf8 : request.body.Utf8) (hkey : s.clientVerifiers request.body.clientIdNum = some key)
    (hverify : env.verify key (env.render (request.body.toJson env.toCodec))
      request.clientSignature = .ok valid) :
    ∃ acts, s.checkRequest env request = .returned valid acts := by
  have hbody : env.dump (request.body.toJson env.toCodec) = .ok _ :=
    Codec.dump_of_utf8 _ (VoterIDRequest.Body.plain_toJson hc hutf8).utf8
  unfold checkRequest
  simp only [hbody, mapAt_eq_ok.mpr hkey, hverify, Call.ofCpp_ok, Call.returned_bind,
    Call.after_nil]
  cases valid with
  | false => exact ⟨[], rfl⟩
  | true => exact ⟨_, rfl⟩

/-- A request whose body cannot be written again is not survived. -/
theorem utf8_of_checkRequest (h : (s.checkRequest env request).Returns) : request.body.Utf8 := by
  unfold checkRequest at h
  obtain ⟨text, acts, hdump, -⟩ := Call.returns_bind.mp h
  rw [Call.ofCpp_eq_returned] at hdump
  exact VoterIDRequest.Body.utf8_of_toJson (Codec.dump_eq_ok hdump.1).1

/-- The end of the handler, with a key to check the request. -/
theorem check_endorse_returns (hc : env.toCodec.Lawful) {key : EnvelopeKey}
    (hkey : s.clientVerifiers request.body.clientIdNum = some key) (voterUniqueId : UInt32) :
    (do
      if !(← s.checkRequest env request) then return s
      else s.endorse env io clientIp request voterUniqueId).Returns ↔
      Answerable env io s clientIp request key := by
  rw [Call.returns_bind]
  by_cases hutf8 : request.body.Utf8
  swap
  · refine iff_of_false ?_ fun h => hutf8 h.utf8
    rintro ⟨valid, acts, hcheck, -⟩
    exact hutf8 (utf8_of_checkRequest ⟨valid, acts, hcheck⟩)
  cases hverify : env.verify key (env.render (request.body.toJson env.toCodec))
      request.clientSignature with
  | error trap =>
    rw [checkRequest_of_error hc hutf8 hkey hverify]
    refine iff_of_false ?_ fun h => ?_
    · rintro ⟨valid, acts, hcheck, -⟩
      cases hcheck
    · obtain ⟨valid, hvalid⟩ := h.checkable
      rw [hverify] at hvalid
      cases hvalid
  | ok valid =>
    obtain ⟨acts, hcheck⟩ := checkRequest_of_ok hc hutf8 hkey hverify
    have hanswerable : Answerable env io s clientIp request key ↔
        (valid = true → (s.clientSslStreams clientIp).isSome = true ∧ io.writes = true) := by
      constructor
      · rintro h rfl
        exact h.sendable hverify
      · intro h
        refine ⟨hutf8, ⟨valid, hverify⟩, fun htrue => h ?_⟩
        rw [hverify, Except.ok.injEq] at htrue
        exact htrue
    rw [hcheck, hanswerable]
    cases valid with
    | false =>
      refine iff_of_true ⟨false, acts, rfl, Call.returns_pure _⟩ ?_
      rintro ⟨⟩
    | true =>
      rw [← endorse_returns hc hutf8 voterUniqueId]
      constructor
      · rintro ⟨valid, acts', heq, hreturns⟩ -
        rw [Call.returned.injEq] at heq
        obtain ⟨rfl, rfl⟩ := heq
        exact hreturns
      · intro h
        exact ⟨true, acts, rfl, h rfl⟩

theorem handleValidationRequest_returns (hc : env.toCodec.Lawful) :
    (s.handleValidationRequest env io clientIp request).Returns ↔
      RequestSurvives env io s clientIp request := by
  unfold handleValidationRequest RequestSurvives
  by_cases hstale : stale env.config.requestFreshnessInterval io.systemNow
      request.body.timestamp = true
  · rw [if_pos hstale]
    refine iff_of_true (Call.returns_pure _) fun hfresh => ?_
    rw [hstale] at hfresh
    cases hfresh
  have hfresh : stale env.config.requestFreshnessInterval io.systemNow request.body.timestamp =
      false := Bool.not_eq_true _ ▸ hstale
  rw [if_neg hstale, imp_iff_right hfresh]
  rcases validateAndMatchIdData_cases request.body.voterIdData with
    ⟨hlength, voterUniqueId, hmatch⟩ | ⟨hlength, what, hmatch⟩
  swap
  · rw [hmatch, Call.ofCpp_error, Call.threw_bind]
    exact iff_of_false (Call.not_returns_threw _ _) fun h => hlength h.1
  have hthis : ∀ P : UInt32 → Prop, (∀ uid, validateAndMatchIdData request.body.voterIdData =
      .ok uid → P uid) ↔ P voterUniqueId := by
    intro P
    constructor
    · exact fun h => h _ hmatch
    · intro h uid huid
      rw [hmatch, Except.ok.injEq] at huid
      exact huid ▸ h
  rw [hthis, hmatch, Call.ofCpp_ok, Call.returned_bind, Call.after_nil, and_iff_right hlength]
  by_cases hvalid : voterUniqueId = invalidVoterId
  · rw [if_pos hvalid]
    exact iff_of_true (Call.returns_pure _) fun h => absurd hvalid h
  rw [if_neg hvalid, imp_iff_right hvalid]
  by_cases hname : s.validateVoterName request.body.firstName request.body.middleName
      request.body.lastName voterUniqueId = true
  swap
  · rw [Bool.not_eq_true] at hname
    rw [hname]
    exact iff_of_true (Call.returns_pure _) nofun
  rw [hname, Bool.not_true, if_neg Bool.false_ne_true, imp_iff_right rfl]
  rcases ensureVerifier_cases env s request.body.clientIdNum with
    ⟨hfile, trap, hensure⟩ | ⟨hfile, hkey, hensure⟩ | ⟨k, key, hfile, hkey, hensure, hverifier⟩
  · rw [hensure, Call.ofCpp_error, Call.threw_bind]
    exact iff_of_false (Call.not_returns_threw _ _) fun h => hfile h.1
  · rw [hensure, Call.ofCpp_ok, Call.returned_bind, Call.after_nil, hkey]
    refine iff_of_true (Call.returns_pure _) ⟨hfile, ?_⟩
    rintro key ⟨⟩
  · rw [hensure, Call.ofCpp_ok, Call.returned_bind, Call.after_nil, hkey, and_iff_right hfile]
    refine (check_endorse_returns hc hverifier voterUniqueId).trans ⟨?_, ?_⟩
    · rintro h key' ⟨⟩
      exact ⟨h.utf8, h.checkable, h.sendable⟩
    · intro h
      have hkey := h key rfl
      exact ⟨hkey.utf8, hkey.checkable, hkey.sendable⟩

/-! ## Lines -/

/-- What an action sends. -/
def Action.sent : Action → Option (Endpoint × Bytes)
  | .wrote clientIp buffer => some (clientIp, buffer)
  | _ => none

/-- The handler returns, and it has sent the peer one `VerifiedVoterID` or
nothing. -/
def Survives (env : Env) (clientIp : Endpoint) (call : Call Action VoterIDService) : Prop :=
  ∃ s' acts, call = .returned s' acts ∧ (acts.filterMap Action.sent = [] ∨
    ∃ id : VerifiedVoterID,
      acts.filterMap Action.sent = [(clientIp, env.render (id.toJson env.toCodec) ++ [newline])])

/-- The line is survived: it has not the announced size, or it is a request that
is survived. -/
def LineSurvives (env : Env) (io : Io) (s : VoterIDService) (clientIp : Endpoint)
    (sizeOfMessage : UInt64) (line : Bytes) : Prop :=
  sizeOfMessage.toNat = line.length - 1 →
    ∃ json request, env.parse line = .ok json ∧
      VoterIDRequest.fromJson env.toCodec json = .ok request ∧
      RequestSurvives env io s clientIp request

theorem ValidationOutcome.sent {s' : VoterIDService} {acts : List Action}
    (h : ValidationOutcome env io s clientIp request s' acts) :
    acts.filterMap Action.sent = [] ∨ ∃ id : VerifiedVoterID,
      acts.filterMap Action.sent =
        [(clientIp, env.render (id.toJson env.toCodec) ++ [newline])] := by
  cases h with
  | ignored _ _ => exact .inl rfl
  | endorsed hendorsable hloaded hwrites => exact .inr ⟨_, rfl⟩

/-- The handler of a line returns exactly on the lines it survives. -/
theorem payloadRead_returns (hc : env.toCodec.Lawful) {sizeOfMessage : UInt64} {line : Bytes} :
    (s.payloadRead env io clientIp sizeOfMessage line).Returns ↔
      LineSurvives env io s clientIp sizeOfMessage line := by
  unfold payloadRead LineSurvives
  by_cases hsize : sizeOfMessage.toNat = line.length - 1
  swap
  · rw [if_neg hsize]
    exact iff_of_true (Call.returns_pure _) fun h => absurd h hsize
  rw [if_pos hsize, imp_iff_right hsize]
  constructor
  · rintro ⟨s', acts, hcall⟩
    simp only [Call.bind_eq_returned, Call.ofCpp_eq_returned] at hcall
    obtain ⟨json, _, _, ⟨hparse, rfl⟩, ⟨request, _, _, ⟨hrequest, rfl⟩, hhandle, rfl⟩, rfl⟩ := hcall
    exact ⟨json, request, hparse, hrequest,
      (handleValidationRequest_returns hc).mp ⟨s', _, hhandle⟩⟩
  · rintro ⟨json, request, hparse, hrequest, hsurvives⟩
    rw [hparse, Call.ofCpp_ok, Call.returned_bind, Call.after_nil, hrequest, Call.ofCpp_ok,
      Call.returned_bind, Call.after_nil]
    exact (handleValidationRequest_returns hc).mpr hsurvives

/-- A handler that returns has sent one `VerifiedVoterID` or nothing. -/
theorem payloadRead_sent {s' : VoterIDService} {acts : List Action} {sizeOfMessage : UInt64}
    {line : Bytes} (h : s.payloadRead env io clientIp sizeOfMessage line = .returned s' acts) :
    acts.filterMap Action.sent = [] ∨ ∃ id : VerifiedVoterID,
      acts.filterMap Action.sent =
        [(clientIp, env.render (id.toJson env.toCodec) ++ [newline])] := by
  unfold payloadRead at h
  split at h
  · simp only [Call.bind_eq_returned, Call.ofCpp_eq_returned] at h
    obtain ⟨json, _, _, ⟨-, rfl⟩, ⟨request, _, _, ⟨-, rfl⟩, hhandle, rfl⟩, rfl⟩ := h
    exact (handleValidationRequest_returned hhandle).sent
  · obtain ⟨-, rfl⟩ := Call.pure_eq_returned.mp h
    exact .inl rfl

/-- **Survival of the ID service.** -/
theorem payload_survives_iff (hc : env.toCodec.Lawful) (io : Io) (s : VoterIDService)
    (clientIp : Endpoint) (sizeOfMessage : UInt64) (line : Bytes) :
    Survives env clientIp (s.payloadRead env io clientIp sizeOfMessage line) ↔
      LineSurvives env io s clientIp sizeOfMessage line := by
  rw [← payloadRead_returns hc]
  constructor
  · rintro ⟨s', acts, hcall, -⟩
    exact ⟨s', acts, hcall⟩
  · rintro ⟨s', acts, hcall⟩
    exact ⟨s', acts, hcall, payloadRead_sent hcall⟩

/-- A request with three bytes of ID data ends the process. -/
theorem short_id_data_kills :
    ¬ ∀ (env : Env) (io : Io) (s : VoterIDService) (clientIp : Endpoint) (sizeOfMessage : UInt64)
      (line : Bytes), Survives env clientIp (s.payloadRead env io clientIp sizeOfMessage line) := by
  intro hall
  let line := Rehearsal.idEnv.render ((Rehearsal.idRequest 1000010 [1, 2, 3]).toJson
    Rehearsal.idEnv.toCodec) ++ [newline]
  have htrapped : (Rehearsal.idOpening.toVoterIDService.payloadRead Rehearsal.idEnv
      (Rehearsal.idInstant 10) Rehearsal.kioskIp (UInt64.ofNat (line.length - 1))
      line).trapped = true := by decide +kernel
  obtain ⟨s', acts, hreturned, -⟩ := hall Rehearsal.idEnv (Rehearsal.idInstant 10)
    Rehearsal.idOpening.toVoterIDService Rehearsal.kioskIp (UInt64.ofNat (line.length - 1)) line
  rw [hreturned] at htrapped
  cases htrapped

/-- The service with the kiosk connected and its key in memory. -/
def kioskConnected : VoterIDService :=
  { Rehearsal.idOpening.toVoterIDService with
    clientVerifiers := Map.empty.set Rehearsal.kioskId Rehearsal.kioskKey
    clientSslStreams := Map.empty.set Rehearsal.kioskIp 0 }

/-- The kiosk's request for the voter is survived, and it is endorsed. -/
theorem payload_survives_iff_rehearsal :
    let line := Rehearsal.idEnv.render ((Rehearsal.idRequest (Rehearsal.idInstant 10).systemNow
      Rehearsal.idData).toJson Rehearsal.idEnv.toCodec) ++ [newline]
    let call := kioskConnected.payloadRead Rehearsal.idEnv (Rehearsal.idInstant 10)
      Rehearsal.kioskIp (UInt64.ofNat (line.length - 1)) line
    (call.actions.filterMap Action.sent).length = 1 ∧
      Survives Rehearsal.idEnv Rehearsal.kioskIp call := by
  intro line call
  have hutf8 : (Rehearsal.idRequest (Rehearsal.idInstant 10).systemNow
      Rehearsal.idData).body.Utf8 :=
    ⟨by decide +kernel, by decide +kernel, by decide +kernel⟩
  have hplain : ((Rehearsal.idRequest (Rehearsal.idInstant 10).systemNow
      Rehearsal.idData).toJson Rehearsal.idEnv.toCodec).Plain :=
    VoterIDRequest.plain_toJson Codec.reference_lawful hutf8
  refine ⟨by decide +kernel, (payload_survives_iff Codec.reference_lawful _ _ _ _ _).mpr fun _ =>
    ⟨_, _, Codec.reference_lawful.parse_render hplain [newline] (by simp [Json.isWhite, newline]),
      VoterIDRequest.fromJson_toJson Codec.reference_lawful _, fun _ => ⟨by decide, ?_⟩⟩⟩
  exact fun _ _ _ _ => ⟨.inl rfl, fun _ _ => ⟨hutf8, ⟨_, rfl⟩, fun _ => ⟨rfl, rfl⟩⟩⟩

end VoterIDService

end Pollbook
