import Pollbook.Common
import Pollbook.Lib.Call

/-!
# The request handler of the ID service

`handle_validation_request` of `voter_id_service.cpp`, with the functions it
calls and the end of `start_payload_read`, which calls it. A rejected request
gets no answer; the log lines that say so are left out.
-/

namespace Pollbook

/-- The members of `VoterIDService` the handler looks at. -/
structure VoterIDService extends Keys where
  /-- The fields of the roll's rows, by UID. -/
  voterData : Map UInt32 (List Bytes)
  clientSslStreams : Map Endpoint Nat

namespace VoterIDService

/-- The configuration file's values. -/
structure Config where
  /-- in milliseconds -/
  requestFreshnessInterval : UInt32
  /-- The key pair of the service, by its public half. -/
  localPrivateKey : EnvelopeKey
  clientKeysFolder : Bytes
  clientKeyFilePrefix : Bytes

structure Env extends Libraries where
  config : Config

/-- What a handler gets from its surroundings. -/
structure Io where
  /-- `system_clock::now()` in milliseconds -/
  systemNow : UInt64
  /-- `asio::write` succeeds. -/
  writes : Bool

/-- What a handler does that others can see. -/
inductive Action where
  | verified (key : EnvelopeKey) (message signature : Bytes)
  | signed (message : Bytes)
  | wrote (clientIp : Endpoint) (buffer : Bytes)
  deriving DecidableEq

/-! ## The voter -/

/-- `INVALID_VOTER_ID` -/
def invalidVoterId : UInt32 := 0xFFFFFFFF

/-- `validate_and_match_id_data`: `memcpy` of the first four bytes, which a
shorter vector does not have. -/
def validateAndMatchIdData : Bytes → Cpp UInt32
  | b₀ :: b₁ :: b₂ :: b₃ :: _ =>
    .ok (b₀.toUInt32 ||| b₁.toUInt32 <<< 8 ||| b₂.toUInt32 <<< 16 ||| b₃.toUInt32 <<< 24)
  | _ => .error (.undefined "memcpy past the end of the data")

/-- `std::tolower` in the C locale. -/
def tolower (b : UInt8) : UInt8 := if 65 ≤ b ∧ b ≤ 90 then b + 32 else b

/-- `case_insensitive_equal` -/
def caseInsensitiveEqual (a b : Bytes) : Bool :=
  a.length == b.length && (a.zip b).all fun (x, y) => tolower x == tolower y

/-- `validate_voter_name` -/
def validateVoterName (s : VoterIDService) (firstName middleName lastName : Bytes)
    (voterUniqueId : UInt32) : Bool :=
  match s.voterData voterUniqueId with
  | some data =>
    decide (8 ≤ data.length) && (caseInsensitiveEqual firstName (data.getD 2 []) &&
      caseInsensitiveEqual middleName (data.getD 3 []) &&
      caseInsensitiveEqual lastName (data.getD 1 []))
  | none => false

/-! ## The client's key -/

/-- The name `load_client_public_key` builds. -/
def keyFile (config : Config) (clientId : UInt32) : Bytes :=
  normalize (config.clientKeysFolder ++ (config.clientKeyFilePrefix ++
    (decimal clientId.toNat ++ bytes ".pem")))

/-- `load_client_public_key`. It catches the `openssl_error` of a file that is
no key. The `file_not_found` of a file that is not there is not caught, nor are
the `permission_denied` and `file_error` of one that cannot be opened. -/
def loadClientPublicKey (env : Env) (s : VoterIDService) (clientId : UInt32) :
    Cpp (Option VoterIDService) :=
  match s.pemFiles (keyFile env.config clientId) with
  | some (.publicKey key) =>
    .ok (some { s with clientVerifiers := s.clientVerifiers.emplace clientId key })
  | some .invalid => .ok none
  | some (.unopenable permissionDenied) => .error (PemFile.openError permissionDenied)
  | none => .error (.runtimeError "File not found")

/-- Ensure the public key for this client is in memory. -/
def ensureVerifier (env : Env) (s : VoterIDService) (clientId : UInt32) :
    Cpp (Option VoterIDService) :=
  if (s.clientVerifiers clientId).isSome then .ok (some s) else s.loadClientPublicKey env clientId

/-- Validate the client's signature. -/
def checkRequest (env : Env) (s : VoterIDService) (request : VoterIDRequest) :
    Call Action Bool := do
  let requestBodyString ← Call.ofCpp (env.dump (request.body.toJson env.toCodec))
  let verifier ← Call.ofCpp (mapAt s.clientVerifiers request.body.clientIdNum)
  let valid ← Call.ofCpp (env.verify verifier requestBodyString request.clientSignature)
  if valid then
    Call.perform (.verified verifier requestBodyString request.clientSignature)
    return true
  else return false

/-! ## The answer -/

/-- Sign the validation request and the unique voter ID, and send it back. -/
def endorse (env : Env) (io : Io) (s : VoterIDService) (clientIp : Endpoint)
    (request : VoterIDRequest) (voterUniqueId : UInt32) : Call Action VoterIDService := do
  let requestBodyStr ← Call.ofCpp (env.dump (idStatement env.toCodec request voterUniqueId))
  Call.perform (.signed requestBodyStr)
  let response : VerifiedVoterID :=
    ⟨request, voterUniqueId, env.sign env.config.localPrivateKey requestBodyStr⟩
  let responseMsgStr ← Call.ofCpp (env.dump (response.toJson env.toCodec))
  let _ ← Call.ofCpp (mapAt s.clientSslStreams clientIp)
  if io.writes then
    Call.perform (.wrote clientIp (responseMsgStr ++ [newline]))
    return s
  else Call.threw (.systemError "write") []

/-- `VoterIDService::handle_validation_request` -/
def handleValidationRequest (env : Env) (io : Io) (s : VoterIDService) (clientIp : Endpoint)
    (request : VoterIDRequest) : Call Action VoterIDService := do
  if stale env.config.requestFreshnessInterval io.systemNow request.body.timestamp then
    return s
  else
    let voterUniqueId ← Call.ofCpp (validateAndMatchIdData request.body.voterIdData)
    if voterUniqueId = invalidVoterId then return s
    else if !s.validateVoterName request.body.firstName request.body.middleName
        request.body.lastName voterUniqueId then
      return s
    else
      match ← Call.ofCpp (s.ensureVerifier env request.body.clientIdNum) with
      | none => return s
      | some s =>
        if !(← s.checkRequest env request) then return s
        else s.endorse env io clientIp request voterUniqueId

/-- The handler `start_payload_read` installs, on the line it read. -/
def payloadRead (env : Env) (io : Io) (s : VoterIDService) (clientIp : Endpoint)
    (sizeOfMessage : UInt64) (line : Bytes) : Call Action VoterIDService :=
  if sizeOfMessage.toNat = line.length - 1 then do
    let json ← Call.ofCpp (env.parse line)
    let request ← Call.ofCpp (VoterIDRequest.fromJson env.toCodec json)
    s.handleValidationRequest env io clientIp request
  else return { s with clientSslStreams := s.clientSslStreams.erase clientIp }

end VoterIDService

end Pollbook
