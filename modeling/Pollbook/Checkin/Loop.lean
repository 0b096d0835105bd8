import Pollbook.Checkin.Handlers

/-!
# The event loop of the check-in service

One thread runs the completion handlers of the `io_context` one after the
other. An `Event` is one of them, or something outside that the next handler
will find: bytes that arrived, a timer that expired, a signature somebody
made. `step` is what the handler does; it is `none` when that event cannot
happen in the state. `next` is `step` without the handlers an exception
escapes from: nothing catches it in `run`, so the process is gone.
-/

namespace Pollbook

/-- A client certificate: its common name, if it has one, and its public key,
if that can be extracted. -/
structure Certificate where
  commonName : Option Bytes
  publicKey : Option EnvelopeKey
  deriving DecidableEq

/-- The error codes the read handlers tell apart. -/
inductive ReadError where
  | eof
  | connectionAborted
  | other
  deriving DecidableEq, Repr

/-- What can happen next. -/
inductive Occurrence where
  /-- `async_accept` completes with a peer. -/
  | accepted (clientIp : Endpoint)
  /-- `async_accept` completes with an error. -/
  | acceptFailed
  /-- `async_accept` completes with a peer that is gone again, so that
  `remote_endpoint` throws. -/
  | acceptedGone
  /-- `async_handshake` completes; a client need not send a certificate. -/
  | handshakeDone (clientIp : Endpoint) (certificate : Option Certificate)
  /-- `async_handshake` completes with an error. -/
  | handshakeFailed (clientIp : Endpoint) (message : String)
  /-- Bytes come in on the current stream of the peer, while a read that has
  seen no newline is outstanding. -/
  | received (clientIp : Endpoint) (bytes : Bytes)
  /-- `async_read_until` completes: the buffer has a newline. -/
  | lineRead (clientIp : Endpoint)
  /-- `async_read_until` completes with an error. -/
  | readFailed (clientIp : Endpoint) (error : ReadError)
  /-- A timer expires: its handler is queued. -/
  | timerExpired (id : Nat)
  /-- The queued handler of an expired timer runs. -/
  | timedOut (id : Nat)
  /-- The handler of a cancelled timer runs, with `operation_aborted`. -/
  | waitAborted (id : Nat)
  /-- The owner of a key signs a message; the service has no part in it. -/
  | signed (key : EnvelopeKey) (message : Bytes)
  deriving DecidableEq

/-- An occurrence, with what its handler gets from its surroundings. -/
structure Event where
  io : Io
  occurrence : Occurrence

namespace CheckinService

/-! ## Handshakes -/

/-- `' '` -/
def space : UInt8 := 32

/-- The string `get_client_id_from_cert` ends up with: the second word of the
common name, or the whole name when it has no space, since the second
`getline` then leaves the string of the first. -/
def secondWord (name : Bytes) : Bytes :=
  if space ∈ name then
    let rest := (name.dropWhile (· ≠ space)).tail
    rest.takeWhile (· ≠ space)
  else name

/-- `CheckinService::get_client_id_from_cert`. The name is read into a buffer
of 256 characters, which stays uninitialised when the certificate has none. -/
def getClientIdFromCert (cert : Certificate) : Cpp UInt32 :=
  match cert.commonName with
  | none => .error (.undefined "uninitialised buffer")
  | some name => do
    let cn := (name.take 255).takeWhile (· ≠ 0)
    let id ← stoul (secondWord cn)
    pure id.toUInt32

/-- The name `save_pub_key` builds. -/
def keyFileToSave (config : Config) (clientId : UInt32) : Bytes :=
  normalize (config.clientKeysFolder ++ (config.clientKeyFilePrefix ++
    (decimal clientId.toNat ++ bytes ".pem")))

/-- `CheckinService::save_pub_key`; a failure is only logged. -/
def savePubKey (env : Env) (io : Io) (s : CheckinService) (key : EnvelopeKey)
    (clientId : UInt32) : CheckinService :=
  if io.savesKey then
    { s with pemFiles := s.pemFiles.set (keyFileToSave env.config clientId) (.publicKey key) }
  else s

/-- The key of a certificate: kept when it is the first of its client, compared
with the one kept otherwise. -/
def admitKey (env : Env) (io : Io) (s : CheckinService) (clientId : UInt32) (key : EnvelopeKey) :
    Call Action CheckinService :=
  match s.clientPublicKeys clientId with
  | some old =>
    if old = key then
      return { s with clientVerifiers := s.clientVerifiers.emplace clientId key }
    else s.rejectWith clientId "Public key mismatch for client ID"
  | none =>
    let s := { s with clientPublicKeys := s.clientPublicKeys.set clientId key }
    let s := s.savePubKey env io key clientId
    return { s with clientVerifiers := s.clientVerifiers.emplace clientId key }

/-- `CheckinService::add_client` -/
def addClient (s : CheckinService) (clientId : UInt32) (type : ClientType) : CheckinService :=
  { s with clients := s.clients.set clientId ⟨clientId, type⟩ }

/-- A client seen for the first time gets its type. -/
def classify (env : Env) (s : CheckinService) (clientId : UInt32) : CheckinService :=
  if (s.clients clientId).isSome then s
  else if clientId ∈ env.config.trustedClients then s.addClient clientId .trustedClient
  else s.addClient clientId .untrustedClient

/-- The certificate branch of the handshake handler. -/
def admitCertificate (env : Env) (io : Io) (s : CheckinService) (clientIp : Endpoint)
    (cert : Certificate) : Call Action CheckinService := do
  let clientId ← Call.ofCpp (getClientIdFromCert cert)
  let s := { s with clientIdMap := s.clientIdMap.set clientIp clientId }
  match cert.publicKey with
  | none => return s
  | some key => return (← s.admitKey env io clientId key).classify env clientId

/-- `CheckinService::do_accept` -/
def doAccept (s : CheckinService) : CheckinService := { s with accepts := s.accepts + 1 }

/-- The new stream replaces the one the peer had, and with it that one's
outstanding read. -/
def openStream (s : CheckinService) (clientIp : Endpoint) : CheckinService :=
  { s with
    clientSslStreams := s.clientSslStreams.set clientIp s.streams
    streams := s.streams + 1 }

/-- The handler of a handshake that succeeded. -/
def handshakeDone (env : Env) (io : Io) (s : CheckinService) (clientIp : Endpoint)
    (certificate : Option Certificate) : Call Action CheckinService := do
  let s ←
    match certificate with
    | some cert => s.admitCertificate env io clientIp cert
    | none => pure s
  return ((s.openStream clientIp).startSizeRead clientIp).doAccept

/-! ## Messages -/

/-- The unread bytes of a peer. -/
def unread (s : CheckinService) (clientIp : Endpoint) : Bytes :=
  (s.clientBuffers clientIp).getD []

/-- `consume(n)` on the buffer of a peer. -/
def consume (s : CheckinService) (clientIp : Endpoint) (n : Nat) : CheckinService :=
  { s with clientBuffers := s.clientBuffers.set clientIp ((s.unread clientIp).drop n) }

/-- `start_payload_read` -/
def startPayloadRead (s : CheckinService) (clientIp : Endpoint) (sizeOfMessage : UInt64) :
    CheckinService :=
  { s with
    clientBuffers := s.clientBuffers.emplace clientIp []
    reads := s.reads.set clientIp (.payload sizeOfMessage) }

/-- The handler `start_size_read` installs, on the bytes it read. -/
def sizeRead (s : CheckinService) (clientIp : Endpoint) (line : Bytes) :
    Call Action CheckinService := do
  let messageSize ← Call.ofCpp (stoul line)
  return (s.consume clientIp line.length).startPayloadRead clientIp messageSize

/-- The untrusted branch of the dispatch: text that does not parse is taken
for `null`. -/
def handleUntrustedClient (env : Env) (io : Io) (s : CheckinService) (msgString : Bytes)
    (clientIp : Endpoint) : Call Action CheckinService := do
  let json ← Call.ofCpp (
    match env.parse msgString with
    | .error (.jsonParseError _) => .ok .null
    | result => result)
  let request ← Call.ofCpp (CheckinRequest.fromJson env.toCodec json)
  s.handleCheckinRequest env io clientIp request

/-- A complete message goes to the handler for the type of its client. -/
def dispatch (env : Env) (io : Io) (s : CheckinService) (msgString : Bytes)
    (clientIp : Endpoint) : Call Action CheckinService :=
  match s.clientIdMap clientIp with
  | none => s.rejectWith s.clientId "Unknown client IP"
  | some clientId =>
    let s := { s with clientId := clientId }
    match s.clients clientId with
    | none => s.rejectWith clientId "Unknown client ID"
    | some client => do
      Call.perform (.dispatched clientIp clientId client.type msgString)
      match client.type with
      | .trustedClient => s.handleTrustedClient env io msgString clientIp
      | .untrustedClient => s.handleUntrustedClient env io msgString clientIp

/-- The handler `start_payload_read` installs, on the bytes it read. -/
def payloadRead (env : Env) (io : Io) (s : CheckinService) (clientIp : Endpoint)
    (sizeOfMessage : UInt64) (line : Bytes) : Call Action CheckinService :=
  if sizeOfMessage.toNat = line.length - 1 then
    (s.consume clientIp line.length).dispatch env io line clientIp
  else
    s.rejectWith s.clientId
      "Size of the message does not match the size that is received from the server for the client "

/-- The same two handlers, when the read failed. -/
def readFailed (s : CheckinService) (read : PendingRead) (error : ReadError) :
    Call Action CheckinService :=
  match read, error with
  | .payload _, .other =>
    s.rejectWith s.clientId
      "Size of the message does not match the size that is received from the server for the client "
  | _, _ => return s

/-- The bytes `async_read_until` completes with: through the first newline. -/
def firstLine (unread : Bytes) : Bytes := unread.takeWhile (· ≠ newline) ++ [newline]

/-- A read completed: it is no longer outstanding. -/
def finishRead (s : CheckinService) (clientIp : Endpoint) : CheckinService :=
  { s with reads := s.reads.erase clientIp }

/-! ## Steps -/

/-- What happens to the sessions when a timer expires. -/
def expire (s : CheckinService) (id : Nat) (wait : Wait) : CheckinService :=
  { s with waits := s.waits.set id { wait with status := .queued } }

/-- The wait is over: its handler runs. -/
def finishWait (s : CheckinService) (id : Nat) : CheckinService :=
  { s with waits := s.waits.erase id }

/-- What the handler of an event does; `none` when the event cannot happen. -/
def handle (env : Env) (io : Io) (s : CheckinService) :
    Occurrence → Option (Call Action CheckinService)
  | .accepted clientIp =>
    if s.accepts = 0 then none
    else some (return { s with
      accepts := s.accepts - 1
      handshakes := clientIp :: s.handshakes })
  | .acceptFailed =>
    if s.accepts = 0 then none else some (return { s with accepts := s.accepts - 1 })
  | .acceptedGone =>
    if s.accepts = 0 then none else some (Call.threw (.systemError "remote_endpoint") [])
  | .handshakeDone clientIp certificate =>
    if clientIp ∈ s.handshakes then
      let s := { s with handshakes := s.handshakes.erase clientIp }
      some (s.handshakeDone env io clientIp certificate)
    else none
  | .handshakeFailed clientIp message =>
    if clientIp ∈ s.handshakes then
      let s := { s with handshakes := s.handshakes.erase clientIp }
      some (s.doAccept.rejectWith s.clientId message)
    else none
  | .received clientIp bytes =>
    match s.reads clientIp with
    | some _ =>
      if newline ∈ s.unread clientIp then none
      else some (return { s with
        clientBuffers := s.clientBuffers.set clientIp (s.unread clientIp ++ bytes) })
    | none => none
  | .lineRead clientIp =>
    match s.reads clientIp with
    | some read =>
      if newline ∈ s.unread clientIp then
        let line := firstLine (s.unread clientIp)
        let s := s.finishRead clientIp
        match read with
        | .size => some (s.sizeRead clientIp line)
        | .payload sizeOfMessage => some (s.payloadRead env io clientIp sizeOfMessage line)
      else none
    | none => none
  | .readFailed clientIp error =>
    match s.reads clientIp with
    | some read => some ((s.finishRead clientIp).readFailed read error)
    | none => none
  | .timerExpired id =>
    match s.waits id with
    | some wait =>
      if wait.status = .waiting ∧ wait.expiry ≤ io.steadyNow then some (return s.expire id wait)
      else none
    | none => none
  | .timedOut id =>
    match s.waits id with
    | some wait =>
      if wait.status = .queued then
        let s := s.finishWait id
        some (return { s with toSessions := s.toSessions.handleVerificationTimeout wait.voterId })
      else none
    | none => none
  | .waitAborted id =>
    match s.waits id with
    | some wait => if wait.status = .cancelled then some (return s.finishWait id) else none
    | none => none
  | .signed _ _ => some (return s)

/-- One step. The steady clock does not run backwards. -/
def step (env : Env) (s : CheckinService) (e : Event) : Option (Call Action CheckinService) :=
  if s.steadyNow ≤ e.io.steadyNow then
    handle env e.io { s with steadyNow := e.io.steadyNow } e.occurrence
  else none

/-- Enter the faults a handler reported into the fault tracker. -/
def charge (s : CheckinService) (actions : List Action) : CheckinService :=
  let faultTracker := actions.foldl (fun m action =>
    match action with
    | .reportFault clientId faultDesc => m.reportFault clientId faultDesc
    | _ => m) s.faultTracker
  { s with faultTracker }

/-- The step of a process that is still there afterwards. -/
def next (env : Env) (s : CheckinService) (e : Event) : Option (CheckinService × List Action) :=
  match step env s e with
  | some (.returned s' actions) => some (s'.charge actions, actions)
  | _ => none

/-- The actions of the step at which the process ends. -/
def crash (env : Env) (s : CheckinService) (e : Event) : Option (List Action) :=
  match step env s e with
  | some (.threw _ actions) => some actions
  | _ => none

/-! ## Startup -/

/-- What a new process finds: the member the constructor leaves alone, the keys
`load_client_public_keys` loaded, the files, and the clock. -/
structure Surroundings where
  clientId : UInt32
  clientVerifiers : Map UInt32 EnvelopeKey
  clientPublicKeys : Map UInt32 EnvelopeKey
  pemFiles : Map Bytes PemFile
  ticketValidationCsv : Option Bytes
  steadyNow : Int

/-- The constructor, given the statuses `load_voter_list` returned. -/
def construct (found : Surroundings) (voterStatusTable : Map UInt32 VoterStatus) :
    CheckinService where
  voterStatusTable
  requestTimers := Map.empty
  waits := Map.empty
  timers := 0
  clientTicketsMap := Map.empty
  ticketValidationCsv := found.ticketValidationCsv
  clientVerifiers := found.clientVerifiers
  clientPublicKeys := found.clientPublicKeys
  pemFiles := found.pemFiles
  clients := Map.empty
  clientSslStreams := Map.empty
  clientBuffers := Map.empty
  clientIdMap := Map.empty
  streams := 0
  accepts := 0
  handshakes := []
  reads := Map.empty
  clientId := found.clientId
  steadyNow := found.steadyNow
  faultTracker := Map.empty

/-- The constructor, and `run` up to the event loop. -/
def start (env : Env) (found : Surroundings) : Cpp CheckinService := do
  let voterStatusTable ← loadVoterList env.config.voterListFile
  pure (construct found voterStatusTable).doAccept

theorem start_eq_ok {env : Env} {found : Surroundings} {s : CheckinService}
    (h : start env found = .ok s) :
    ∃ voterStatusTable, loadVoterList env.config.voterListFile = .ok voterStatusTable ∧
      s = (construct found voterStatusTable).doAccept := by
  unfold start at h
  cases hload : loadVoterList env.config.voterListFile with
  | error trap =>
    rw [hload] at h
    cases h
  | ok voterStatusTable =>
    rw [hload] at h
    exact ⟨voterStatusTable, rfl, (Except.ok.inj h).symm⟩

end CheckinService

end Pollbook
