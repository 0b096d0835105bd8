import Pollbook.Checkin.Loop
import Pollbook.IdService.Handlers
import Pollbook.Keys
import Pollbook.Lib.Run

/-!
# The event loop of the ID service

It is the loop of the check-in service in a simpler form: there are no timers
and nothing is kept of a client but its key, so a connection is known by its
endpoint only. `next` is again the step of a process that is still there
afterwards.
-/

namespace Pollbook

namespace VoterIDService

/-- The service, with what the process keeps of its connections. -/
structure Process extends VoterIDService where
  clientBuffers : Map Endpoint Bytes
  /-- How many streams have been made. -/
  streams : Nat
  /-- How many `async_accept`s are outstanding. -/
  accepts : Nat
  /-- The peers whose `async_handshake` is outstanding. -/
  handshakes : List Endpoint
  /-- The outstanding reads, by peer. -/
  reads : Map Endpoint PendingRead

/-- What can happen next; the names are those of the check-in service. -/
inductive Occurrence where
  | accepted (clientIp : Endpoint)
  | acceptFailed
  | acceptedGone
  | handshakeDone (clientIp : Endpoint) (certificate : Option Certificate)
  | handshakeFailed (clientIp : Endpoint)
  | received (clientIp : Endpoint) (bytes : Bytes)
  | lineRead (clientIp : Endpoint)
  | readFailed (clientIp : Endpoint) (error : ReadError)
  deriving DecidableEq

/-- An occurrence, with what its handler gets from its surroundings. -/
structure Event where
  io : Io
  /-- A new client's key file can be written. -/
  savesKey : Bool
  occurrence : Occurrence

/-! ## Handshakes -/

@[inherit_doc CheckinService.getClientIdFromCert]
def getClientIdFromCert (cert : Certificate) : Cpp UInt32 := CheckinService.getClientIdFromCert cert

namespace Process

/-- The certificate branch of the handshake handler. -/
def admitCertificate (env : Env) (savesKey : Bool) (s : Process) (cert : Certificate) :
    Cpp Process := do
  let clientId ← getClientIdFromCert cert
  match cert.publicKey with
  | none => pure s
  | some key =>
    let keys := s.toKeys.admitKey (keyFile env.config clientId) savesKey clientId key
    pure { s with toKeys := keys }

/-- `VoterIDService::do_accept` -/
def doAccept (s : Process) : Process := { s with accepts := s.accepts + 1 }

/-- `client_ssl_streams[client_ip] = ssl_stream_ptr`; the stream that was there
goes, and its outstanding read with it. -/
def openStream (s : Process) (clientIp : Endpoint) : Process :=
  { s with
    clientSslStreams := s.clientSslStreams.set clientIp s.streams
    streams := s.streams + 1 }

/-- `start_size_read` -/
def startSizeRead (s : Process) (clientIp : Endpoint) : Process :=
  { s with
    clientBuffers := s.clientBuffers.emplace clientIp []
    reads := s.reads.set clientIp .size }

/-- The handler of a handshake that succeeded. -/
def handshakeDone (env : Env) (savesKey : Bool) (s : Process) (clientIp : Endpoint)
    (certificate : Option Certificate) : Cpp Process := do
  let s ←
    match certificate with
    | some cert => s.admitCertificate env savesKey cert
    | none => pure s
  pure ((s.openStream clientIp).startSizeRead clientIp).doAccept

/-! ## Messages -/

/-- The unread bytes of a peer. -/
def unread (s : Process) (clientIp : Endpoint) : Bytes := (s.clientBuffers clientIp).getD []

/-- `consume(n)` on the buffer of a peer. -/
def consume (s : Process) (clientIp : Endpoint) (n : Nat) : Process :=
  { s with clientBuffers := s.clientBuffers.set clientIp ((s.unread clientIp).drop n) }

/-- `start_payload_read` -/
def startPayloadRead (s : Process) (clientIp : Endpoint) (sizeOfMessage : UInt64) :
    Cpp Process := do
  let _ ← mapAt s.clientSslStreams clientIp
  pure { s with
    clientBuffers := s.clientBuffers.emplace clientIp []
    reads := s.reads.set clientIp (.payload sizeOfMessage) }

/-- The handler `start_size_read` installs, on the bytes it read. -/
def sizeRead (s : Process) (clientIp : Endpoint) (line : Bytes) : Cpp Process := do
  let messageSize ← stoul line
  (s.consume clientIp line.length).startPayloadRead clientIp messageSize

/-- The handler `start_payload_read` installs: a message of the announced size
is consumed before it is handled. -/
def payloadRead (env : Env) (io : Io) (s : Process) (clientIp : Endpoint) (sizeOfMessage : UInt64)
    (line : Bytes) : Call Action Process := do
  let s := if sizeOfMessage.toNat = line.length - 1 then s.consume clientIp line.length else s
  return { s with
    toVoterIDService := ← s.toVoterIDService.payloadRead env io clientIp sizeOfMessage line }

/-- The same two handlers, when the read failed. -/
def readFailed (s : Process) (clientIp : Endpoint) (error : ReadError) : Process :=
  match error with
  | .eof | .connectionAborted =>
    { s with clientSslStreams := s.clientSslStreams.erase clientIp }
  | .other => s

/-- A read completed: it is no longer outstanding. -/
def finishRead (s : Process) (clientIp : Endpoint) : Process :=
  { s with reads := s.reads.erase clientIp }

/-- A handshake is over. -/
def finishHandshake (s : Process) (clientIp : Endpoint) : Process :=
  { s with handshakes := s.handshakes.erase clientIp }

/-! ## Steps -/

/-- One step: what the handler of an event does, or `none` when the event cannot
happen. -/
def step (env : Env) (s : Process) (e : Event) : Option (Call Action Process) :=
  match e.occurrence with
  | .accepted clientIp =>
    if s.accepts = 0 then none
    else some (return { s with
      accepts := s.accepts - 1
      handshakes := clientIp :: s.handshakes })
  | .acceptFailed =>
    if s.accepts = 0 then none else some (return { s with accepts := s.accepts - 1 })
  | .acceptedGone =>
    if s.accepts = 0 then none else some (Call.threw (.systemError "remote_endpoint") [])
  | .handshakeDone clientIp certificate =>
    if clientIp ∈ s.handshakes then
      some (Call.ofCpp ((s.finishHandshake clientIp).handshakeDone env e.savesKey clientIp
        certificate))
    else none
  | .handshakeFailed clientIp =>
    if clientIp ∈ s.handshakes then some (return (s.finishHandshake clientIp).doAccept) else none
  | .received clientIp bytes =>
    match s.reads clientIp with
    | some _ =>
      if newline ∈ s.unread clientIp then none
      else some (return { s with
        clientBuffers := s.clientBuffers.set clientIp (s.unread clientIp ++ bytes) })
    | none => none
  | .lineRead clientIp =>
    match s.reads clientIp with
    | some read =>
      if newline ∈ s.unread clientIp then
        let line := CheckinService.firstLine (s.unread clientIp)
        let s := s.finishRead clientIp
        match read with
        | .size => some (Call.ofCpp (s.sizeRead clientIp line))
        | .payload sizeOfMessage => some (s.payloadRead env e.io clientIp sizeOfMessage line)
      else none
    | none => none
  | .readFailed clientIp error =>
    match s.reads clientIp with
    | some _ => some (return (s.finishRead clientIp).readFailed clientIp error)
    | none => none

/-- The step of a process that is still there afterwards. -/
def next (env : Env) (s : Process) (e : Event) : Option (Process × List Action) :=
  match step env s e with
  | some (.returned s' actions) => some (s', actions)
  | _ => none

/-- The actions of the step at which the process ends. -/
def crash (env : Env) (s : Process) (e : Event) : Option (List Action) :=
  match step env s e with
  | some (.threw _ actions) => some actions
  | _ => none

end Process

/-! ## Startup -/

/-- A row of the roll is entered into the voter data; a row with too few fields
or without a number is skipped. -/
def loadVoterRow (voterData : Map UInt32 (List Bytes)) (line : Bytes) : Map UInt32 (List Bytes) :=
  let fields := pieces comma line
  if fields.length < 8 then voterData
  else
    match stoul (fields.headD []) with
    | .ok uid => voterData.set uid.toUInt32 fields
    | .error _ => voterData

/-- `load_voter_data_from_csv` on the contents of the roll. A roll that cannot
be opened reads as an empty one. -/
def loadVoterDataFromCsv (voterListFile : Bytes) : Map UInt32 (List Bytes) :=
  (lines voterListFile).tail.foldl loadVoterRow Map.empty

/-- What a new process finds: the roll, the files, and the entries of the key
folder in the order they are listed. -/
structure Surroundings where
  voterListFile : Bytes
  pemFiles : Map Bytes PemFile
  keyFiles : List (Bytes × PemFile)

/-- The constructor. -/
def construct (found : Surroundings) (keys : Keys) : Process where
  toKeys := keys
  voterData := loadVoterDataFromCsv found.voterListFile
  clientSslStreams := Map.empty
  clientBuffers := Map.empty
  streams := 0
  accepts := 0
  handshakes := []
  reads := Map.empty

/-- The constructor, and `run` up to the event loop. -/
def start (env : Env) (found : Surroundings) : Cpp Process := do
  let keys ← (Keys.onDisk found.pemFiles).loadClientPublicKeys env.config.clientKeyFilePrefix
    found.keyFiles
  pure (construct found keys).doAccept

theorem start_eq_ok {env : Env} {found : Surroundings} {s : Process}
    (h : start env found = .ok s) :
    ∃ keys, (Keys.onDisk found.pemFiles).loadClientPublicKeys env.config.clientKeyFilePrefix
      found.keyFiles = .ok keys ∧ s = (construct found keys).doAccept := by
  unfold start at h
  cases hload : (Keys.onDisk found.pemFiles).loadClientPublicKeys env.config.clientKeyFilePrefix
      found.keyFiles with
  | error trap =>
    rw [hload] at h
    cases h
  | ok keys =>
    rw [hload] at h
    exact ⟨keys, rfl, (Except.ok.inj h).symm⟩

namespace Process

/-! ## Restarts -/

/-- What a restart adds to the files the last process has left: the roll, and
the order in which the key folder is listed. -/
structure Reboot where
  voterListFile : Bytes
  keyFiles : List (Bytes × PemFile)

/-- What the next process finds. -/
def Reboot.found (r : Reboot) (s : Process) : Surroundings where
  voterListFile := r.voterListFile
  pemFiles := s.pemFiles
  keyFiles := r.keyFiles

/-- The process ends, and the service is started again. -/
def reboot (env : Env) (s : Process) (r : Reboot) : Option Process :=
  (start env (r.found s)).toOption

theorem reboot_eq_some {env : Env} {s s' : Process} {r : Reboot} :
    reboot env s r = some s' ↔ start env (r.found s) = .ok s' := by
  unfold reboot
  cases start env (r.found s) with
  | error trap =>
    constructor
    · rintro ⟨⟩
    · rintro ⟨⟩
  | ok m => exact ⟨fun h => congrArg _ (Option.some.inj h), fun h => congrArg _ (Except.ok.inj h)⟩

/-- The service over any number of processes, one after the other. -/
def life (env : Env) : Process → Event ⊕ Reboot → Option (Process × List Action) :=
  withRestarts (next env) (reboot env)

end Process

end VoterIDService

end Pollbook
