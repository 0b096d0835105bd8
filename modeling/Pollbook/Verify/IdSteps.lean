import Pollbook.IdService.Loop
import Pollbook.Verify.IdOutcomes

/-!
# What a step of the ID service does

`Process.Step` lists everything one completion handler of the ID service can do
when it returns, and `next_step` says that these are all the steps.
-/

namespace Pollbook

namespace VoterIDService

namespace Process

variable {env : Env} {s s' : Process} {clientIp : Endpoint} {acts : List Action}

/-! ## The states the handlers leave -/

/-- The keys after a certificate has been shown. -/
def keysAfter (env : Env) (savesKey : Bool) (s : Process) (clientId : UInt32)
    (publicKey : Option EnvelopeKey) : Keys :=
  match publicKey with
  | some key => s.toKeys.admitKey (keyFile env.config clientId) savesKey clientId key
  | none => s.toKeys

/-- A session of the peer begins. -/
def openSession (s : Process) (clientIp : Endpoint) : Process :=
  (((s.finishHandshake clientIp).openStream clientIp).startSizeRead clientIp).doAccept

/-- The line a read of the peer completes with. -/
def line (s : Process) (clientIp : Endpoint) : Bytes :=
  CheckinService.firstLine (s.unread clientIp)

/-- The line is taken out of the peer's buffer. -/
def takeLine (s : Process) (clientIp : Endpoint) : Process :=
  (s.finishRead clientIp).consume clientIp (s.line clientIp).length

/-- The payload is waited for. -/
def awaitPayload (s : Process) (clientIp : Endpoint) (sizeOfMessage : UInt64) : Process :=
  { s with
    clientBuffers := s.clientBuffers.emplace clientIp []
    reads := s.reads.set clientIp (.payload sizeOfMessage) }

/-- The peer's stream is forgotten. -/
def dropStream (s : Process) (clientIp : Endpoint) : Process :=
  { s with clientSslStreams := s.clientSslStreams.erase clientIp }

/-- A read completes with a line. -/
structure Readable (s : Process) (clientIp : Endpoint) (read : PendingRead) : Prop where
  outstanding : s.reads clientIp = some read
  complete : newline ∈ s.unread clientIp

/-! ## Steps -/

/-- Everything a completion handler can do when it returns. -/
inductive Step (env : Env) (io : Io) (savesKey : Bool) (s : Process) :
    Occurrence → Process → List Action → Prop
  | accepted (clientIp : Endpoint) (haccepts : s.accepts ≠ 0) :
      Step env io savesKey s (.accepted clientIp)
        { s with accepts := s.accepts - 1, handshakes := clientIp :: s.handshakes } []
  | acceptFailed (haccepts : s.accepts ≠ 0) :
      Step env io savesKey s .acceptFailed { s with accepts := s.accepts - 1 } []
  | uncertified (clientIp : Endpoint) (hpending : clientIp ∈ s.handshakes) :
      Step env io savesKey s (.handshakeDone clientIp none) (s.openSession clientIp) []
  | certified {clientIp : Endpoint} {cert : Certificate} {clientId : UInt32}
      (hpending : clientIp ∈ s.handshakes) (hid : getClientIdFromCert cert = .ok clientId) :
      Step env io savesKey s (.handshakeDone clientIp (some cert))
        (openSession { s with toKeys := s.keysAfter env savesKey clientId cert.publicKey }
          clientIp) []
  | handshakeFailed (clientIp : Endpoint) (hpending : clientIp ∈ s.handshakes) :
      Step env io savesKey s (.handshakeFailed clientIp) (s.finishHandshake clientIp).doAccept []
  | received {clientIp : Endpoint} {read : PendingRead} (bytes : Bytes)
      (houtstanding : s.reads clientIp = some read) (hopen : newline ∉ s.unread clientIp) :
      Step env io savesKey s (.received clientIp bytes)
        { s with clientBuffers := s.clientBuffers.set clientIp (s.unread clientIp ++ bytes) } []
  | sizeRead {clientIp : Endpoint} {n : UInt64} {stream : Nat}
      (hread : s.Readable clientIp .size) (hsize : stoul (s.line clientIp) = .ok n)
      (hstream : s.clientSslStreams clientIp = some stream) :
      Step env io savesKey s (.lineRead clientIp) ((s.takeLine clientIp).awaitPayload clientIp n) []
  | mismatch {clientIp : Endpoint} {n : UInt64} (hread : s.Readable clientIp (.payload n))
      (hsize : n.toNat ≠ (s.line clientIp).length - 1) :
      Step env io savesKey s (.lineRead clientIp) ((s.finishRead clientIp).dropStream clientIp) []
  | request {clientIp : Endpoint} {n : UInt64} {json : Json} {request : VoterIDRequest}
      {svc : VoterIDService} {acts : List Action} (hread : s.Readable clientIp (.payload n))
      (hsize : n.toNat = (s.line clientIp).length - 1)
      (hparse : env.parse (s.line clientIp) = .ok json)
      (hrequest : VoterIDRequest.fromJson env.toCodec json = .ok request)
      (houtcome : ValidationOutcome env io s.toVoterIDService clientIp request svc acts) :
      Step env io savesKey s (.lineRead clientIp)
        { s.takeLine clientIp with toVoterIDService := svc } acts
  | disconnected {clientIp : Endpoint} {read : PendingRead} {error : ReadError}
      (houtstanding : s.reads clientIp = some read) (hgone : error ≠ .other) :
      Step env io savesKey s (.readFailed clientIp error)
        ((s.finishRead clientIp).dropStream clientIp) []
  | readFailed {clientIp : Endpoint} {read : PendingRead}
      (houtstanding : s.reads clientIp = some read) :
      Step env io savesKey s (.readFailed clientIp .other) (s.finishRead clientIp) []

theorem admitCertificate_eq_ok {savesKey : Bool} {cert : Certificate}
    (h : s.admitCertificate env savesKey cert = .ok s') :
    ∃ clientId, getClientIdFromCert cert = .ok clientId ∧
      s' = { s with toKeys := s.keysAfter env savesKey clientId cert.publicKey } := by
  obtain ⟨clientId, hid, h⟩ := bind_eq_ok.mp h
  refine ⟨clientId, hid, ?_⟩
  unfold keysAfter
  split at h
  · next hkey =>
    rw [hkey]
    exact (Except.ok.inj h).symm
  · next key hkey =>
    rw [hkey]
    exact (Except.ok.inj h).symm

theorem handshakeDone_step {io : Io} {savesKey : Bool} {certificate : Option Certificate}
    (hpending : clientIp ∈ s.handshakes)
    (h : (s.finishHandshake clientIp).handshakeDone env savesKey clientIp certificate = .ok s') :
    Step env io savesKey s (.handshakeDone clientIp certificate) s' [] := by
  unfold handshakeDone at h
  cases certificate with
  | none =>
    rw [← Except.ok.inj h]
    exact .uncertified clientIp hpending
  | some cert =>
    obtain ⟨m, hadmit, h⟩ := bind_eq_ok.mp h
    obtain ⟨clientId, hid, rfl⟩ := admitCertificate_eq_ok hadmit
    rw [← Except.ok.inj h]
    exact .certified hpending hid

theorem sizeRead_step {io : Io} {savesKey : Bool} (hread : s.Readable clientIp .size)
    (h : (s.finishRead clientIp).sizeRead clientIp (s.line clientIp) = .ok s') :
    Step env io savesKey s (.lineRead clientIp) s' [] := by
  obtain ⟨n, hsize, h⟩ := bind_eq_ok.mp h
  obtain ⟨stream, hstream, h⟩ := bind_eq_ok.mp h
  rw [← Except.ok.inj h]
  exact .sizeRead hread hsize (mapAt_eq_ok.mp hstream)

theorem payloadRead_returned {io : Io} {svc svc' : VoterIDService} {n : UInt64} {line : Bytes}
    (h : svc.payloadRead env io clientIp n line = .returned svc' acts) :
    (n.toNat ≠ line.length - 1 ∧ acts = [] ∧
      svc' = { svc with clientSslStreams := svc.clientSslStreams.erase clientIp }) ∨
    n.toNat = line.length - 1 ∧ ∃ json request, env.parse line = .ok json ∧
      VoterIDRequest.fromJson env.toCodec json = .ok request ∧
      ValidationOutcome env io svc clientIp request svc' acts := by
  unfold VoterIDService.payloadRead at h
  split at h
  · next hsize =>
    simp only [Call.bind_eq_returned, Call.ofCpp_eq_returned] at h
    obtain ⟨json, _, _, ⟨hparse, rfl⟩, ⟨request, _, _, ⟨hrequest, rfl⟩, h, rfl⟩, rfl⟩ := h
    exact .inr ⟨hsize, json, request, hparse, hrequest, handleValidationRequest_returned h⟩
  · next hsize =>
    obtain ⟨rfl, rfl⟩ := Call.pure_eq_returned.mp h
    exact .inl ⟨hsize, rfl, rfl⟩

theorem payloadRead_step {io : Io} {savesKey : Bool} {n : UInt64}
    (hread : s.Readable clientIp (.payload n))
    (h : (s.finishRead clientIp).payloadRead env io clientIp n (s.line clientIp) =
      .returned s' acts) :
    Step env io savesKey s (.lineRead clientIp) s' acts := by
  unfold payloadRead at h
  simp only [Call.bind_eq_returned] at h
  obtain ⟨svc, _, _, hread', h, rfl⟩ := h
  obtain ⟨rfl, rfl⟩ := Call.pure_eq_returned.mp h
  rw [List.append_nil]
  rcases payloadRead_returned hread' with ⟨hsize, rfl, rfl⟩ |
    ⟨hsize, json, request, hparse, hrequest, houtcome⟩
  · rw [if_neg hsize]
    exact .mismatch hread hsize
  · rw [if_pos hsize] at houtcome ⊢
    exact .request hread hsize hparse hrequest houtcome

theorem step_returned {e : Event} (h : step env s e = some (.returned s' acts)) :
    Step env e.io e.savesKey s e.occurrence s' acts := by
  obtain ⟨io, savesKey, occurrence⟩ := e
  cases occurrence with
  | accepted clientIp =>
    simp only [step] at h
    split at h
    · cases h
    · next haccepts =>
      obtain ⟨rfl, rfl⟩ := Call.pure_eq_returned.mp (Option.some.inj h)
      exact .accepted clientIp haccepts
  | acceptFailed =>
    simp only [step] at h
    split at h
    · cases h
    · next haccepts =>
      obtain ⟨rfl, rfl⟩ := Call.pure_eq_returned.mp (Option.some.inj h)
      exact .acceptFailed haccepts
  | acceptedGone =>
    simp only [step] at h
    split at h <;> cases h
  | handshakeDone clientIp certificate =>
    simp only [step] at h
    split at h
    · next hpending =>
      obtain ⟨hdone, rfl⟩ := Call.ofCpp_eq_returned.mp (Option.some.inj h)
      exact handshakeDone_step hpending hdone
    · cases h
  | handshakeFailed clientIp =>
    simp only [step] at h
    split at h
    · next hpending =>
      obtain ⟨rfl, rfl⟩ := Call.pure_eq_returned.mp (Option.some.inj h)
      exact .handshakeFailed clientIp hpending
    · cases h
  | received clientIp bytes =>
    simp only [step] at h
    split at h
    · next read houtstanding =>
      split at h
      · cases h
      · next hopen =>
        obtain ⟨rfl, rfl⟩ := Call.pure_eq_returned.mp (Option.some.inj h)
        exact .received bytes houtstanding hopen
    · cases h
  | lineRead clientIp =>
    simp only [step] at h
    split at h
    · next read houtstanding =>
      split at h
      · next hcomplete =>
        cases read with
        | size =>
          obtain ⟨hread, rfl⟩ := Call.ofCpp_eq_returned.mp (Option.some.inj h)
          exact sizeRead_step ⟨houtstanding, hcomplete⟩ hread
        | payload n => exact payloadRead_step ⟨houtstanding, hcomplete⟩ (Option.some.inj h)
      · cases h
    · cases h
  | readFailed clientIp error =>
    simp only [step] at h
    split at h
    · next read houtstanding =>
      obtain ⟨rfl, rfl⟩ := Call.pure_eq_returned.mp (Option.some.inj h)
      cases error with
      | eof | connectionAborted => exact .disconnected houtstanding (by decide)
      | other => exact .readFailed houtstanding
    · cases h

theorem next_step {e : Event} (h : next env s e = some (s', acts)) :
    Step env e.io e.savesKey s e.occurrence s' acts := by
  unfold next at h
  split at h
  · next hstep =>
    simp only [Option.some.injEq, Prod.mk.injEq] at h
    obtain ⟨rfl, rfl⟩ := h
    exact step_returned hstep
  · cases h

end Process

end VoterIDService

end Pollbook
