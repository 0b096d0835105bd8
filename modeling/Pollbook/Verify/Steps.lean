import Pollbook.Checkin.Loop
import Pollbook.Verify.Outcomes

/-!
# What a step of the service does

`Step` lists everything one completion handler can do when it returns, in the
terms of the state before it, and `next_step` says that these are all the
steps. The invariants of the service are case analyses of `Step`.
-/

namespace Pollbook

namespace CheckinService

variable {env : Env} {io : Io} {s s' : CheckinService} {clientIp : Endpoint}
  {acts : List Action}

/-! ## Handshakes -/

theorem admitKey_returned {clientId : UInt32} {key : EnvelopeKey}
    (h : s.admitKey env io clientId key = .returned s' acts) :
    ∃ k : Keys, s' = { s with toKeys := k } ∧ s.toKeys.Keeps k ∧
      ∀ a ∈ acts, ∃ faultDesc, a = .reportFault clientId faultDesc := by
  unfold admitKey at h
  split at h
  · split at h
    · simp only [Call.pure_eq_returned] at h
      obtain ⟨rfl, rfl⟩ := h
      exact ⟨_, rfl, fun id key hkey => Map.emplace_keeps hkey _ _, by simp⟩
    · obtain ⟨rfl, rfl⟩ := rejectWith_returned.mp h
      exact ⟨_, rfl, .refl _, by simp⟩
  · simp only [Call.pure_eq_returned] at h
    obtain ⟨rfl, rfl⟩ := h
    unfold savePubKey
    split
    · exact ⟨_, rfl, fun id key hkey => Map.emplace_keeps hkey _ _, by simp⟩
    · exact ⟨_, rfl, fun id key hkey => Map.emplace_keeps hkey _ _, by simp⟩

/-- How the clients change when one with this id shows a certificate, with a key
in it or not. -/
def Classified (config : Config) (clientId : UInt32) (hasKey : Bool)
    (clients clients' : Map UInt32 ClientInfo) : Prop :=
  clients' = clients ∧ (hasKey = true → (clients clientId).isSome = true) ∨
    clients clientId = none ∧ ∃ type, (type = .trustedClient ↔ clientId ∈ config.trustedClients) ∧
      clients' = clients.set clientId ⟨clientId, type⟩

theorem classify_eq (env : Env) (s : CheckinService) (clientId : UInt32) (hasKey : Bool) :
    ∃ clients, s.classify env clientId = { s with clients := clients } ∧
      Classified env.config clientId hasKey s.clients clients := by
  unfold classify
  split
  · next hsome => exact ⟨s.clients, rfl, .inl ⟨rfl, fun _ => hsome⟩⟩
  · next hnone =>
    have hnone : s.clients clientId = none := by simpa using hnone
    split
    · next htrusted => exact ⟨_, rfl, .inr ⟨hnone, .trustedClient, by simp [htrusted], rfl⟩⟩
    · next htrusted => exact ⟨_, rfl, .inr ⟨hnone, .untrustedClient, by simp [htrusted], rfl⟩⟩

/-- A certificate names the client on an endpoint. -/
def admitAs (s : CheckinService) (clientIp : Endpoint) (clientId : UInt32) (k : Keys)
    (clients : Map UInt32 ClientInfo) : CheckinService :=
  { s with
    toKeys := k
    clients := clients
    clientIdMap := s.clientIdMap.set clientIp clientId }

theorem admitCertificate_returned {cert : Certificate}
    (h : s.admitCertificate env io clientIp cert = .returned s' acts) :
    ∃ clientId k clients, getClientIdFromCert cert = .ok clientId ∧ s.toKeys.Keeps k ∧
      Classified env.config clientId cert.publicKey.isSome s.clients clients ∧
      s' = s.admitAs clientIp clientId k clients ∧
      ∀ a ∈ acts, ∃ faultDesc, a = .reportFault clientId faultDesc := by
  unfold admitCertificate at h
  simp only [Call.bind_eq_returned, Call.ofCpp_eq_returned] at h
  obtain ⟨clientId, _, _, ⟨hid, rfl⟩, h, rfl⟩ := h
  split at h
  · next hnone =>
    simp only [Call.pure_eq_returned] at h
    obtain ⟨rfl, rfl⟩ := h
    have hclassified : Classified env.config clientId cert.publicKey.isSome s.clients s.clients :=
      .inl ⟨rfl, fun hkey => by rw [hnone] at hkey; cases hkey⟩
    exact ⟨clientId, s.toKeys, s.clients, hid, .refl _, hclassified, rfl, by simp⟩
  · rw [Call.bind_eq_returned] at h
    obtain ⟨_, acts₁, _, hkey, h, rfl⟩ := h
    obtain ⟨k, rfl, hk, hacts⟩ := admitKey_returned hkey
    simp only [Call.pure_eq_returned] at h
    obtain ⟨rfl, rfl⟩ := h
    obtain ⟨clients, hclients, hclassified⟩ := classify_eq env
      { s with toKeys := k, clientIdMap := s.clientIdMap.set clientIp clientId } clientId
      cert.publicKey.isSome
    exact ⟨clientId, k, clients, hid, hk, hclassified, hclients, by simpa using hacts⟩

/-! ## Steps -/

/-- A handshake is over. -/
def finishHandshake (s : CheckinService) (clientIp : Endpoint) : CheckinService :=
  { s with handshakes := s.handshakes.erase clientIp }

/-- A session of the peer begins. -/
def openSession (s : CheckinService) (clientIp : Endpoint) : CheckinService :=
  (((s.finishHandshake clientIp).openStream clientIp).startSizeRead clientIp).doAccept

/-- The line a read of the peer completes with. -/
def line (s : CheckinService) (clientIp : Endpoint) : Bytes := firstLine (s.unread clientIp)

/-- The line is taken out of the peer's buffer. -/
def takeLine (s : CheckinService) (clientIp : Endpoint) : CheckinService :=
  (s.finishRead clientIp).consume clientIp (s.line clientIp).length

/-- A read completes with a line. -/
structure Readable (s : CheckinService) (clientIp : Endpoint) (read : PendingRead) : Prop where
  outstanding : s.reads clientIp = some read
  complete : newline ∈ s.unread clientIp

/-- The line is a message of the announced size. -/
structure Arrived (s : CheckinService) (clientIp : Endpoint) (sizeOfMessage : UInt64) : Prop
    extends Readable s clientIp (.payload sizeOfMessage) where
  size : sizeOfMessage.toNat = (s.line clientIp).length - 1

/-- The state a message is handled in: `client_id` is the sender's. -/
def deliver (s : CheckinService) (clientIp : Endpoint) (clientId : UInt32) : CheckinService :=
  { s.takeLine clientIp with clientId := clientId }

/-- The fault the read handlers report. -/
def sizeFault : String :=
  "Size of the message does not match the size that is received from the server for the client "

/-- Everything a completion handler can do when it returns. -/
inductive Step (env : Env) (io : Io) (s : CheckinService) :
    Occurrence → CheckinService → List Action → Prop
  | accepted (clientIp : Endpoint) (haccepts : s.accepts ≠ 0) :
      Step env io s (.accepted clientIp)
        { s with accepts := s.accepts - 1, handshakes := clientIp :: s.handshakes } []
  | acceptFailed (haccepts : s.accepts ≠ 0) :
      Step env io s .acceptFailed { s with accepts := s.accepts - 1 } []
  | uncertified (clientIp : Endpoint) (hpending : clientIp ∈ s.handshakes) :
      Step env io s (.handshakeDone clientIp none) (s.openSession clientIp) []
  | certified {clientIp : Endpoint} {cert : Certificate} {clientId : UInt32} {k : Keys}
      {clients : Map UInt32 ClientInfo} {acts : List Action} (hpending : clientIp ∈ s.handshakes)
      (hid : getClientIdFromCert cert = .ok clientId) (hk : s.toKeys.Keeps k)
      (hclients : Classified env.config clientId cert.publicKey.isSome s.clients clients)
      (hacts : ∀ a ∈ acts, ∃ faultDesc, a = .reportFault clientId faultDesc) :
      Step env io s (.handshakeDone clientIp (some cert))
        ((s.admitAs clientIp clientId k clients).openSession clientIp) acts
  | handshakeFailed (clientIp : Endpoint) (message : String) (hpending : clientIp ∈ s.handshakes) :
      Step env io s (.handshakeFailed clientIp message) (s.finishHandshake clientIp).doAccept
        [.reportFault s.clientId message]
  | received {clientIp : Endpoint} {read : PendingRead} (bytes : Bytes)
      (houtstanding : s.reads clientIp = some read) (hopen : newline ∉ s.unread clientIp) :
      Step env io s (.received clientIp bytes)
        { s with clientBuffers := s.clientBuffers.set clientIp (s.unread clientIp ++ bytes) } []
  | sizeRead {clientIp : Endpoint} {n : UInt64} (hread : s.Readable clientIp .size)
      (hsize : stoul (s.line clientIp) = .ok n) :
      Step env io s (.lineRead clientIp) ((s.takeLine clientIp).startPayloadRead clientIp n) []
  | mismatch {clientIp : Endpoint} {n : UInt64} (hread : s.Readable clientIp (.payload n))
      (hsize : n.toNat ≠ (s.line clientIp).length - 1) :
      Step env io s (.lineRead clientIp) (s.finishRead clientIp)
        [.reportFault s.clientId sizeFault]
  | unknownIp {clientIp : Endpoint} {n : UInt64} (harrived : s.Arrived clientIp n)
      (hid : s.clientIdMap clientIp = none) :
      Step env io s (.lineRead clientIp) (s.takeLine clientIp)
        [.reportFault s.clientId "Unknown client IP"]
  | unknownId {clientIp : Endpoint} {n : UInt64} {clientId : UInt32}
      (harrived : s.Arrived clientIp n) (hid : s.clientIdMap clientIp = some clientId)
      (hclient : s.clients clientId = none) :
      Step env io s (.lineRead clientIp) (s.deliver clientIp clientId)
        [.reportFault clientId "Unknown client ID"]
  | undecoded {clientIp : Endpoint} {n : UInt64} {clientId : UInt32} {client : ClientInfo}
      {acts : List Action} (harrived : s.Arrived clientIp n)
      (hid : s.clientIdMap clientIp = some clientId) (hclient : s.clients clientId = some client)
      (htype : client.type = .trustedClient)
      (hchecks : (s.deliver clientIp clientId).Checks clientIp acts) :
      Step env io s (.lineRead clientIp)
        (s.deliver clientIp clientId).readFromCsv
        (.dispatched clientIp clientId client.type (s.line clientIp) :: acts)
  | ticketRequest {clientIp : Endpoint} {n : UInt64} {clientId : UInt32} {client : ClientInfo}
      {json : Json} {request : TicketRequest} {s' : CheckinService} {acts : List Action}
      (harrived : s.Arrived clientIp n) (hid : s.clientIdMap clientIp = some clientId)
      (hclient : s.clients clientId = some client) (htype : client.type = .trustedClient)
      (hparse : env.parse (s.line clientIp) = .ok json)
      (hrequest : TicketRequest.fromJson env.toCodec json = .ok request)
      (houtcome : TicketOutcome env io (s.deliver clientIp clientId).readFromCsv clientIp request
        s' acts) :
      Step env io s (.lineRead clientIp) s'
        (.dispatched clientIp clientId client.type (s.line clientIp) :: acts)
  | checkinRequest {clientIp : Endpoint} {n : UInt64} {clientId : UInt32} {client : ClientInfo}
      {json : Json} {request : CheckinRequest} {s' : CheckinService} {acts : List Action}
      (harrived : s.Arrived clientIp n) (hid : s.clientIdMap clientIp = some clientId)
      (hclient : s.clients clientId = some client) (htype : client.type = .untrustedClient)
      (hparse : env.parse (s.line clientIp) = .ok json)
      (hrequest : CheckinRequest.fromJson env.toCodec json = .ok request)
      (houtcome : CheckinOutcome env io (s.deliver clientIp clientId) clientIp request s' acts) :
      Step env io s (.lineRead clientIp) s'
        (.dispatched clientIp clientId client.type (s.line clientIp) :: acts)
  | disconnected {clientIp : Endpoint} {read : PendingRead} {error : ReadError}
      (houtstanding : s.reads clientIp = some read) (hquiet : read = .size ∨ error ≠ .other) :
      Step env io s (.readFailed clientIp error) (s.finishRead clientIp) []
  | payloadLost {clientIp : Endpoint} {n : UInt64}
      (houtstanding : s.reads clientIp = some (.payload n)) :
      Step env io s (.readFailed clientIp .other) (s.finishRead clientIp)
        [.reportFault s.clientId sizeFault]
  | timerExpired {id : Nat} {wait : Wait} (hwait : s.waits id = some wait)
      (hwaiting : wait.status = .waiting) (hexpired : wait.expiry ≤ io.steadyNow) :
      Step env io s (.timerExpired id) (s.expire id wait) []
  | timedOut {id : Nat} {wait : Wait} (hwait : s.waits id = some wait)
      (hqueued : wait.status = .queued) :
      Step env io s (.timedOut id)
        { s with toSessions :=
          (s.finishWait id).toSessions.handleVerificationTimeout wait.voterId } []
  | waitAborted {id : Nat} {wait : Wait} (hwait : s.waits id = some wait)
      (hcancelled : wait.status = .cancelled) :
      Step env io s (.waitAborted id) (s.finishWait id) []
  | signed (key : EnvelopeKey) (message : Bytes) : Step env io s (.signed key message) s []

theorem handshakeDone_step {certificate : Option Certificate} (hpending : clientIp ∈ s.handshakes)
    (h : (s.finishHandshake clientIp).handshakeDone env io clientIp certificate =
      .returned s' acts) :
    Step env io s (.handshakeDone clientIp certificate) s' acts := by
  unfold handshakeDone at h
  cases certificate with
  | none =>
    simp only [Call.bind_eq_returned, Call.pure_eq_returned] at h
    obtain ⟨_, _, _, ⟨rfl, rfl⟩, ⟨rfl, rfl⟩, rfl⟩ := h
    exact .uncertified clientIp hpending
  | some cert =>
    rw [Call.bind_eq_returned] at h
    obtain ⟨_, acts₁, _, hcert, h, rfl⟩ := h
    obtain ⟨clientId, k, clients, hid, hk, hclients, rfl, hacts⟩ := admitCertificate_returned hcert
    simp only [Call.pure_eq_returned] at h
    obtain ⟨rfl, rfl⟩ := h
    rw [List.append_nil]
    exact .certified hpending hid hk hclients hacts

theorem sizeRead_step (hread : s.Readable clientIp .size)
    (h : (s.finishRead clientIp).sizeRead clientIp (s.line clientIp) = .returned s' acts) :
    Step env io s (.lineRead clientIp) s' acts := by
  unfold sizeRead at h
  simp only [Call.bind_eq_returned, Call.ofCpp_eq_returned, Call.pure_eq_returned] at h
  obtain ⟨n, _, _, ⟨hsize, rfl⟩, ⟨rfl, rfl⟩, rfl⟩ := h
  exact .sizeRead hread hsize

theorem handleUntrustedClient_returned {msgString : Bytes}
    (h : s.handleUntrustedClient env io msgString clientIp = .returned s' acts) :
    ∃ json request, env.parse msgString = .ok json ∧
      CheckinRequest.fromJson env.toCodec json = .ok request ∧
      CheckinOutcome env io s clientIp request s' acts := by
  unfold handleUntrustedClient at h
  simp only [Call.bind_eq_returned, Call.ofCpp_eq_returned] at h
  obtain ⟨json, _, _, ⟨hjson, rfl⟩, ⟨request, _, _, ⟨hrequest, rfl⟩, h, rfl⟩, rfl⟩ := h
  split at hjson
  · cases hjson
    exact absurd hrequest (CheckinRequest.fromJson_null _ _)
  · exact ⟨json, request, hjson, hrequest, handleCheckinRequest_returned h⟩

theorem payloadRead_step {n : UInt64} (hread : s.Readable clientIp (.payload n))
    (h : (s.finishRead clientIp).payloadRead env io clientIp n (s.line clientIp) =
      .returned s' acts) :
    Step env io s (.lineRead clientIp) s' acts := by
  unfold payloadRead at h
  split at h
  · next hsize =>
    have harrived : s.Arrived clientIp n := ⟨hread, hsize⟩
    unfold dispatch at h
    split at h
    · next hid =>
      obtain ⟨rfl, rfl⟩ := rejectWith_returned.mp h
      exact .unknownIp harrived hid
    · next clientId hid =>
      simp only at h
      split at h
      · next hclient =>
        obtain ⟨rfl, rfl⟩ := rejectWith_returned.mp h
        exact .unknownId harrived hid hclient
      · next client hclient =>
        rw [Call.bind_eq_returned] at h
        obtain ⟨_, _, _, hdispatched, h, rfl⟩ := h
        rw [Call.perform_eq_returned] at hdispatched
        subst hdispatched
        split at h
        · next htype =>
          obtain ⟨rfl, hchecks⟩ | ⟨json, request, hparse, hrequest, houtcome⟩ :=
            handleTrustedClient_returned h
          · exact .undecoded harrived hid hclient htype hchecks
          · exact .ticketRequest harrived hid hclient htype hparse hrequest houtcome
        · next htype =>
          obtain ⟨json, request, hparse, hrequest, houtcome⟩ := handleUntrustedClient_returned h
          exact .checkinRequest harrived hid hclient htype hparse hrequest houtcome
  · next hsize =>
    obtain ⟨rfl, rfl⟩ := rejectWith_returned.mp h
    exact .mismatch hread hsize

theorem readFailed_step {read : PendingRead} {error : ReadError}
    (houtstanding : s.reads clientIp = some read)
    (h : (s.finishRead clientIp).readFailed read error = .returned s' acts) :
    Step env io s (.readFailed clientIp error) s' acts := by
  unfold readFailed at h
  split at h
  · obtain ⟨rfl, rfl⟩ := rejectWith_returned.mp h
    exact .payloadLost houtstanding
  · next hquiet =>
    simp only [Call.pure_eq_returned] at h
    obtain ⟨rfl, rfl⟩ := h
    refine .disconnected houtstanding ?_
    cases read with
    | size => exact .inl rfl
    | payload n => exact .inr fun hother => hquiet n rfl hother

theorem handle_step {occurrence : Occurrence}
    (h : handle env io s occurrence = some (.returned s' acts)) :
    Step env io s occurrence s' acts := by
  cases occurrence with
  | accepted clientIp =>
    simp only [handle] at h
    split at h
    · cases h
    · next haccepts =>
      obtain ⟨rfl, rfl⟩ := Call.pure_eq_returned.mp (Option.some.inj h)
      exact .accepted clientIp haccepts
  | acceptFailed =>
    simp only [handle] at h
    split at h
    · cases h
    · next haccepts =>
      obtain ⟨rfl, rfl⟩ := Call.pure_eq_returned.mp (Option.some.inj h)
      exact .acceptFailed haccepts
  | acceptedGone =>
    simp only [handle] at h
    split at h <;> cases h
  | handshakeDone clientIp certificate =>
    simp only [handle] at h
    split at h
    · next hpending => exact handshakeDone_step hpending (Option.some.inj h)
    · cases h
  | handshakeFailed clientIp message =>
    simp only [handle] at h
    split at h
    · next hpending =>
      obtain ⟨rfl, rfl⟩ := rejectWith_returned.mp (Option.some.inj h)
      exact .handshakeFailed clientIp message hpending
    · cases h
  | received clientIp bytes =>
    simp only [handle] at h
    split at h
    · next read houtstanding =>
      split at h
      · cases h
      · next hopen =>
        obtain ⟨rfl, rfl⟩ := Call.pure_eq_returned.mp (Option.some.inj h)
        exact .received bytes houtstanding hopen
    · cases h
  | lineRead clientIp =>
    simp only [handle] at h
    split at h
    · next read houtstanding =>
      split at h
      · next hcomplete =>
        cases read with
        | size => exact sizeRead_step ⟨houtstanding, hcomplete⟩ (Option.some.inj h)
        | payload n => exact payloadRead_step ⟨houtstanding, hcomplete⟩ (Option.some.inj h)
      · cases h
    · cases h
  | readFailed clientIp error =>
    simp only [handle] at h
    split at h
    · next read houtstanding => exact readFailed_step houtstanding (Option.some.inj h)
    · cases h
  | timerExpired id =>
    simp only [handle] at h
    split at h
    · next wait hwait =>
      split at h
      · next hcond =>
        obtain ⟨rfl, rfl⟩ := Call.pure_eq_returned.mp (Option.some.inj h)
        exact .timerExpired hwait hcond.1 hcond.2
      · cases h
    · cases h
  | timedOut id =>
    simp only [handle] at h
    split at h
    · next wait hwait =>
      split at h
      · next hqueued =>
        obtain ⟨rfl, rfl⟩ := Call.pure_eq_returned.mp (Option.some.inj h)
        exact .timedOut hwait hqueued
      · cases h
    · cases h
  | waitAborted id =>
    simp only [handle] at h
    split at h
    · next wait hwait =>
      split at h
      · next hcancelled =>
        obtain ⟨rfl, rfl⟩ := Call.pure_eq_returned.mp (Option.some.inj h)
        exact .waitAborted hwait hcancelled
      · cases h
    · cases h
  | signed key message =>
    obtain ⟨rfl, rfl⟩ := Call.pure_eq_returned.mp (Option.some.inj h)
    exact .signed key message

/-! ## The step that ends the process -/

/-- What a handler that an exception escapes from has done before: it was
still checking. -/
inductive Crash (s : CheckinService) : Occurrence → List Action → Prop
  | silent (occurrence : Occurrence) : Crash s occurrence []
  | checking {clientIp : Endpoint} {n : UInt64} {clientId : UInt32} {client : ClientInfo}
      {acts : List Action} (harrived : s.Arrived clientIp n)
      (hid : s.clientIdMap clientIp = some clientId) (hclient : s.clients clientId = some client)
      (hchecks : (s.deliver clientIp clientId).Checks clientIp acts) :
      Crash s (.lineRead clientIp)
        (.dispatched clientIp clientId client.type (s.line clientIp) :: acts)

theorem handshakeDone_threw {certificate : Option Certificate} {trap : Trap}
    (h : s.handshakeDone env io clientIp certificate = .threw trap acts) : acts = [] := by
  unfold handshakeDone at h
  cases certificate with
  | none => simp [Call.bind_eq_threw] at h
  | some cert =>
    simp only [Call.bind_eq_threw, Call.pure_eq_threw, false_and, and_false, exists_false,
      or_false] at h
    unfold admitCertificate at h
    simp only [Call.bind_eq_threw, Call.ofCpp_eq_threw, Call.ofCpp_eq_returned] at h
    obtain ⟨-, rfl⟩ | ⟨clientId, _, _, ⟨-, rfl⟩, h, rfl⟩ := h
    · rfl
    · split at h
      · simp at h
      · simp only [Call.bind_eq_threw, Call.pure_eq_threw, false_and, and_false, exists_false,
          or_false] at h
        unfold admitKey at h
        split at h
        · split at h
          · simp at h
          · exact absurd h rejectWith_not_threw
        · simp at h

theorem handleUntrustedClient_threw {msgString : Bytes} {trap : Trap}
    (h : s.handleUntrustedClient env io msgString clientIp = .threw trap acts) :
    s.Checks clientIp acts := by
  unfold handleUntrustedClient at h
  simp only [Call.bind_eq_threw, Call.ofCpp_eq_threw, Call.ofCpp_eq_returned] at h
  obtain ⟨-, rfl⟩ | ⟨_, _, _, ⟨-, rfl⟩, ⟨-, rfl⟩ | ⟨_, _, _, ⟨-, rfl⟩, h, rfl⟩, rfl⟩ := h
  · exact .nil
  · exact .nil
  · exact handleCheckinRequest_threw h

theorem payloadRead_crash {n : UInt64} {trap : Trap} (hread : s.Readable clientIp (.payload n))
    (h : (s.finishRead clientIp).payloadRead env io clientIp n (s.line clientIp) =
      .threw trap acts) :
    Crash s (.lineRead clientIp) acts := by
  unfold payloadRead at h
  split at h
  · next hsize =>
    unfold dispatch at h
    split at h
    · exact absurd h rejectWith_not_threw
    · next clientId hid =>
      simp only at h
      split at h
      · exact absurd h rejectWith_not_threw
      · next client hclient =>
        simp only [Call.bind_eq_threw, Call.perform_eq_threw, Call.perform_eq_returned,
          false_or] at h
        obtain ⟨_, _, acts₂, rfl, h, rfl⟩ := h
        have hchecks : (s.deliver clientIp clientId).Checks clientIp acts₂ := by
          split at h
          · exact handleTrustedClient_threw h
          · exact handleUntrustedClient_threw h
        exact .checking ⟨hread, hsize⟩ hid hclient hchecks
  · exact absurd h rejectWith_not_threw

theorem handle_crash {occurrence : Occurrence} {trap : Trap}
    (h : handle env io s occurrence = some (.threw trap acts)) : Crash s occurrence acts := by
  cases occurrence with
  | accepted clientIp =>
    simp only [handle] at h
    split at h
    · cases h
    · exact absurd (Option.some.inj h) (by simp)
  | acceptFailed =>
    simp only [handle] at h
    split at h
    · cases h
    · exact absurd (Option.some.inj h) (by simp)
  | acceptedGone =>
    simp only [handle] at h
    split at h
    · cases h
    · cases h
      exact .silent _
  | handshakeDone clientIp certificate =>
    simp only [handle] at h
    split at h
    · rw [handshakeDone_threw (Option.some.inj h)]
      exact .silent _
    · cases h
  | handshakeFailed clientIp message =>
    simp only [handle] at h
    split at h
    · exact absurd (Option.some.inj h) rejectWith_not_threw
    · cases h
  | received clientIp bytes =>
    simp only [handle] at h
    split at h
    · split at h
      · cases h
      · exact absurd (Option.some.inj h) (by simp)
    · cases h
  | lineRead clientIp =>
    simp only [handle] at h
    split at h
    · next read houtstanding =>
      split at h
      · next hcomplete =>
        cases read with
        | size =>
          have h := Option.some.inj h
          simp only [sizeRead, Call.bind_eq_threw, Call.ofCpp_eq_threw, Call.pure_eq_threw,
            false_and, and_false, exists_false, or_false] at h
          rw [h.2]
          exact .silent _
        | payload n => exact payloadRead_crash ⟨houtstanding, hcomplete⟩ (Option.some.inj h)
      · cases h
    · cases h
  | readFailed clientIp error =>
    simp only [handle] at h
    split at h
    · have h := Option.some.inj h
      unfold readFailed at h
      split at h
      · exact absurd h rejectWith_not_threw
      · simp at h
    · cases h
  | timerExpired id | timedOut id | waitAborted id =>
    simp only [handle] at h
    split at h
    · split at h
      · exact absurd (Option.some.inj h) (by simp)
      · cases h
    · cases h
  | signed key message => exact absurd (Option.some.inj h) (by simp)

/-- The state a handler runs in: the clock has been read. -/
def atTime (s : CheckinService) (now : Int) : CheckinService := { s with steadyNow := now }

/-- Every step of a process that survives it is one of the list. -/
theorem next_step {e : Event} (h : next env s e = some (s', acts)) :
    s.steadyNow ≤ e.io.steadyNow ∧
      ∃ s₁, Step env e.io (s.atTime e.io.steadyNow) e.occurrence s₁ acts ∧
        s' = s₁.charge acts := by
  unfold next at h
  split at h
  · next s₁ acts₁ hstep =>
    simp only [Option.some.injEq, Prod.mk.injEq] at h
    obtain ⟨rfl, rfl⟩ := h
    unfold step at hstep
    split at hstep
    · next hclock => exact ⟨hclock, s₁, handle_step hstep, rfl⟩
    · cases hstep
  · cases h

theorem crash_step {e : Event} (h : crash env s e = some acts) :
    Crash (s.atTime e.io.steadyNow) e.occurrence acts := by
  unfold crash at h
  split at h
  · next acts₁ hstep =>
    rw [Option.some.inj h] at hstep
    unfold step at hstep
    split at hstep
    · exact handle_crash hstep
    · cases hstep
  · cases h

end CheckinService

end Pollbook
