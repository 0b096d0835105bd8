import Mathlib.Data.List.Infix
import Pollbook.Rehearsal
import Pollbook.Verify.Steps

/-!
# TLS sessions and the endpoints they run on

What the service keeps of a connection it keeps by endpoint, and nothing of it
goes away when the peer does. So the next session on the endpoint can find the
bytes and the client id of an earlier one (`sessions_leak`). Where a handshake
finds an empty buffer, and brings a certificate or finds no client id, every
message is made of bytes of its own session and goes to the client its
certificate names (`sessions_are_isolated`).
-/

namespace Pollbook

/-! ## Sessions in a trace -/

/-- The current TLS session of an endpoint: the certificate of its handshake
and the bytes that came in since. Before the first handshake there are none. -/
structure TlsSession where
  certificate : Option Certificate
  received : Bytes

/-- The client a certificate names. -/
def Certificate.clientId (cert : Certificate) : Option UInt32 :=
  (CheckinService.getClientIdFromCert cert).toOption

theorem Certificate.clientId_eq_some {cert : Certificate} {clientId : UInt32} :
    cert.clientId = some clientId ↔ CheckinService.getClientIdFromCert cert = .ok clientId := by
  unfold Certificate.clientId
  cases CheckinService.getClientIdFromCert cert with
  | error trap => exact ⟨nofun, nofun⟩
  | ok id => simp [Except.toOption]

/-- The client a session is authenticated for. -/
def TlsSession.clientId (session : TlsSession) : Option UInt32 :=
  session.certificate.bind Certificate.clientId

/-- The bytes that come in from a peer. -/
def Occurrence.arrived (clientIp : Endpoint) : Occurrence → Bytes
  | .received ip bytes => if ip = clientIp then bytes else []
  | _ => []

def TlsSession.next (clientIp : Endpoint) (session : TlsSession) :
    Occurrence → TlsSession
  | .handshakeDone ip certificate => if ip = clientIp then ⟨certificate, []⟩ else session
  | occurrence => { session with received := session.received ++ occurrence.arrived clientIp }

def tlsSession (clientIp : Endpoint) (tr : List (Event × List Action)) : TlsSession :=
  tr.foldl (fun session x => session.next clientIp x.1.occurrence) ⟨none, []⟩

theorem tlsSession_snoc (clientIp : Endpoint) (tr : List (Event × List Action))
    (x : Event × List Action) :
    tlsSession clientIp (tr ++ [x]) = (tlsSession clientIp tr).next clientIp x.1.occurrence := by
  rw [tlsSession, List.foldl_append]
  rfl

/-- The session a step belongs to is the one before it, unless the step is the
handshake that begins one. -/
theorem TlsSession.next_cases (clientIp : Endpoint) (session : TlsSession)
    (occurrence : Occurrence) :
    (∃ certificate, occurrence = .handshakeDone clientIp certificate ∧
      session.next clientIp occurrence = ⟨certificate, []⟩) ∨
    (∀ certificate, occurrence ≠ .handshakeDone clientIp certificate) ∧
      session.next clientIp occurrence =
        { session with received := session.received ++ occurrence.arrived clientIp } := by
  cases occurrence with
  | handshakeDone ip certificate =>
    by_cases hip : ip = clientIp
    · subst hip
      exact .inl ⟨certificate, rfl, by rw [next, if_pos rfl]⟩
    · refine .inr ⟨fun certificate' h => hip (Occurrence.handshakeDone.inj h).1, ?_⟩
      simp only [next, if_neg hip, Occurrence.arrived, List.append_nil]
  | _ => exact .inr ⟨nofun, rfl⟩

/-- A message belongs to a session: it came in there, and the certificate shown
there names its client. -/
structure InSession (session : TlsSession) (clientId : UInt32) (msgString : Bytes) : Prop where
  bytes : msgString <:+: session.received
  certificate : ∃ cert, session.certificate = some cert ∧
    CheckinService.getClientIdFromCert cert = .ok clientId

namespace CheckinService

variable {env : Env} {io : Io} {found : Surroundings} {s₀ s s' : CheckinService}
  {tr : List (Event × List Action)} {acts : List Action} {occurrence : Occurrence}
  {clientIp : Endpoint}

/-! ## What a step does to a buffer -/

theorem unread_consume (s : CheckinService) (ip : Endpoint) (n : Nat) (clientIp : Endpoint) :
    (s.consume ip n).unread clientIp <:+ s.unread clientIp := by
  by_cases hip : clientIp = ip
  · subst hip
    have hdrop : (s.consume clientIp n).unread clientIp = (s.unread clientIp).drop n := by
      change (Map.set _ _ _ _).getD [] = _
      rw [Map.set_self, Option.getD_some]
    rw [hdrop]
    exact List.drop_suffix _ _
  · have hkeep : (s.consume ip n).unread clientIp = s.unread clientIp := by
      change (Map.set _ _ _ _).getD [] = _
      rw [Map.set_of_ne _ hip]
      rfl
    simp only [hkeep, List.suffix_rfl]

/-- Making the buffer of a peer adds no bytes. -/
theorem getD_emplace_nil (buffers : Map Endpoint Bytes) (ip clientIp : Endpoint) :
    (buffers.emplace ip [] clientIp).getD [] = (buffers clientIp).getD [] := by
  cases hbuffer : buffers ip with
  | some bytes => rw [Map.emplace_of_some hbuffer]
  | none =>
    rw [Map.emplace_of_none hbuffer]
    by_cases hip : clientIp = ip
    · subst hip
      rw [Map.set_self, hbuffer]
      rfl
    · rw [Map.set_of_ne _ hip]

theorem unread_startSizeRead (s : CheckinService) (ip clientIp : Endpoint) :
    (s.startSizeRead ip).unread clientIp = s.unread clientIp :=
  getD_emplace_nil s.clientBuffers ip clientIp

theorem unread_openSession (s : CheckinService) (ip clientIp : Endpoint) :
    (s.openSession ip).unread clientIp = s.unread clientIp :=
  unread_startSizeRead ((s.finishHandshake ip).openStream ip) ip clientIp

theorem unread_startPayloadRead (s : CheckinService) (ip : Endpoint) (n : UInt64)
    (clientIp : Endpoint) : (s.startPayloadRead ip n).unread clientIp = s.unread clientIp :=
  getD_emplace_nil s.clientBuffers ip clientIp

theorem unread_deliver (s : CheckinService) (ip : Endpoint) (clientId : UInt32)
    (clientIp : Endpoint) : (s.deliver ip clientId).unread clientIp <:+ s.unread clientIp :=
  unread_consume (s.finishRead ip) ip _ clientIp

/-- A step adds to a buffer what came in, and takes from its front. -/
theorem Step.unread (h : Step env io s occurrence s' acts) (clientIp : Endpoint) :
    s'.unread clientIp <:+ s.unread clientIp ++ occurrence.arrived clientIp := by
  have quiet {m : CheckinService} (hm : m.unread clientIp <:+ s.unread clientIp) :
      m.unread clientIp <:+ s.unread clientIp ++ [] := by rwa [List.append_nil]
  have same {m : CheckinService} (hm : m.unread clientIp = s.unread clientIp) :
      m.unread clientIp <:+ s.unread clientIp ++ [] := quiet (by rw [hm])
  cases h with
  | uncertified | certified => exact same (unread_openSession ..)
  | @received ip _ bytes _ _ =>
    simp only [Occurrence.arrived]
    change (Map.set _ _ _ _).getD [] <:+ _
    split
    · next hip =>
      subst hip
      simp only [Map.set_self, Option.getD_some, List.suffix_rfl]
    · next hip =>
      rw [Map.set_of_ne _ (Ne.symm hip), List.append_nil]
      rfl
  | sizeRead _ _ =>
    apply quiet
    rw [unread_startPayloadRead]
    exact unread_consume _ _ _ clientIp
  | unknownIp _ _ => exact quiet (unread_consume _ _ _ clientIp)
  | @unknownId ip _ clientId | @undecoded ip _ clientId =>
    exact quiet (unread_deliver s ip clientId clientIp)
  | @ticketRequest ip _ clientId _ _ _ _ _ _ _ _ _ _ _ houtcome =>
    have hdeliver := unread_deliver s ip clientId clientIp
    cases houtcome <;> exact quiet hdeliver
  | @checkinRequest ip _ clientId _ _ _ _ _ _ _ _ _ _ _ houtcome =>
    have hdeliver := unread_deliver s ip clientId clientIp
    cases houtcome with
    | unanswered _ => exact quiet hdeliver
    | denied _ _ | accepted _ _ _ _ _ _ _ =>
      apply quiet
      rw [unread_startSizeRead]
      exact hdeliver
  | _ => exact same rfl

/-- Only a certificate names the client of an endpoint. -/
theorem Step.clientIdMap (h : Step env io s occurrence s' acts) :
    (∃ ip cert clientId, occurrence = .handshakeDone ip (some cert) ∧
      getClientIdFromCert cert = .ok clientId ∧
      s'.clientIdMap = s.clientIdMap.set ip clientId) ∨
    (∀ ip cert, occurrence ≠ .handshakeDone ip (some cert)) ∧ s'.clientIdMap = s.clientIdMap := by
  cases h with
  | certified _ hid _ _ _ => exact .inl ⟨_, _, _, rfl, hid, rfl⟩
  | ticketRequest _ _ _ _ _ _ houtcome => cases houtcome <;> exact .inr ⟨nofun, rfl⟩
  | checkinRequest _ _ _ _ _ _ houtcome => cases houtcome <;> exact .inr ⟨nofun, rfl⟩
  | _ => exact .inr ⟨nofun, rfl⟩

/-! ## Handshakes that find nothing of an earlier session -/

/-- A handshake that completes finds no unread bytes. -/
def findsNoBytes (s : CheckinService) : Occurrence → Bool
  | .handshakeDone clientIp _ => (s.unread clientIp).isEmpty
  | _ => true

/-- A handshake that completes without a certificate finds no client id. -/
def findsNoId (s : CheckinService) : Occurrence → Bool
  | .handshakeDone clientIp none => (s.clientIdMap clientIp).isNone
  | _ => true

/-- The unread bytes of an endpoint came in during its session. -/
theorem unread_of_run (hstart : start env found = .ok s₀) (hrun : Run (next env) s₀ tr s)
    (hclean : Throughout (next env) (fun s e => s.findsNoBytes e.occurrence = true) s₀ tr)
    (clientIp : Endpoint) : s.unread clientIp <:+ (tlsSession clientIp tr).received := by
  apply hrun.historyUnder (I := fun tr s =>
    s.unread clientIp <:+ (tlsSession clientIp tr).received) hclean
  · obtain ⟨table, -, rfl⟩ := start_eq_ok hstart
    exact List.suffix_rfl
  · intro tr m e m' acts hm hfinds hnext
    obtain ⟨-, m₁, hstep, rfl⟩ := next_step hnext
    have hunread : m₁.unread clientIp <:+ m.unread clientIp ++ e.occurrence.arrived clientIp :=
      hstep.unread clientIp
    rw [tlsSession_snoc]
    rcases TlsSession.next_cases clientIp (tlsSession clientIp tr) e.occurrence with
      ⟨certificate, hocc, hsession⟩ | ⟨-, hsession⟩
    · rw [hsession]
      rw [hocc, findsNoBytes, List.isEmpty_iff] at hfinds
      rwa [hfinds, hocc] at hunread
    · rw [hsession]
      obtain ⟨taken, htaken⟩ := hm
      refine hunread.trans ⟨taken, ?_⟩
      rw [← List.append_assoc, htaken]

/-- The client id of an endpoint is the one its session is authenticated for. -/
theorem clientIdMap_of_run (hstart : start env found = .ok s₀) (hrun : Run (next env) s₀ tr s)
    (hclean : Throughout (next env) (fun s e => s.findsNoId e.occurrence = true) s₀ tr)
    (clientIp : Endpoint) : s.clientIdMap clientIp = (tlsSession clientIp tr).clientId := by
  apply hrun.historyUnder (I := fun tr s =>
    s.clientIdMap clientIp = (tlsSession clientIp tr).clientId) hclean
  · obtain ⟨table, -, rfl⟩ := start_eq_ok hstart
    rfl
  · intro tr m e m' acts hm hfinds hnext
    obtain ⟨-, m₁, hstep, rfl⟩ := next_step hnext
    change m₁.clientIdMap clientIp = _
    rw [tlsSession_snoc]
    rcases TlsSession.next_cases clientIp (tlsSession clientIp tr) e.occurrence with
      ⟨certificate, hocc, hsession⟩ | ⟨hother, hsession⟩
    · rw [hsession]
      rcases hstep.clientIdMap with ⟨ip, cert, clientId, hocc', hid, hmap⟩ | ⟨hnone, hmap⟩
      · rw [hocc] at hocc'
        obtain ⟨rfl, rfl⟩ := Occurrence.handshakeDone.inj hocc'
        rw [hmap, Map.set_self]
        exact (Certificate.clientId_eq_some.mpr hid).symm
      · cases certificate with
        | some cert => exact absurd hocc (hnone clientIp cert)
        | none =>
          rw [hocc, findsNoId, Option.isNone_iff_eq_none] at hfinds
          rw [hmap]
          exact hfinds
    · have hkept : m₁.clientIdMap clientIp = m.clientIdMap clientIp := by
        rcases hstep.clientIdMap with ⟨ip, cert, clientId, hocc, -, hmap⟩ | ⟨-, hmap⟩
        · have hip : clientIp ≠ ip := by
            rintro rfl
            exact hother _ hocc
          rw [hmap, Map.set_of_ne _ hip]
          rfl
        · rw [hmap]
          rfl
      rw [hkept, hm, hsession]
      rfl

/-! ## Messages and their sessions -/

/-- A message that is dispatched is a line of the endpoint's buffer, and goes to
the client the endpoint is on record for, which is a known one. -/
structure Hands (s : CheckinService) (clientIp : Endpoint) (clientId : UInt32)
    (msgString : Bytes) : Prop where
  line : msgString = s.line clientIp
  complete : newline ∈ s.unread clientIp
  client : s.clientIdMap clientIp = some clientId
  known : (s.clients clientId).isSome = true

section Hands

variable {ip : Endpoint} {clientId : UInt32} {type : ClientType} {msgString : Bytes}

theorem Checks.no_dispatched (h : s.Checks clientIp acts) :
    .dispatched ip clientId type msgString ∉ acts := by
  intro ha
  rcases h _ ha with ⟨_, _, _, heq⟩ | ⟨_, _, heq, -⟩ <;> cases heq

theorem CheckinOutcome.no_dispatched {request : CheckinRequest}
    (h : CheckinOutcome env io s clientIp request s' acts) :
    .dispatched ip clientId type msgString ∉ acts := by
  intro ha
  cases h with
  | unanswered _ => cases ha
  | denied _ hchecks | accepted _ hchecks _ _ _ _ _ =>
    rcases List.mem_append.mp ha with ha | ha
    · exact hchecks.no_dispatched ha
    · cases List.mem_singleton.mp ha

theorem TicketOutcome.no_dispatched {request : TicketRequest}
    (h : TicketOutcome env io s clientIp request s' acts) :
    .dispatched ip clientId type msgString ∉ acts := by
  intro ha
  cases h with
  | refused _ hchecks => exact hchecks.no_dispatched ha
  | denied _ hchecks hfaults =>
    rcases List.mem_append.mp ha with ha | ha
    · exact hchecks.no_dispatched ha
    · rcases List.mem_cons.mp ha with heq | ha
      · cases heq
      · exact hfaults.no_dispatched ha
  | approved _ hchecks _ _ _ =>
    rcases List.mem_append.mp ha with ha | ha
    · exact hchecks.no_dispatched ha
    · cases List.mem_singleton.mp ha

/-- What the handler of a complete message does first is to hand it over. -/
theorem hands_of_dispatch {n : UInt64} {sender : UInt32} {client : ClientInfo}
    (harrived : s.Arrived clientIp n) (hid : s.clientIdMap clientIp = some sender)
    (hclient : s.clients sender = some client)
    (hrest : .dispatched ip clientId type msgString ∉ acts)
    (ha : .dispatched ip clientId type msgString ∈
      .dispatched clientIp sender client.type (s.line clientIp) :: acts) :
    s.Hands ip clientId msgString := by
  rcases List.mem_cons.mp ha with heq | ha
  · obtain ⟨rfl, rfl, -, rfl⟩ := Action.dispatched.inj heq
    exact ⟨rfl, harrived.complete, hid, by rw [hclient]; rfl⟩
  · exact absurd ha hrest

theorem Step.hands (h : Step env io s occurrence s' acts)
    (ha : .dispatched ip clientId type msgString ∈ acts) : s.Hands ip clientId msgString := by
  cases h with
  | undecoded harrived hid hclient _ hchecks =>
    exact hands_of_dispatch harrived hid hclient hchecks.no_dispatched ha
  | ticketRequest harrived hid hclient _ _ _ houtcome =>
    exact hands_of_dispatch harrived hid hclient houtcome.no_dispatched ha
  | checkinRequest harrived hid hclient _ _ _ houtcome =>
    exact hands_of_dispatch harrived hid hclient houtcome.no_dispatched ha
  | certified _ _ _ _ hacts =>
    obtain ⟨_, heq⟩ := hacts _ ha
    cases heq
  | handshakeFailed | mismatch | payloadLost | unknownIp | unknownId =>
    cases List.mem_singleton.mp ha
  | _ => cases ha

theorem Crash.hands (h : Crash s occurrence acts)
    (ha : .dispatched ip clientId type msgString ∈ acts) : s.Hands ip clientId msgString := by
  cases h with
  | silent _ => cases ha
  | checking harrived hid hclient hchecks =>
    exact hands_of_dispatch harrived hid hclient hchecks.no_dispatched ha

/-- So it is at every step of a process, the last one included. -/
theorem hands_of_event {e : Event}
    (h : (∃ s', next env s e = some (s', acts)) ∨ crash env s e = some acts)
    (ha : .dispatched ip clientId type msgString ∈ acts) : s.Hands ip clientId msgString := by
  rcases h with ⟨s', hnext⟩ | hcrash
  · obtain ⟨-, s₁, hstep, -⟩ := next_step hnext
    obtain ⟨hline, hcomplete, hclient, hknown⟩ := hstep.hands ha
    exact ⟨hline, hcomplete, hclient, hknown⟩
  · obtain ⟨hline, hcomplete, hclient, hknown⟩ := (crash_step hcrash).hands ha
    exact ⟨hline, hcomplete, hclient, hknown⟩

/-- A complete line is the front of the buffer. -/
theorem firstLine_starts {unread : Bytes} (h : newline ∈ unread) : firstLine unread <+: unread := by
  induction unread with
  | nil => cases h
  | cons b unread ih =>
    by_cases hb : b = newline
    · subst hb
      exact ⟨unread, by simp [firstLine]⟩
    · obtain ⟨rest, hrest⟩ := ih ((List.mem_cons.mp h).resolve_left (Ne.symm hb))
      have hline : firstLine (b :: unread) = b :: firstLine unread := by simp [firstLine, hb]
      exact ⟨rest, by rw [hline, List.cons_append, hrest]⟩

end Hands

/-- **Session isolation.** -/
theorem sessions_are_isolated (hstart : start env found = .ok s₀)
    (hlife : Lifetime (next env) (crash env) s₀ tr)
    (hbytes : Throughout (next env) (fun s e => s.findsNoBytes e.occurrence = true) s₀ tr)
    (hid : Throughout (next env) (fun s e => s.findsNoId e.occurrence = true) s₀ tr) :
    ∀ pre e acts post, tr = pre ++ (e, acts) :: post → ∀ clientIp clientId type msgString,
      .dispatched clientIp clientId type msgString ∈ acts →
        InSession (tlsSession clientIp pre) clientId msgString := by
  rintro pre e acts post rfl clientIp clientId type msgString ha
  obtain ⟨m, hrun, hstep⟩ := hlife.step
  have hhands := hands_of_event hstep ha
  constructor
  · rw [hhands.line]
    exact (firstLine_starts hhands.complete).isInfix.trans
      (unread_of_run hstart hrun hbytes.past clientIp).isInfix
  · have hclient := clientIdMap_of_run hstart hrun hid.past clientIp
    rw [hhands.client] at hclient
    obtain ⟨cert, hcert, hname⟩ := Option.bind_eq_some_iff.mp hclient.symm
    exact ⟨cert, hcert, Certificate.clientId_eq_some.mp hname⟩

section Rehearsal

open Rehearsal

/-- The tablet sends two lines behind a wrong size, connects again from the same
endpoint, and sends nothing. -/
def leftover : List Event :=
  connect (instant 1 0) tabletIp (some (certificate tabletId tabletKey)) ++
  [⟨instant 2 0, .received tabletIp (bytes "9\n2\nhi\n")⟩, ⟨instant 2 0, .lineRead tabletIp⟩,
    ⟨instant 2 0, .lineRead tabletIp⟩] ++
  connect (instant 3 0) tabletIp (some (certificate tabletId tabletKey)) ++
  [⟨instant 4 0, .lineRead tabletIp⟩, ⟨instant 4 0, .lineRead tabletIp⟩]

/-- The tablet goes away, and somebody without a certificate takes over its
endpoint. -/
def takeover : List Event :=
  connect (instant 1 0) tabletIp (some (certificate tabletId tabletKey)) ++
  [⟨instant 2 0, .readFailed tabletIp .eof⟩] ++
  connect (instant 3 0) tabletIp none ++ send (instant 4 0) tabletIp (bytes "hi")

/-- The tablet sends a message, and another one from a second endpoint. -/
def reconnect : List Event :=
  connect (instant 1 0) tabletIp (some (certificate tabletId tabletKey)) ++
  send (instant 2 0) tabletIp (bytes "hi") ++
  connect (instant 3 0) kioskIp none ++ [⟨instant 4 0, .readFailed kioskIp .eof⟩] ++
  connect (instant 5 0) kioskIp (some (certificate tabletId tabletKey)) ++
  send (instant 6 0) kioskIp (bytes "hi")

/-- The run ends with this message, dispatched in such a session. -/
def endsWith (clientIp : Endpoint) (clientId : UInt32) (p : TlsSession → Bool)
    (tr : List (Event × List Action)) : Bool :=
  tr.getLast?.any fun x =>
    x.2.contains (.dispatched clientIp clientId .trustedClient (bytes "hi\n")) &&
      p (tlsSession clientIp tr.dropLast)

theorem exists_of_endsWith {clientId : UInt32} {p : TlsSession → Bool}
    (h : endsWith clientIp clientId p tr = true) :
    ∃ pre e acts, tr = pre ++ [(e, acts)] ∧
      .dispatched clientIp clientId .trustedClient (bytes "hi\n") ∈ acts ∧
      p (tlsSession clientIp pre) = true := by
  obtain ⟨⟨e, acts⟩, hlast, hx⟩ := (Option.any_eq_true _ _).mp h
  obtain ⟨pre, rfl⟩ := List.getLast?_eq_some_iff.mp hlast
  rw [Bool.and_eq_true, List.contains_iff_mem, List.dropLast_concat] at hx
  exact ⟨pre, e, acts, rfl, hx.1, hx.2⟩

/-- What an earlier session left behind reaches the next one: bytes, and the
client id. -/
theorem sessions_leak :
    (∃ tr s, Run (next Rehearsal.env) opening tr s ∧ ∃ pre e acts, tr = pre ++ [(e, acts)] ∧
      ∃ msgString, .dispatched tabletIp tabletId .trustedClient msgString ∈ acts ∧
        ¬ msgString <:+: (tlsSession tabletIp pre).received) ∧
    ∃ tr s, Run (next Rehearsal.env) opening tr s ∧ ∃ pre e acts, tr = pre ++ [(e, acts)] ∧
      ∃ msgString, .dispatched tabletIp tabletId .trustedClient msgString ∈ acts ∧
        (tlsSession tabletIp pre).certificate = none := by
  constructor
  · have hexec : (exec (next Rehearsal.env) opening leftover).any (fun r =>
        endsWith tabletIp tabletId (·.received.isEmpty) r.1) = true := by decide +kernel
    obtain ⟨tr, s, hrun, hends⟩ := Run.exists_of_exec hexec
    obtain ⟨pre, e, acts, htr, ha, hempty⟩ := exists_of_endsWith hends
    refine ⟨tr, s, hrun, pre, e, acts, htr, _, ha, ?_⟩
    rw [List.isEmpty_iff.mp hempty, List.infix_nil]
    decide +kernel
  · have hexec : (exec (next Rehearsal.env) opening takeover).any (fun r =>
        endsWith tabletIp tabletId (·.certificate.isNone) r.1) = true := by decide +kernel
    obtain ⟨tr, s, hrun, hends⟩ := Run.exists_of_exec hexec
    obtain ⟨pre, e, acts, htr, ha, hnone⟩ := exists_of_endsWith hends
    exact ⟨tr, s, hrun, pre, e, acts, htr, _, ha, Option.isNone_iff_eq_none.mp hnone⟩

/-- The second endpoint of the tablet is used twice, and no harm is done. -/
theorem sessions_are_isolated_rehearsal :
    ∃ tr s, Run (next Rehearsal.env) opening tr s ∧ ∃ pre e acts, tr = pre ++ [(e, acts)] ∧
      .dispatched kioskIp tabletId .trustedClient (bytes "hi\n") ∈ acts ∧
      InSession (tlsSession kioskIp pre) tabletId (bytes "hi\n") := by
  have hends : (exec (next Rehearsal.env) opening reconnect).any (fun r =>
      endsWith kioskIp tabletId (fun _ => true) r.1) = true := by decide +kernel
  have hbytes : along (next Rehearsal.env) (fun s e => s.findsNoBytes e.occurrence) opening
      reconnect =
      true := by decide +kernel
  have hid : along (next Rehearsal.env) (fun s e => s.findsNoId e.occurrence) opening reconnect =
      true := by decide +kernel
  cases hexec : exec (next Rehearsal.env) opening reconnect with
  | none =>
    rw [hexec] at hends
    cases hends
  | some r =>
    obtain ⟨tr, s⟩ := r
    rw [hexec, Option.any_some] at hends
    obtain ⟨pre, e, acts, htr, ha, -⟩ := exists_of_endsWith hends
    have hrun := Run.of_exec hexec
    exact ⟨tr, s, hrun, pre, e, acts, htr, ha,
      sessions_are_isolated start_opening (.alive hrun) (.of_along hexec hbytes)
        (.of_along hexec hid) pre e acts [] htr _ _ _ _ ha⟩

end Rehearsal

end CheckinService

end Pollbook
