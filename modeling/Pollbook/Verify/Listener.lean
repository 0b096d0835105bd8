import Pollbook.Rehearsal
import Pollbook.Verify.IdSteps
import Pollbook.Verify.IdSurvival
import Pollbook.Verify.Survival

/-!
# The accept chain

Both services accept one connection at a time: the handler of `async_accept`
starts the handshake, and the handler of the handshake accepts again. Only an
accept that completes with an error breaks the chain, because `handle_accept`
does nothing then; and the whole service ends with a handler that an exception
escapes from. `Listening` says that the chain is whole, and
`listeners_keep_listening` that nothing else breaks it.
-/

namespace Pollbook

/-! ## The check-in service -/

/-- An accept that completes with an error is not made again. -/
def Occurrence.breaks : Occurrence → Nat
  | .acceptFailed => 1
  | _ => 0

theorem Occurrence.breaks_eq_zero {occurrence : Occurrence} :
    occurrence.breaks = 0 ↔ occurrence ≠ .acceptFailed := by
  cases occurrence with
  | acceptFailed => simp [breaks]
  | _ => exact iff_of_true rfl nofun

namespace CheckinService

variable {env : Env} {io : Io} {s s' : CheckinService} {occurrence : Occurrence}
  {acts : List Action}

/-- The accepts and the handshakes that are outstanding. -/
def chain (s : CheckinService) : Nat := s.accepts + s.handshakes.length

/-- One accept is outstanding, or one handshake that will accept again. -/
def Listening (s : CheckinService) : Prop := s.chain = 1

theorem chain_openSession {clientIp : Endpoint} (h : clientIp ∈ s.handshakes) :
    (s.openSession clientIp).chain = s.chain := by
  change s.accepts + 1 + (s.handshakes.erase clientIp).length = s.accepts + s.handshakes.length
  have hlength := List.length_erase_of_mem h
  have hpos := List.length_pos_of_mem h
  omega

theorem Step.chain (h : Step env io s occurrence s' acts) :
    s'.chain + occurrence.breaks = s.chain := by
  cases h with
  | accepted clientIp haccepts =>
    change s.accepts - 1 + (s.handshakes.length + 1) + 0 = s.accepts + s.handshakes.length
    omega
  | acceptFailed haccepts =>
    change s.accepts - 1 + s.handshakes.length + 1 = s.accepts + s.handshakes.length
    omega
  | uncertified clientIp hpending => exact chain_openSession hpending
  | @certified clientIp _ clientId k clients _ hpending =>
    have hsame : clientIp ∈ (s.admitAs clientIp clientId k clients).handshakes := hpending
    exact chain_openSession hsame
  | handshakeFailed clientIp _ hpending => exact chain_openSession hpending
  | ticketRequest _ _ _ _ _ _ houtcome => cases houtcome <;> rfl
  | checkinRequest _ _ _ _ _ _ houtcome => cases houtcome <;> rfl
  | _ => rfl

theorem next_chain {e : Event} (h : next env s e = some (s', acts)) :
    s'.chain + e.occurrence.breaks = s.chain := by
  obtain ⟨-, s₁, hstep, rfl⟩ := next_step h
  exact hstep.chain

/-! ### Handlers that return -/

/-- The handler of this event returns: the peer that was accepted is still
there, the certificate of a handshake has a client id for its name, and a line
is one the service survives. -/
def Survivable (env : Env) (io : Io) (s : CheckinService) : Occurrence → Prop
  | .acceptedGone => False
  | .handshakeDone _ (some cert) => ∃ clientId, getClientIdFromCert cert = .ok clientId
  | .lineRead clientIp => LineSurvives env io s clientIp
  | _ => True

theorem admitKey_returns (env : Env) (io : Io) (s : CheckinService) (clientId : UInt32)
    (key : EnvelopeKey) : (s.admitKey env io clientId key).Returns := by
  unfold admitKey
  split
  · split
    · exact Call.returns_pure _
    · exact rejectWith_returns ..
  · exact Call.returns_pure _

theorem handshakeDone_returns {clientIp : Endpoint} {certificate : Option Certificate}
    (before : CheckinService) :
    (s.handshakeDone env io clientIp certificate).Returns ↔
      Survivable env io before (.handshakeDone clientIp certificate) := by
  unfold handshakeDone
  cases certificate with
  | none => exact iff_of_true (Call.returns_bind.mpr ⟨s, [], rfl, Call.returns_pure _⟩) trivial
  | some cert =>
    rw [Call.returns_bind]
    constructor
    · rintro ⟨m, acts, hcert, -⟩
      obtain ⟨clientId, k, clients, hid, -⟩ := admitCertificate_returned hcert
      exact ⟨clientId, hid⟩
    · rintro ⟨clientId, hid⟩
      have hreturns : (s.admitCertificate env io clientIp cert).Returns := by
        unfold admitCertificate
        rw [hid, Call.ofCpp_ok, Call.returned_bind, Call.after_nil]
        dsimp only
        split
        · exact Call.returns_pure _
        · obtain ⟨m, acts, hadmit⟩ := admitKey_returns env io
            { s with clientIdMap := s.clientIdMap.set clientIp clientId } clientId _
          exact Call.returns_bind.mpr ⟨m, acts, hadmit, Call.returns_pure _⟩
      obtain ⟨m, acts, hadmit⟩ := hreturns
      exact ⟨m, acts, hadmit, Call.returns_pure _⟩

theorem handle_returns (hc : env.toCodec.Lawful) (hstreams : s.HasStreams)
    {call : Call Action CheckinService} (h : handle env io s occurrence = some call) :
    call.Returns ↔ Survivable env io s occurrence := by
  cases occurrence with
  | acceptedGone =>
    simp only [handle] at h
    split at h
    · cases h
    · rw [← Option.some.inj h]
      exact iff_of_false (Call.not_returns_threw _ _) id
  | handshakeDone clientIp certificate =>
    simp only [handle] at h
    split at h
    · rw [← Option.some.inj h]
      exact handshakeDone_returns s
    · cases h
  | lineRead clientIp => exact lineRead_returns hc (hstreams clientIp) h
  | handshakeFailed clientIp message =>
    simp only [handle] at h
    split at h
    · rw [← Option.some.inj h]
      exact iff_of_true (rejectWith_returns ..) trivial
    · cases h
  | readFailed clientIp error =>
    simp only [handle] at h
    split at h
    · rw [← Option.some.inj h]
      refine iff_of_true ?_ trivial
      unfold readFailed
      split
      · exact rejectWith_returns ..
      · exact Call.returns_pure _
    · cases h
  | accepted clientIp | acceptFailed =>
    simp only [handle] at h
    split at h
    · cases h
    · rw [← Option.some.inj h]
      exact iff_of_true (Call.returns_pure _) trivial
  | received clientIp bytes =>
    simp only [handle] at h
    split at h
    · split at h
      · cases h
      · rw [← Option.some.inj h]
        exact iff_of_true (Call.returns_pure _) trivial
    · cases h
  | timerExpired id | timedOut id | waitAborted id =>
    simp only [handle] at h
    split at h
    · split at h
      · rw [← Option.some.inj h]
        exact iff_of_true (Call.returns_pure _) trivial
      · cases h
    · cases h
  | signed key message =>
    rw [← Option.some.inj h]
    exact iff_of_true (Call.returns_pure _) trivial

/-- The event leaves the service listening. -/
def KeepsListening (env : Env) (s : CheckinService) (e : Event) : Prop :=
  e.occurrence ≠ .acceptFailed ∧ Survivable env e.io (s.atTime e.io.steadyNow) e.occurrence

theorem step_returns (hc : env.toCodec.Lawful) (hstreams : s.HasStreams) {e : Event}
    {call : Call Action CheckinService} (h : step env s e = some call) :
    call.Returns ↔ Survivable env e.io (s.atTime e.io.steadyNow) e.occurrence := by
  unfold step at h
  split at h
  · have hstreams' : (s.atTime e.io.steadyNow).HasStreams := hstreams
    exact handle_returns hc hstreams' h
  · cases h

/-- The check-in service still listens at the end of a trace just when each of
its events left it listening. -/
theorem listening_iff {found : Surroundings} {s₀ : CheckinService}
    {tr : List (Event × List Action)} (hc : env.toCodec.Lawful)
    (hstart : start env found = .ok s₀) (hlife : Lifetime (next env) (crash env) s₀ tr) :
    (∃ s, Run (next env) s₀ tr s ∧ s.Listening) ↔
      Throughout (next env) (KeepsListening env) s₀ tr := by
  have hopening : s₀.chain = 1 := by
    obtain ⟨table, -, rfl⟩ := start_eq_ok hstart
    rfl
  have hlisten := hlife.account_iff (P := KeepsListening env) chain
    (fun e => e.occurrence.breaks) (fun s e s' o h => next_chain h)
    (fun tr m e m' acts hrun hnext => ?_) (fun tr m e acts hrun hcrash => ?_)
  · rwa [hopening] at hlisten
  · have hstep : ∃ call, step env m e = some call ∧ call.Returns := by
      unfold next at hnext
      split at hnext
      · next hstep => exact ⟨_, hstep, Call.returns_returned _ _⟩
      · cases hnext
    obtain ⟨call, hstep, hreturns⟩ := hstep
    have hsurvives := (step_returns hc (hasStreams_of_run hstart hrun) hstep).mp hreturns
    rw [Occurrence.breaks_eq_zero]
    exact ⟨And.left, fun hne => ⟨hne, hsurvives⟩⟩
  · rintro ⟨-, hsurvives⟩
    unfold crash at hcrash
    split at hcrash
    · next hstep =>
      exact Call.not_returns_threw _ _
        ((step_returns hc (hasStreams_of_run hstart hrun) hstep).mpr hsurvives)
    · cases hcrash

end CheckinService

/-! ## The ID service -/

namespace VoterIDService

@[inherit_doc Pollbook.Occurrence.breaks]
def Occurrence.breaks : Occurrence → Nat
  | .acceptFailed => 1
  | _ => 0

theorem Occurrence.breaks_eq_zero {occurrence : Occurrence} :
    occurrence.breaks = 0 ↔ occurrence ≠ .acceptFailed := by
  cases occurrence with
  | acceptFailed => simp [breaks]
  | _ => exact iff_of_true rfl nofun

namespace Process

variable {env : Env} {io : Io} {savesKey : Bool} {s s' : Process} {occurrence : Occurrence}
  {acts : List Action} {clientIp : Endpoint}

@[inherit_doc CheckinService.chain]
def chain (s : Process) : Nat := s.accepts + s.handshakes.length

@[inherit_doc CheckinService.Listening]
def Listening (s : Process) : Prop := s.chain = 1

theorem chain_openSession (h : clientIp ∈ s.handshakes) :
    (s.openSession clientIp).chain = s.chain := by
  change s.accepts + 1 + (s.handshakes.erase clientIp).length = s.accepts + s.handshakes.length
  have hlength := List.length_erase_of_mem h
  have hpos := List.length_pos_of_mem h
  omega

theorem Step.chain (h : Step env io savesKey s occurrence s' acts) :
    s'.chain + occurrence.breaks = s.chain := by
  cases h with
  | accepted clientIp haccepts =>
    change s.accepts - 1 + (s.handshakes.length + 1) + 0 = s.accepts + s.handshakes.length
    omega
  | acceptFailed haccepts =>
    change s.accepts - 1 + s.handshakes.length + 1 = s.accepts + s.handshakes.length
    omega
  | uncertified clientIp hpending => exact chain_openSession hpending
  | @certified clientIp cert clientId hpending =>
    have hsame : clientIp ∈
        { s with toKeys := s.keysAfter env savesKey clientId cert.publicKey }.handshakes := hpending
    exact chain_openSession hsame
  | handshakeFailed clientIp hpending => exact chain_openSession hpending
  | _ => rfl

/-! ### Handlers that return -/

/-- The line is survived: a size line if it has a number, and its peer a stream,
and a payload line as `VoterIDService.LineSurvives` says. -/
structure LineSurvives (env : Env) (io : Io) (s : Process) (clientIp : Endpoint) : Prop where
  size : s.reads clientIp = some .size →
    (∃ n, stoul (s.line clientIp) = .ok n) ∧ ∃ stream, s.clientSslStreams clientIp = some stream
  payload : ∀ n, s.reads clientIp = some (.payload n) →
    VoterIDService.LineSurvives env io s.toVoterIDService clientIp n (s.line clientIp)

@[inherit_doc CheckinService.Survivable]
def Survivable (env : Env) (s : Process) (e : Event) : Prop :=
  match e.occurrence with
  | .acceptedGone => False
  | .handshakeDone _ (some cert) => ∃ clientId, getClientIdFromCert cert = .ok clientId
  | .lineRead clientIp => s.LineSurvives env e.io clientIp
  | _ => True

theorem handshakeDone_returns {certificate : Option Certificate} :
    (∃ s', s.handshakeDone env savesKey clientIp certificate = .ok s') ↔
      ∀ cert, certificate = some cert → ∃ clientId, getClientIdFromCert cert = .ok clientId := by
  unfold handshakeDone
  cases certificate with
  | none => exact iff_of_true ⟨_, rfl⟩ nofun
  | some cert =>
    constructor
    · rintro ⟨s', hdone⟩ cert' ⟨⟩
      obtain ⟨m, hadmit, -⟩ := bind_eq_ok.mp hdone
      obtain ⟨clientId, hid, -⟩ := admitCertificate_eq_ok hadmit
      exact ⟨clientId, hid⟩
    · intro hall
      obtain ⟨clientId, hid⟩ := hall cert rfl
      have hadmit : ∃ m, s.admitCertificate env savesKey cert = .ok m := by
        unfold admitCertificate
        cases hkey : cert.publicKey with
        | none => exact ⟨_, bind_eq_ok.mpr ⟨clientId, hid, rfl⟩⟩
        | some key => exact ⟨_, bind_eq_ok.mpr ⟨clientId, hid, rfl⟩⟩
      obtain ⟨m, hadmit⟩ := hadmit
      exact ⟨_, bind_eq_ok.mpr ⟨m, hadmit, rfl⟩⟩

theorem sizeRead_returns (s : Process) (clientIp : Endpoint) (line : Bytes) :
    (∃ s', s.sizeRead clientIp line = .ok s') ↔
      (∃ n, stoul line = .ok n) ∧ ∃ stream, s.clientSslStreams clientIp = some stream := by
  constructor
  · rintro ⟨s', h⟩
    obtain ⟨n, hsize, h⟩ := bind_eq_ok.mp h
    obtain ⟨stream, hstream, -⟩ := bind_eq_ok.mp h
    exact ⟨⟨n, hsize⟩, stream, mapAt_eq_ok.mp hstream⟩
  · rintro ⟨⟨n, hsize⟩, stream, hstream⟩
    exact ⟨_, bind_eq_ok.mpr ⟨n, hsize, bind_eq_ok.mpr ⟨stream, mapAt_eq_ok.mpr hstream, rfl⟩⟩⟩

theorem payloadRead_returns (hc : env.toCodec.Lawful) {n : UInt64} {line : Bytes} :
    (s.payloadRead env io clientIp n line).Returns ↔
      VoterIDService.LineSurvives env io s.toVoterIDService clientIp n line := by
  have hinner : ∀ m : Process, m.toVoterIDService = s.toVoterIDService →
      ((do return { m with
        toVoterIDService := ← m.toVoterIDService.payloadRead env io clientIp n line } :
        Call Action Process).Returns ↔
      VoterIDService.LineSurvives env io s.toVoterIDService clientIp n line) := by
    intro m hm
    rw [Call.returns_bind, hm, ← VoterIDService.payloadRead_returns hc]
    constructor
    · rintro ⟨svc, acts, hread, -⟩
      exact ⟨svc, acts, hread⟩
    · rintro ⟨svc, acts, hread⟩
      exact ⟨svc, acts, hread, Call.returns_pure _⟩
  unfold payloadRead
  split
  · exact hinner _ rfl
  · exact hinner s rfl

theorem lineRead_returns (hc : env.toCodec.Lawful) {e : Event} {call : Call Action Process}
    (h : step env s e = some call) (hocc : e.occurrence = .lineRead clientIp) :
    call.Returns ↔ s.LineSurvives env e.io clientIp := by
  simp only [step, hocc] at h
  split at h
  swap
  · cases h
  next read houtstanding =>
  split at h
  swap
  · cases h
  cases read with
  | size =>
    rw [← Option.some.inj h, Call.returns_ofCpp]
    refine (sizeRead_returns ..).trans ⟨fun hsize => ⟨fun _ => hsize, fun n hn => ?_⟩, fun hline =>
      hline.size houtstanding⟩
    cases houtstanding.symm.trans hn
  | payload n =>
    rw [← Option.some.inj h]
    have hreturns : ((s.finishRead clientIp).payloadRead env e.io clientIp n
        (s.line clientIp)).Returns ↔
        VoterIDService.LineSurvives env e.io s.toVoterIDService clientIp n (s.line clientIp) :=
      payloadRead_returns hc
    refine hreturns.trans ⟨fun hline => ⟨fun hn => ?_, fun n' hn => ?_⟩, fun hline =>
      hline.payload n houtstanding⟩
    · cases houtstanding.symm.trans hn
    · cases houtstanding.symm.trans hn
      exact hline

theorem step_returns (hc : env.toCodec.Lawful) {e : Event} {call : Call Action Process}
    (h : step env s e = some call) : call.Returns ↔ Survivable env s e := by
  obtain ⟨io, savesKey, occurrence⟩ := e
  cases occurrence with
  | acceptedGone =>
    simp only [step] at h
    split at h
    · cases h
    · rw [← Option.some.inj h]
      exact iff_of_false (Call.not_returns_threw _ _) id
  | handshakeDone clientIp certificate =>
    simp only [step] at h
    split at h
    swap
    · cases h
    rw [← Option.some.inj h, Call.returns_ofCpp, handshakeDone_returns]
    cases certificate with
    | none =>
      refine iff_of_true ?_ trivial
      rintro cert ⟨⟩
    | some cert =>
      constructor
      · exact fun hall => hall cert rfl
      · rintro hid cert' ⟨⟩
        exact hid
  | lineRead clientIp => exact lineRead_returns hc h rfl
  | accepted clientIp | acceptFailed =>
    simp only [step] at h
    split at h
    · cases h
    · rw [← Option.some.inj h]
      exact iff_of_true (Call.returns_pure _) trivial
  | handshakeFailed clientIp =>
    simp only [step] at h
    split at h
    · rw [← Option.some.inj h]
      exact iff_of_true (Call.returns_pure _) trivial
    · cases h
  | received clientIp bytes =>
    simp only [step] at h
    split at h
    · split at h
      · cases h
      · rw [← Option.some.inj h]
        exact iff_of_true (Call.returns_pure _) trivial
    · cases h
  | readFailed clientIp error =>
    simp only [step] at h
    split at h
    · rw [← Option.some.inj h]
      exact iff_of_true (Call.returns_pure _) trivial
    · cases h

@[inherit_doc CheckinService.KeepsListening]
def KeepsListening (env : Env) (s : Process) (e : Event) : Prop :=
  e.occurrence ≠ .acceptFailed ∧ Survivable env s e

/-- The ID service still listens at the end of a trace just when each of its
events left it listening. -/
theorem listening_iff {found : Surroundings} {s₀ : Process} {tr : List (Event × List Action)}
    (hc : env.toCodec.Lawful) (hstart : start env found = .ok s₀)
    (hlife : Lifetime (next env) (crash env) s₀ tr) :
    (∃ s, Run (next env) s₀ tr s ∧ s.Listening) ↔
      Throughout (next env) (KeepsListening env) s₀ tr := by
  have hopening : s₀.chain = 1 := by
    obtain ⟨keys, -, rfl⟩ := start_eq_ok hstart
    rfl
  have hlisten := hlife.account_iff (P := KeepsListening env) chain
    (fun e => e.occurrence.breaks) (fun s e s' o h => (next_step h).chain)
    (fun tr m e m' acts hrun hnext => ?_) (fun tr m e acts hrun hcrash => ?_)
  · rwa [hopening] at hlisten
  · have hstep : ∃ call, step env m e = some call ∧ call.Returns := by
      unfold next at hnext
      split at hnext
      · next hstep => exact ⟨_, hstep, Call.returns_returned _ _⟩
      · cases hnext
    obtain ⟨call, hstep, hreturns⟩ := hstep
    have hsurvives := (step_returns hc hstep).mp hreturns
    rw [Occurrence.breaks_eq_zero]
    exact ⟨And.left, fun hne => ⟨hne, hsurvives⟩⟩
  · rintro ⟨-, hsurvives⟩
    unfold crash at hcrash
    split at hcrash
    · next hstep => exact Call.not_returns_threw _ _ ((step_returns hc hstep).mpr hsurvives)
    · cases hcrash

end Process

end VoterIDService

/-! ## Both services -/

/-- **Listening.** -/
theorem listeners_keep_listening (env : Env) (idEnv : VoterIDService.Env) :
    (∀ (found : CheckinService.Surroundings) (s₀ : CheckinService)
      (tr : List (Event × List Action)), env.toCodec.Lawful →
      CheckinService.start env found = .ok s₀ →
      Lifetime (CheckinService.next env) (CheckinService.crash env) s₀ tr →
      ((∃ s, Run (CheckinService.next env) s₀ tr s ∧ s.Listening) ↔
        Throughout (CheckinService.next env) (CheckinService.KeepsListening env) s₀ tr)) ∧
    ∀ (found : VoterIDService.Surroundings) (s₀ : VoterIDService.Process)
      (tr : List (VoterIDService.Event × List VoterIDService.Action)), idEnv.toCodec.Lawful →
      VoterIDService.start idEnv found = .ok s₀ →
      Lifetime (VoterIDService.Process.next idEnv) (VoterIDService.Process.crash idEnv) s₀ tr →
      ((∃ s, Run (VoterIDService.Process.next idEnv) s₀ tr s ∧ s.Listening) ↔
        Throughout (VoterIDService.Process.next idEnv)
          (VoterIDService.Process.KeepsListening idEnv) s₀ tr) :=
  ⟨fun _ _ _ hc hstart hlife => CheckinService.listening_iff hc hstart hlife,
    fun _ _ _ hc hstart hlife => VoterIDService.Process.listening_iff hc hstart hlife⟩

section Rehearsal

open Rehearsal

/-- The voter is checked in, and the kiosk's request to the ID service answered;
both services still listen. -/
theorem listeners_keep_listening_rehearsal :
    (∃ tr, tr.map (·.1.occurrence) = checkinRun.map (·.occurrence) ∧
      (tr.flatMap fun x => x.2.filterMap Action.redeemed) = [(voter, ticket 7)] ∧
      Throughout (CheckinService.next env) (CheckinService.KeepsListening env) opening tr) ∧
    ∃ tr, tr.map (·.1.occurrence) = idAsk.map (·.occurrence) ∧
      (tr.flatMap fun x => x.2.filterMap VoterIDService.Action.sent).length = 1 ∧
      Throughout (VoterIDService.Process.next idEnv)
        (VoterIDService.Process.KeepsListening idEnv) idOpening tr := by
  constructor
  · have hexec : (exec (CheckinService.next env) opening checkinRun).any (fun r =>
        decide (r.1.map (·.1.occurrence) = checkinRun.map (·.occurrence)) &&
        (decide ((r.1.flatMap fun x => x.2.filterMap Action.redeemed) = [(voter, ticket 7)]) &&
        decide (r.2.chain = 1))) = true := by decide +kernel
    obtain ⟨tr, s, hrun, htr⟩ := Run.exists_of_exec hexec
    simp only [Bool.and_eq_true, decide_eq_true_eq] at htr
    obtain ⟨hevents, hanswered, hlistening⟩ := htr
    exact ⟨tr, hevents, hanswered, ((listeners_keep_listening env idEnv).1 found opening tr
      Codec.reference_lawful start_opening (.alive hrun)).mp ⟨s, hrun, hlistening⟩⟩
  · have hexec : (exec (VoterIDService.Process.next idEnv) idOpening idAsk).any (fun r =>
        decide (r.1.map (·.1.occurrence) = idAsk.map (·.occurrence)) &&
        (decide ((r.1.flatMap fun x => x.2.filterMap VoterIDService.Action.sent).length = 1) &&
        decide (r.2.chain = 1))) = true := by decide +kernel
    obtain ⟨tr, s, hrun, htr⟩ := Run.exists_of_exec hexec
    simp only [Bool.and_eq_true, decide_eq_true_eq] at htr
    obtain ⟨hevents, hanswered, hlistening⟩ := htr
    exact ⟨tr, hevents, hanswered, ((listeners_keep_listening env idEnv).2 idFound idOpening tr
      Codec.reference_lawful start_idOpening (.alive hrun)).mp ⟨s, hrun, hlistening⟩⟩

/-- After one failed accept neither service accepts anybody. -/
theorem failed_accept_is_final :
    (¬ ∀ s, Reachable (CheckinService.next env) opening s → s.Listening) ∧
      ¬ ∀ s, Reachable (VoterIDService.Process.next idEnv) idOpening s → s.Listening := by
  constructor
  · intro hall
    have hfails : CheckinService.next env opening ⟨instant 1 0, .acceptFailed⟩ =
        some ({ opening with accepts := 0, steadyNow := (instant 1 0).steadyNow }, []) := rfl
    have hlistens := hall _ (Run.single hfails).reachable
    cases hlistens
  · intro hall
    have hfails : VoterIDService.Process.next idEnv idOpening ⟨idInstant 1, true, .acceptFailed⟩ =
        some ({ idOpening with accepts := 0 }, []) := rfl
    have hlistens := hall _ (Run.single hfails).reachable
    cases hlistens

end Rehearsal

end Pollbook
