import Pollbook.Checkin.Startup
import Pollbook.Verify.IdSteps
import Pollbook.Verify.Steps

/-!
# What a step does to the clients' keys

Keys come in with certificates and from files. `CheckinService.KeyStep` says
how one step of the check-in service changes the keys and the set of clients,
and `VoterIDService.Process.KeyStep` does it for the ID service. The client id
a request claims is the one on record for its endpoint when its key is looked
up, so the check-in service loads a key only for a client it knows.
-/

namespace Pollbook

/-- What a completed handshake shows: the client's id and its key. -/
def Certificate.offer (cert : Certificate) : Option (UInt32 × EnvelopeKey) :=
  (CheckinService.getClientIdFromCert cert).toOption.bind fun clientId =>
    cert.publicKey.map fun key => (clientId, key)

theorem Certificate.offer_of_none {cert : Certificate} (h : cert.publicKey = none) :
    cert.offer = none := by
  unfold Certificate.offer
  rw [h]
  cases CheckinService.getClientIdFromCert cert <;> rfl

theorem Certificate.offer_of_some {cert : Certificate} {clientId : UInt32} {key : EnvelopeKey}
    (hid : CheckinService.getClientIdFromCert cert = .ok clientId)
    (hkey : cert.publicKey = some key) : cert.offer = some (clientId, key) := by
  unfold Certificate.offer
  rw [hid, hkey]
  rfl

/-! ## The check-in service -/

/-- The key an occurrence brings. -/
def Occurrence.offer : Occurrence → Option (UInt32 × EnvelopeKey)
  | .handshakeDone _ (some cert) => cert.offer
  | _ => none

/-- `load_client_public_key` of the check-in service enters the key into both
maps. -/
def Keys.enter (k : Keys) (clientId : UInt32) (key : EnvelopeKey) : Keys :=
  { k with
    clientPublicKeys := k.clientPublicKeys.emplace clientId key
    clientVerifiers := k.clientVerifiers.emplace clientId key }

namespace CheckinService

variable {env : Env} {io : Io} {s s' : CheckinService} {clientIp : Endpoint}
  {acts : List Action} {clientId : UInt32}

/-- How a step can change the keys and the set of clients. -/
inductive KeyStep (env : Env) (io : Io) (s : CheckinService) (occurrence : Occurrence)
    (s' : CheckinService) : Prop
  | kept (hoffer : occurrence.offer = none) (hkeys : s'.toKeys = s.toKeys)
      (hclients : s'.clients = s.clients)
  | shown {clientId : UInt32} {key : EnvelopeKey} (hoffer : occurrence.offer = some (clientId, key))
      (hkeys : s'.toKeys = s.toKeys.admitKey (keyFileToSave env.config clientId) io.savesKey
        clientId key)
      (hclients : ∀ id, (s'.clients id).isSome = true ↔
        (s.clients id).isSome = true ∨ id = clientId)
  | loaded {clientId : UInt32} {key : EnvelopeKey} (hoffer : occurrence.offer = none)
      (hclient : (s.clients clientId).isSome = true)
      (hnone : s.clientVerifiers clientId = none)
      (hfile : s.pemFiles (keyFileToLoad env.config clientId) = some (.publicKey key))
      (hkeys : s'.toKeys = s.toKeys.enter clientId key) (hclients : s'.clients = s.clients)

/-! ### Handshakes -/

/-- The two services treat the key of a certificate alike. -/
theorem admitKey_keys {key : EnvelopeKey} (h : s.admitKey env io clientId key = .returned s' acts) :
    s'.toKeys = s.toKeys.admitKey (keyFileToSave env.config clientId) io.savesKey clientId key ∧
      s'.clients = s.clients := by
  unfold admitKey at h
  unfold Keys.admitKey
  cases hold : s.clientPublicKeys clientId with
  | some old =>
    simp only [hold] at h ⊢
    split at h
    · next heq =>
      obtain ⟨rfl, -⟩ := Call.pure_eq_returned.mp h
      exact ⟨(if_pos heq).symm, rfl⟩
    · next hne =>
      obtain ⟨rfl, -⟩ := rejectWith_returned.mp h
      exact ⟨(if_neg hne).symm, rfl⟩
  | none =>
    simp only [hold] at h ⊢
    obtain ⟨rfl, -⟩ := Call.pure_eq_returned.mp h
    unfold savePubKey
    split
    · exact ⟨rfl, rfl⟩
    · exact ⟨rfl, rfl⟩

theorem classify_clients (env : Env) (s : CheckinService) (clientId id : UInt32) :
    ((s.classify env clientId).clients id).isSome = true ↔
      (s.clients id).isSome = true ∨ id = clientId := by
  have hadd : ∀ type, ((s.addClient clientId type).clients id).isSome = true ↔
      (s.clients id).isSome = true ∨ id = clientId := by
    intro type
    change (Map.set _ _ _ _).isSome = true ↔ _
    rw [Map.set_apply]
    split
    · next heq => simp [heq]
    · next hne => simp [hne]
  unfold classify
  split
  · next hsome =>
    constructor
    · exact .inl
    · rintro (h | rfl)
      · exact h
      · exact hsome
  · split <;> exact hadd _

theorem handshakeDone_keys {certificate : Option Certificate}
    (h : s.handshakeDone env io clientIp certificate = .returned s' acts) :
    KeyStep env io s (.handshakeDone clientIp certificate) s' := by
  unfold handshakeDone at h
  cases certificate with
  | none =>
    simp only [Call.bind_eq_returned, Call.pure_eq_returned] at h
    obtain ⟨_, _, _, ⟨rfl, -⟩, ⟨rfl, -⟩, -⟩ := h
    exact .kept rfl rfl rfl
  | some cert =>
    obtain ⟨m, _, _, hcert, h, -⟩ := Call.bind_eq_returned.mp h
    obtain ⟨rfl, -⟩ := Call.pure_eq_returned.mp h
    unfold admitCertificate at hcert
    obtain ⟨clientId, _, _, hid, hcert, -⟩ := Call.bind_eq_returned.mp hcert
    obtain ⟨hid, -⟩ := Call.ofCpp_eq_returned.mp hid
    split at hcert
    · next hkey =>
      obtain ⟨rfl, -⟩ := Call.pure_eq_returned.mp hcert
      exact .kept (Certificate.offer_of_none hkey) rfl rfl
    · next key hkey =>
      obtain ⟨m', _, _, hadmit, hcert, -⟩ := Call.bind_eq_returned.mp hcert
      obtain ⟨rfl, -⟩ := Call.pure_eq_returned.mp hcert
      obtain ⟨hkeys, hclients⟩ := admitKey_keys hadmit
      obtain ⟨clients, heq, -⟩ := classify_eq env m' clientId true
      have hclassified := classify_clients env m' clientId
      rw [hclients] at hclassified
      refine .shown (Certificate.offer_of_some hid hkey) ?_ hclassified
      rw [heq]
      exact hkeys

/-! ### Requests -/

/-- What a request does to the keys: nothing, or it loads the key of the client
it claims to be from. -/
def LooksUp (env : Env) (s : CheckinService) (clientIp : Endpoint) (claimed : UInt32)
    (s' : CheckinService) : Prop :=
  s'.clients = s.clients ∧ (s'.toKeys = s.toKeys ∨
    claimed = (s.clientIdMap clientIp).getD 0 ∧ s.clientVerifiers claimed = none ∧
      ∃ key, s.pemFiles (keyFileToLoad env.config claimed) = some (.publicKey key) ∧
        s'.toKeys = s.toKeys.enter claimed key)

theorem LooksUp.refl {claimed : UInt32} : LooksUp env s clientIp claimed s := ⟨rfl, .inl rfl⟩

theorem LooksUp.congr {claimed : UInt32} {m : CheckinService}
    (h : LooksUp env m clientIp claimed s') (hkeys : m.toKeys = s.toKeys)
    (hclients : m.clients = s.clients)
    (hmap : m.clientIdMap = s.clientIdMap) : LooksUp env s clientIp claimed s' := by
  unfold LooksUp at h ⊢
  rwa [hkeys, hclients, hmap] at h

theorem LooksUp.of_ensureVerifier {claimed : UInt32} {s₁ : CheckinService}
    (hid : claimed = (s.clientIdMap clientIp).getD 0)
    (h : s.ensureVerifier env claimed = some s₁) : LooksUp env s clientIp claimed s₁ := by
  unfold ensureVerifier at h
  split at h
  · cases h
    exact .refl
  · next hnone =>
    unfold loadClientPublicKey fromPemPublic at h
    split at h
    · next key hkey =>
      cases h
      refine ⟨rfl, .inr ⟨hid, by simpa using hnone, key, ?_, rfl⟩⟩
      split at hkey
      · next hfile => rw [hfile, Except.ok.inj hkey]
      · cases hkey
      · cases hkey
      · cases hkey
    · cases h

theorem handleCheckinRequest_looksUp {request : CheckinRequest}
    (h : s.handleCheckinRequest env io clientIp request = .returned s' acts) :
    LooksUp env s clientIp request.body.clientIdNum s' := by
  unfold handleCheckinRequest at h
  by_cases hid : request.body.clientIdNum = (s.clientIdMap clientIp).getD 0
  swap
  · have hbeq : (request.body.clientIdNum == (s.clientIdMap clientIp).getD 0) = false := by
      simpa using hid
    simp only [hbeq, Bool.not_false, if_true] at h
    obtain ⟨_, _, _, -, h, -⟩ := Call.bind_eq_returned.mp h
    obtain ⟨_, _, _, -, h, -⟩ := Call.bind_eq_returned.mp h
    obtain ⟨_, _, _, -, h, -⟩ := Call.bind_eq_returned.mp h
    obtain ⟨-, rfl, -⟩ := answerCheckin_returned.mp h
    exact .refl
  have hbeq : (request.body.clientIdNum == (s.clientIdMap clientIp).getD 0) = true := by
    simpa using hid
  simp only [hbeq, Bool.not_true, Bool.false_eq_true, if_false] at h
  obtain ⟨_, _, _, -, h, -⟩ := Call.bind_eq_returned.mp h
  obtain ⟨_, _, _, -, h, -⟩ := Call.bind_eq_returned.mp h
  split at h
  · obtain ⟨rfl, -⟩ := Call.pure_eq_returned.mp h
    exact .refl
  next s₁ hensure =>
  have hload := LooksUp.of_ensureVerifier hid hensure
  obtain ⟨valid, _, _, -, h, -⟩ := Call.bind_eq_returned.mp h
  split at h
  · obtain ⟨_, _, _, hissue, h, -⟩ := Call.bind_eq_returned.mp h
    obtain ⟨_, _, -, -, -, rfl⟩ := issueTicket_makePending_returned.mp hissue
    obtain ⟨-, rfl, -⟩ := answerCheckin_returned.mp h
    exact hload
  · obtain ⟨-, rfl, -⟩ := answerCheckin_returned.mp h
    exact hload

theorem redeemTicket_keys {request : TicketRequest} {voterId : UInt32} {secret : Bytes}
    (h : s.redeemTicket env io clientIp request clientId voterId secret = .returned s' acts) :
    s'.toKeys = s.toKeys ∧ s'.clients = s.clients := by
  rcases redeemTicket_returned h with ⟨_, _, rfl, -, -⟩ | ⟨_, -, -, rfl, -⟩
  · exact ⟨rfl, rfl⟩
  · exact ⟨rfl, rfl⟩

theorem handleTicketRequest_looksUp {request : TicketRequest}
    (h : s.handleTicketRequest env io clientIp request = .returned s' acts) :
    LooksUp env s clientIp request.body.clientId s' := by
  have hrejected : ∀ {m : CheckinService} {faultDesc : String} {acts : List Action},
      LooksUp env s clientIp request.body.clientId m →
      m.rejectWith ((s.clientIdMap clientIp).getD 0) faultDesc = .returned s' acts →
      LooksUp env s clientIp request.body.clientId s' := by
    intro m faultDesc acts hm h
    obtain ⟨rfl, -⟩ := rejectWith_returned.mp h
    exact hm
  unfold handleTicketRequest at h
  simp only at h
  split at h
  · exact hrejected .refl h
  next hid =>
  split at h
  · exact hrejected .refl h
  split at h
  · exact hrejected .refl h
  next s₁ hensure =>
  have hload := LooksUp.of_ensureVerifier (Decidable.not_not.mp hid) hensure
  obtain ⟨_, _, _, -, h, -⟩ := Call.bind_eq_returned.mp h
  obtain ⟨_, _, _, -, h, -⟩ := Call.bind_eq_returned.mp h
  obtain ⟨valid, _, _, -, h, -⟩ := Call.bind_eq_returned.mp h
  split at h
  · exact hrejected hload h
  split at h
  · exact hrejected hload h
  split at h
  · obtain ⟨_, _, _, -, h, -⟩ := Call.bind_eq_returned.mp h
    obtain ⟨rfl, -⟩ := Call.pure_eq_returned.mp h
    exact hload
  · obtain ⟨hkeys, hclients⟩ := redeemTicket_keys h
    unfold LooksUp
    rw [hkeys, hclients]
    exact hload

theorem KeyStep.of_looksUp {claimed : UInt32} {client : ClientInfo}
    (hid : s.clientIdMap clientIp = some clientId)
    (hclient : s.clients clientId = some client) (h : LooksUp env s clientIp claimed s') :
    KeyStep env io s (.lineRead clientIp) s' := by
  obtain ⟨hclients, hkeys | ⟨hclaimed, hnone, key, hfile, hkeys⟩⟩ := h
  · exact .kept rfl hkeys hclients
  · rw [hid, Option.getD_some] at hclaimed
    subst hclaimed
    exact .loaded rfl (by rw [hclient]; rfl) hnone hfile hkeys hclients

/-- A message that is dispatched and handled is handled by one of the two
request handlers. -/
theorem dispatched_looksUp {client : ClientInfo} {n : UInt64} (harrived : s.Arrived clientIp n)
    (hid : s.clientIdMap clientIp = some clientId) (hclient : s.clients clientId = some client)
    (h : handle env io s (.lineRead clientIp) = some (.returned s' acts)) :
    ∃ claimed, LooksUp env s clientIp claimed s' := by
  have hid' : ((s.finishRead clientIp).consume clientIp (s.line clientIp).length).clientIdMap
      clientIp = some clientId := hid
  have hclient' : ((s.finishRead clientIp).consume clientIp (s.line clientIp).length).clients
      clientId = some client := hclient
  simp only [handle, harrived.outstanding, if_pos harrived.complete] at h
  have h := Option.some.inj h
  change (s.finishRead clientIp).payloadRead env io clientIp n (s.line clientIp) = _ at h
  unfold payloadRead at h
  rw [if_pos harrived.size] at h
  unfold dispatch at h
  simp only [hid', hclient'] at h
  obtain ⟨_, _, _, -, h, -⟩ := Call.bind_eq_returned.mp h
  split at h
  · unfold handleTrustedClient at h
    dsimp only at h
    split at h
    · obtain ⟨rfl, -⟩ := Call.pure_eq_returned.mp h
      exact ⟨0, rfl, .inl rfl⟩
    · cases h
    · split at h
      · split at h
        · obtain ⟨rfl, -⟩ := rejectWith_returned.mp h
          exact ⟨0, rfl, .inl rfl⟩
        · cases h
      · exact ⟨_, (handleTicketRequest_looksUp h).congr rfl rfl rfl⟩
  · unfold handleUntrustedClient at h
    obtain ⟨_, _, _, -, h, -⟩ := Call.bind_eq_returned.mp h
    obtain ⟨_, _, _, -, h, -⟩ := Call.bind_eq_returned.mp h
    exact ⟨_, (handleCheckinRequest_looksUp h).congr rfl rfl rfl⟩

theorem handle_keyStep {occurrence : Occurrence}
    (h : handle env io s occurrence = some (.returned s' acts)) :
    KeyStep env io s occurrence s' := by
  cases handle_step h with
  | certified hpending hid hk hclients hacts =>
    simp only [handle, if_pos hpending] at h
    have hdone := handshakeDone_keys (Option.some.inj h)
    cases hdone with
    | kept hoffer hkeys hclients => exact .kept hoffer hkeys hclients
    | shown hoffer hkeys hclients => exact .shown hoffer hkeys hclients
    | loaded hoffer hclient hnone hfile hkeys hclients =>
      exact .loaded hoffer hclient hnone hfile hkeys hclients
  | undecoded harrived hid hclient _ _
  | ticketRequest harrived hid hclient _ _ _ _
  | checkinRequest harrived hid hclient _ _ _ _ =>
    obtain ⟨claimed, hlooks⟩ := dispatched_looksUp harrived hid hclient h
    exact .of_looksUp hid hclient hlooks
  | _ => exact .kept rfl rfl rfl

theorem next_keyStep {e : Event} (h : next env s e = some (s', acts)) :
    KeyStep env e.io s e.occurrence s' := by
  unfold next at h
  split at h
  · next s₁ acts₁ hstep =>
    simp only [Option.some.injEq, Prod.mk.injEq] at h
    obtain ⟨rfl, rfl⟩ := h
    unfold step at hstep
    split at hstep
    · cases handle_keyStep hstep with
      | kept hoffer hkeys hclients => exact .kept hoffer hkeys hclients
      | shown hoffer hkeys hclients => exact .shown hoffer hkeys hclients
      | loaded hoffer hclient hnone hfile hkeys hclients =>
        exact .loaded hoffer hclient hnone hfile hkeys hclients
    · cases hstep
  · cases h

end CheckinService

/-! ## The ID service -/

namespace VoterIDService

@[inherit_doc Pollbook.Occurrence.offer]
def Occurrence.offer : Occurrence → Option (UInt32 × EnvelopeKey)
  | .handshakeDone _ (some cert) => cert.offer
  | _ => none

namespace Process

variable {env : Env} {io : Io} {savesKey : Bool} {s s' : Process} {acts : List Action}

/-- How a step can change the keys. -/
inductive KeyStep (env : Env) (savesKey : Bool) (s : Process) (occurrence : Occurrence)
    (s' : Process) : Prop
  | kept (hoffer : occurrence.offer = none) (hkeys : s'.toKeys = s.toKeys)
  | shown {clientId : UInt32} {key : EnvelopeKey} (hoffer : occurrence.offer = some (clientId, key))
      (hkeys : s'.toKeys = s.toKeys.admitKey (keyFile env.config clientId) savesKey clientId key)
  | loaded {clientId : UInt32} {key : EnvelopeKey} (hoffer : occurrence.offer = none)
      (hnone : s.clientVerifiers clientId = none)
      (hfile : s.pemFiles (keyFile env.config clientId) = some (.publicKey key))
      (hkeys : s'.toKeys = { s.toKeys with
        clientVerifiers := s.clientVerifiers.set clientId key })

theorem KeyStep.of_loaded {occurrence : Occurrence} {k : Keys} {clientId : UInt32}
    {key : EnvelopeKey} (hoffer : occurrence.offer = none)
    (h : Loaded env.config s.toKeys clientId k key) (hk : s'.toKeys = k) :
    KeyStep env savesKey s occurrence s' := by
  cases h with
  | there _ => exact .kept hoffer hk
  | read hnone hfile => exact .loaded hoffer hnone hfile hk

theorem Step.keyStep {occurrence : Occurrence}
    (h : Step env io savesKey s occurrence s' acts) : KeyStep env savesKey s occurrence s' := by
  cases h with
  | @certified clientIp cert clientId hpending hid =>
    cases hkey : cert.publicKey with
    | none => exact .kept (Certificate.offer_of_none hkey) rfl
    | some key => exact .shown (Certificate.offer_of_some hid hkey) rfl
  | request _ _ _ _ houtcome =>
    cases houtcome with
    | ignored _ hk =>
      obtain rfl | ⟨key, hloaded⟩ := hk
      · exact .kept rfl rfl
      · exact .of_loaded rfl hloaded rfl
    | endorsed _ hloaded _ => exact .of_loaded rfl hloaded rfl
  | _ => exact .kept rfl rfl

theorem next_keyStep {e : Event} (h : next env s e = some (s', acts)) :
    KeyStep env e.savesKey s e.occurrence s' := (next_step h).keyStep

end Process

end VoterIDService

end Pollbook
