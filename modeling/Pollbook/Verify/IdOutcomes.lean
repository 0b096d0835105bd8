import Pollbook.IdService.Handlers
import Pollbook.Verify.Outcomes

/-!
# What a request to the ID service can lead to

A request is ignored or endorsed. `handleValidationRequest_returned` says which
checks an endorsed one has passed, and what the service then signs and sends.
-/

namespace Pollbook

namespace VoterIDService

variable {env : Env} {io : Io} {s s' : VoterIDService} {clientIp : Endpoint}
  {request : VoterIDRequest} {acts : List Action}

/-! ## The client's key -/

/-- The key a client's requests are checked with, and the keys after it has been
looked up: it is in memory, or else read from the client's key file. -/
inductive Loaded (config : Config) (k : Keys) (clientId : UInt32) : Keys → EnvelopeKey → Prop
  | there {key : EnvelopeKey} (hkey : k.clientVerifiers clientId = some key) :
      Loaded config k clientId k key
  | read {key : EnvelopeKey} (hnone : k.clientVerifiers clientId = none)
      (hfile : k.pemFiles (keyFile config clientId) = some (.publicKey key)) :
      Loaded config k clientId { k with clientVerifiers := k.clientVerifiers.set clientId key } key

theorem Loaded.clientVerifiers {config : Config} {k k' : Keys} {clientId : UInt32}
    {key : EnvelopeKey} (h : Loaded config k clientId k' key) :
    k'.clientVerifiers clientId = some key := by
  cases h with
  | there hkey => exact hkey
  | read hnone hfile => exact Map.set_self ..

/-- There is one key at most to check a client's requests with. -/
theorem Loaded.key_unique {config : Config} {k k₁ k₂ : Keys} {clientId : UInt32}
    {key₁ key₂ : EnvelopeKey} (h₁ : Loaded config k clientId k₁ key₁)
    (h₂ : Loaded config k clientId k₂ key₂) : key₁ = key₂ := by
  cases h₁ with
  | there hkey₁ =>
    cases h₂ with
    | there hkey₂ => exact Option.some.inj (hkey₁.symm.trans hkey₂)
    | read hnone _ => cases hkey₁.symm.trans hnone
  | read hnone hfile₁ =>
    cases h₂ with
    | there hkey₂ => cases hkey₂.symm.trans hnone
    | read _ hfile₂ => exact PemFile.publicKey.inj (Option.some.inj (hfile₁.symm.trans hfile₂))

theorem ensureVerifier_eq_none {clientId : UInt32} {k : Keys} {key : EnvelopeKey}
    (h : s.ensureVerifier env clientId = .ok none) :
    ¬ Loaded env.config s.toKeys clientId k key := by
  intro hloaded
  unfold ensureVerifier loadClientPublicKey at h
  cases hloaded with
  | there hkey =>
    rw [hkey, Option.isSome_some, if_pos rfl] at h
    cases h
  | read hnone hfile =>
    rw [hnone, Option.isSome_none, if_neg Bool.false_ne_true, hfile] at h
    cases h

theorem ensureVerifier_eq_some {clientId : UInt32}
    (h : s.ensureVerifier env clientId = .ok (some s')) :
    ∃ k key, s' = { s with toKeys := k } ∧ Loaded env.config s.toKeys clientId k key := by
  unfold ensureVerifier at h
  cases hkey : s.clientVerifiers clientId with
  | some key =>
    rw [hkey, Option.isSome_some, if_pos rfl, Except.ok.injEq, Option.some.injEq] at h
    exact ⟨s.toKeys, key, h.symm, .there hkey⟩
  | none =>
    rw [hkey, Option.isSome_none, if_neg Bool.false_ne_true] at h
    unfold loadClientPublicKey at h
    split at h
    · next key hfile =>
      rw [Except.ok.injEq, Option.some.injEq, Map.emplace_of_none hkey] at h
      exact ⟨_, key, h.symm, .read hkey hfile⟩
    · cases h
    · cases h
    · cases h

/-! ## Requests -/

/-- What the service answers when it endorses a request. -/
def verifiedVoterID (env : Env) (request : VoterIDRequest) (voterUniqueId : UInt32) :
    VerifiedVoterID :=
  ⟨request, voterUniqueId, env.sign env.config.localPrivateKey
    (env.render (idStatement env.toCodec request voterUniqueId))⟩

/-- The checks a request passes on its way to be endorsed. -/
structure Endorsable (env : Env) (io : Io) (s : VoterIDService) (request : VoterIDRequest)
    (voterUniqueId : UInt32) (key : EnvelopeKey) : Prop where
  fresh : stale env.config.requestFreshnessInterval io.systemNow request.body.timestamp = false
  idData : validateAndMatchIdData request.body.voterIdData = .ok voterUniqueId
  valid : voterUniqueId ≠ invalidVoterId
  name : s.validateVoterName request.body.firstName request.body.middleName
    request.body.lastName voterUniqueId = true
  signed : env.verify key (env.render (request.body.toJson env.toCodec))
    request.clientSignature = .ok true

/-- The request passes every check of the service. -/
def Passes (env : Env) (io : Io) (s : VoterIDService) (request : VoterIDRequest) : Prop :=
  ∃ voterUniqueId key, Endorsable env io s request voterUniqueId key ∧
    ∃ k, Loaded env.config s.toKeys request.body.clientIdNum k key

/-- What the handler of a request does when it returns. -/
inductive ValidationOutcome (env : Env) (io : Io) (s : VoterIDService) (clientIp : Endpoint)
    (request : VoterIDRequest) : VoterIDService → List Action → Prop
  | ignored {k : Keys} (hfails : ¬ Passes env io s request)
      (hk : k = s.toKeys ∨ ∃ key, Loaded env.config s.toKeys request.body.clientIdNum k key) :
      ValidationOutcome env io s clientIp request { s with toKeys := k } []
  | endorsed {k : Keys} {key : EnvelopeKey} {voterUniqueId : UInt32}
      (hendorsable : Endorsable env io s request voterUniqueId key)
      (hloaded : Loaded env.config s.toKeys request.body.clientIdNum k key)
      (hwrites : io.writes = true) :
      ValidationOutcome env io s clientIp request { s with toKeys := k }
        [.verified key (env.render (request.body.toJson env.toCodec)) request.clientSignature,
          .signed (env.render (idStatement env.toCodec request voterUniqueId)),
          .wrote clientIp (env.render ((verifiedVoterID env request voterUniqueId).toJson
            env.toCodec) ++ [newline])]

theorem checkRequest_returned {valid : Bool} {key : EnvelopeKey}
    (hkey : s.clientVerifiers request.body.clientIdNum = some key)
    (h : s.checkRequest env request = .returned valid acts) :
    env.verify key (env.render (request.body.toJson env.toCodec)) request.clientSignature =
        .ok valid ∧
      acts = if valid then [.verified key (env.render (request.body.toJson env.toCodec))
        request.clientSignature] else [] := by
  unfold checkRequest at h
  simp only [Call.bind_eq_returned, Call.ofCpp_eq_returned] at h
  obtain ⟨text, _, _, ⟨htext, rfl⟩, ⟨key', _, _, ⟨hkey', rfl⟩, ⟨valid', _, _, ⟨hverify, rfl⟩, h,
    rfl⟩, rfl⟩, rfl⟩ := h
  obtain ⟨-, rfl⟩ := Codec.dump_eq_ok htext
  rw [mapAt_eq_ok, hkey, Option.some.injEq] at hkey'
  subst hkey'
  cases valid' with
  | false =>
    rw [if_neg Bool.false_ne_true, Call.pure_eq_returned] at h
    obtain ⟨rfl, rfl⟩ := h
    exact ⟨hverify, rfl⟩
  | true =>
    rw [if_pos rfl, Call.bind_eq_returned] at h
    obtain ⟨_, _, _, hperform, h, rfl⟩ := h
    rw [Call.perform_eq_returned] at hperform
    rw [Call.pure_eq_returned] at h
    obtain ⟨rfl, rfl⟩ := h
    exact ⟨hverify, by rw [hperform]; rfl⟩

theorem endorse_returned {voterUniqueId : UInt32}
    (h : s.endorse env io clientIp request voterUniqueId = .returned s' acts) :
    s' = s ∧ io.writes = true ∧
      acts = [.signed (env.render (idStatement env.toCodec request voterUniqueId)),
        .wrote clientIp (env.render ((verifiedVoterID env request voterUniqueId).toJson
          env.toCodec) ++ [newline])] := by
  unfold endorse at h
  simp only [Call.bind_eq_returned, Call.ofCpp_eq_returned, Call.perform_eq_returned] at h
  obtain ⟨text, _, _, ⟨htext, rfl⟩, ⟨_, _, _, rfl, ⟨response, _, _, ⟨hresponse, rfl⟩,
    ⟨stream, _, _, ⟨hstream, rfl⟩, h, rfl⟩, rfl⟩, rfl⟩, rfl⟩ := h
  obtain ⟨-, rfl⟩ := Codec.dump_eq_ok htext
  obtain ⟨-, rfl⟩ := Codec.dump_eq_ok hresponse
  split at h
  · next hwrites =>
    simp only [Call.bind_eq_returned, Call.perform_eq_returned, Call.pure_eq_returned] at h
    obtain ⟨_, _, _, rfl, ⟨rfl, rfl⟩, rfl⟩ := h
    exact ⟨rfl, hwrites, rfl⟩
  · cases h

theorem handleValidationRequest_returned
    (h : s.handleValidationRequest env io clientIp request = .returned s' acts) :
    ValidationOutcome env io s clientIp request s' acts := by
  have hignored : ∀ {s' : VoterIDService} {acts : List Action}, ¬ Passes env io s request →
      (pure s : Call Action VoterIDService) = .returned s' acts →
      ValidationOutcome env io s clientIp request s' acts := by
    intro s' acts hfails h
    obtain ⟨rfl, rfl⟩ := Call.pure_eq_returned.mp h
    exact .ignored hfails (.inl rfl)
  unfold handleValidationRequest at h
  split at h
  · next hstale =>
    refine hignored ?_ h
    rintro ⟨voterUniqueId, key, hendorsable, -⟩
    rw [hendorsable.fresh] at hstale
    cases hstale
  next hfresh =>
  rw [Call.bind_eq_returned] at h
  obtain ⟨voterUniqueId, _, _, hmatch, h, rfl⟩ := h
  obtain ⟨hdata, rfl⟩ := Call.ofCpp_eq_returned.mp hmatch
  rw [List.nil_append]
  have hsame : ∀ {uid : UInt32} {key : EnvelopeKey}, Endorsable env io s request uid key →
      uid = voterUniqueId := fun hendorsable =>
    Except.ok.inj (hendorsable.idData.symm.trans hdata)
  split at h
  · next hinvalid =>
    refine hignored ?_ h
    rintro ⟨uid, key, hendorsable, -⟩
    exact hendorsable.valid ((hsame hendorsable).trans hinvalid)
  next hvalid =>
  split at h
  · next hname =>
    refine hignored ?_ h
    rintro ⟨uid, key, hendorsable, -⟩
    rw [← hsame hendorsable, hendorsable.name] at hname
    cases hname
  next hname =>
  rw [Call.bind_eq_returned] at h
  obtain ⟨loaded, _, _, hload, h, rfl⟩ := h
  obtain ⟨hensure, rfl⟩ := Call.ofCpp_eq_returned.mp hload
  rw [List.nil_append]
  cases loaded with
  | none =>
    refine hignored ?_ h
    rintro ⟨uid, key, -, k, hloaded⟩
    exact ensureVerifier_eq_none hensure hloaded
  | some s₁ =>
  obtain ⟨k, key, rfl, hloaded⟩ := ensureVerifier_eq_some hensure
  rw [Call.bind_eq_returned] at h
  obtain ⟨valid, _, _, hcheck, h, rfl⟩ := h
  obtain ⟨hverify, rfl⟩ := checkRequest_returned hloaded.clientVerifiers hcheck
  cases valid with
  | false =>
    obtain ⟨rfl, rfl⟩ := Call.pure_eq_returned.mp h
    refine .ignored ?_ (.inr ⟨key, hloaded⟩)
    rintro ⟨uid, key', hendorsable, k', hloaded'⟩
    have hsigned := hendorsable.signed
    rw [hloaded'.key_unique hloaded, hverify] at hsigned
    cases hsigned
  | true =>
    obtain ⟨rfl, hwrites, rfl⟩ := endorse_returned h
    exact .endorsed ⟨Bool.not_eq_true _ ▸ hfresh, hdata, hvalid, by simpa using hname, hverify⟩
      hloaded hwrites

end VoterIDService

end Pollbook
