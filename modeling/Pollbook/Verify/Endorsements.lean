import Pollbook.Verify.Identity
import Pollbook.Verify.IdSurvival
import Pollbook.Verify.Timestamps

/-!
# What the ID service endorses

A request is endorsed when it is fresh and `Matches` the roll and the keys: its
ID data begins with the UID of a voter, the last row for this UID has the names
of the request, and its signature is the client's. `endorsements_iff` says this
of every run, and which requests end the process instead of being ignored.
-/

namespace Pollbook

namespace VoterIDService

/-! ## The UID -/

/-- A byte moved up. -/
theorem toNat_shifted (b : UInt8) {k : UInt32} (hk : k.toNat ≤ 24) :
    (b.toUInt32 <<< k).toNat = b.toNat <<< k.toNat := by
  have hb : b.toNat < 2 ^ 8 := b.toNat_lt
  have hpow : 2 ^ k.toNat ≤ 2 ^ 24 := Nat.pow_le_pow_right (by decide) hk
  rw [UInt32.toNat_shiftLeft, UInt8.toNat_toUInt32, Nat.mod_eq_of_lt (b := 32) (by omega)]
  apply Nat.mod_eq_of_lt
  rw [Nat.shiftLeft_eq]
  calc b.toNat * 2 ^ k.toNat ≤ b.toNat * 2 ^ 24 := Nat.mul_le_mul_left _ hpow
    _ < 2 ^ 32 := by omega

theorem or_shiftLeft {a b i : Nat} (ha : a < 2 ^ i) : a ||| b <<< i = a + 2 ^ i * b := by
  rw [Nat.or_comm, ← Nat.shiftLeft_add_eq_or_of_lt ha, Nat.shiftLeft_eq, Nat.mul_comm,
    Nat.add_comm]

/-- The number the first four bytes are, the lowest byte first. -/
def LittleEndian (idData : Bytes) (u : UInt32) : Prop :=
  ∃ b₀ b₁ b₂ b₃ rest, idData = b₀ :: b₁ :: b₂ :: b₃ :: rest ∧
    u.toNat = b₀.toNat + 2 ^ 8 * b₁.toNat + 2 ^ 16 * b₂.toNat + 2 ^ 24 * b₃.toNat

theorem toNat_memcpy (b₀ b₁ b₂ b₃ : UInt8) :
    (b₀.toUInt32 ||| b₁.toUInt32 <<< 8 ||| b₂.toUInt32 <<< 16 ||| b₃.toUInt32 <<< 24).toNat =
      b₀.toNat + 2 ^ 8 * b₁.toNat + 2 ^ 16 * b₂.toNat + 2 ^ 24 * b₃.toNat := by
  have h₀ : b₀.toNat < 2 ^ 8 := b₀.toNat_lt
  have h₁ := b₁.toNat_lt
  have h₂ := b₂.toNat_lt
  rw [UInt32.toNat_or, UInt32.toNat_or, UInt32.toNat_or, toNat_shifted _ (by decide),
    toNat_shifted _ (by decide), toNat_shifted _ (by decide), UInt8.toNat_toUInt32]
  change b₀.toNat ||| b₁.toNat <<< 8 ||| b₂.toNat <<< 16 ||| b₃.toNat <<< 24 = _
  rw [or_shiftLeft h₀, or_shiftLeft (i := 16) (by omega), or_shiftLeft (i := 24) (by omega)]

theorem validateAndMatchIdData_eq_ok {idData : Bytes} {u : UInt32} :
    validateAndMatchIdData idData = .ok u ↔ LittleEndian idData u := by
  constructor
  · intro h
    match idData, h with
    | b₀ :: b₁ :: b₂ :: b₃ :: rest, h =>
      refine ⟨b₀, b₁, b₂, b₃, rest, rfl, ?_⟩
      rw [← Except.ok.inj h, toNat_memcpy]
  · rintro ⟨b₀, b₁, b₂, b₃, rest, rfl, hu⟩
    rw [← toNat_memcpy, UInt32.toNat_inj] at hu
    rw [hu]
    rfl

/-! ## The roll -/

/-- The line is a row of the voter: it has eight fields, and the first is read
as the UID. -/
def rowOf (u : UInt32) (line : Bytes) : Bool :=
  decide (8 ≤ (pieces comma line).length) &&
    (stoul ((pieces comma line).headD [])).toOption.any fun uid => uid.toUInt32 == u

/-- The last row of the voter. -/
def lastRow (voterListFile : Bytes) (u : UInt32) : Option Bytes :=
  (lines voterListFile).tail.reverse.find? (rowOf u)

theorem loadVoterRow_apply (voterData : Map UInt32 (List Bytes)) (line : Bytes) (u : UInt32) :
    loadVoterRow voterData line u =
      if rowOf u line then some (pieces comma line) else voterData u := by
  unfold loadVoterRow rowOf
  by_cases hfields : (pieces comma line).length < 8
  · rw [if_pos hfields, decide_eq_false (by omega)]
    rfl
  · rw [if_neg hfields, decide_eq_true (by omega), Bool.true_and]
    cases stoul ((pieces comma line).headD []) with
    | error trap => rfl
    | ok uid =>
      have hany : (Except.ok uid : Cpp UInt64).toOption.any (fun uid => uid.toUInt32 == u) =
          (uid.toUInt32 == u) := rfl
      dsimp only
      rw [hany, Map.set_apply]
      by_cases hu : u = uid.toUInt32
      · rw [if_pos hu, if_pos (by rw [hu, beq_self_eq_true])]
      · rw [if_neg hu, if_neg (by simpa using Ne.symm hu)]

/-- The roll in memory has the last row of each voter. -/
theorem loadVoterDataFromCsv_apply (voterListFile : Bytes) (u : UInt32) :
    loadVoterDataFromCsv voterListFile u = (lastRow voterListFile u).map (pieces comma) := by
  have hrows : ∀ (rows : List Bytes) (start : Map UInt32 (List Bytes)),
      rows.foldl loadVoterRow start u =
        ((rows.reverse.find? (rowOf u)).map (pieces comma)).or (start u) := by
    intro rows
    induction rows with
    | nil => exact fun _ => rfl
    | cons row rows ih =>
      intro start
      rw [List.foldl_cons, ih, loadVoterRow_apply, List.reverse_cons, List.find?_append]
      cases rows.reverse.find? (rowOf u) with
      | some line => rfl
      | none =>
        rw [List.find?_cons]
        cases rowOf u row with
        | true => rfl
        | false => rfl
  unfold loadVoterDataFromCsv lastRow
  rw [hrows, Map.empty_apply, Option.or_none]

/-! ## The names -/

/-- Two names are the same when letter case is ignored. -/
theorem caseInsensitiveEqual_iff {a b : Bytes} :
    caseInsensitiveEqual a b = true ↔ a.map tolower = b.map tolower := by
  unfold caseInsensitiveEqual
  induction a generalizing b with
  | nil => cases b <;> simp
  | cons x a ih =>
    cases b with
    | nil => simp
    | cons y b =>
      rw [List.map_cons, List.map_cons, List.cons.injEq, ← ih]
      simp only [List.length_cons, List.zip_cons_cons, List.all_cons, Bool.and_eq_true,
        beq_iff_eq, Nat.add_right_cancel_iff]
      tauto

/-- A row has the names of the request. -/
structure SameNames (request : VoterIDRequest) (line : Bytes) : Prop where
  first : request.body.firstName.map tolower = ((pieces comma line).getD 2 []).map tolower
  middle : request.body.middleName.map tolower = ((pieces comma line).getD 3 []).map tolower
  last : request.body.lastName.map tolower = ((pieces comma line).getD 1 []).map tolower

theorem rowOf_fields {u : UInt32} {line : Bytes} (h : rowOf u line = true) :
    8 ≤ (pieces comma line).length := by
  unfold rowOf at h
  rw [Bool.and_eq_true, decide_eq_true_eq] at h
  exact h.1

theorem validateVoterName_iff {s : VoterIDService} {voterListFile : Bytes}
    (hroll : s.voterData = loadVoterDataFromCsv voterListFile) {request : VoterIDRequest}
    {u : UInt32} :
    s.validateVoterName request.body.firstName request.body.middleName request.body.lastName u =
        true ↔
      ∃ line, lastRow voterListFile u = some line ∧ SameNames request line := by
  unfold validateVoterName
  rw [hroll, loadVoterDataFromCsv_apply]
  cases hline : lastRow voterListFile u with
  | none => simp
  | some line =>
    have hfields := rowOf_fields (List.find?_some hline)
    simp only [Option.map_some, Bool.and_eq_true, decide_eq_true_eq, caseInsensitiveEqual_iff,
      Option.some.injEq, exists_eq_left']
    exact ⟨fun h => ⟨h.2.1.1, h.2.1.2, h.2.2⟩, fun h => ⟨hfields, ⟨h.first, h.middle⟩, h.last⟩⟩

/-! ## Requests -/

/-- The request is one of the voter `u`, and its client's. -/
structure Matches (env : Env) (voterListFile : Bytes) (k : Keys) (request : VoterIDRequest)
    (u : UInt32) (key : EnvelopeKey) : Prop where
  idData : LittleEndian request.body.voterIdData u
  valid : u ≠ invalidVoterId
  name : ∃ line, lastRow voterListFile u = some line ∧ SameNames request line
  held : ∃ k', Loaded env.config k request.body.clientIdNum k' key
  signed : ∃ text, env.dump (request.body.toJson env.toCodec) = .ok text ∧
    env.verify key text request.clientSignature = .ok true

variable {env : Env} {io : Io} {s s' : VoterIDService} {clientIp : Endpoint}
  {request : VoterIDRequest} {voterListFile : Bytes} {acts : List Action}

theorem Loaded.ensureVerifier {clientId : UInt32} {k : Keys} {key : EnvelopeKey}
    (h : Loaded env.config s.toKeys clientId k key) :
    s.ensureVerifier env clientId = .ok (some { s with toKeys := k }) := by
  unfold VoterIDService.ensureVerifier loadClientPublicKey
  cases h with
  | there hkey => rw [hkey, Option.isSome_some, if_pos rfl]
  | read hnone hfile =>
    rw [hnone, Option.isSome_none, if_neg Bool.false_ne_true, hfile]
    dsimp only
    rw [Map.emplace_of_none hnone]

theorem Loaded.keyOf {clientId : UInt32} {k : Keys} {key : EnvelopeKey}
    (h : Loaded env.config s.toKeys clientId k key) : keyOf env s.toKeys clientId = some key := by
  unfold VoterIDService.keyOf
  cases h with
  | there hkey => rw [hkey]
  | read hnone hfile => rw [hnone, hfile]

theorem Matches.genuine (hc : env.toCodec.Lawful)
    (hroll : s.voterData = loadVoterDataFromCsv voterListFile) {u : UInt32} {key : EnvelopeKey}
    (h : Matches env voterListFile s.toKeys request u key) : GenuineRequest env s request u := by
  obtain ⟨text, hbody, hverify⟩ := h.signed
  obtain ⟨k, hloaded⟩ := h.held
  have hutf8 := VoterIDRequest.Body.utf8_of_toJson (Codec.dump_eq_ok hbody).1
  exact ⟨validateAndMatchIdData_eq_ok.mpr h.idData, h.valid,
    (validateVoterName_iff hroll).mpr h.name,
    ⟨_, key, text, hloaded.ensureVerifier, hloaded.clientVerifiers, hbody, hverify⟩,
    _, Codec.dump_of_utf8 _ (plain_idStatement hc hutf8 u).utf8⟩

/-- What an endorsed request has passed. -/
theorem Endorsable.matches (hroll : s.voterData = loadVoterDataFromCsv voterListFile) {u : UInt32}
    {key : EnvelopeKey} (h : Endorsable env io s request u key) {k : Keys}
    (hloaded : Loaded env.config s.toKeys request.body.clientIdNum k key)
    (hutf8 : request.body.Utf8) (hc : env.toCodec.Lawful) :
    Matches env voterListFile s.toKeys request u key :=
  ⟨validateAndMatchIdData_eq_ok.mp h.idData, h.valid, (validateVoterName_iff hroll).mp h.name,
    ⟨k, hloaded⟩, _, Codec.dump_of_utf8 _ (VoterIDRequest.Body.plain_toJson hc hutf8).utf8,
    h.signed⟩

/-- An exception comes before the answer, not after it. -/
theorem endorse_threw {u : UInt32} {trap : Trap}
    (h : s.endorse env io clientIp request u = .threw trap acts) (clientIp' : Endpoint)
    (buffer : Bytes) : .wrote clientIp' buffer ∉ acts := by
  unfold endorse at h
  cases hstatement : env.dump (idStatement env.toCodec request u) with
  | error trap' =>
    rw [hstatement, Call.ofCpp_error, Call.threw_bind, Call.threw.injEq] at h
    rw [← h.2]
    exact List.not_mem_nil
  | ok text =>
    rw [hstatement, Call.ofCpp_ok, Call.returned_bind, Call.after_nil, Call.perform_eq,
      Call.returned_bind] at h
    dsimp only at h
    cases hresponse : env.dump ((⟨request, u, env.sign env.config.localPrivateKey text⟩ :
        VerifiedVoterID).toJson env.toCodec) with
    | error trap' =>
      rw [hresponse, Call.ofCpp_error, Call.threw_bind] at h
      rw [← (Call.threw.inj h).2]
      simp
    | ok response =>
      rw [hresponse, Call.ofCpp_ok, Call.returned_bind, Call.after_nil] at h
      cases hstream : mapAt s.clientSslStreams clientIp with
      | error trap' =>
        rw [hstream, Call.ofCpp_error, Call.threw_bind] at h
        rw [← (Call.threw.inj h).2]
        simp
      | ok stream =>
        rw [hstream, Call.ofCpp_ok, Call.returned_bind, Call.after_nil] at h
        cases hwrites : io.writes with
        | true =>
          rw [hwrites, if_pos rfl] at h
          cases h
        | false =>
          rw [hwrites, if_neg Bool.false_ne_true] at h
          rw [← (Call.threw.inj h).2]
          simp

theorem checkRequest_performs {p : Action → Prop}
    (h : ∀ key message signature, p (.verified key message signature)) :
    (s.checkRequest env request).Performs p := by
  unfold checkRequest
  refine Call.performs_bind (Call.performs_ofCpp _) fun text => ?_
  refine Call.performs_bind (Call.performs_ofCpp _) fun key => ?_
  refine Call.performs_bind (Call.performs_ofCpp _) fun valid => ?_
  split
  · exact Call.performs_bind (Call.performs_perform (h _ _ _)) fun _ => Call.performs_pure _
  · exact Call.performs_pure _

theorem handleValidationRequest_threw {trap : Trap}
    (h : s.handleValidationRequest env io clientIp request = .threw trap acts)
    (clientIp' : Endpoint) (buffer : Bytes) : .wrote clientIp' buffer ∉ acts := by
  unfold handleValidationRequest at h
  split at h
  · exact (Call.pure_eq_threw.mp h).elim
  rcases Call.bind_eq_threw.mp h with h | ⟨u, _, acts₁, hu, h, hacts⟩
  · rw [(Call.ofCpp_eq_threw.mp h).2]
    exact List.not_mem_nil
  rw [hacts, (Call.ofCpp_eq_returned.mp hu).2, List.nil_append]
  split at h
  · exact (Call.pure_eq_threw.mp h).elim
  split at h
  · exact (Call.pure_eq_threw.mp h).elim
  rcases Call.bind_eq_threw.mp h with h | ⟨loaded, _, acts₂, hloaded, h, hacts₁⟩
  · rw [(Call.ofCpp_eq_threw.mp h).2]
    exact List.not_mem_nil
  rw [hacts₁, (Call.ofCpp_eq_returned.mp hloaded).2, List.nil_append]
  cases loaded with
  | none => exact (Call.pure_eq_threw.mp h).elim
  | some s₁ =>
    have hcheck : (s₁.checkRequest env request).Performs (· ≠ .wrote clientIp' buffer) :=
      checkRequest_performs fun key message signature => by rintro ⟨⟩
    rcases Call.bind_eq_threw.mp h with h | ⟨valid, _, acts₃, hvalid, h, hacts₂⟩
    · rw [h] at hcheck
      exact fun hmem => hcheck _ hmem rfl
    · rw [hvalid] at hcheck
      rw [hacts₂]
      intro hmem
      rcases List.mem_append.mp hmem with hmem | hmem
      · exact hcheck _ hmem rfl
      · split at h
        · exact (Call.pure_eq_threw.mp h).elim
        · exact endorse_threw h clientIp' buffer hmem

/-! ## Endorsements -/

/-- A request that gets as far as its key is one the service can judge: there is
a file for the key that can be opened, and when it holds a key the signature can
be checked. -/
def Judgeable (env : Env) (io : Io) (s : VoterIDService) (request : VoterIDRequest) : Prop :=
  stale env.config.requestFreshnessInterval io.systemNow request.body.timestamp = false →
    ∀ u, validateAndMatchIdData request.body.voterIdData = .ok u → u ≠ invalidVoterId →
      s.validateVoterName request.body.firstName request.body.middleName request.body.lastName u =
        true →
      HasKeyFile env s.toKeys request.body.clientIdNum ∧
        ∀ key, keyOf env s.toKeys request.body.clientIdNum = some key →
          request.body.Utf8 ∧ ∃ valid, env.verify key
            (env.render (request.body.toJson env.toCodec)) request.clientSignature = .ok valid

/-- The answer to a request, as it is sent. -/
def answer (env : Env) (request : VoterIDRequest) (u : UInt32) : Bytes :=
  env.render ((verifiedVoterID env request u).toJson env.toCodec) ++ [newline]

theorem Matches.endorsable {u : UInt32} {key : EnvelopeKey}
    (hroll : s.voterData = loadVoterDataFromCsv voterListFile)
    (h : Matches env voterListFile s.toKeys request u key)
    (hfresh : stale env.config.requestFreshnessInterval io.systemNow request.body.timestamp =
      false) : Endorsable env io s request u key := by
  obtain ⟨text, hbody, hverify⟩ := h.signed
  obtain ⟨-, rfl⟩ := Codec.dump_eq_ok hbody
  exact ⟨hfresh, validateAndMatchIdData_eq_ok.mpr h.idData, h.valid,
    (validateVoterName_iff hroll).mpr h.name, hverify⟩

/-- What is sent is the endorsement of a request that matches. -/
theorem wrote_matches (hc : env.toCodec.Lawful)
    (hroll : s.voterData = loadVoterDataFromCsv voterListFile) {clientIp' : Endpoint}
    {buffer : Bytes} (h : .wrote clientIp' buffer ∈
      (s.handleValidationRequest env io clientIp request).actions) :
    ∃ u key, Matches env voterListFile s.toKeys request u key ∧ clientIp' = clientIp ∧
      buffer = answer env request u := by
  cases hcall : s.handleValidationRequest env io clientIp request with
  | threw trap acts =>
    rw [hcall] at h
    exact absurd h (handleValidationRequest_threw hcall clientIp' buffer)
  | returned s' acts =>
    rw [hcall] at h
    have hsurvives := (handleValidationRequest_returns hc).mp ⟨s', acts, hcall⟩
    cases handleValidationRequest_returned hcall with
    | ignored => cases h
    | @endorsed k key u hendorsable hloaded hwrites =>
      have hutf8 := (((hsurvives hendorsable.fresh).2 u hendorsable.idData hendorsable.valid
        hendorsable.name).2 key hloaded.keyOf).utf8
      refine ⟨u, key, hendorsable.matches hroll hloaded hutf8 hc, ?_⟩
      simpa [Call.actions, answer] using h

/-- A request that matches is endorsed. -/
theorem Matches.answered (hc : env.toCodec.Lawful)
    (hroll : s.voterData = loadVoterDataFromCsv voterListFile) {u : UInt32} {key : EnvelopeKey}
    (h : Matches env voterListFile s.toKeys request u key)
    (hfresh : stale env.config.requestFreshnessInterval io.systemNow request.body.timestamp =
      false)
    (hstream : (s.clientSslStreams clientIp).isSome = true) (hwrites : io.writes = true) :
    .wrote clientIp (answer env request u) ∈
      (s.handleValidationRequest env io clientIp request).actions := by
  obtain ⟨k, hloaded⟩ := h.held
  have hendorsable : Endorsable env io s request u key := h.endorsable hroll hfresh
  have hsame : ∀ {u'}, validateAndMatchIdData request.body.voterIdData = .ok u' → u' = u :=
    fun hu' => Except.ok.inj (hu'.symm.trans hendorsable.idData)
  obtain ⟨text, hbody, hverify⟩ := h.signed
  have hutf8 := VoterIDRequest.Body.utf8_of_toJson (Codec.dump_eq_ok hbody).1
  have hsurvives : RequestSurvives env io s clientIp request := by
    intro _
    obtain ⟨b₀, b₁, b₂, b₃, rest, hdata, -⟩ := h.idData
    refine ⟨by rw [hdata]; simp, ?_⟩
    intro u' hu' _ _
    refine ⟨?_, fun key' hkey' => ?_⟩
    · cases hloaded with
      | there hkey => exact .inl (by rw [hkey, Option.isSome_some])
      | read _ hfile => exact .inr (by rw [hfile]; rfl)
    · rw [hloaded.keyOf, Option.some.injEq] at hkey'
      subst hkey'
      exact ⟨hutf8, ⟨true, hendorsable.signed⟩, fun _ => ⟨hstream, hwrites⟩⟩
  obtain ⟨s', acts, hcall⟩ := (handleValidationRequest_returns hc).mpr hsurvives
  rw [hcall]
  cases handleValidationRequest_returned hcall with
  | ignored hfails => exact absurd ⟨u, key, hendorsable, k, hloaded⟩ hfails
  | endorsed hendorsable' =>
    rw [hsame hendorsable'.idData]
    simp [Call.actions, answer]

/-- A request that cannot be judged ends the process, and nothing is signed. -/
theorem threw_of_not_judgeable (h : ¬ Judgeable env io s request) :
    ∃ trap acts, s.handleValidationRequest env io clientIp request = .threw trap acts ∧
      ∀ text, .signed text ∉ acts := by
  unfold Judgeable at h
  push Not at h
  obtain ⟨hfresh, u, hdata, hvalid, hname, hkey⟩ := h
  unfold handleValidationRequest
  rw [hfresh, if_neg Bool.false_ne_true, hdata, Call.ofCpp_ok, Call.returned_bind, Call.after_nil,
    if_neg hvalid, hname, Bool.not_true, if_neg Bool.false_ne_true]
  rcases ensureVerifier_cases env s request.body.clientIdNum with
    ⟨hfile, trap, hensure⟩ | ⟨hfile, hnone, hensure⟩ | ⟨k, key, hfile, hkeyOf, hensure, hverifier⟩
  · rw [hensure, Call.ofCpp_error, Call.threw_bind]
    exact ⟨trap, [], rfl, fun _ => List.not_mem_nil⟩
  · obtain ⟨key, hsome, -⟩ := hkey hfile
    rw [hnone] at hsome
    cases hsome
  · obtain ⟨key', hsome, hcheck⟩ := hkey hfile
    rw [hkeyOf, Option.some.injEq] at hsome
    subst hsome
    rw [hensure, Call.ofCpp_ok, Call.returned_bind, Call.after_nil]
    dsimp only
    have hperforms : (({ s with toKeys := k } : VoterIDService).checkRequest env request).Performs
        fun a => ∀ text, a ≠ .signed text :=
      checkRequest_performs fun key message signature text => by rintro ⟨⟩
    cases hcall : ({ s with toKeys := k } : VoterIDService).checkRequest env request with
    | threw trap acts =>
      rw [hcall] at hperforms
      rw [Call.threw_bind]
      exact ⟨trap, acts, rfl, fun text hmem => hperforms _ hmem text rfl⟩
    | returned valid acts =>
      have hutf8 : request.body.Utf8 := utf8_of_checkRequest ⟨valid, acts, hcall⟩
      obtain ⟨hverify, -⟩ := checkRequest_returned hverifier hcall
      exact absurd hverify (hcheck hutf8 valid)

/-- A request that is not endorsed is ignored if it can be judged. -/
theorem Judgeable.ignored (hc : env.toCodec.Lawful) (h : Judgeable env io s request)
    (hdata : 4 ≤ request.body.voterIdData.length)
    (hsigned : ∀ text, .signed text ∉ (s.handleValidationRequest env io clientIp request).actions) :
    ∃ verifiers, s.handleValidationRequest env io clientIp request =
      .returned { s with clientVerifiers := verifiers } [] := by
  have hsurvives : RequestSurvives env io s clientIp request := by
    intro hfresh
    refine ⟨hdata, fun u hu hvalid hname => ?_⟩
    obtain ⟨hfile, hkey⟩ := h hfresh u hu hvalid hname
    refine ⟨hfile, fun key hkeyOf => ?_⟩
    obtain ⟨hutf8, hcheckable⟩ := hkey key hkeyOf
    refine ⟨hutf8, hcheckable, fun hverify => ?_⟩
    rcases ensureVerifier_cases env s request.body.clientIdNum with
      ⟨hnone, -⟩ | ⟨-, hnone, -⟩ | ⟨k, key', -, hsome, hensure, hverifier⟩
    · exact absurd hfile hnone
    · rw [hnone] at hkeyOf
      cases hkeyOf
    · rw [hsome, Option.some.injEq] at hkeyOf
      subst hkeyOf
      have hgenuine : GenuineRequest env s request u :=
        ⟨hu, hvalid, hname, ⟨_, key', _, hensure, hverifier,
          Codec.dump_of_utf8 _ (VoterIDRequest.Body.plain_toJson hc hutf8).utf8, hverify⟩,
          _, Codec.dump_of_utf8 _ (plain_idStatement hc hutf8 u).utf8⟩
      exact absurd (hgenuine.endorsed clientIp hfresh) (hsigned _)
  obtain ⟨s', acts, hcall⟩ := (handleValidationRequest_returns hc).mpr hsurvives
  rw [hcall] at hsigned
  rw [hcall]
  cases handleValidationRequest_returned hcall with
  | ignored _ hk =>
    rcases hk with rfl | ⟨key, hloaded⟩
    · exact ⟨s.clientVerifiers, rfl⟩
    · cases hloaded with
      | there hkey => exact ⟨s.clientVerifiers, rfl⟩
      | read hnone hfile => exact ⟨_, rfl⟩
  | endorsed => exact absurd (List.mem_cons_of_mem _ List.mem_cons_self) (hsigned _)

/-! ## Runs -/

namespace Process

variable {s₀ s s' m : Process} {tr : List (Event × List Action)} {found : Surroundings}

/-- Where a read is outstanding, there is a stream. -/
def HasStreams (s : Process) : Prop :=
  ∀ clientIp, (s.reads clientIp).isSome = true → (s.clientSslStreams clientIp).isSome = true

theorem HasStreams.openSession (h : s.HasStreams) (clientIp : Endpoint) :
    (s.openSession clientIp).HasStreams := by
  intro ip hread
  change ((s.reads.set clientIp .size) ip).isSome = true at hread
  change ((s.clientSslStreams.set clientIp s.streams) ip).isSome = true
  rw [Map.set_apply] at hread ⊢
  split at hread
  · next hip => rw [if_pos hip, Option.isSome_some]
  · next hip =>
    rw [if_neg hip]
    exact h ip hread

theorem HasStreams.finishRead (h : s.HasStreams) (clientIp : Endpoint) :
    (s.finishRead clientIp).HasStreams := by
  intro ip hread
  change ((s.reads.erase clientIp) ip).isSome = true at hread
  rw [Map.erase_apply] at hread
  split at hread
  · cases hread
  · exact h ip hread

theorem HasStreams.dropStream (h : s.HasStreams) (clientIp : Endpoint) :
    ((s.finishRead clientIp).dropStream clientIp).HasStreams := by
  intro ip hread
  change ((s.reads.erase clientIp) ip).isSome = true at hread
  change ((s.clientSslStreams.erase clientIp) ip).isSome = true
  rw [Map.erase_apply] at hread ⊢
  split at hread
  · cases hread
  · next hip =>
    rw [if_neg hip]
    exact h ip hread

/-- No step changes the roll or loses a stream that is read from. -/
theorem Step.keeps {io : Io} {savesKey : Bool} {occurrence : Occurrence}
    (h : Step env io savesKey s occurrence s' acts) (hstreams : s.HasStreams) :
    s'.voterData = s.voterData ∧ s'.HasStreams := by
  cases h with
  | accepted => exact ⟨rfl, hstreams⟩
  | acceptFailed => exact ⟨rfl, hstreams⟩
  | uncertified clientIp => exact ⟨rfl, hstreams.openSession clientIp⟩
  | @certified clientIp cert clientId =>
    refine ⟨rfl, HasStreams.openSession ?_ clientIp⟩
    exact hstreams
  | handshakeFailed => exact ⟨rfl, hstreams⟩
  | received => exact ⟨rfl, hstreams⟩
  | @sizeRead clientIp n stream hread hsize hstream =>
    refine ⟨rfl, fun ip hread => ?_⟩
    change (((s.reads.erase clientIp).set clientIp (.payload n)) ip).isSome = true at hread
    change (s.clientSslStreams ip).isSome = true
    rw [Map.set_apply] at hread
    split at hread
    · next hip => rw [hip, hstream, Option.isSome_some]
    · exact hstreams.finishRead clientIp ip hread
  | @mismatch clientIp => exact ⟨rfl, hstreams.dropStream clientIp⟩
  | @request clientIp n json request svc acts hread hsize hparse hrequest houtcome =>
    cases houtcome with
    | ignored => exact ⟨rfl, hstreams.finishRead clientIp⟩
    | endorsed => exact ⟨rfl, hstreams.finishRead clientIp⟩
  | @disconnected clientIp => exact ⟨rfl, hstreams.dropStream clientIp⟩
  | @readFailed clientIp => exact ⟨rfl, hstreams.finishRead clientIp⟩

theorem kept_of_run (hstart : start env found = .ok s₀) (h : Run (next env) s₀ tr m) :
    m.voterData = loadVoterDataFromCsv found.voterListFile ∧ m.HasStreams := by
  refine h.invariant (I := fun s => s.voterData = loadVoterDataFromCsv found.voterListFile ∧
    s.HasStreams) ?_ ?_
  · obtain ⟨keys, -, rfl⟩ := start_eq_ok hstart
    exact ⟨rfl, fun ip hread => by cases hread⟩
  · rintro s e s' acts ⟨hroll, hstreams⟩ hnext
    obtain ⟨hroll', hstreams'⟩ := (next_step hnext).keeps hstreams
    exact ⟨hroll'.trans hroll, hstreams'⟩

/-- What the handler of a request leaves. -/
def withService (s : Process) (clientIp : Endpoint) (svc : VoterIDService) : Process :=
  { s.takeLine clientIp with toVoterIDService := svc }

/-- A line that is a request goes to the handler of requests. -/
theorem step_of_asks {e : Event} (hocc : e.occurrence = .lineRead clientIp)
    (h : s.Asks env clientIp request) :
    step env s e = some (s.withService clientIp <$>
      s.toVoterIDService.handleValidationRequest env e.io clientIp request) := by
  obtain ⟨⟨n, hread, hsize⟩, json, hparse, hrequest⟩ := h
  unfold step
  rw [hocc]
  dsimp only
  rw [hread.outstanding]
  dsimp only
  rw [if_pos hread.complete]
  change some (Process.payloadRead env e.io (s.finishRead clientIp) clientIp n
    (s.line clientIp)) = _
  unfold payloadRead VoterIDService.payloadRead
  rw [if_pos hsize]
  dsimp only
  rw [if_pos hsize, hparse, Call.ofCpp_ok, Call.returned_bind, Call.after_nil,
    hrequest, Call.ofCpp_ok, Call.returned_bind, Call.after_nil]
  rfl

/-- What the service may do with a request: what it sends is the endorsement of
a request that matches, a request that matches and is fresh is endorsed, and one
that is not endorsed changes nothing but the keys in memory. -/
structure Endorses (env : Env) (voterListFile : Bytes) (io : Io) (s : Process)
    (clientIp : Endpoint) (request : VoterIDRequest) (call : Call Action Process) : Prop where
  sound : ∀ clientIp' buffer, .wrote clientIp' buffer ∈ call.actions →
    ∃ u key, Matches env voterListFile s.toKeys request u key ∧ clientIp' = clientIp ∧
      buffer = answer env request u
  complete : stale env.config.requestFreshnessInterval io.systemNow request.body.timestamp =
      false → ∀ u key, Matches env voterListFile s.toKeys request u key →
    .signed (env.render (idStatement env.toCodec request u)) ∈ call.actions ∧
      (io.writes = true → .wrote clientIp (answer env request u) ∈ call.actions)
  frugal : (∀ text, .signed text ∉ call.actions) →
    ∃ verifiers, call =
      .returned { s.takeLine clientIp with clientVerifiers := verifiers } []

theorem actions_map {σ : Type} (f : VoterIDService → σ) (x : Call Action VoterIDService) :
    (f <$> x).actions = x.actions := by
  change (x >>= fun a => pure (f a)).actions = _
  cases x with
  | threw trap acts => rfl
  | returned a acts =>
    rw [Call.returned_bind, Call.actions_after]
    exact List.append_nil acts

/-- **Endorsements.** In every run, a request of four bytes of ID data and more
is treated that way just when it can be judged. -/
theorem endorsements_iff (hc : env.toCodec.Lawful) (hstart : start env found = .ok s₀)
    (hrun : Run (next env) s₀ tr m) {e : Event} (hocc : e.occurrence = .lineRead clientIp)
    (hasks : m.Asks env clientIp request) (hdata : 4 ≤ request.body.voterIdData.length) :
    ∃ call, step env m e = some call ∧
      (Endorses env found.voterListFile e.io m clientIp request call ↔
        Judgeable env e.io m.toVoterIDService request) := by
  obtain ⟨hroll, hstreams⟩ := kept_of_run hstart hrun
  refine ⟨_, step_of_asks hocc hasks, fun h => ?_, fun h => ⟨?_, ?_, ?_⟩⟩
  · by_contra hnot
    have hthrew : ∃ trap acts,
        m.toVoterIDService.handleValidationRequest env e.io clientIp request =
          .threw trap acts ∧ ∀ text, .signed text ∉ acts := threw_of_not_judgeable hnot
    obtain ⟨trap, acts, hcall, hsigned⟩ := hthrew
    have hfrugal := h.frugal
    rw [hcall] at hfrugal
    obtain ⟨verifiers, heq⟩ := hfrugal hsigned
    cases heq
  · intro clientIp' buffer hwrote
    rw [actions_map] at hwrote
    exact wrote_matches hc hroll hwrote
  · intro hfresh u key hmatches
    rw [actions_map]
    obtain ⟨⟨n, hread, -⟩, -⟩ := hasks
    have hstream := hstreams clientIp (by rw [hread.outstanding, Option.isSome_some])
    exact ⟨(hmatches.genuine hc hroll).endorsed clientIp hfresh,
      fun hwrites => hmatches.answered hc hroll hfresh hstream hwrites⟩
  · intro hsigned
    rw [actions_map] at hsigned
    obtain ⟨verifiers, hcall⟩ := h.ignored hc hdata hsigned
    rw [hcall]
    exact ⟨verifiers, rfl⟩

section Rehearsal

open Rehearsal

/-- The kiosk connects, with or without a certificate, and sends its request. -/
def asking (certificate : Option Certificate) : List Event :=
  [⟨idInstant 10, true, .accepted kioskIp⟩,
    ⟨idInstant 10, true, .handshakeDone kioskIp certificate⟩,
    ⟨idInstant 10, true, .received kioskIp
      (decimal kioskMessage.length ++ newline :: (kioskMessage ++ [newline]))⟩,
    ⟨idInstant 10, true, .lineRead kioskIp⟩]

/-- The event in which the request is read. -/
def asked : Event := ⟨idInstant 10, true, .lineRead kioskIp⟩

/-- A request of a client whose key is neither in memory nor in a file. -/
theorem missing_key_kills :
    ¬ ∀ (env : Env) (found : Surroundings) (s₀ m : Process) (tr : List (Event × List Action))
      (e : Event) (clientIp : Endpoint) (request : VoterIDRequest),
      start env found = .ok s₀ → Run (next env) s₀ tr m → e.occurrence = .lineRead clientIp →
      m.Asks env clientIp request → 4 ≤ request.body.voterIdData.length →
      ∃ call, step env m e = some call ∧
        Endorses env found.voterListFile e.io m clientIp request call := by
  intro hall
  have hexec : (exec (next idEnv) idOpening (asking none)).any (fun r =>
      decide (r.2.reads kioskIp = some (.payload (UInt64.ofNat kioskMessage.length))) &&
      (decide (r.2.unread kioskIp = kioskMessage ++ [newline]) &&
      (step idEnv r.2 asked).any fun call => call.trapped && decide (call.actions = []))) =
      true := by
    decide +kernel
  obtain ⟨tr, m, hrun, hm⟩ := Run.exists_of_exec hexec
  simp only [Bool.and_eq_true, decide_eq_true_eq, Option.any_eq_true] at hm
  obtain ⟨hreads, hunread, call, hcall, htrapped, hacts⟩ := hm
  obtain ⟨call', hcall', hendorses⟩ := hall idEnv idFound idOpening m tr asked kioskIp kioskRequest
    start_idOpening hrun rfl (asks_kioskRequest hreads hunread) (by decide)
  obtain rfl := Option.some.inj (hcall.symm.trans hcall')
  obtain ⟨verifiers, hreturned⟩ := hendorses.frugal (by
    rw [hacts]
    exact fun _ => List.not_mem_nil)
  rw [hreturned] at htrapped
  cases htrapped

/-- The kiosk shows its certificate, and its request is endorsed. -/
theorem endorsements_iff_rehearsal :
    ∃ tr m call, Run (next idEnv) idOpening tr m ∧ step idEnv m asked = some call ∧
      Endorses idEnv idVoterListFile (idInstant 10) m kioskIp kioskRequest call := by
  have hexec : (exec (next idEnv) idOpening (asking (some (certificate kioskId kioskKey)))).any
      (fun r =>
        decide (r.2.reads kioskIp = some (.payload (UInt64.ofNat kioskMessage.length))) &&
        (decide (r.2.unread kioskIp = kioskMessage ++ [newline]) &&
          (r.2.clientVerifiers kioskId).isSome)) = true := by
    decide +kernel
  obtain ⟨tr, m, hrun, hm⟩ := Run.exists_of_exec hexec
  simp only [Bool.and_eq_true, decide_eq_true_eq] at hm
  obtain ⟨hreads, hunread, hverifier⟩ := hm
  obtain ⟨call, hcall, hiff⟩ := endorsements_iff Codec.reference_lawful start_idOpening hrun
    (e := asked) rfl (asks_kioskRequest hreads hunread) (by decide)
  refine ⟨tr, m, call, hrun, hcall, hiff.mpr fun _ _ _ _ _ => ⟨.inl hverifier, fun key _ => ?_⟩⟩
  exact ⟨⟨by decide +kernel, by decide +kernel, by decide +kernel⟩, _, rfl⟩

end Rehearsal

end Process

end VoterIDService

end Pollbook
