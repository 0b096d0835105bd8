import Pollbook.Verify.Provenance

/-!
# Where an approval comes from

In a run of the programs together, whatever the network does, an approval has a
history, and every link of it is a step of one of the programs: a user asked a
client to check in a voter, the ID service matched the ID that was presented to
the last row of the roll for the voter, a client that saw the statement verify
requested the check-in, the check-in service admitted the voter, a user gave a
client the ticket and the voter's PIN, and the check-in service confirmed the
voter. So no voter is checked in otherwise (`checkins_are_genuine`), and no
client reports a success that was none (`successes_are_genuine`).

The links that go through a client are about the keys the services hold for it:
where such a key is not one of a client of the deployment, nothing is said of
what was done with it.
-/

namespace Pollbook

namespace System

open PollbookClient.Requester (Turn)

variable {ι : Type} [DecidableEq ι]

/-! ## The links

A link is a kind of step. It says something of the steps before it, the states
around it and the step itself.
-/

variable (d : Deployment ι) (s₀ : System ι) (roll : Bytes) (key : EnvelopeKey)

/-- A user asks a client that has the key to check in the voter. -/
structure Asked (body : VoterIDRequest.Body) (pre : List (Happening ι × Deeds)) (m : System ι)
    (h : Happening ι) (o : Deeds) (m' : System ι) : Prop where
  client : ∃ i, (d.clients i).privateKeySigner = key ∧ (d.clients i).clientId = body.clientIdNum ∧
    h = .inr (.inr (i, .inl (.checkInVoter body.timestamp body.firstName body.middleName
      body.lastName body.voterIdData)))
  signs : Signing d key (.voterIDRequest body) h o

/-- The ID service endorses a fresh request that matches the roll it has read;
`roll` is the one its first process has read. -/
structure Endorsed (request : VoterIDRequest) (u : UInt32) (pre : List (Happening ι × Deeds))
    (m : System ι) (h : Happening ι) (o : Deeds) (m' : System ι) : Prop where
  fresh : ∃ e : VoterIDService.Event, h = .inr (.inl (.inl e)) ∧
    stale d.idConfig.requestFreshnessInterval e.io.systemNow request.body.timestamp = false
  matched : ∃ key, VoterIDService.Matches d.idEnv (currentRoll roll (pre.filterMap idStep))
    m.idService.toKeys request u key ∧
      (d.Holds key → Once (next d) s₀ (Asked d key request.body) pre)
  signs : Signing d d.idConfig.localPrivateKey (.idStatement request u) h o

/-- A client that has the key requests the check-in of a voter, with a statement
of the ID service. -/
structure Requested (body : CheckinRequest.Body) (pre : List (Happening ι × Deeds))
    (m : System ι) (h : Happening ι) (o : Deeds) (m' : System ι) : Prop where
  client : ∃ i e, (d.clients i).privateKeySigner = key ∧
    (d.clients i).clientId = body.clientIdNum ∧ h = .inr (.inr (i, .inl (.completed e))) ∧
      body.timestamp = e.io.now
  voter : body.voterUniqueId = body.verifiedIdMessage.voterUniqueId
  endorsed : Once (next d) s₀
    (Endorsed d s₀ roll body.verifiedIdMessage.presentedId body.voterUniqueId) pre
  signs : Signing d key (.checkinRequest body) h o

/-- The check-in service admits a voter. -/
structure Admitted (body : CheckinResponse.Body) (pre : List (Happening ι × Deeds))
    (m : System ι) (h : Happening ι) (o : Deeds) (m' : System ι) : Prop where
  approved : body.approved = true
  answer : ∃ e acts clientIp request signature, h = .inl (.inl e) ∧ o = .inl acts ∧
    .checkinAnswer clientIp request ⟨body, signature⟩ ∈ acts ∧
    CheckinService.Admits d.env m.checkinService request ⟨body, signature⟩ m'.checkinService acts ∧
    Once (next d) s₀
      (Endorsed d s₀ roll request.body.verifiedIdMessage.presentedId body.voterUniqueId) pre ∧
    ∀ key, m'.checkinService.clientVerifiers request.body.clientIdNum = some key →
      d.Holds key → Once (next d) s₀ (Requested d s₀ roll key request.body) pre

/-- A user gives a client that has the key a ticket and a PIN. -/
structure TicketGiven (body : TicketRequest.Body) (pre : List (Happening ι × Deeds))
    (m : System ι) (h : Happening ι) (o : Deeds) (m' : System ι) : Prop where
  client : ∃ i, (d.clients i).privateKeySigner = key ∧ (d.clients i).clientId = body.clientId ∧
    h = .inr (.inr (i, .inl (.verifyTicket body.timestamp body.ticket body.pin)))
  signs : Signing d key (.ticketRequest body) h o

/-- The check-in service confirms a voter it has admitted. -/
structure Confirmed (body : TicketResponse.Body) (pre : List (Happening ι × Deeds))
    (m : System ι) (h : Happening ι) (o : Deeds) (m' : System ι) : Prop where
  approved : body.approved = true
  answer : ∃ e acts clientIp request signature, h = .inl (.inl e) ∧ o = .inl acts ∧
    .ticketAnswer clientIp request ⟨body, signature⟩ ∈ acts ∧
    CheckinService.Confirmation d.env m.checkinService request ⟨body, signature⟩
      m'.checkinService acts ∧
    ∀ key, m'.checkinService.clientVerifiers request.body.clientId = some key →
      d.Holds key → Once (next d) s₀ (TicketGiven d key request.body) pre
  admitted : ∃ body' : CheckinResponse.Body, body'.voterUniqueId = body.voterUniqueId ∧
    Once (next d) s₀ (Admitted d s₀ roll body') pre

/-! ## What verifies -/

section Links

variable {d} {key} {found : CheckinService.Found} {idFound : VoterIDService.Surroundings}
  {checkinService : CheckinService} {idService : VoterIDService.Process}
  {tr pre post : List (Happening ι × Deeds)} {x : Happening ι × Deeds} {m : System ι}

theorem asked_of_verified (hunforgeable : Unforgeable d tr) (hc : d.lib.toCodec.Lawful)
    (htr : tr = pre ++ x :: post)
    (hrun : Run (next d) (opening d checkinService idService) pre m) {body : VoterIDRequest.Body}
    {text : Bytes} (hverifies : (key, text) ∈ verifies x) (hkey : d.Holds key)
    (hsigned : (SignedPayload.voterIDRequest body).signed d.lib = .ok text) :
    Once (next d) (opening d checkinService idService) (Asked d key body) pre := by
  refine (hunforgeable.signer hc htr hrun hverifies hkey hsigned).mono ?_
  rintro pre' k h o k' post' - hrun' - ⟨hsigning, hsigner⟩
  cases hsigner with
  | @client i t acts _ hsigns =>
    cases hsigns with
    | idRequest now firstName middleName lastName voterIdData =>
      exact ⟨⟨i, rfl, (keeps_of_run hrun' i).clientId.symm, rfl⟩, hsigning⟩

theorem ticketGiven_of_verified (hunforgeable : Unforgeable d tr) (hc : d.lib.toCodec.Lawful)
    (htr : tr = pre ++ x :: post)
    (hrun : Run (next d) (opening d checkinService idService) pre m) {body : TicketRequest.Body}
    {text : Bytes} (hverifies : (key, text) ∈ verifies x) (hkey : d.Holds key)
    (hsigned : (SignedPayload.ticketRequest body).signed d.lib = .ok text) :
    Once (next d) (opening d checkinService idService) (TicketGiven d key body) pre := by
  refine (hunforgeable.signer hc htr hrun hverifies hkey hsigned).mono ?_
  rintro pre' k h o k' post' - hrun' - ⟨hsigning, hsigner⟩
  cases hsigner with
  | @client i t acts _ hsigns =>
    cases hsigns with
    | ticketRequest now ticket pin =>
      exact ⟨⟨i, rfl, (keeps_of_run hrun' i).clientId.symm, rfl⟩, hsigning⟩

/-- The request of a statement that is a text. -/
theorem utf8_of_idStatement {c : Codec} {request : VoterIDRequest} {u : UInt32}
    (h : (idStatement c request u).utf8 = true) : request.body.Utf8 := by
  have hrequest : (idStatement c request u).index "presented_id" = .ok (request.toJson c) := by
    simp [idStatement, Json.index_build, Json.find]
  have hbody : (request.toJson c).index "body" = .ok (request.body.toJson c) := by
    simp [VoterIDRequest.toJson, Json.index_build, Json.find]
  exact VoterIDRequest.Body.utf8_of_toJson
    (Json.utf8_of_index (Json.utf8_of_index h _ _ hrequest) _ _ hbody)

section Endorsements

variable (hstart : VoterIDService.start d.idEnv idFound = .ok idService)
include hstart

theorem endorsed_of_verified (hunforgeable : Unforgeable d tr) (hc : d.lib.toCodec.Lawful)
    (htr : tr = pre ++ x :: post)
    (hrun : Run (next d) (opening d checkinService idService) pre m) {request : VoterIDRequest}
    {u : UInt32} {text : Bytes} (hverifies : (d.idConfig.localPrivateKey, text) ∈ verifies x)
    (hsigned : (SignedPayload.idStatement request u).signed d.lib = .ok text) :
    Once (next d) (opening d checkinService idService)
      (Endorsed d (opening d checkinService idService) idFound.voterListFile request u) pre := by
  refine (hunforgeable.signer hc htr hrun hverifies (.inr (.inl rfl)) hsigned).mono ?_
  rintro pre' k h o k' post' rfl hrun' - ⟨hsigning, hsigner⟩
  generalize d.idConfig.localPrivateKey = idKey at hsigner
  cases hsigner with
  | client hsigns => cases hsigns
  | @idService e acts _ _ key hattests =>
    obtain ⟨k', hloaded⟩ := hattests.held
    have hutf8 := utf8_of_idStatement (Codec.dump_eq_ok (hsigned)).1
    have hmatches := hattests.endorsable.matches (roll_of_run hstart hrun') hloaded hutf8 hc
    refine ⟨⟨e, rfl, hattests.endorsable.fresh⟩, ⟨key, hmatches, fun hkey => ?_⟩, hsigning⟩
    have htr' : tr = pre' ++ (.inr (.inl (.inl e)), .inr (.inl acts)) :: (post' ++ x :: post) := by
      rw [htr, List.append_assoc, List.cons_append]
    have hverified : (key, d.lib.render (request.body.toJson d.lib.toCodec)) ∈
        verifies ((.inr (.inl (.inl e)), .inr (.inl acts)) : Happening ι × Deeds) :=
      List.mem_filterMap.mpr ⟨_, hattests.verified, rfl⟩
    exact asked_of_verified hunforgeable hc htr' hrun' hverified hkey
      (d.lib.dump_of_utf8 (VoterIDRequest.Body.plain_toJson hc hutf8).utf8)

/-! ## Check-in requests -/

theorem requested_of_verified (hunforgeable : Unforgeable d tr) (hc : d.lib.toCodec.Lawful)
    (hknown : d.Introduced) (htr : tr = pre ++ x :: post)
    (hrun : Run (next d) (opening d checkinService idService) pre m) {body : CheckinRequest.Body}
    {text : Bytes} (hverifies : (key, text) ∈ verifies x) (hkey : d.Holds key)
    (hsigned : (SignedPayload.checkinRequest body).signed d.lib = .ok text) :
    Once (next d) (opening d checkinService idService)
      (Requested d (opening d checkinService idService) idFound.voterListFile key body) pre := by
  refine (hunforgeable.signer hc htr hrun hverifies hkey hsigned).mono ?_
  rintro pre' k h o k' post' rfl hrun' - ⟨hsigning, hsigner⟩
  cases hsigner with
  | @client i t acts _ hsigns =>
    cases hsigns with
    | @checkinRequest e response hrelays =>
      obtain ⟨rest, hverified⟩ := hrelays.verified
      have hkeeps := keeps_of_run hrun' i
      have htr' : tr = pre' ++ (.inr (.inr (i, .inl (.completed e))), .inr (.inr acts)) ::
          (post' ++ x :: post) := by
        rw [htr, List.append_assoc, List.cons_append]
      have hmem : (d.idConfig.localPrivateKey, d.lib.render (idStatement d.lib.toCodec
          response.presentedId response.voterUniqueId)) ∈
          verifies ((.inr (.inr (i, .inl (.completed e))), .inr (.inr acts)) :
            Happening ι × Deeds) := by
        refine List.mem_filterMap.mpr ⟨_, hverified ▸ List.mem_cons_self, ?_⟩
        rw [hkeeps.idServiceVerifier, hknown.clientsIdService]
      have hendorsed := endorsed_of_verified hstart hunforgeable hc htr' hrun' hmem
        (d.lib.dump_of_utf8 hrelays.statement)
      exact ⟨⟨i, e, rfl, hkeeps.clientId.symm, rfl, rfl⟩, rfl, hendorsed, hsigning⟩

theorem admitted_of_answer (hunforgeable : Unforgeable d tr) (hc : d.lib.toCodec.Lawful)
    (hknown : d.Introduced) (hboot : CheckinService.boot d.env found = .ok checkinService)
    {e : Event} {acts : List Action} {m' : System ι}
    (htr : tr = pre ++ (.inl (.inl e), .inl acts) :: post)
    (hrun : Run (next d) (opening d checkinService idService) pre m)
    (hnext : next d m (.inl (.inl e)) = some (m', .inl acts)) {clientIp : Endpoint}
    {request : CheckinRequest} {response : CheckinResponse}
    (ha : .checkinAnswer clientIp request response ∈ acts)
    (happroved : response.body.approved = true) :
    Admitted d (opening d checkinService idService) idFound.voterListFile response.body pre m
      (.inl (.inl e)) (.inl acts) m' := by
  have hstep := next_of_answer hnext fun hsilent => hsilent.no_checkinAnswer ha
  have hadmits := CheckinService.next_admits (coupled_of_run hboot hrun) hstep ha happroved
  obtain ⟨hutf8, -⟩ := CheckinService.next_written hstep _ ha
  obtain ⟨now, hvalidated⟩ := hadmits.validated
  have hverified {key : EnvelopeKey} {text signature : Bytes}
      (hmem : .verified key text signature ∈ acts) :
      (key, text) ∈ verifies ((.inl (.inl e), .inl acts) : Happening ι × Deeds) :=
    List.mem_filterMap.mpr ⟨_, hmem, rfl⟩
  refine ⟨happroved, e, acts, clientIp, request, response.checkinServiceSignature, rfl, rfl, ha,
    hadmits, ?_, ?_⟩
  · have hmem := hverified hvalidated.idService
    have hstatement : (idStatement d.lib.toCodec request.body.verifiedIdMessage.presentedId
        request.body.verifiedIdMessage.voterUniqueId).utf8 = true := by
      obtain ⟨-, -, -, hpresented⟩ := CheckinRequest.Body.utf8_of_toJson hutf8
      exact (plain_idStatement hc hpresented _).utf8
    rw [hadmits.voter, hvalidated.voter]
    refine endorsed_of_verified hstart hunforgeable hc htr hrun ?_ (d.lib.dump_of_utf8 hstatement)
    rw [← hknown.idService]
    exact hmem
  · intro key hkey hholds
    obtain ⟨key', hkey', hmem⟩ := hvalidated.client
    obtain rfl := Option.some.inj (hkey.symm.trans hkey')
    exact requested_of_verified hstart hunforgeable hc hknown htr hrun (hverified hmem) hholds
      (d.lib.dump_of_utf8 hutf8)

/-! ## Voters -/

/-- A pending voter was admitted. -/
theorem admitted_of_pending (hunforgeable : Unforgeable d tr) (hc : d.lib.toCodec.Lawful)
    (hknown : d.Introduced) (hboot : CheckinService.boot d.env found = .ok checkinService)
    (hrun : Run (next d) (opening d checkinService idService) tr m) {u : UInt32}
    (hpending : m.checkinService.voterStatusTable u = some .pending) :
    ∃ body : CheckinResponse.Body, body.voterUniqueId = u ∧
      Once (next d) (opening d checkinService idService)
        (Admitted d (opening d checkinService idService) idFound.voterListFile body) tr := by
  have hstarted {found : CheckinService.Found} {s : CheckinService}
      (hbooted : CheckinService.boot d.env found = .ok s) :
      ¬ s.voterStatusTable u = some .pending := fun h => nomatch boot_eligible hbooted h
  obtain ⟨pre, h, o, post, k, k', htr, hpre, hnext, -, hbefore, hafter⟩ :=
    hrun.turns (P := fun s => s.checkinService.voterStatusTable u = some .pending)
      (hstarted hboot) hpending
  rcases next_checkinService_cases hnext with heq | ⟨e, acts, rfl, rfl, hstep⟩ | ⟨_, hbooted⟩
  · exact absurd (heq ▸ hafter) hbefore
  · obtain ⟨ticket, hmem⟩ :=
      CheckinService.next_pending (coupled_of_run hboot hpre) hstep hbefore hafter
    obtain ⟨clientIp, request, response, ha, happroved, hvoter, -⟩ :=
      CheckinService.exists_checkinAnswer hmem
    have hadmitted := admitted_of_answer hstart hunforgeable hc hknown hboot htr hpre hnext ha
      happroved
    exact ⟨response.body, hvoter, pre, _, _, post, k, k', htr, hpre, hnext, hadmitted⟩
  · exact absurd hafter (hstarted hbooted)

theorem confirmed_of_answer (hunforgeable : Unforgeable d tr) (hc : d.lib.toCodec.Lawful)
    (hknown : d.Introduced) (hboot : CheckinService.boot d.env found = .ok checkinService)
    {e : Event} {acts : List Action} {m' : System ι}
    (htr : tr = pre ++ (.inl (.inl e), .inl acts) :: post)
    (hrun : Run (next d) (opening d checkinService idService) pre m)
    (hnext : next d m (.inl (.inl e)) = some (m', .inl acts)) {clientIp : Endpoint}
    {request : TicketRequest} {response : TicketResponse}
    (ha : .ticketAnswer clientIp request response ∈ acts)
    (happroved : response.body.approved = true) :
    Confirmed d (opening d checkinService idService) idFound.voterListFile response.body pre m
      (.inl (.inl e)) (.inl acts) m' := by
  have hstep := next_of_answer hnext fun hsilent => hsilent.no_ticketAnswer ha
  have hconfirms := CheckinService.next_confirms (coupled_of_run hboot hrun) hstep ha happroved
  obtain ⟨hutf8, -⟩ := CheckinService.next_written hstep _ ha
  refine ⟨happroved, ⟨e, acts, clientIp, request, response.signature, rfl, rfl, ha, hconfirms,
    fun key hkey hholds => ?_⟩, ?_⟩
  · obtain ⟨key', hkey', hmem⟩ := hconfirms.signature
    obtain rfl := Option.some.inj (hkey.symm.trans hkey')
    have hverified : (key, d.lib.render request.body.toJson) ∈
        verifies ((.inl (.inl e), .inl acts) : Happening ι × Deeds) :=
      List.mem_filterMap.mpr ⟨_, hmem, rfl⟩
    exact ticketGiven_of_verified hunforgeable hc htr hrun hverified hholds
      (d.lib.dump_of_utf8 hutf8)
  · have hpast : Unforgeable d pre := Unforgeable.past (htr ▸ hunforgeable)
    exact admitted_of_pending hstart hpast hc hknown hboot hrun hconfirms.pending

/-! ## Where an approval comes from -/

/-- A voter that is checked in was confirmed: an approved ticket request gave the
voter's PIN with a ticket of the voter, and its client's key signed for it; the
voter had been admitted by an approved check-in request, for which the ID
service had endorsed an ID of the voter and, unless a key was not one of a
client of the place, users had asked for all of it. -/
theorem checkins_are_genuine (hunforgeable : Unforgeable d tr) (hc : d.lib.toCodec.Lawful)
    (hknown : d.Introduced) (hboot : CheckinService.boot d.env found = .ok checkinService)
    (hrun : Run (next d) (opening d checkinService idService) tr m) {u : UInt32}
    (hchecked : m.checkinService.voterStatusTable u = some .checkedIn) :
    ∃ body : TicketResponse.Body, body.voterUniqueId = u ∧
      Once (next d) (opening d checkinService idService)
        (Confirmed d (opening d checkinService idService) idFound.voterListFile body) tr := by
  have hstarted {found : CheckinService.Found} {s : CheckinService}
      (hbooted : CheckinService.boot d.env found = .ok s) :
      ¬ s.voterStatusTable u = some .checkedIn := fun h => nomatch boot_eligible hbooted h
  obtain ⟨pre, h, o, post, k, k', htr, hpre, hnext, -, hbefore, hafter⟩ :=
    hrun.turns (P := fun s => s.checkinService.voterStatusTable u = some .checkedIn)
      (hstarted hboot) hchecked
  rcases next_checkinService_cases hnext with heq | ⟨e, acts, rfl, rfl, hstep⟩ | ⟨_, hbooted⟩
  · exact absurd (heq ▸ hafter) hbefore
  · obtain ⟨clientIp, request, response, ha, happroved, hvoter⟩ :=
      CheckinService.next_checkedIn (coupled_of_run hboot hpre) hstep hbefore hafter
    have hconfirmed := confirmed_of_answer hstart hunforgeable hc hknown hboot htr hpre hnext ha
      happroved
    exact ⟨response.body, hvoter, pre, _, _, post, k, k', htr, hpre, hnext, hconfirmed⟩
  · exact absurd hafter (hstarted hbooted)

/-- A client that reports success to its user had an approval of the check-in
service, which admitted a voter, or confirmed one with the secret the client
shows. -/
theorem successes_are_genuine (hunforgeable : Unforgeable d tr) (hc : d.lib.toCodec.Lawful)
    (hknown : d.Introduced) (hboot : CheckinService.boot d.env found = .ok checkinService)
    (hrun : Run (next d) (opening d checkinService idService) tr m) {i : ι} {t : Turn}
    {acts : List PollbookClient.Action} {message : Bytes}
    (htr : tr = pre ++ (.inr (.inr (i, .inl t)), .inr (.inr acts)) :: post)
    (hsuccess : .setValue true message ∈ acts) :
    (message = [] ∧ ∃ body, Once (next d) (opening d checkinService idService)
      (Admitted d (opening d checkinService idService) idFound.voterListFile body) pre) ∨
    ∃ body : TicketResponse.Body, message = body.secret ∧
      Once (next d) (opening d checkinService idService)
        (Confirmed d (opening d checkinService idService) idFound.voterListFile body) pre := by
  obtain ⟨k, k', hpre, hnext, -⟩ := (htr ▸ hrun).splitStep
  obtain ⟨call, hcall, rfl⟩ := exists_clientCall hnext
  have hverifier : (k.client i).checkinServiceVerifier = d.checkinConfig.localPrivateKey :=
    (keeps_of_run hpre i).checkinServiceVerifier.trans (hknown.clientsCheckinService i)
  have hverifies {text signature : Bytes} {rest : List PollbookClient.Action}
      (hfirst : call.actions =
        .verified (k.client i).checkinServiceVerifier text signature :: rest) :
      (d.checkinConfig.localPrivateKey, text) ∈
        verifies ((.inr (.inr (i, .inl t)), .inr (.inr call.actions)) : Happening ι × Deeds) := by
    refine List.mem_filterMap.mpr ⟨_, hfirst ▸ List.mem_cons_self, ?_⟩
    rw [hverifier]
  cases PollbookClient.Requester.turn_succeeds hcall hsuccess with
  | @checkin response text rest happroved htext hfirst =>
    refine .inl ⟨rfl, response.body, ?_⟩
    have hsigner := hunforgeable.signer hc htr hpre (hverifies hfirst) (.inl rfl) htext
    refine hsigner.mono ?_
    rintro pre' j h o j' post' rfl hpre' hnext' ⟨-, hsigned⟩
    have htr' : tr = pre' ++ (h, o) :: (post' ++
        (.inr (.inr (i, .inl t)), .inr (.inr call.actions)) :: post) := by
      rw [htr, List.append_assoc, List.cons_append]
    generalize d.checkinConfig.localPrivateKey = key, hp : SignedPayload.checkinResponse _ = p
      at hsigned
    cases hsigned with
    | checkin ha =>
      rw [SignedPayload.checkinResponse.inj hp] at happroved ⊢
      exact admitted_of_answer hstart hunforgeable hc hknown hboot htr' hpre' hnext' ha happroved
    | client hsigns =>
      rw [← hp] at hsigns
      cases hsigns
    | ticket | idService => cases hp
  | @ticket response text rest happroved htext hfirst =>
    refine .inr ⟨response.body, rfl, ?_⟩
    have hsigner := hunforgeable.signer hc htr hpre (hverifies hfirst) (.inl rfl) htext
    refine hsigner.mono ?_
    rintro pre' j h o j' post' rfl hpre' hnext' ⟨-, hsigned⟩
    have htr' : tr = pre' ++ (h, o) :: (post' ++
        (.inr (.inr (i, .inl t)), .inr (.inr call.actions)) :: post) := by
      rw [htr, List.append_assoc, List.cons_append]
    generalize d.checkinConfig.localPrivateKey = key, hp : SignedPayload.ticketResponse _ = p
      at hsigned
    cases hsigned with
    | ticket ha =>
      rw [SignedPayload.ticketResponse.inj hp] at happroved ⊢
      exact confirmed_of_answer hstart hunforgeable hc hknown hboot htr' hpre' hnext' ha happroved
    | client hsigns =>
      rw [← hp] at hsigns
      cases hsigns
    | checkin | idService => cases hp

end Endorsements

end Links

/-! ## A check-in of all the programs -/

section Rehearsal

open Rehearsal

omit [DecidableEq ι] in
theorem unforgeable_of_verifiedWereSigned {d : Deployment ι} {tr : List (Happening ι × Deeds)}
    (h : verifiedWereSigned d tr = true) : Unforgeable d tr := by
  intro pre x post htr y hy _
  have hlt : pre.length ∈ List.range tr.length := by
    rw [List.mem_range, htr, List.length_append, List.length_cons]
    omega
  have hstep := List.all_eq_true.mp h _ hlt
  rw [htr, List.drop_left, List.head?_cons, Option.map_some, Option.all_some] at hstep
  have hsigned := List.all_eq_true.mp hstep _ hy
  rw [List.take_left, List.contains_iff_mem] at hsigned
  obtain ⟨z, hz, hsigns⟩ := List.mem_flatMap.mp hsigned
  exact ⟨z, hz, hsigns⟩

/-- The clients of the place. -/
inductive Station where
  | kiosk
  | tablet
  deriving DecidableEq

/-- The small polling place. -/
def place : Deployment Station where
  lib := Rehearsal.env.toLibraries
  checkinConfig := Rehearsal.config
  idConfig := Rehearsal.idConfig
  clients
    | .kiosk => PollbookClient.kiosk
    | .tablet =>
      { PollbookClient.kiosk with
        clientId := tabletId
        privateKeySigner := tabletKey }

theorem place_introduced : place.Introduced where
  idService := rfl
  clientsIdService := fun i => by cases i <;> rfl
  clientsCheckinService := fun i => by cases i <;> rfl

/-- What the kiosk gets from the ID service, and what it asks the check-in
service for. -/
def endorsement : VerifiedVoterID :=
  VoterIDService.verifiedVoterID place.idEnv (idRequest (instant 10 0).systemNow idData) voter

def janeDoe : CheckinRequest :=
  let body : CheckinRequest.Body := ⟨kioskId, (instant 10 0).systemNow, bytes "Doe", bytes "Jane",
    bytes "Q", voter, endorsement⟩
  ⟨body, signatureOf kioskKey (place.lib.render (body.toJson place.lib.toCodec))⟩

def approval : CheckinResponse :=
  let body := CheckinService.checkinResponseBody (instant 10 0) janeDoe true (ticket 7)
  ⟨body, signatureOf checkinServiceKey (place.lib.render body.toJson)⟩

def confirmation : TicketResponse :=
  let body := CheckinService.ticketResponseBody true
    (findVoter voterListFile voter) voter (hex (List.replicate 32 7)) 4321
  ⟨body, signatureOf checkinServiceKey (place.lib.render body.toJson)⟩

/-- A turn of a client. -/
def turnOf (i : Station) (t : Turn) : Happening Station := .inr (.inr (i, .inl t))

/-- An operation of a client completes. -/
def completion (i : Station) (ms : Nat) (c : PollbookClient.Completion) : Happening Station :=
  turnOf i (.completed ⟨⟨(instant ms 0).systemNow, true⟩, c⟩)

/-- The kiosk checks the voter in and the tablet has the ticket verified. -/
def janeDoeVotes : List (Happening Station) :=
  let atCheckin (es : List Event) : List (Happening Station) := es.map fun e => .inl (.inl e)
  let atIdService (occurrences : List VoterIDService.Occurrence) : List (Happening Station) :=
    occurrences.map fun occurrence => .inr (.inl (.inl ⟨idInstant 10, true, occurrence⟩))
  let idRequestText := place.lib.render
    ((idRequest (instant 10 0).systemNow idData).toJson place.lib.toCodec)
  let idAnswer :=
    VoterIDService.answer place.idEnv (idRequest (instant 10 0).systemNow idData) voter
  let ticketAnswer := place.lib.line (confirmation.toJson place.lib.toCodec)
  atCheckin connections ++
  atIdService [.accepted kioskIp, .handshakeDone kioskIp (some (certificate kioskId kioskKey))] ++
  [turnOf .kiosk (.checkInVoter (instant 10 0).systemNow (bytes "Jane") (bytes "Q") (bytes "Doe")
    idData), completion .kiosk 10 .written] ++
  atIdService [.received kioskIp (PollbookClient.frame idRequestText), .lineRead kioskIp,
    .lineRead kioskIp] ++
  [completion .kiosk 10 (.read idAnswer), completion .kiosk 10 .written] ++
  atCheckin (send (instant 10 7) kioskIp (place.lib.render (janeDoe.toJson place.lib.toCodec))) ++
  [completion .kiosk 10 (.read (PollbookClient.frame
    (place.lib.render (approval.toJson place.lib.toCodec)))), completion .kiosk 10 (.read [])] ++
  [turnOf .tablet (.verifyTicket (instant 20 0).systemNow (ticket 7) 4321),
    completion .tablet 20 .written] ++
  atCheckin (send (instant 20 7) tabletIp (place.lib.render
    ((ticketRequest (instant 20 0).systemNow 7 4321).toJson place.lib.toCodec))) ++
  [completion .tablet 20 (.read ticketAnswer)]

/-- A client reports success to its user. -/
def reports (message : Bytes) : Happening Station × Deeds → Bool
  | (.inr (.inr (_, .inl _)), .inr (.inr acts)) => acts.contains (.setValue true message)
  | _ => false

theorem exists_report {tr : List (Happening Station × Deeds)} {message : Bytes}
    (h : tr.any (reports message) = true) :
    ∃ pre i t acts post, tr = pre ++ (.inr (.inr (i, .inl t)), .inr (.inr acts)) :: post ∧
      .setValue true message ∈ acts := by
  obtain ⟨x, hx, hreports⟩ := List.any_eq_true.mp h
  unfold reports at hreports
  split at hreports
  · next i t acts =>
    obtain ⟨pre, post, htr⟩ := List.append_of_mem hx
    exact ⟨pre, i, t, acts, post, htr, List.contains_iff_mem.mp hreports⟩
  · cases hreports

abbrev placeOpening : System Station :=
  opening place (openingWith emptyFolder (Keys.onDisk Map.empty)) idOpening

theorem janeDoeVotes_run : ∃ tr s, Run (next place) placeOpening tr s ∧ Unforgeable place tr ∧
    s.checkinService.voterStatusTable voter = some .checkedIn ∧
    tr.any (reports []) = true ∧ tr.any (reports (hex (List.replicate 32 7))) = true := by
  have hexec : (exec (next place) placeOpening janeDoeVotes).any (fun r =>
      verifiedWereSigned place r.1 &&
        decide (r.2.checkinService.voterStatusTable voter = some .checkedIn) &&
        r.1.any (reports []) && r.1.any (reports (hex (List.replicate 32 7)))) = true := by
    decide +kernel
  obtain ⟨tr, s, hrun, hs⟩ := Run.exists_of_exec hexec
  simp only [Bool.and_eq_true, decide_eq_true_eq] at hs
  obtain ⟨⟨⟨hsigned, hchecked⟩, hadmitted⟩, hconfirmed⟩ := hs
  exact ⟨tr, s, hrun, unforgeable_of_verifiedWereSigned hsigned, hchecked, hadmitted, hconfirmed⟩

theorem checkins_are_genuine_rehearsal :
    ∃ tr s, Run (next place) placeOpening tr s ∧
      s.checkinService.voterStatusTable voter = some .checkedIn ∧
      ∃ body : TicketResponse.Body, body.voterUniqueId = voter ∧
        Once (next place) placeOpening (Confirmed place placeOpening idVoterListFile body) tr := by
  obtain ⟨tr, s, hrun, hunforgeable, hchecked, -, -⟩ := janeDoeVotes_run
  exact ⟨tr, s, hrun, hchecked, checkins_are_genuine (d := place) start_idOpening hunforgeable
    Codec.reference_lawful place_introduced boot_emptyFolder hrun hchecked⟩

/-- The kiosk reports an admission, and the tablet a confirmation. -/
theorem successes_are_genuine_rehearsal :
    ∃ tr s, Run (next place) placeOpening tr s ∧
      ∀ message ∈ [[], hex (List.replicate 32 7)],
        ∃ pre i t acts post, tr = pre ++ (.inr (.inr (i, .inl t)), .inr (.inr acts)) :: post ∧
          .setValue true message ∈ acts ∧
          ((message = [] ∧ ∃ body, Once (next place) placeOpening
              (Admitted place placeOpening idVoterListFile body) pre) ∨
            ∃ body : TicketResponse.Body, message = body.secret ∧
              Once (next place) placeOpening
                (Confirmed place placeOpening idVoterListFile body) pre) := by
  obtain ⟨tr, s, hrun, hunforgeable, -, hadmitted, hconfirmed⟩ := janeDoeVotes_run
  refine ⟨tr, s, hrun, fun message hmessage => ?_⟩
  have hreported : tr.any (reports message) = true := by
    rcases List.mem_pair.mp hmessage with rfl | rfl
    · exact hadmitted
    · exact hconfirmed
  obtain ⟨pre, i, t, acts, post, htr, hmem⟩ := exists_report hreported
  exact ⟨pre, i, t, acts, post, htr, hmem, successes_are_genuine (d := place) start_idOpening
    hunforgeable Codec.reference_lawful place_introduced boot_emptyFolder hrun htr hmem⟩

end Rehearsal

end System

end Pollbook
