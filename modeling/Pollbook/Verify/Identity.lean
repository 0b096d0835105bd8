import Pollbook.Rehearsal
import Pollbook.Verify.Approvals
import Pollbook.Verify.IdSteps
import Pollbook.Verify.Isolation

/-!
# The client a request is from

A signature is checked with the key of the client the request names, so it does
not say who sent the request. The check-in service compares that name with the
one in the certificate of the connection before it acts. The ID service has no
such check: it endorses every request that passes its other checks, over
whatever connection it came in (`identities_are_bound`).
-/

namespace Pollbook

/-! ## The certificate of a connection -/

/-- The client named by the certificate of the last handshake on an endpoint. -/
def certifiedId (clientIp : Endpoint) (handshakes : List (Endpoint × Option Certificate)) :
    Option UInt32 :=
  handshakes.foldl (fun id h => if h.1 = clientIp then h.2.bind Certificate.clientId else id) none

theorem certifiedId_append (clientIp : Endpoint) (hs hs' : List (Endpoint × Option Certificate)) :
    certifiedId clientIp (hs ++ hs') =
      hs'.foldl (fun id h => if h.1 = clientIp then h.2.bind Certificate.clientId else id)
        (certifiedId clientIp hs) := by
  rw [certifiedId, List.foldl_append]
  rfl

/-! ## The check-in service -/

/-- The handshake an occurrence completes. -/
def Occurrence.handshake : Occurrence → Option (Endpoint × Option Certificate)
  | .handshakeDone clientIp certificate => some (clientIp, certificate)
  | _ => none

namespace CheckinService

variable {env : Env} {io : Io} {s₀ s s' : CheckinService}
  {tr : List (Event × List Action)} {acts : List Action} {occurrence : Occurrence}
  {clientIp : Endpoint}

/-- The handshakes of a trace. -/
def handshakesOf (tr : List (Event × List Action)) : List (Endpoint × Option Certificate) :=
  tr.filterMap fun x => x.1.occurrence.handshake

theorem handshakesOf_snoc (tr : List (Event × List Action)) (x : Event × List Action) :
    handshakesOf (tr ++ [x]) = handshakesOf tr ++ x.1.occurrence.handshake.toList := by
  unfold handshakesOf
  rw [List.filterMap_append]
  cases h : x.1.occurrence.handshake with
  | none => rw [List.filterMap_cons, h, List.filterMap_nil, Option.toList_none]
  | some o => rw [List.filterMap_cons, h, List.filterMap_nil, Option.toList_some]

/-- A connection with a certificate is on record for the client it names. -/
theorem clientIdMap_of_certifiedId (hrun : Run (next env) s₀ tr s) {c : UInt32}
    (h : certifiedId clientIp (handshakesOf tr) = some c) : s.clientIdMap clientIp = some c := by
  have hinv : ∀ c, certifiedId clientIp (handshakesOf tr) = some c →
      s.clientIdMap clientIp = some c := by
    apply hrun.history (I := fun tr s => ∀ c, certifiedId clientIp (handshakesOf tr) = some c →
      s.clientIdMap clientIp = some c)
    · rintro c ⟨⟩
    intro tr m e m' acts _ hm hnext c hc
    obtain ⟨-, m₁, hstep, rfl⟩ := next_step hnext
    change m₁.clientIdMap clientIp = some c
    rw [handshakesOf_snoc, certifiedId_append] at hc
    rcases hstep.clientIdMap with ⟨ip, cert, clientId, hocc, hid, hmap⟩ | ⟨hother, hmap⟩
    · rw [hocc, Occurrence.handshake, Option.toList_some, List.foldl_cons, List.foldl_nil] at hc
      rw [hmap]
      by_cases hip : ip = clientIp
      · rw [if_pos hip, Option.bind_some, Certificate.clientId_eq_some, hid] at hc
        rw [hip, Map.set_self, Except.ok.inj hc]
      · rw [if_neg hip] at hc
        rw [Map.set_of_ne _ (Ne.symm hip)]
        exact hm c hc
    · rw [hmap]
      refine hm c ?_
      cases hhandshake : e.occurrence.handshake with
      | none => rwa [hhandshake, Option.toList_none, List.foldl_nil] at hc
      | some handshake =>
        obtain ⟨ip, certificate⟩ := handshake
        have hocc : e.occurrence = .handshakeDone ip certificate := by
          unfold Occurrence.handshake at hhandshake
          split at hhandshake
          · next hocc =>
            cases hhandshake
            exact hocc
          · cases hhandshake
        rw [hhandshake, Option.toList_some, List.foldl_cons, List.foldl_nil] at hc
        cases certificate with
        | some cert => exact absurd hocc (hother ip cert)
        | none =>
          by_cases hip : ip = clientIp
          · rw [if_pos hip] at hc
            cases hc
          · rwa [if_neg hip] at hc
  exact hinv c h

/-- A message changes a status only when it is answered with an approval. -/
theorem Step.statusTable (h : Step env io s (.lineRead clientIp) s' acts)
    (hchange : s'.voterStatusTable ≠ s.voterStatusTable) :
    (∃ request response, .checkinAnswer clientIp request response ∈ acts ∧
      response.body.approved = true) ∨
    ∃ request response, .ticketAnswer clientIp request response ∈ acts ∧
      response.body.approved = true := by
  have hread : ∀ s : Sessions, s.readFromCsv.voterStatusTable = s.voterStatusTable := by
    intro s
    unfold Sessions.readFromCsv
    split <;> rfl
  cases h with
  | checkinRequest _ _ _ _ _ _ houtcome =>
    cases houtcome with
    | accepted _ _ _ _ _ _ _ =>
      exact .inl ⟨_, _,
        List.mem_cons_of_mem _ (List.mem_append_right _ (List.mem_singleton_self _)), rfl⟩
    | _ => exact absurd rfl hchange
  | ticketRequest _ _ _ _ _ _ houtcome =>
    cases houtcome with
    | approved _ _ _ _ _ =>
      exact .inr ⟨_, _,
        List.mem_cons_of_mem _ (List.mem_append_right _ (List.mem_singleton_self _)), rfl⟩
    | _ => exact absurd (hread _) hchange
  | undecoded _ _ _ _ _ => exact absurd (hread _) hchange
  | _ => exact absurd rfl hchange

/-- The requests a step acts on name this client: the check-in requests it
accepts and the ticket requests it approves, and there is one when the step
changes a voter's status. -/
structure ActsFor (clientIp : Endpoint) (clientId : UInt32) (acts : List Action) : Prop where
  checkins : ∀ request response, .checkinAnswer clientIp request response ∈ acts →
    response.body.approved = true → request.body.clientIdNum = clientId
  tickets : ∀ request response, .ticketAnswer clientIp request response ∈ acts →
    response.body.approved = true → request.body.clientId = clientId

theorem Crash.silent_acts (h : Crash s occurrence acts) : Silent acts := by
  cases h with
  | silent _ =>
    intro a ha
    cases ha
  | checking _ _ _ hchecks =>
    intro a ha
    rcases List.mem_cons.mp ha with rfl | ha
    · exact ⟨fun _ _ _ => nofun, fun _ _ _ => nofun⟩
    · exact hchecks.silent a ha

theorem actsFor_of_step {e : Event}
    (h : (∃ s', next env s e = some (s', acts)) ∨ crash env s e = some acts) {clientId : UInt32}
    (hid : s.clientIdMap clientIp = some clientId) : ActsFor clientIp clientId acts := by
  rcases h with ⟨s', hnext⟩ | hcrash
  · obtain ⟨-, s₁, hstep, -⟩ := next_step hnext
    constructor
    · intro request response ha happroved
      have hidentity := (hstep.accepts ha happroved).1.identity
      exact Option.some.inj (hidentity.symm.trans hid)
    · intro request response ha happroved
      have hidentity := (hstep.redeems ha happroved).identity
      exact Option.some.inj (hidentity.symm.trans hid)
  · have hsilent := (crash_step hcrash).silent_acts
    exact ⟨fun _ _ ha => absurd ha hsilent.no_checkinAnswer,
      fun _ _ ha => absurd ha hsilent.no_ticketAnswer⟩

end CheckinService

/-! ## The ID service -/

namespace VoterIDService

@[inherit_doc Pollbook.Occurrence.handshake]
def Occurrence.handshake : Occurrence → Option (Endpoint × Option Certificate)
  | .handshakeDone clientIp certificate => some (clientIp, certificate)
  | _ => none

namespace Process

variable {env : Env} {s₀ s s' : Process} {tr : List (Event × List Action)}
  {acts : List Action} {clientIp : Endpoint}

@[inherit_doc CheckinService.handshakesOf]
def handshakesOf (tr : List (Event × List Action)) : List (Endpoint × Option Certificate) :=
  tr.filterMap fun x => x.1.occurrence.handshake

/-- The line that has come in is this request. -/
structure Asks (env : Env) (s : Process) (clientIp : Endpoint) (request : VoterIDRequest) :
    Prop where
  read : ∃ n, s.Readable clientIp (.payload n) ∧ n.toNat = (s.line clientIp).length - 1
  decoded : ∃ json, env.parse (s.line clientIp) = .ok json ∧
    VoterIDRequest.fromJson env.toCodec json = .ok request

/-- A request is answered just when it passes the checks of the service. -/
theorem wrote_iff_passes {e : Event} (h : next env s e = some (s', acts))
    (hocc : e.occurrence = .lineRead clientIp) {request : VoterIDRequest}
    (hasks : s.Asks env clientIp request) :
    (∃ buffer, .wrote clientIp buffer ∈ acts) ↔ Passes env e.io s.toVoterIDService request := by
  obtain ⟨⟨n, hread, hsize⟩, json, hparse, hrequest⟩ := hasks
  have hstep := next_step h
  rw [hocc] at hstep
  cases hstep with
  | sizeRead hread' _ _ => cases hread.outstanding.symm.trans hread'.outstanding
  | mismatch hread' hsize' =>
    cases hread.outstanding.symm.trans hread'.outstanding
    exact absurd hsize hsize'
  | request _ _ hparse' hrequest' houtcome =>
    cases hparse.symm.trans hparse'
    cases hrequest.symm.trans hrequest'
    cases houtcome with
    | ignored hfails _ =>
      refine iff_of_false ?_ hfails
      rintro ⟨buffer, ⟨⟩⟩
    | endorsed hendorsable hloaded _ =>
      exact iff_of_true ⟨_, List.mem_cons_of_mem _ (List.mem_cons_of_mem _
        (List.mem_singleton_self _))⟩ ⟨_, _, hendorsable, _, hloaded⟩

/-- Whenever a request that comes in over a connection does `what`, it names the
client of the connection's certificate. -/
def Bound (env : Env) (s₀ : Process) (tr : List (Event × List Action))
    (what : Process → Event → List Action → Endpoint → VoterIDRequest → Prop) : Prop :=
  ∀ pre e acts post m, tr = pre ++ (e, acts) :: post → Run (next env) s₀ pre m →
    ∀ clientIp clientId request, certifiedId clientIp (handshakesOf pre) = some clientId →
      e.occurrence = .lineRead clientIp → m.Asks env clientIp request →
        what m e acts clientIp request → request.body.clientIdNum = clientId

/-- The request is answered with a `VerifiedVoterID`. -/
def Answers (_ : Process) (_ : Event) (acts : List Action) (clientIp : Endpoint)
    (_ : VoterIDRequest) : Prop := ∃ buffer, .wrote clientIp buffer ∈ acts

/-- The request passes the checks the service makes. -/
def Suffices (env : Env) (s : Process) (e : Event) (_ : List Action) (_ : Endpoint)
    (request : VoterIDRequest) : Prop := Passes env e.io s.toVoterIDService request

theorem bound_iff (hrun : Run (next env) s₀ tr s) :
    Bound env s₀ tr Answers ↔ Bound env s₀ tr (Suffices env) := by
  have hsame : ∀ pre e acts post m clientIp request, tr = pre ++ (e, acts) :: post →
      Run (next env) s₀ pre m → e.occurrence = .lineRead clientIp → m.Asks env clientIp request →
      (Answers m e acts clientIp request ↔ Suffices env m e acts clientIp request) := by
    rintro pre e acts post m clientIp request rfl hpre hocc hasks
    obtain ⟨m₁, m', hpre', hnext, -⟩ := hrun.splitStep
    cases hpre.deterministic hpre'
    exact wrote_iff_passes hnext hocc hasks
  constructor
  · intro h pre e acts post m htr hpre clientIp clientId request hid hocc hasks hpasses
    exact h pre e acts post m htr hpre clientIp clientId request hid hocc hasks
      ((hsame pre e acts post m clientIp request htr hpre hocc hasks).mpr hpasses)
  · intro h pre e acts post m htr hpre clientIp clientId request hid hocc hasks hanswers
    exact h pre e acts post m htr hpre clientIp clientId request hid hocc hasks
      ((hsame pre e acts post m clientIp request htr hpre hocc hasks).mp hanswers)

end Process

end VoterIDService

/-! ## Both services -/

/-- **Identities.** The check-in service acts for the client of the connection
only; the ID service does so just when the requests it would endorse name that
client. -/
theorem identities_are_bound (env : Env) (idEnv : VoterIDService.Env) :
    (∀ (s₀ : CheckinService) (tr : List (Event × List Action)),
      Lifetime (CheckinService.next env) (CheckinService.crash env) s₀ tr →
      ∀ pre e acts post, tr = pre ++ (e, acts) :: post →
      ∀ clientIp clientId,
        certifiedId clientIp (CheckinService.handshakesOf pre) = some clientId →
        CheckinService.ActsFor clientIp clientId acts ∧
        ∀ m m', Run (CheckinService.next env) s₀ pre m → CheckinService.next env m e =
          some (m', acts) → e.occurrence = .lineRead clientIp →
          m'.voterStatusTable ≠ m.voterStatusTable →
          (∃ request response, .checkinAnswer clientIp request response ∈ acts ∧
            response.body.approved = true) ∨
          ∃ request response, .ticketAnswer clientIp request response ∈ acts ∧
            response.body.approved = true) ∧
    ∀ (s₀ s : VoterIDService.Process)
      (tr : List (VoterIDService.Event × List VoterIDService.Action)),
      Run (VoterIDService.Process.next idEnv) s₀ tr s →
      (VoterIDService.Process.Bound idEnv s₀ tr VoterIDService.Process.Answers ↔
        VoterIDService.Process.Bound idEnv s₀ tr (VoterIDService.Process.Suffices idEnv)) := by
  refine ⟨?_, fun s₀ s tr hrun => VoterIDService.Process.bound_iff hrun⟩
  rintro s₀ tr hlife pre e acts post rfl clientIp clientId hid
  obtain ⟨m, hrun, hstep⟩ := hlife.step
  refine ⟨CheckinService.actsFor_of_step hstep
    (CheckinService.clientIdMap_of_certifiedId hrun hid), ?_⟩
  intro m₁ m' _ hnext hocc hchange
  obtain ⟨-, m₂, hstep, rfl⟩ := CheckinService.next_step hnext
  rw [hocc] at hstep
  exact hstep.statusTable hchange

section Rehearsal

open Rehearsal

/-- The kiosk's request, and its text. -/
def kioskRequest : VoterIDRequest := idRequest 1000010 idData

@[inherit_doc kioskRequest]
def kioskMessage : Bytes := idEnv.render (kioskRequest.toJson idEnv.toCodec)

/-- The kiosk connects to the ID service, and so does the tablet, which then
sends the kiosk's request. -/
def replay : List VoterIDService.Event :=
  [⟨idInstant 10, true, .accepted kioskIp⟩,
    ⟨idInstant 10, true, .handshakeDone kioskIp (some (certificate kioskId kioskKey))⟩,
    ⟨idInstant 10, true, .accepted tabletIp⟩,
    ⟨idInstant 10, true, .handshakeDone tabletIp (some (certificate tabletId tabletKey))⟩,
    ⟨idInstant 10, true, .received tabletIp
      (decimal kioskMessage.length ++ newline :: (kioskMessage ++ [newline]))⟩,
    ⟨idInstant 10, true, .lineRead tabletIp⟩]

/-- The event in which the message is read. -/
def replayed : VoterIDService.Event := ⟨idInstant 10, true, .lineRead tabletIp⟩

theorem decoded_kioskMessage :
    ∃ json, idEnv.parse (kioskMessage ++ [newline]) = .ok json ∧
      VoterIDRequest.fromJson idEnv.toCodec json = .ok kioskRequest := by
  have hplain : (kioskRequest.toJson idEnv.toCodec).Plain :=
    VoterIDRequest.plain_toJson Codec.reference_lawful
      ⟨by decide +kernel, by decide +kernel, by decide +kernel⟩
  exact ⟨_, Codec.reference_lawful.parse_render hplain [newline]
    (by simp [Json.isWhite, newline]), VoterIDRequest.fromJson_toJson Codec.reference_lawful _⟩

theorem asks_kioskRequest {m : VoterIDService.Process} {clientIp : Endpoint}
    (hreads : m.reads clientIp = some (.payload (UInt64.ofNat kioskMessage.length)))
    (hunread : m.unread clientIp = kioskMessage ++ [newline]) :
    m.Asks idEnv clientIp kioskRequest := by
  have hline : m.line clientIp = kioskMessage ++ [newline] := by
    unfold VoterIDService.Process.line
    rw [hunread]
    decide +kernel
  refine ⟨⟨_, ⟨hreads, ?_⟩, ?_⟩, ?_⟩
  · rw [hunread]
    exact List.mem_append_right _ (List.mem_singleton_self _)
  · rw [hline]
    decide +kernel
  · rw [hline]
    exact decoded_kioskMessage

/-- The tablet redeems a ticket, as itself, and sends the kiosk's request to the
ID service. -/
theorem identities_are_bound_rehearsal :
    (∃ pre e acts s, Run (CheckinService.next env) opening (pre ++ [(e, acts)]) s ∧
      certifiedId tabletIp (CheckinService.handshakesOf pre) = some tabletId ∧
      acts.filterMap Action.redeemed = [(voter, ticket 7)] ∧
      CheckinService.ActsFor tabletIp tabletId acts) ∧
    ∃ tr s, Run (VoterIDService.Process.next idEnv) idOpening tr s ∧
      tr.map (·.1.occurrence) = replay.map (·.occurrence) ∧
      (VoterIDService.Process.Bound idEnv idOpening tr VoterIDService.Process.Answers ↔
        VoterIDService.Process.Bound idEnv idOpening tr
          (VoterIDService.Process.Suffices idEnv)) := by
  constructor
  · let e : Event := ⟨instant 20 7, .lineRead tabletIp⟩
    have hexec : (exec (CheckinService.next env) opening
        (connections ++ checkin 10 7 ++ (redeem 20 7 4321).dropLast)).any (fun r =>
        decide (certifiedId tabletIp (CheckinService.handshakesOf r.1) = some tabletId) &&
        (CheckinService.next env r.2 e).any fun (r' : CheckinService × List Action) =>
          decide (r'.2.filterMap Action.redeemed = [(voter, ticket 7)])) = true := by
      decide +kernel
    obtain ⟨pre, m, hpre, hm⟩ := Run.exists_of_exec hexec
    simp only [Bool.and_eq_true, decide_eq_true_eq, Option.any_eq_true] at hm
    obtain ⟨hid, ⟨m', acts⟩, hnext, hredeemed⟩ := hm
    have hrun := hpre.snoc hnext
    exact ⟨pre, e, acts, m', hrun, hid, hredeemed,
      ((identities_are_bound env idEnv).1 opening _ (.alive hrun) pre e acts [] rfl tabletIp
        tabletId hid).1⟩
  · have hexec : (exec (VoterIDService.Process.next idEnv) idOpening replay).any (fun r =>
        decide (r.1.map (·.1.occurrence) = replay.map (·.occurrence))) = true := by
      decide +kernel
    obtain ⟨tr, s, hrun, htr⟩ := Run.exists_of_exec hexec
    exact ⟨tr, s, hrun, of_decide_eq_true htr,
      (identities_are_bound env idEnv).2 idOpening s tr hrun⟩

/-- The tablet gets the kiosk's request endorsed. -/
theorem captured_request_is_endorsed :
    ¬ ∀ (env : VoterIDService.Env) (found : VoterIDService.Surroundings)
      (s₀ s : VoterIDService.Process)
      (tr : List (VoterIDService.Event × List VoterIDService.Action)),
      VoterIDService.start env found = .ok s₀ → Run (VoterIDService.Process.next env) s₀ tr s →
      VoterIDService.Process.Bound env s₀ tr VoterIDService.Process.Answers := by
  intro hall
  have hexec : (exec (VoterIDService.Process.next idEnv) idOpening replay).any (fun r =>
      decide (certifiedId tabletIp (VoterIDService.Process.handshakesOf r.1) = some tabletId) &&
      (decide (r.2.reads tabletIp = some (.payload (UInt64.ofNat kioskMessage.length))) &&
      (decide (r.2.unread tabletIp = kioskMessage ++ [newline]) &&
      (VoterIDService.Process.next idEnv r.2 replayed).any
        fun (r' : VoterIDService.Process × List VoterIDService.Action) =>
        decide (VoterIDService.Action.wrote tabletIp
          (idEnv.render ((VoterIDService.verifiedVoterID idEnv kioskRequest
          voter).toJson idEnv.toCodec) ++ [newline]) ∈ r'.2)))) = true := by
    decide +kernel
  obtain ⟨pre, m, hpre, hm⟩ := Run.exists_of_exec hexec
  simp only [Bool.and_eq_true, decide_eq_true_eq, Option.any_eq_true] at hm
  obtain ⟨hid, hreads, hunread, ⟨m', acts⟩, hnext, hwrote⟩ := hm
  have hasks := asks_kioskRequest hreads hunread
  have hbound := hall idEnv idFound idOpening m' (pre ++ [(replayed, acts)]) start_idOpening
    (hpre.snoc hnext) pre replayed acts [] m rfl hpre tabletIp tabletId kioskRequest hid rfl hasks
    ⟨_, hwrote⟩
  exact absurd hbound (by decide)

end Rehearsal

end Pollbook
