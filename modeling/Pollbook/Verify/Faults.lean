import Pollbook.Verify.Isolation

/-!
# Who a fault is charged to

Most handlers charge a fault to the client of the endpoint. The failed
handshake, the message of the wrong size, the failed read and the message from
an unknown endpoint charge it to the member `client_id`, whoever that is at the
time: a client can end up in the fault tracker for what others did
(`bystanders_are_charged`). Where these events find the member to be the
client of their own connection, every fault is charged to the client that
caused it (`faults_are_charged_to_their_cause`).
-/

namespace Pollbook

/-- The client the connection of an event is authenticated for. A handshake that
fails leaves its connection with none. -/
def Occurrence.sender (past : List (Event × List Action)) : Occurrence → Option UInt32
  | .handshakeDone _ certificate => certificate.bind Certificate.clientId
  | .received clientIp _ | .lineRead clientIp | .readFailed clientIp _ =>
    (tlsSession clientIp past).clientId
  | _ => none

/-- An event of one of the client's connections led to a fault. -/
def CausedFault (tr : List (Event × List Action)) (clientId : UInt32) : Prop :=
  ∃ pre e acts post, tr = pre ++ (e, acts) :: post ∧ e.occurrence.sender pre = some clientId ∧
    ∃ id faultDesc, .reportFault id faultDesc ∈ acts

namespace CheckinService

variable {env : Env} {io : Io} {found : Surroundings} {s₀ s s' : CheckinService}
  {tr : List (Event × List Action)} {acts : List Action} {occurrence : Occurrence}
  {clientIp : Endpoint} {id : UInt32} {faultDesc : String}

/-! ## The faults of a step -/

/-- Where the fault of an event is charged to the member `client_id`, the member
is the client of the endpoint. A handshake fails at no endpoint's client. -/
def chargesSender (s : CheckinService) : Occurrence → Bool
  | .handshakeFailed _ _ => false
  | .lineRead clientIp =>
    match s.reads clientIp with
    | some (.payload n) =>
      n.toNat = (s.line clientIp).length - 1 ∧ (s.clientIdMap clientIp).isSome ∨
        s.clientIdMap clientIp = some s.clientId
    | _ => true
  | .readFailed clientIp .other =>
    match s.reads clientIp with
    | some (.payload _) => s.clientIdMap clientIp = some s.clientId
    | _ => true
  | _ => true

/-- The faults a handler reports about a message go to its sender. -/
theorem Checks.charges (h : s.Checks clientIp acts) {clientId : UInt32}
    (hmember : s.clientId = clientId) (hid : s.clientIdMap clientIp = some clientId)
    (ha : .reportFault id faultDesc ∈ acts) : id = clientId := by
  rcases h _ ha with ⟨_, _, _, heq⟩ | ⟨id', _, heq, hcharged⟩
  · cases heq
  · obtain ⟨rfl, -⟩ := Action.reportFault.inj heq
    rcases hcharged with rfl | rfl
    · exact hmember
    · rw [hid, Option.getD_some]

theorem CheckinOutcome.charges {request : CheckinRequest}
    (h : CheckinOutcome env io s clientIp request s' acts) {clientId : UInt32}
    (hmember : s.clientId = clientId) (hid : s.clientIdMap clientIp = some clientId)
    (ha : .reportFault id faultDesc ∈ acts) : id = clientId := by
  cases h with
  | unanswered _ => cases ha
  | denied _ hchecks | accepted _ hchecks _ _ _ _ _ =>
    rcases List.mem_append.mp ha with ha | ha
    · exact hchecks.charges hmember hid ha
    · cases List.mem_singleton.mp ha

theorem TicketOutcome.charges {request : TicketRequest}
    (h : TicketOutcome env io s clientIp request s' acts) {clientId : UInt32}
    (hmember : s.clientId = clientId) (hid : s.clientIdMap clientIp = some clientId)
    (ha : .reportFault id faultDesc ∈ acts) : id = clientId := by
  cases h with
  | refused _ hchecks => exact hchecks.charges hmember hid ha
  | denied _ hchecks hfaults =>
    rcases List.mem_append.mp ha with ha | ha
    · exact hchecks.charges hmember hid ha
    · rcases List.mem_cons.mp ha with heq | ha
      · cases heq
      · exact hfaults.charges hmember hid ha
  | approved _ hchecks _ _ _ =>
    rcases List.mem_append.mp ha with ha | ha
    · exact hchecks.charges hmember hid ha
    · cases List.mem_singleton.mp ha

/-- A fault is charged to the client a certificate names, or to the client of
the endpoint. -/
inductive Charged (s : CheckinService) (id : UInt32) : Occurrence → Prop
  | certificate {clientIp : Endpoint} {cert : Certificate}
      (hid : getClientIdFromCert cert = .ok id) : Charged s id (.handshakeDone clientIp (some cert))
  | message {clientIp : Endpoint} (hid : s.clientIdMap clientIp = some id) :
      Charged s id (.lineRead clientIp)
  | read {clientIp : Endpoint} {error : ReadError} (hid : s.clientIdMap clientIp = some id) :
      Charged s id (.readFailed clientIp error)

theorem Step.charged (h : Step env io s occurrence s' acts)
    (hsender : s.chargesSender occurrence = true) (ha : .reportFault id faultDesc ∈ acts) :
    Charged s id occurrence := by
  cases h with
  | certified _ hid _ _ hacts =>
    obtain ⟨_, heq⟩ := hacts _ ha
    obtain ⟨rfl, -⟩ := Action.reportFault.inj heq
    exact .certificate hid
  | handshakeFailed => cases hsender
  | mismatch hread hsize =>
    obtain ⟨rfl, -⟩ := Action.reportFault.inj (List.mem_singleton.mp ha)
    simp only [chargesSender, hread.outstanding, hsize, false_and, false_or,
      decide_eq_true_eq] at hsender
    exact .message hsender
  | unknownIp harrived hid =>
    simp [chargesSender, harrived.outstanding, hid] at hsender
  | unknownId harrived hid hclient =>
    obtain ⟨rfl, -⟩ := Action.reportFault.inj (List.mem_singleton.mp ha)
    exact .message hid
  | undecoded _ hid _ _ hchecks =>
    rcases List.mem_cons.mp ha with heq | ha
    · cases heq
    · exact .message (hchecks.charges rfl hid ha ▸ hid)
  | ticketRequest _ hid _ _ _ _ houtcome =>
    rcases List.mem_cons.mp ha with heq | ha
    · cases heq
    · exact .message (houtcome.charges rfl hid ha ▸ hid)
  | checkinRequest _ hid _ _ _ _ houtcome =>
    rcases List.mem_cons.mp ha with heq | ha
    · cases heq
    · exact .message (houtcome.charges rfl hid ha ▸ hid)
  | payloadLost houtstanding =>
    obtain ⟨rfl, -⟩ := Action.reportFault.inj (List.mem_singleton.mp ha)
    simp only [chargesSender, houtstanding, decide_eq_true_eq] at hsender
    exact .read hsender
  | _ => cases ha

theorem Crash.charged (h : Crash s occurrence acts) (ha : .reportFault id faultDesc ∈ acts) :
    Charged s id occurrence := by
  cases h with
  | silent _ => cases ha
  | checking _ hid _ hchecks =>
    rcases List.mem_cons.mp ha with heq | ha
    · cases heq
    · exact .message (hchecks.charges rfl hid ha ▸ hid)

/-- Such a client is the sender, if the endpoint has no client id from an
earlier session. -/
theorem Charged.sender {past : List (Event × List Action)} (h : Charged s id occurrence)
    (hmap : ∀ clientIp, s.clientIdMap clientIp = (tlsSession clientIp past).clientId) :
    occurrence.sender past = some id := by
  cases h with
  | certificate hid => exact Certificate.clientId_eq_some.mpr hid
  | message hid | read hid =>
    rw [hmap] at hid
    exact hid

/-! ## The fault tracker -/

theorem Step.faultTracker (h : Step env io s occurrence s' acts) :
    s'.faultTracker = s.faultTracker := by
  cases h with
  | ticketRequest _ _ _ _ _ _ houtcome => cases houtcome <;> rfl
  | checkinRequest _ _ _ _ _ _ houtcome => cases houtcome <;> rfl
  | _ => rfl

/-- Only a fault makes an entry. -/
theorem faultTracker_charge (acts : List Action) (h : (s.charge acts).faultTracker id ≠ none) :
    s.faultTracker id ≠ none ∨ ∃ faultDesc, .reportFault id faultDesc ∈ acts := by
  unfold charge at h
  dsimp only at h
  generalize s.faultTracker = m at h ⊢
  induction acts generalizing m with
  | nil => exact .inl h
  | cons a acts ih =>
    rw [List.foldl_cons] at h
    rcases ih _ h with hm | ⟨faultDesc, ha⟩
    · cases a with
      | reportFault clientId faultDesc =>
        by_cases hid : id = clientId
        · subst hid
          exact .inr ⟨faultDesc, List.mem_cons_self⟩
        · change ClientMap.reportFault m clientId faultDesc id ≠ none at hm
          unfold ClientMap.reportFault at hm
          rw [Map.set_of_ne _ hid] at hm
          exact .inl hm
      | _ => exact .inl hm
    · exact .inr ⟨faultDesc, List.mem_cons_of_mem _ ha⟩

theorem faultTracker_of_run (hstart : start env found = .ok s₀) (hrun : Run (next env) s₀ tr s)
    (h : s.faultTracker id ≠ none) :
    ∃ pre e acts post faultDesc, tr = pre ++ (e, acts) :: post ∧
      .reportFault id faultDesc ∈ acts := by
  have hfirst : ¬ s₀.faultTracker id ≠ none := by
    obtain ⟨table, -, rfl⟩ := start_eq_ok hstart
    intro hne
    exact hne rfl
  obtain ⟨pre, e, acts, post, m, m', htr, -, hnext, -, hbefore, hafter⟩ :=
    hrun.turns (P := fun s => s.faultTracker id ≠ none) hfirst h
  obtain ⟨-, m₁, hstep, rfl⟩ := next_step hnext
  rcases faultTracker_charge acts hafter with hm | ⟨faultDesc, ha⟩
  · rw [hstep.faultTracker] at hm
    exact absurd hm hbefore
  · exact ⟨pre, e, acts, post, faultDesc, htr, ha⟩

/-! ## Faults and their cause -/

theorem chargesSender_atTime (s : CheckinService) (now : Int) (occurrence : Occurrence) :
    (s.atTime now).chargesSender occurrence = s.chargesSender occurrence := by
  cases occurrence <;> rfl

theorem chargesSender_lineRead {n : UInt64} (harrived : s.Arrived clientIp n)
    (hid : s.clientIdMap clientIp = some id) : s.chargesSender (.lineRead clientIp) = true := by
  simp only [chargesSender, harrived.outstanding, decide_eq_true_eq]
  exact .inl ⟨harrived.size, by rw [hid]; rfl⟩

/-- A step that does not meet the condition charges a client that is not the
sender. -/
theorem Step.chargesSender {past : List (Event × List Action)}
    (h : Step env io s occurrence s' acts)
    (hmap : ∀ clientIp, s.clientIdMap clientIp = (tlsSession clientIp past).clientId)
    (hcharged : ∀ id faultDesc, .reportFault id faultDesc ∈ acts →
      occurrence.sender past = some id) : s.chargesSender occurrence = true := by
  cases h with
  | handshakeFailed =>
    have hnobody := hcharged _ _ (List.mem_singleton_self _)
    cases hnobody
  | sizeRead hread _ => simp only [CheckinService.chargesSender, hread.outstanding]
  | mismatch hread _ =>
    have hmember := (hmap _).trans (hcharged _ _ (List.mem_singleton_self _))
    simp only [CheckinService.chargesSender, hread.outstanding, decide_eq_true_eq]
    exact .inr hmember
  | unknownIp _ hid =>
    have hmember := (hmap _).trans (hcharged _ _ (List.mem_singleton_self _))
    rw [hid] at hmember
    cases hmember
  | unknownId harrived hid _ | undecoded harrived hid _ _ _ =>
    exact chargesSender_lineRead harrived hid
  | ticketRequest harrived hid _ _ _ _ _ | checkinRequest harrived hid _ _ _ _ _ =>
    exact chargesSender_lineRead harrived hid
  | payloadLost houtstanding =>
    have hmember := (hmap _).trans (hcharged _ _ (List.mem_singleton_self _))
    simp only [CheckinService.chargesSender, houtstanding, decide_eq_true_eq]
    exact hmember
  | @disconnected clientIp read error houtstanding hquiet =>
    cases error with
    | other =>
      rcases hquiet with rfl | hother
      · simp only [CheckinService.chargesSender, houtstanding]
      · exact absurd rfl hother
    | _ => rfl
  | _ => rfl

/-- The condition on the events is needed, too. -/
theorem chargesSender_of_charged (hstart : start env found = .ok s₀)
    (hrun : Run (next env) s₀ tr s)
    (hid : Throughout (next env) (fun s e => s.findsNoId e.occurrence = true) s₀ tr)
    (hcharged : ∀ pre e acts post, tr = pre ++ (e, acts) :: post → ∀ id faultDesc,
      .reportFault id faultDesc ∈ acts → e.occurrence.sender pre = some id) :
    Throughout (next env) (fun s e => s.chargesSender e.occurrence = true) s₀ tr := by
  rintro pre e acts post m rfl hpre
  obtain ⟨m', m'', hpre', hnext, -⟩ := hrun.splitStep
  obtain rfl := hpre.deterministic hpre'
  obtain ⟨-, m₁, hstep, -⟩ := next_step hnext
  have hmap := clientIdMap_of_run hstart hpre hid.past
  rw [← chargesSender_atTime m e.io.steadyNow]
  exact hstep.chargesSender hmap (hcharged pre e acts post rfl)

/-- **Faults are charged to the offender** in a run whose events meet the
condition, and in no other run that ends without an exception. -/
theorem faults_are_charged_to_their_cause (hstart : start env found = .ok s₀)
    (hlife : Lifetime (next env) (crash env) s₀ tr)
    (hid : Throughout (next env) (fun s e => s.findsNoId e.occurrence = true) s₀ tr) :
    (Throughout (next env) (fun s e => s.chargesSender e.occurrence = true) s₀ tr →
      (∀ pre e acts post, tr = pre ++ (e, acts) :: post → ∀ id faultDesc,
        .reportFault id faultDesc ∈ acts → e.occurrence.sender pre = some id) ∧
      ∀ clientId, ¬ CausedFault tr clientId → ∀ s, Run (next env) s₀ tr s →
        s.faultTracker clientId = none) ∧
    ∀ s, Run (next env) s₀ tr s →
      (∀ pre e acts post, tr = pre ++ (e, acts) :: post → ∀ id faultDesc,
        .reportFault id faultDesc ∈ acts → e.occurrence.sender pre = some id) →
      Throughout (next env) (fun s e => s.chargesSender e.occurrence = true) s₀ tr := by
  refine ⟨fun hsender => ?_, fun s hrun hcharged =>
    chargesSender_of_charged hstart hrun hid hcharged⟩
  have hcharged : ∀ pre e acts post, tr = pre ++ (e, acts) :: post → ∀ id faultDesc,
      .reportFault id faultDesc ∈ acts → e.occurrence.sender pre = some id := by
    rintro pre e acts post rfl id faultDesc ha
    obtain ⟨m, hrun, hstep⟩ := hlife.step
    have hmap := clientIdMap_of_run hstart hrun hid.past
    have hm : Charged (m.atTime e.io.steadyNow) id e.occurrence := by
      rcases hstep with ⟨m', hnext⟩ | hcrash
      · obtain ⟨-, m₁, hstep, -⟩ := next_step hnext
        have hm := hsender pre e acts post m rfl hrun
        exact hstep.charged (by rw [chargesSender_atTime, hm]) ha
      · exact (crash_step hcrash).charged ha
    exact hm.sender hmap
  refine ⟨hcharged, ?_⟩
  intro clientId hcaused s hrun
  by_contra hentry
  obtain ⟨pre, e, acts, post, faultDesc, htr, ha⟩ := faultTracker_of_run hstart hrun hentry
  exact hcaused ⟨pre, e, acts, post, htr, hcharged pre e acts post htr clientId faultDesc ha,
    clientId, faultDesc, ha⟩

section Rehearsal

open Rehearsal

/-- The tablet sends a message, and a handshake fails somewhere else. -/
def strangeHandshake : List Event :=
  connect (instant 1 0) tabletIp (some (certificate tabletId tabletKey)) ++
  send (instant 2 0) tabletIp (bytes "hi") ++
  [⟨instant 3 0, .accepted kioskIp⟩, ⟨instant 3 0, .handshakeFailed kioskIp "bad certificate"⟩]

/-- A fault in the last step, and none before. -/
def lastStepFaults (clientId : UInt32) (tr : List (Event × List Action)) : Bool :=
  tr.dropLast.all (fun x => x.2.all fun a =>
    match a with
    | .reportFault _ _ => false
    | _ => true) &&
  tr.getLast?.any fun x => x.2 == [.reportFault clientId "bad certificate"] &&
    (x.1.occurrence.sender tr.dropLast).isNone

/-- The failed handshake of a stranger is charged to the tablet, which caused no
fault. -/
theorem bystanders_are_charged :
    ∃ tr s, Run (next Rehearsal.env) opening tr s ∧
      (∃ pre e acts, tr = pre ++ [(e, acts)] ∧ .reportFault tabletId "bad certificate" ∈ acts ∧
        e.occurrence.sender pre = none) ∧
      ¬ CausedFault tr tabletId ∧ s.faultTracker tabletId ≠ none := by
  have hexec : (exec (next Rehearsal.env) opening strangeHandshake).any (fun r =>
      lastStepFaults tabletId r.1 && (r.2.faultTracker tabletId).isSome) = true := by
    decide +kernel
  obtain ⟨tr, s, hrun, hs⟩ := Run.exists_of_exec hexec
  rw [Bool.and_eq_true, lastStepFaults, Bool.and_eq_true, Option.any_eq_true] at hs
  obtain ⟨⟨hbefore, ⟨e, acts⟩, hlast, hx⟩, hentry⟩ := hs
  obtain ⟨pre, rfl⟩ := List.getLast?_eq_some_iff.mp hlast
  rw [List.dropLast_concat] at hbefore hx
  simp only [Bool.and_eq_true, beq_iff_eq, Option.isNone_iff_eq_none] at hx
  obtain ⟨rfl, hnobody⟩ := hx
  refine ⟨_, s, hrun, ⟨pre, e, _, rfl, List.mem_singleton_self _, hnobody⟩, ?_,
    Option.isSome_iff_ne_none.mp hentry⟩
  rintro ⟨pre', e', acts', post, htr, hsender, id, faultDesc, ha⟩
  rcases append_eq_append_cons htr with ⟨post', hpre, -⟩ | ⟨mid, rfl, hend⟩
  · have hstep : (e', acts') ∈ pre := by simp [hpre]
    have hquiet := List.all_eq_true.mp (List.all_eq_true.mp hbefore _ hstep) _ ha
    cases hquiet
  · cases mid with
    | nil =>
      simp only [List.nil_append, List.cons.injEq, Prod.mk.injEq] at hend
      obtain ⟨⟨rfl, -⟩, -⟩ := hend
      rw [List.append_nil, hnobody] at hsender
      cases hsender
    | cons => simp at hend

/-- The kiosk and the tablet connect, and the tablet sends an empty object. -/
def emptyRequest : List Event := connections ++ send (instant 3 0) tabletIp (bytes "{}")

/-- All faults are the client's, and the last step has one. -/
def onlyFaults (clientId : UInt32) (tr : List (Event × List Action)) : Bool :=
  tr.all (fun x => x.2.all fun a =>
    match a with
    | .reportFault id _ => id == clientId
    | _ => true) &&
  tr.getLast?.any fun x => x.2.contains
    (.reportFault clientId "Missing 'body' or 'signature' in JSON")

/-- The fault goes to the tablet, and the kiosk stays out of the tracker. -/
theorem faults_are_charged_to_their_cause_rehearsal :
    ∃ tr s, Run (next Rehearsal.env) opening tr s ∧
      (∃ pre e acts, tr = pre ++ [(e, acts)] ∧
        .reportFault tabletId "Missing 'body' or 'signature' in JSON" ∈ acts ∧
        e.occurrence.sender pre = some tabletId) ∧ s.faultTracker kioskId = none := by
  have hfaults : (exec (next Rehearsal.env) opening emptyRequest).any (fun r =>
      onlyFaults tabletId r.1) = true := by decide +kernel
  have hid : along (next Rehearsal.env) (fun s e => s.findsNoId e.occurrence) opening
      emptyRequest = true := by decide +kernel
  have hsender : along (next Rehearsal.env) (fun s e => s.chargesSender e.occurrence) opening
      emptyRequest = true := by decide +kernel
  cases hexec : exec (next Rehearsal.env) opening emptyRequest with
  | none =>
    rw [hexec] at hfaults
    cases hfaults
  | some r =>
    obtain ⟨tr, s⟩ := r
    rw [hexec, Option.any_some, onlyFaults, Bool.and_eq_true, Option.any_eq_true] at hfaults
    obtain ⟨hall, ⟨e, acts⟩, hlast, hx⟩ := hfaults
    obtain ⟨pre, rfl⟩ := List.getLast?_eq_some_iff.mp hlast
    have ha := List.contains_iff_mem.mp hx
    have hrun := Run.of_exec hexec
    obtain ⟨hcharged, htracker⟩ := (faults_are_charged_to_their_cause start_opening (.alive hrun)
      (.of_along hexec hid)).1 (.of_along hexec hsender)
    refine ⟨_, s, hrun, ⟨pre, e, acts, rfl, ha, hcharged pre e acts [] rfl _ _ ha⟩, ?_⟩
    refine htracker kioskId ?_ s hrun
    rintro ⟨pre', e', acts', post, htr, hkiosk, id, faultDesc, hfault⟩
    have htablet := hcharged pre' e' acts' post htr id faultDesc hfault
    have hstep : (e', acts') ∈ pre ++ [(e, acts)] := by simp [htr]
    have hid := List.all_eq_true.mp (List.all_eq_true.mp hall _ hstep) _ hfault
    rw [hkiosk, Option.some.injEq] at htablet
    rw [beq_iff_eq, ← htablet] at hid
    cases hid

end Rehearsal

end CheckinService

end Pollbook
