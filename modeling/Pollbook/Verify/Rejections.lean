import Pollbook.Rehearsal
import Pollbook.Verify.Sessions

/-!
# Rejections

A request that is not approved changes neither a status nor a timer, and the
tickets only by what the ticket file says; and a check-in response tells the
truth about what the request did. Nothing here depends on how the state came
about.
-/

namespace Pollbook

/-- The answer approves the request. -/
def Action.approved : Action → Bool
  | .checkinAnswer _ _ response => response.body.approved
  | .ticketAnswer _ _ response => response.body.approved
  | _ => false

namespace CheckinService

variable {env : Env} {io : Io} {s s' : CheckinService} {clientIp : Endpoint}
  {acts : List Action}

theorem Checks.not_approved (h : s.Checks clientIp acts) : ∀ a ∈ acts, a.approved = false := by
  intro a ha
  obtain ⟨_, _, _, rfl⟩ | ⟨_, _, rfl, -⟩ := h a ha <;> rfl

theorem Checks.no_answer (h : s.Checks clientIp acts) {ip : Endpoint} {request : CheckinRequest}
    {response : CheckinResponse} : .checkinAnswer ip request response ∉ acts := by
  intro ha
  obtain ⟨_, _, _, h⟩ | ⟨_, _, h, -⟩ := h _ ha <;> cases h

/-- The two ways a check-in request ends. -/
theorem CheckinOutcome.told {request : CheckinRequest}
    (h : CheckinOutcome env io s clientIp request s' acts) :
    (s'.toSessions = s.toSessions ∧ (∀ a ∈ acts, a.approved = false) ∧
      ∀ ip r response, .checkinAnswer ip r response ∈ acts → response.body.ticket = []) ∨
    ∃ secret response, s.voterStatusTable request.body.voterUniqueId = some .eligible ∧
      s'.voterStatusTable = s.voterStatusTable.set request.body.voterUniqueId .pending ∧
      s'.clientTicketsMap response.body.ticket = some (request.body.voterUniqueId, secret) ∧
      .checkinAnswer clientIp request response ∈ acts ∧ response.body.approved = true ∧
      ∀ ip r response', .checkinAnswer ip r response' ∈ acts → response' = response := by
  cases h with
  | unanswered => exact .inl ⟨rfl, by simp, by simp⟩
  | denied _ hchecks =>
    refine .inl ⟨rfl, fun a ha => ?_, fun ip r response ha => ?_⟩
    · obtain ha | ha := List.mem_append.mp ha
      · exact hchecks.not_approved a ha
      · rw [List.mem_singleton.mp ha]
        rfl
    · obtain ha | ha := List.mem_append.mp ha
      · exact absurd ha hchecks.no_answer
      · simp only [List.mem_singleton, Action.checkinAnswer.injEq] at ha
        rw [ha.2.2]
        rfl
  | @accepted k acts t sec _ hchecks _ _ heligible _ _ =>
    have hfields := s.toSessions.accept_fields request.body.voterUniqueId
      (io.steadyNow + minutes env.config.timeoutInterval) (hex t.toList) (hex sec.toList)
      io.csvOpens
    refine .inr ⟨hex sec.toList, _, heligible, hfields.1, ?_,
      List.mem_append_right _ List.mem_cons_self, rfl, fun ip r response' ha => ?_⟩
    · exact (congrFun hfields.2.1 _).trans (Map.set_self ..)
    · obtain ha | ha := List.mem_append.mp ha
      · exact absurd ha hchecks.no_answer
      · simp only [List.mem_singleton, Action.checkinAnswer.injEq] at ha
        exact ha.2.2

/-- A ticket request that is not approved leaves the sessions as the ticket
file has them. -/
theorem handleTrustedClient_not_approved {msgString : Bytes}
    (h : s.handleTrustedClient env io msgString clientIp = .returned s' acts)
    (hacts : ∀ a ∈ acts, a.approved = false) :
    s'.toSessions = s.toSessions.readFromCsv := by
  obtain ⟨rfl, -⟩ | ⟨json, request, -, -, houtcome⟩ := handleTrustedClient_returned h
  · rfl
  · cases houtcome with
    | refused | denied => rfl
    | approved =>
      have happroved := hacts _ (List.mem_append_right _ List.mem_cons_self)
      cases happroved

/-- **Rejections are no-ops and responses tell the truth.** -/
theorem rejections_are_noops (env : Env) (io : Io) (s : CheckinService) (clientIp : Endpoint) :
    (∀ request s' acts, s.handleCheckinRequest env io clientIp request = .returned s' acts →
      ((∀ a ∈ acts, a.approved = false) →
        s'.voterStatusTable = s.voterStatusTable ∧ s'.requestTimers = s.requestTimers ∧
          s'.clientTicketsMap = s.clientTicketsMap) ∧
      ((∃ response, .checkinAnswer clientIp request response ∈ acts ∧
          response.body.approved = true) ↔
        s.voterStatusTable request.body.voterUniqueId = some .eligible ∧
          s'.voterStatusTable request.body.voterUniqueId = some .pending) ∧
      ∀ ip r response, .checkinAnswer ip r response ∈ acts →
        if response.body.approved then
          ∃ secret, s'.clientTicketsMap response.body.ticket =
            some (request.body.voterUniqueId, secret)
        else response.body.ticket = []) ∧
    ∀ msgString s' acts, s.handleTrustedClient env io msgString clientIp = .returned s' acts →
      (∀ a ∈ acts, a.approved = false) →
      s'.voterStatusTable = s.voterStatusTable ∧ s'.requestTimers = s.requestTimers ∧
        s'.waits = s.waits ∧
        s'.clientTicketsMap = match s.ticketValidationCsv with
          | some text => s.clientTicketsMap.setAll ((lines text).filterMap ticketRow)
          | none => s.clientTicketsMap := by
  constructor
  · intro request s' acts hreturned
    obtain ⟨hsame, hnone, hempty⟩ | ⟨secret, response, heligible, hpending, hticket, hanswer,
      happroved, hunique⟩ := (handleCheckinRequest_returned hreturned).told
    · refine ⟨fun _ => ⟨by rw [hsame], by rw [hsame], by rw [hsame]⟩, ⟨?_, ?_⟩, ?_⟩
      · rintro ⟨response, hanswer, happroved⟩
        have hfalse := hnone _ hanswer
        rw [Action.approved, happroved] at hfalse
        cases hfalse
      · rintro ⟨heligible, hpending⟩
        rw [hsame, heligible] at hpending
        cases hpending
      · intro ip r response hanswer
        have hfalse : response.body.approved = false := hnone _ hanswer
        rw [hfalse]
        exact hempty ip r response hanswer
    · refine ⟨fun hnone => ?_, ⟨fun _ => ⟨heligible, ?_⟩, fun _ => ⟨response, hanswer, happroved⟩⟩,
        fun ip r response' hanswer' => ?_⟩
      · have hfalse := hnone _ hanswer
        rw [Action.approved, happroved] at hfalse
        cases hfalse
      · rw [hpending, Map.set_self]
      · rw [hunique ip r response' hanswer', happroved]
        exact ⟨secret, hticket⟩
  · intro msgString s' acts hreturned hacts
    rw [handleTrustedClient_not_approved hreturned hacts]
    unfold Sessions.readFromCsv
    split
    · next hcsv => exact ⟨rfl, rfl, rfl, by rw [hcsv]⟩
    · next hcsv => exact ⟨rfl, rfl, rfl, by rw [hcsv]⟩

/-- A ticket request with the wrong PIN at the small polling place: the voter's
timer is still there. -/
theorem rejections_are_noops_wrong_pin :
    ∃ (s s' : CheckinService) (acts : List Action),
      s.handleTrustedClient Rehearsal.env (Rehearsal.instant 20 0)
        (Rehearsal.env.render ((Rehearsal.ticketRequest 1000020 7 9999).toJson
          Rehearsal.env.toCodec)) Rehearsal.tabletIp = .returned s' acts ∧
      (∃ timer, s.requestTimers Rehearsal.voter = some timer) ∧
      s'.requestTimers = s.requestTimers := by
  have hexec : (exec (next Rehearsal.env) Rehearsal.opening
      (Rehearsal.connections ++ Rehearsal.checkin 10 7)).any
      (fun r => (r.2.requestTimers Rehearsal.voter).isSome &&
        match r.2.handleTrustedClient Rehearsal.env (Rehearsal.instant 20 0)
          (Rehearsal.env.render ((Rehearsal.ticketRequest 1000020 7 9999).toJson
            Rehearsal.env.toCodec)) Rehearsal.tabletIp with
        | .returned _ acts => acts.all fun a => !a.approved
        | .threw _ _ => false) = true := by decide +kernel
  obtain ⟨tr, s, -, hs⟩ := Run.exists_of_exec hexec
  rw [Bool.and_eq_true, Option.isSome_iff_exists] at hs
  obtain ⟨htimer, hs⟩ := hs
  split at hs
  · next s' acts hreturned =>
    have hnone : ∀ a ∈ acts, a.approved = false := by simpa using hs
    have hsame := (rejections_are_noops _ _ s _).2 _ s' acts hreturned hnone
    exact ⟨s, s', acts, hreturned, htimer, hsame.2.1⟩
  · cases hs

end CheckinService

end Pollbook
