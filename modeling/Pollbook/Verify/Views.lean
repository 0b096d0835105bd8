import Pollbook.Verify.Outcomes

/-!
# What a handler looks at

A handler looks at few entries of the state: those of its connection, the key
of its client, and the entries of one voter. In two states that agree on these
it does the same (`handleCheckinRequest_alike`, `handleTicketRequest_alike`),
and what it leaves is the same change of either state. The secrets it makes or
hands out may differ on the two sides; then so do the approvals that show them.
-/

namespace Pollbook

/-- The same action, up to the secret in an approval and the signature on it. -/
inductive Action.Like (env : Env) (R : Bytes → Bytes → Prop) : Action → Action → Prop
  | same (a : Action) : Like env R a a
  | approval (clientIp : Endpoint) (request : TicketRequest) (voterId : UInt32)
      {secret secret' : Bytes} (h : R secret secret') :
      Like env R
        (.ticketAnswer clientIp request (CheckinService.ticketApproval env request voterId secret))
        (.ticketAnswer clientIp request
          (CheckinService.ticketApproval env request voterId secret'))

/-- What its surroundings give the handler, with another secret. -/
def Io.withSecret (io : Io) (secretRandom : Option (Vector UInt8 32)) : Io :=
  { io with secretRandom }

namespace CheckinService

variable {env : Env} {io : Io} {R : Bytes → Bytes → Prop} {s t : CheckinService}
  {clientIp : Endpoint}

/-- The key of the client is in memory, if there is one. -/
def withVerifier (env : Env) (s : CheckinService) (clientId : UInt32) : CheckinService :=
  (s.ensureVerifier env clientId).getD s

/-- The two states are the same for the client on a connection. -/
structure SameFor (env : Env) (clientIp : Endpoint) (s t : CheckinService) : Prop where
  current : s.clientId = t.clientId
  identity : s.clientIdMap clientIp = t.clientIdMap clientIp
  stream : s.clientSslStreams clientIp = t.clientSslStreams clientIp
  key : keyOf env s.toKeys ((s.clientIdMap clientIp).getD 0) =
    keyOf env t.toKeys ((s.clientIdMap clientIp).getD 0)

theorem rejectWith_alike {V : CheckinService → CheckinService → Prop} (h : V s t)
    (clientId : UInt32) (faultDesc : String) :
    Call.Alike V (Action.Like env R) (s.rejectWith clientId faultDesc)
      (t.rejectWith clientId faultDesc) :=
  (Call.Alike.perform (.same _)).bind fun _ _ _ => .pure h

/-! ## Check-in requests -/

theorem validateClientRequest_congr {request : CheckinRequest} (now : UInt64)
    (hcurrent : s.clientId = t.clientId)
    (hkey : s.clientVerifiers request.body.clientIdNum =
      t.clientVerifiers request.body.clientIdNum) :
    s.validateClientRequest env request now = t.validateClientRequest env request now := by
  unfold validateClientRequest mapAt
  rw [hcurrent, hkey]

theorem answerCheckin_alike (hstream : s.clientSslStreams clientIp = t.clientSslStreams clientIp)
    (secretRandom : Option (Vector UInt8 32)) (request : CheckinRequest) (accept : Bool)
    (ticket : Bytes) :
    Call.Alike (fun s' t' => s' = s.startSizeRead clientIp ∧ t' = t.startSizeRead clientIp)
      (Action.Like env R) (s.answerCheckin env io clientIp request accept ticket)
      (t.answerCheckin env (io.withSecret secretRandom) clientIp request accept ticket) := by
  unfold answerCheckin
  refine .bind_same .same _ fun text => .bind_same .same _ fun _ => ?_
  unfold mapAt
  rw [hstream]
  refine .bind_same .same _ fun _ => ?_
  change Call.Alike _ _ (if io.writes then _ else _) (if io.writes then _ else _)
  split
  · exact .bind_same .same _ fun _ => .pure ⟨rfl, rfl⟩
  · exact .threw .nil

/-- The change of the sessions when a voter is accepted. -/
def acceptVoter (env : Env) (io : Io) (s : CheckinService) (voterId : UInt32)
    (ticket : Vector UInt8 16) (secret : Vector UInt8 32) : CheckinService :=
  { s with
    toSessions := s.toSessions.accept voterId (io.steadyNow + minutes env.config.timeoutInterval)
      (hex ticket.toList) (hex secret.toList) io.csvOpens }

/-- The ways the handler of a check-in request leaves two states. -/
inductive CheckinEnds (env : Env) (io : Io) (secretRandom : Option (Vector UInt8 32))
    (s t : CheckinService) (clientIp : Endpoint) (request : CheckinRequest) :
    CheckinService → CheckinService → Prop
  | ignored : CheckinEnds env io secretRandom s t clientIp request s t
  | foreign : CheckinEnds env io secretRandom s t clientIp request (s.startSizeRead clientIp)
      (t.startSizeRead clientIp)
  | denied : CheckinEnds env io secretRandom s t clientIp request
      ((s.withVerifier env request.body.clientIdNum).startSizeRead clientIp)
      ((t.withVerifier env request.body.clientIdNum).startSizeRead clientIp)
  | accepted {ticket : Vector UInt8 16} {secret secret' : Vector UInt8 32}
      (hticket : io.ticketRandom = some ticket) (hsecret : io.secretRandom = some secret)
      (hsecret' : secretRandom = some secret') :
      CheckinEnds env io secretRandom s t clientIp request
        (((s.withVerifier env request.body.clientIdNum).acceptVoter env io
          request.body.voterUniqueId ticket secret).startSizeRead clientIp)
        (((t.withVerifier env request.body.clientIdNum).acceptVoter env io
          request.body.voterUniqueId ticket secret').startSizeRead clientIp)

theorem issueTicket_alike {secretRandom : Option (Vector UInt8 32)}
    (hsecrets : io.secretRandom.isSome = secretRandom.isSome) (voterId : UInt32) :
    Call.Alike (fun x y => ∃ ticket secret secret', io.ticketRandom = some ticket ∧
        io.secretRandom = some secret ∧ secretRandom = some secret' ∧
        x = (hex ticket.toList, s.acceptVoter env io voterId ticket secret) ∧
        y = (hex ticket.toList, t.acceptVoter env io voterId ticket secret'))
      (Action.Like env R) ((s.makePending env io voterId).issueTicket io voterId)
      ((t.makePending env (io.withSecret secretRandom) voterId).issueTicket
        (io.withSecret secretRandom) voterId) := by
  unfold issueTicket
  change Call.Alike _ _ (Call.ofCpp (generateSecret (io.ticketRandom.map (·.toList))) >>= _)
    (Call.ofCpp (generateSecret (io.ticketRandom.map (·.toList))) >>= _)
  cases hticket : io.ticketRandom with
  | none => exact .threw .nil
  | some ticket =>
    simp only [Option.map_some, generateSecret, Call.ofCpp_ok, Call.returned_bind, Call.after_nil]
    change Call.Alike _ _ (Call.ofCpp (generateSecret (io.secretRandom.map (·.toList))) >>= _)
      (Call.ofCpp (generateSecret (secretRandom.map (·.toList))) >>= _)
    cases hsecret : io.secretRandom with
    | none =>
      rw [hsecret] at hsecrets
      cases secretRandom with
      | none => exact .threw .nil
      | some secret' => cases hsecrets
    | some secret =>
      rw [hsecret] at hsecrets
      obtain ⟨secret', rfl⟩ := Option.isSome_iff_exists.mp hsecrets.symm
      exact .pure ⟨ticket, secret, secret', rfl, rfl, rfl, rfl, rfl⟩

/-- Two states that are the same for the client and the voter are for the
handler of its check-in requests. -/
theorem handleCheckinRequest_alike {secretRandom : Option (Vector UInt8 32)}
    (hsecrets : io.secretRandom.isSome = secretRandom.isSome) (h : SameFor env clientIp s t)
    {request : CheckinRequest} (hstatus : s.voterStatusTable request.body.voterUniqueId =
      t.voterStatusTable request.body.voterUniqueId) :
    Call.Alike (CheckinEnds env io secretRandom s t clientIp request) (Action.Like env R)
      (s.handleCheckinRequest env io clientIp request)
      (t.handleCheckinRequest env (io.withSecret secretRandom) clientIp request) := by
  have hforeign : Call.Alike (CheckinEnds env io secretRandom s t clientIp request)
      (Action.Like env R) (s.answerCheckin env io clientIp request false [])
      (t.answerCheckin env (io.withSecret secretRandom) clientIp request false []) :=
    (answerCheckin_alike h.stream secretRandom request false []).mono fun s' t' ⟨hs, ht⟩ => by
      rw [hs, ht]
      exact .foreign
  unfold handleCheckinRequest
  dsimp only
  rw [← h.identity]
  cases hidentity : request.body.clientIdNum == (s.clientIdMap clientIp).getD 0 with
  | false =>
    simp only [Bool.not_false, if_true]
    refine .bind_same .same _ fun _ => .bind_same .same _ fun _ => ?_
    exact .bind_same .same _ fun _ => hforeign
  | true =>
    simp only [Bool.not_true, Bool.false_eq_true, if_false]
    refine .bind_same .same _ fun _ => .bind_same .same _ fun _ => ?_
    have hkey := h.key
    rw [← beq_iff_eq.mp hidentity] at hkey
    cases hkeyOf : keyOf env s.toKeys request.body.clientIdNum with
    | none =>
      rw [hkeyOf] at hkey
      rw [ensureVerifier_none hkeyOf, ensureVerifier_none hkey.symm]
      exact .pure .ignored
    | some key =>
      rw [hkeyOf] at hkey
      obtain ⟨k, hs, hsk⟩ := ensureVerifier_some hkeyOf
      obtain ⟨l, ht, htl⟩ := ensureVerifier_some hkey.symm
      have hsv : s.withVerifier env request.body.clientIdNum = { s with toKeys := k } := by
        rw [withVerifier, hs, Option.getD_some]
      have htv : t.withVerifier env request.body.clientIdNum = { t with toKeys := l } := by
        rw [withVerifier, ht, Option.getD_some]
      rw [hs, ht]
      dsimp only
      change Call.Alike _ _
        (validateClientRequest env { s with toKeys := k } request io.systemNow >>= _)
        (validateClientRequest env { t with toKeys := l } request io.systemNow >>= _)
      rw [validateClientRequest_congr (s := { s with toKeys := k }) (t := { t with toKeys := l })
        io.systemNow h.current (hsk.trans htl.symm)]
      refine .bind_same .same _ fun valid => ?_
      rw [hstatus]
      split
      · refine (issueTicket_alike (s := { s with toKeys := k }) (t := { t with toKeys := l })
          hsecrets request.body.voterUniqueId).bind ?_
        rintro ⟨_, s₁⟩ ⟨_, t₁⟩ ⟨ticket, secret, secret', hticket, hsecret, hsecret', hs₁, ht₁⟩
        rw [Prod.mk.injEq] at hs₁ ht₁
        obtain ⟨rfl, rfl⟩ := hs₁
        obtain ⟨rfl, rfl⟩ := ht₁
        refine (answerCheckin_alike (by exact h.stream) secretRandom request true _).mono ?_
        rintro s' t' ⟨rfl, rfl⟩
        rw [← hsv, ← htv]
        exact .accepted hticket hsecret hsecret'
      · refine (answerCheckin_alike (by exact h.stream) secretRandom request false []).mono ?_
        rintro s' t' ⟨rfl, rfl⟩
        rw [← hsv, ← htv]
        exact .denied

/-! ## Ticket requests -/

theorem sendTicketResponse_congr
    (hstream : s.clientSslStreams clientIp = t.clientSslStreams clientIp)
    (request : TicketRequest) (body : TicketResponse.Body) :
    s.sendTicketResponse env clientIp request body =
      t.sendTicketResponse env clientIp request body := by
  unfold sendTicketResponse mapAt
  rw [hstream]

/-- An approval can be written or not, whichever of the secrets is in it. -/
theorem sendApproval_alike (hc : env.toCodec.Lawful)
    (hstream : s.clientSslStreams clientIp = t.clientSslStreams clientIp)
    (request : TicketRequest) (voterId : UInt32) {secret secret' : Bytes} (hR : R secret secret')
    (hutf8 : validUtf8 secret = validUtf8 secret') :
    Call.Alike (fun _ _ => True) (Action.Like env R)
      (s.sendTicketResponse env clientIp request (ticketResponseBody true
        (findVoter env.config.voterListFile voterId) voterId secret request.body.pin))
      (t.sendTicketResponse env clientIp request (ticketResponseBody true
        (findVoter env.config.voterListFile voterId) voterId secret' request.body.pin)) := by
  have hreturns : ∀ {s t : CheckinService} {secret secret' : Bytes} {u : Unit} {acts : List Action},
      s.clientSslStreams clientIp = t.clientSslStreams clientIp →
      validUtf8 secret = validUtf8 secret' →
      s.sendTicketResponse env clientIp request (ticketResponseBody true
        (findVoter env.config.voterListFile voterId) voterId secret request.body.pin) =
          .returned u acts →
      acts = [.ticketAnswer clientIp request (ticketApproval env request voterId secret)] ∧
      t.sendTicketResponse env clientIp request (ticketResponseBody true
        (findVoter env.config.voterListFile voterId) voterId secret' request.body.pin) =
          .returned u [.ticketAnswer clientIp request
            (ticketApproval env request voterId secret')] := by
    intro s t secret secret' u acts hstream hutf8 h
    obtain ⟨⟨hbody, -, stream, hs⟩, rfl⟩ := sendTicketResponse_returned.mp h
    obtain ⟨hlast, hfirst, hmiddle, hsecret⟩ := TicketResponse.Body.utf8_of_toJson hbody
    have hbody' : (ticketResponseBody true (findVoter env.config.voterListFile voterId) voterId
        secret' request.body.pin).Utf8 := ⟨hlast, hfirst, hmiddle, hutf8.symm.trans hsecret⟩
    have hresponse : ((env.signTicketResponse (ticketResponseBody true
        (findVoter env.config.voterListFile voterId) voterId secret' request.body.pin)).toJson
        env.toCodec).Plain := TicketResponse.plain_toJson hc hbody'
    exact ⟨rfl, sendTicketResponse_returned.mpr ⟨⟨(TicketResponse.Body.plain_toJson hbody').utf8,
      hresponse.utf8, stream, hstream ▸ hs⟩, rfl⟩⟩
  cases hs : s.sendTicketResponse env clientIp request (ticketResponseBody true
      (findVoter env.config.voterListFile voterId) voterId secret request.body.pin) with
  | returned u acts =>
    obtain ⟨rfl, ht⟩ := hreturns hstream hutf8 hs
    rw [ht]
    exact .returned trivial (.cons (.approval clientIp request voterId hR) .nil)
  | threw trap acts =>
    cases ht : t.sendTicketResponse env clientIp request (ticketResponseBody true
        (findVoter env.config.voterListFile voterId) voterId secret' request.body.pin) with
    | returned u acts' =>
      rw [(hreturns hstream.symm hutf8.symm ht).2] at hs
      cases hs
    | threw trap' acts' =>
      rw [sendTicketResponse_threw hs, sendTicketResponse_threw ht]
      exact .threw .nil

/-- The ways the handler of a ticket request leaves two states. -/
inductive TicketEnds (env : Env) (s t : CheckinService) (request : TicketRequest) :
    CheckinService → CheckinService → Prop
  | ignored : TicketEnds env s t request s t
  | checked : TicketEnds env s t request (s.withVerifier env request.body.clientId)
      (t.withVerifier env request.body.clientId)
  | redeemed {voterId : UInt32} {secret : Bytes} {timer timer' : Timer}
      (hticket : s.clientTicketsMap request.body.ticket = some (voterId, secret))
      (htimer : s.requestTimers voterId = some timer)
      (htimer' : t.requestTimers voterId = some timer') :
      TicketEnds env s t request
        { s.withVerifier env request.body.clientId with
          toSessions := s.toSessions.confirm voterId timer }
        { t.withVerifier env request.body.clientId with
          toSessions := t.toSessions.confirm voterId timer' }

/-- The end of the handler, in two states with the key in memory. -/
theorem redeemTicket_alike (hc : env.toCodec.Lawful)
    (hstream : s.clientSslStreams clientIp = t.clientSslStreams clientIp)
    (request : TicketRequest) (clientId : UInt32) {voterId : UInt32} {secret secret' : Bytes}
    (hR : R secret secret') (hutf8 : validUtf8 secret = validUtf8 secret')
    (htimers : (s.requestTimers voterId).map (·.expiry) =
      (t.requestTimers voterId).map (·.expiry)) :
    Call.Alike (fun s' t' => s' = s ∧ t' = t ∨ ∃ timer timer',
        s.requestTimers voterId = some timer ∧ t.requestTimers voterId = some timer' ∧
        s' = { s with toSessions := s.toSessions.confirm voterId timer } ∧
        t' = { t with toSessions := t.toSessions.confirm voterId timer' })
      (Action.Like env R) (s.redeemTicket env io clientIp request clientId voterId secret)
      (t.redeemTicket env io clientIp request clientId voterId secret') := by
  unfold redeemTicket
  dsimp only
  cases hs : s.requestTimers voterId with
  | none =>
    rw [hs] at htimers
    have ht : t.requestTimers voterId = none := Option.map_eq_none_iff.mp htimers.symm
    rw [ht, sendTicketResponse_congr hstream]
    refine .bind_same .same _ fun _ => .bind_same .same _ fun _ => ?_
    exact .bind_same .same _ fun _ => rejectWith_alike (.inl ⟨rfl, rfl⟩) clientId _
  | some timer =>
    rw [hs, Option.map_some] at htimers
    obtain ⟨timer', ht, hexpiry⟩ := Option.map_eq_some_iff.mp htimers.symm
    have hwindow : withinWindow env.config timer' io.steadyNow =
        withinWindow env.config timer io.steadyNow := by
      unfold withinWindow
      rw [hexpiry]
    rw [ht]
    dsimp only
    rw [hwindow, sendTicketResponse_congr hstream]
    split
    · refine (sendApproval_alike hc (by exact hstream) request voterId hR hutf8).bind
        fun _ _ _ => ?_
      exact .pure (.inr ⟨timer, timer', rfl, rfl, rfl, rfl⟩)
    · refine .bind_same .same _ fun _ => .bind_same .same _ fun _ => ?_
      exact rejectWith_alike (.inl ⟨rfl, rfl⟩) clientId _

/-- Two states that are the same for the client, the ticket and its voter are
for the handler of its ticket requests. -/
theorem handleTicketRequest_alike (hc : env.toCodec.Lawful)
    (hR : ∀ secret secret', R secret secret' → validUtf8 secret = validUtf8 secret')
    (h : SameFor env clientIp s t) {request : TicketRequest}
    (htickets : Option.Rel (fun x y => x.1 = y.1 ∧ R x.2 y.2)
      (s.clientTicketsMap request.body.ticket) (t.clientTicketsMap request.body.ticket))
    (htimers : ∀ voterId secret, s.clientTicketsMap request.body.ticket = some (voterId, secret) →
      (s.requestTimers voterId).map (·.expiry) = (t.requestTimers voterId).map (·.expiry)) :
    Call.Alike (TicketEnds env s t request) (Action.Like env R)
      (s.handleTicketRequest env io clientIp request)
      (t.handleTicketRequest env io clientIp request) := by
  unfold handleTicketRequest
  dsimp only
  rw [← h.identity]
  split
  · exact rejectWith_alike .ignored _ _
  · next hid =>
    have hkey := h.key
    rw [← Decidable.not_not.mp hid] at hkey
    cases hs : s.clientTicketsMap request.body.ticket with
    | none =>
      rw [hs] at htickets
      generalize t.clientTicketsMap request.body.ticket = y at htickets
      cases htickets
      exact rejectWith_alike .ignored _ _
    | some x =>
      obtain ⟨voterId, secret⟩ := x
      have htimers := htimers voterId secret hs
      rw [hs] at htickets
      cases ht : t.clientTicketsMap request.body.ticket with
      | none =>
        rw [ht] at htickets
        cases htickets
      | some y =>
        obtain ⟨voterId', secret'⟩ := y
        rw [ht] at htickets
        obtain ⟨rfl, hsecret⟩ : voterId = voterId' ∧ R secret secret' := by
          cases htickets with
          | some h => exact h
        dsimp only
        cases hkeyOf : keyOf env s.toKeys request.body.clientId with
        | none =>
          rw [hkeyOf] at hkey
          rw [ensureVerifier_none hkeyOf, ensureVerifier_none hkey.symm]
          exact rejectWith_alike .ignored _ _
        | some key =>
          rw [hkeyOf] at hkey
          obtain ⟨k, hsk, hk⟩ := ensureVerifier_some hkeyOf
          obtain ⟨l, htl, hl⟩ := ensureVerifier_some hkey.symm
          have hsv : s.withVerifier env request.body.clientId = { s with toKeys := k } := by
            rw [withVerifier, hsk, Option.getD_some]
          have htv : t.withVerifier env request.body.clientId = { t with toKeys := l } := by
            rw [withVerifier, htl, Option.getD_some]
          have hchecked : TicketEnds env s t request { s with toKeys := k }
              { t with toKeys := l } := by
            rw [← hsv, ← htv]
            exact .checked
          rw [hsk, htl]
          dsimp only
          rw [mapAt_eq_ok.mpr hk, mapAt_eq_ok.mpr hl]
          refine .bind_same .same _ fun _ => .bind_same .same _ fun _ => ?_
          refine .bind_same .same _ fun valid => ?_
          split
          · exact rejectWith_alike hchecked _ _
          split
          · exact rejectWith_alike hchecked _ _
          split
          · rw [sendTicketResponse_congr (s := { s with toKeys := k }) (t := { t with toKeys := l })
              h.stream]
            exact .bind_same .same _ fun _ => .pure hchecked
          · refine (redeemTicket_alike (s := { s with toKeys := k })
              (t := { t with toKeys := l }) hc h.stream request _ hsecret (hR _ _ hsecret)
              htimers).mono ?_
            rintro s' t' (⟨rfl, rfl⟩ | ⟨timer, timer', htimer, htimer', rfl, rfl⟩)
            · exact hchecked
            · have hredeemed := @TicketEnds.redeemed env s t request _ _ _ _ hs htimer htimer'
              rw [hsv, htv] at hredeemed
              exact hredeemed

end CheckinService

end Pollbook
