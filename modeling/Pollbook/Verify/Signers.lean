import Pollbook.System
import Pollbook.Verify.Decisions
import Pollbook.Verify.Endorsements
import Pollbook.Verify.Payloads
import Pollbook.Verify.Requests

/-!
# Who signs what

For each of the three programs, the payloads it signs and what has happened at
the step when it does: the check-in service signs answers (`handle_written`),
the ID service signs statements about requests it has checked
(`step_signed`), and a client signs what its user asked for, or a check-in
request with an ID statement that verified (`turn_signed`). The programs can be
told apart by the payloads, so a key may even be in several hands.
-/

namespace Pollbook

/-! ## The check-in service -/

/-- An answer, and the request it is the answer to, are texts. -/
def Action.Written (c : Codec) : Action → Prop
  | .checkinAnswer _ request response =>
    (request.body.toJson c).utf8 = true ∧ response.body.toJson.utf8 = true
  | .ticketAnswer _ request response =>
    request.body.toJson.utf8 = true ∧ response.body.toJson.utf8 = true
  | _ => True

namespace CheckinService

variable {env : Env} {io : Io} {s s' : CheckinService} {clientIp : Endpoint} {acts : List Action}
  {e : Event}

theorem rejectWith_written (clientId : UInt32) (faultDesc : String) :
    (s.rejectWith clientId faultDesc).Performs (Action.Written env.toCodec) :=
  Call.performs_bind (Call.performs_perform trivial) fun _ => Call.performs_pure _

theorem verifyBytes_written (key : EnvelopeKey) (message signature : Bytes) :
    (verifyBytes env key message signature).Performs (Action.Written env.toCodec) := by
  refine Call.performs_bind (Call.performs_ofCpp _) fun valid => ?_
  split
  · exact Call.performs_bind (Call.performs_perform trivial) fun _ => Call.performs_pure _
  · exact Call.performs_pure _

theorem validateClientRequest_written (request : CheckinRequest) (now : UInt64) :
    (s.validateClientRequest env request now).Performs (Action.Written env.toCodec) := by
  refine Call.performs_bind (Call.performs_ofCpp _) fun text => ?_
  refine Call.performs_bind (Call.performs_ofCpp _) fun key => ?_
  refine Call.performs_bind (verifyBytes_written _ _ _) fun valid => ?_
  split
  · exact Call.performs_bind (Call.performs_perform trivial) fun _ => Call.performs_pure _
  · refine Call.performs_bind (Call.performs_ofCpp _) fun statement => ?_
    refine Call.performs_bind (verifyBytes_written _ _ _) fun valid => ?_
    split
    · exact Call.performs_pure _
    · split
      · exact Call.performs_bind (Call.performs_perform trivial) fun _ => Call.performs_pure _
      · exact Call.performs_pure _

theorem answerCheckin_written {request : CheckinRequest} {accept : Bool} {ticket : Bytes}
    (hrequest : (request.body.toJson env.toCodec).utf8 = true) :
    (s.answerCheckin env io clientIp request accept ticket).Performs
      (Action.Written env.toCodec) := by
  apply Call.performs_ofCpp_bind
  intro text htext
  refine Call.performs_bind (Call.performs_ofCpp _) fun message => ?_
  refine Call.performs_bind (Call.performs_ofCpp _) fun stream => ?_
  split
  · exact Call.performs_bind (Call.performs_perform ⟨hrequest, (Codec.dump_eq_ok htext).1⟩)
      fun _ => Call.performs_pure _
  · exact Call.performs_threw _

theorem issueTicket_written (voterId : UInt32) :
    (s.issueTicket io voterId).Performs (Action.Written env.toCodec) := by
  refine Call.performs_bind (Call.performs_ofCpp _) fun ticket => ?_
  exact Call.performs_bind (Call.performs_ofCpp _) fun secret => Call.performs_pure _

theorem handleCheckinRequest_written (request : CheckinRequest) :
    (s.handleCheckinRequest env io clientIp request).Performs (Action.Written env.toCodec) := by
  -- the two dumps at the start
  have hdumps {call : Call Action CheckinService}
      (hcall : (request.body.toJson env.toCodec).utf8 = true →
        call.Performs (Action.Written env.toCodec)) :
      (Call.ofCpp (env.dump (request.body.toJson env.toCodec)) >>= fun _ =>
        Call.ofCpp (env.dump (request.toJson env.toCodec)) >>= fun _ => call).Performs
          (Action.Written env.toCodec) := by
    apply Call.performs_ofCpp_bind
    intro text htext
    exact Call.performs_bind (Call.performs_ofCpp _) fun _ => hcall (Codec.dump_eq_ok htext).1
  unfold handleCheckinRequest
  dsimp only
  split
  · refine Call.performs_bind (Call.performs_perform trivial) fun _ => hdumps fun hrequest => ?_
    exact answerCheckin_written hrequest
  · refine hdumps fun hrequest => ?_
    split
    · exact Call.performs_pure _
    · refine Call.performs_bind (validateClientRequest_written _ _) fun valid => ?_
      split
      · exact Call.performs_bind (issueTicket_written _) fun _ => answerCheckin_written hrequest
      · exact answerCheckin_written hrequest

theorem sendTicketResponse_written {request : TicketRequest} {responseBody : TicketResponse.Body}
    (hrequest : request.body.toJson.utf8 = true) :
    (s.sendTicketResponse env clientIp request responseBody).Performs
      (Action.Written env.toCodec) := by
  apply Call.performs_ofCpp_bind
  intro text htext
  refine Call.performs_bind (Call.performs_ofCpp _) fun message => ?_
  refine Call.performs_bind (Call.performs_ofCpp _) fun stream => ?_
  exact Call.performs_perform ⟨hrequest, (Codec.dump_eq_ok htext).1⟩

theorem redeemTicket_written {request : TicketRequest} (clientId voterId : UInt32) (secret : Bytes)
    (hrequest : request.body.toJson.utf8 = true) :
    (s.redeemTicket env io clientIp request clientId voterId secret).Performs
      (Action.Written env.toCodec) := by
  unfold redeemTicket
  dsimp only
  split
  · refine Call.performs_bind (Call.performs_perform trivial) fun _ => ?_
    refine Call.performs_bind (sendTicketResponse_written hrequest) fun _ => ?_
    exact Call.performs_bind (Call.performs_perform trivial) fun _ => rejectWith_written _ _
  · split
    · exact Call.performs_bind (sendTicketResponse_written hrequest) fun _ => Call.performs_pure _
    · refine Call.performs_bind (Call.performs_perform trivial) fun _ => ?_
      exact Call.performs_bind (sendTicketResponse_written hrequest) fun _ => rejectWith_written _ _

theorem handleTicketRequest_written (request : TicketRequest) :
    (s.handleTicketRequest env io clientIp request).Performs (Action.Written env.toCodec) := by
  unfold handleTicketRequest
  dsimp only
  split
  · exact rejectWith_written _ _
  split
  · exact rejectWith_written _ _
  split
  · exact rejectWith_written _ _
  apply Call.performs_ofCpp_bind
  intro text htext
  have hrequest := (Codec.dump_eq_ok htext).1
  refine Call.performs_bind (Call.performs_ofCpp _) fun key => ?_
  refine Call.performs_bind (verifyBytes_written _ _ _) fun valid => ?_
  split
  · exact rejectWith_written _ _
  split
  · exact rejectWith_written _ _
  split
  · exact Call.performs_bind (sendTicketResponse_written hrequest) fun _ => Call.performs_pure _
  · exact redeemTicket_written _ _ _ hrequest

theorem handleTrustedClient_written (msgString : Bytes) :
    (s.handleTrustedClient env io msgString clientIp).Performs (Action.Written env.toCodec) := by
  unfold handleTrustedClient
  dsimp only
  split
  · exact Call.performs_pure _
  · exact Call.performs_threw _
  · split
    · split
      · exact rejectWith_written _ _
      · exact Call.performs_threw _
    · exact handleTicketRequest_written _

theorem handleUntrustedClient_written (msgString : Bytes) :
    (s.handleUntrustedClient env io msgString clientIp).Performs (Action.Written env.toCodec) := by
  refine Call.performs_bind (Call.performs_ofCpp _) fun json => ?_
  exact Call.performs_bind (Call.performs_ofCpp _) fun request => handleCheckinRequest_written _

theorem payloadRead_written (sizeOfMessage : UInt64) (line : Bytes) :
    (s.payloadRead env io clientIp sizeOfMessage line).Performs (Action.Written env.toCodec) := by
  unfold payloadRead
  split
  · unfold dispatch
    split
    · exact rejectWith_written _ _
    · dsimp only
      split
      · exact rejectWith_written _ _
      · refine Call.performs_bind (Call.performs_perform trivial) fun _ => ?_
        split
        · exact handleTrustedClient_written _
        · exact handleUntrustedClient_written _
  · exact rejectWith_written _ _

theorem admitCertificate_written (cert : Certificate) :
    (s.admitCertificate env io clientIp cert).Performs (Action.Written env.toCodec) := by
  unfold admitCertificate
  refine Call.performs_bind (Call.performs_ofCpp _) fun clientId => ?_
  dsimp only
  split
  · exact Call.performs_pure _
  · refine Call.performs_bind ?_ fun _ => Call.performs_pure _
    unfold admitKey
    split
    · split
      · exact Call.performs_pure _
      · exact rejectWith_written _ _
    · exact Call.performs_pure _

theorem handshakeDone_written (certificate : Option Certificate) :
    (s.handshakeDone env io clientIp certificate).Performs (Action.Written env.toCodec) := by
  unfold handshakeDone
  cases certificate with
  | none => exact Call.performs_bind (Call.performs_pure _) fun _ => Call.performs_pure _
  | some cert =>
    exact Call.performs_bind (admitCertificate_written cert) fun _ => Call.performs_pure _

/-- Whatever the service answers, it has written, and the request too. -/
theorem handle_written {occurrence : Occurrence} {call : Call Action CheckinService}
    (h : handle env io s occurrence = some call) : call.Performs (Action.Written env.toCodec) := by
  cases occurrence with
  | accepted clientIp =>
    simp only [handle] at h
    split at h
    · cases h
    · exact Option.some.inj h ▸ Call.performs_pure _
  | acceptFailed =>
    simp only [handle] at h
    split at h
    · cases h
    · exact Option.some.inj h ▸ Call.performs_pure _
  | acceptedGone =>
    simp only [handle] at h
    split at h
    · cases h
    · exact Option.some.inj h ▸ Call.performs_threw _
  | handshakeDone clientIp certificate =>
    simp only [handle] at h
    split at h
    · exact Option.some.inj h ▸ handshakeDone_written _
    · cases h
  | handshakeFailed clientIp message =>
    simp only [handle] at h
    split at h
    · exact Option.some.inj h ▸ rejectWith_written _ _
    · cases h
  | received clientIp bytes =>
    simp only [handle] at h
    split at h
    · split at h
      · cases h
      · exact Option.some.inj h ▸ Call.performs_pure _
    · cases h
  | lineRead clientIp =>
    simp only [handle] at h
    split at h
    · split at h
      · split at h
        · refine Option.some.inj h ▸ ?_
          exact Call.performs_bind (Call.performs_ofCpp _) fun _ => Call.performs_pure _
        · exact Option.some.inj h ▸ payloadRead_written _ _
      · cases h
    · cases h
  | readFailed clientIp error =>
    simp only [handle] at h
    split at h
    · refine Option.some.inj h ▸ ?_
      unfold readFailed
      split
      · exact rejectWith_written _ _
      · exact Call.performs_pure _
    · cases h
  | timerExpired id =>
    simp only [handle] at h
    split at h
    · split at h
      · exact Option.some.inj h ▸ Call.performs_pure _
      · cases h
    · cases h
  | timedOut id =>
    simp only [handle] at h
    split at h
    · split at h
      · exact Option.some.inj h ▸ Call.performs_pure _
      · cases h
    · cases h
  | waitAborted id =>
    simp only [handle] at h
    split at h
    · split at h
      · exact Option.some.inj h ▸ Call.performs_pure _
      · cases h
    · cases h
  | signed key message => exact Option.some.inj h ▸ Call.performs_pure _

theorem next_written (h : next env s e = some (s', acts)) :
    ∀ a ∈ acts, a.Written env.toCodec := by
  obtain ⟨m, hhandle, -⟩ := next_handle h
  exact handle_written hhandle

end CheckinService

/-! ## The ID service -/

namespace VoterIDService

variable {env : Env} {io : Io} {s : VoterIDService} {clientIp : Endpoint} {text : Bytes}
  {request : VoterIDRequest}

/-- The service has checked a request, and the actions show that the client's
signature verified. -/
structure Attests (env : Env) (io : Io) (s : VoterIDService) (request : VoterIDRequest)
    (voterUniqueId : UInt32) (key : EnvelopeKey) (acts : List Action) : Prop where
  endorsable : Endorsable env io s request voterUniqueId key
  held : ∃ k, Loaded env.config s.toKeys request.body.clientIdNum k key
  written : (idStatement env.toCodec request voterUniqueId).utf8 = true
  verified : .verified key (env.render (request.body.toJson env.toCodec)) request.clientSignature ∈
    acts

theorem checkRequest_signed : .signed text ∉ (s.checkRequest env request).actions := by
  intro h
  exact checkRequest_performs (p := (· ≠ .signed text)) (fun _ _ _ => nofun) _ h rfl

theorem endorse_signed {voterUniqueId : UInt32}
    (h : .signed text ∈ (s.endorse env io clientIp request voterUniqueId).actions) :
    env.dump (idStatement env.toCodec request voterUniqueId) = .ok text := by
  obtain ⟨statement, hstatement, h⟩ := Call.mem_actions_ofCpp_bind.mp h
  rcases Call.mem_actions_perform_bind.mp h with heq | h
  · rw [hstatement, VoterIDService.Action.signed.inj heq]
  · obtain ⟨response, -, h⟩ := Call.mem_actions_ofCpp_bind.mp h
    obtain ⟨stream, -, h⟩ := Call.mem_actions_ofCpp_bind.mp h
    split at h
    · rcases Call.mem_actions_perform_bind.mp h with heq | h
      · cases heq
      · exact absurd h Call.not_mem_actions_pure
    · exact absurd h Call.not_mem_actions_threw

/-- The service signs for a request only what it has checked. -/
theorem handleValidationRequest_signed
    (h : .signed text ∈ (s.handleValidationRequest env io clientIp request).actions) :
    ∃ voterUniqueId key, text = env.render (idStatement env.toCodec request voterUniqueId) ∧
      Attests env io s request voterUniqueId key
        (s.handleValidationRequest env io clientIp request).actions := by
  generalize hcall : s.handleValidationRequest env io clientIp request = call at h ⊢
  unfold handleValidationRequest at hcall
  split at hcall
  · rw [← hcall] at h
    exact absurd h Call.not_mem_actions_pure
  next hfresh =>
  cases hdata : validateAndMatchIdData request.body.voterIdData with
  | error trap =>
    rw [hdata, Call.ofCpp_error, Call.threw_bind] at hcall
    rw [← hcall] at h
    exact absurd h Call.not_mem_actions_threw
  | ok voterUniqueId =>
  rw [hdata, Call.ofCpp_ok, Call.returned_bind, Call.after_nil] at hcall
  split at hcall
  · rw [← hcall] at h
    exact absurd h Call.not_mem_actions_pure
  next hvalid =>
  split at hcall
  · rw [← hcall] at h
    exact absurd h Call.not_mem_actions_pure
  next hname =>
  cases hensure : s.ensureVerifier env request.body.clientIdNum with
  | error trap =>
    rw [hensure, Call.ofCpp_error, Call.threw_bind] at hcall
    rw [← hcall] at h
    exact absurd h Call.not_mem_actions_threw
  | ok loaded =>
  rw [hensure, Call.ofCpp_ok, Call.returned_bind, Call.after_nil] at hcall
  cases loaded with
  | none =>
    rw [← hcall] at h
    exact absurd h Call.not_mem_actions_pure
  | some s₁ =>
  obtain ⟨k, key, rfl, hloaded⟩ := ensureVerifier_eq_some hensure
  rw [← hcall] at h ⊢
  rcases Call.mem_actions_bind.mp h with h | ⟨valid, acts, hcheck, h⟩
  · exact absurd h checkRequest_signed
  obtain ⟨hverify, hacts⟩ := checkRequest_returned hloaded.clientVerifiers hcheck
  cases valid with
  | false => exact absurd h Call.not_mem_actions_pure
  | true =>
  obtain ⟨hutf8, rfl⟩ := Codec.dump_eq_ok (endorse_signed h)
  have hendorsable : Endorsable env io s request voterUniqueId key :=
    ⟨Bool.not_eq_true _ ▸ hfresh, hdata, hvalid, by simpa using hname, hverify⟩
  refine ⟨voterUniqueId, key, rfl, hendorsable, ⟨k, hloaded⟩, hutf8, ?_⟩
  refine Call.mem_actions_bind.mpr (.inl ?_)
  rw [hcheck, hacts]
  exact List.mem_singleton_self _

/-- What the handler of a line signs. -/
theorem payloadRead_signed {n : UInt64} {line : Bytes}
    (h : .signed text ∈ (s.payloadRead env io clientIp n line).actions) :
    ∃ request voterUniqueId key,
      text = env.render (idStatement env.toCodec request voterUniqueId) ∧
      Attests env io s request voterUniqueId key
        (s.payloadRead env io clientIp n line).actions := by
  unfold payloadRead at h ⊢
  split at h
  · next hsize =>
    rw [if_pos hsize]
    obtain ⟨json, hparse, h⟩ := Call.mem_actions_ofCpp_bind.mp h
    obtain ⟨request, hrequest, h⟩ := Call.mem_actions_ofCpp_bind.mp h
    obtain ⟨voterUniqueId, key, htext, hattests⟩ := handleValidationRequest_signed h
    refine ⟨request, voterUniqueId, key, htext, hattests.endorsable, hattests.held,
      hattests.written, ?_⟩
    exact Call.mem_actions_ofCpp_bind.mpr
      ⟨json, hparse, Call.mem_actions_ofCpp_bind.mpr ⟨request, hrequest, hattests.verified⟩⟩
  · exact absurd h Call.not_mem_actions_pure

namespace Process

variable {s : Process}

/-- At each step, the last one included, the service signs only what it has
checked. -/
theorem step_signed {e : Event} {call : Call Action Process} (hstep : step env s e = some call)
    (h : .signed text ∈ call.actions) :
    ∃ request voterUniqueId key,
      text = env.render (idStatement env.toCodec request voterUniqueId) ∧
      Attests env e.io s.toVoterIDService request voterUniqueId key call.actions := by
  have hcpp (x : Cpp Process) : .signed text ∉ (Call.ofCpp x : Call Action Process).actions := by
    intro hmem
    exact Call.performs_ofCpp (p := fun _ => False) x _ hmem
  unfold step at hstep
  split at hstep
  · split at hstep
    · cases hstep
    · exact absurd (Option.some.inj hstep ▸ h) Call.not_mem_actions_pure
  · split at hstep
    · cases hstep
    · exact absurd (Option.some.inj hstep ▸ h) Call.not_mem_actions_pure
  · split at hstep
    · cases hstep
    · exact absurd (Option.some.inj hstep ▸ h) Call.not_mem_actions_threw
  · split at hstep
    · exact absurd (Option.some.inj hstep ▸ h) (hcpp _)
    · cases hstep
  · split at hstep
    · exact absurd (Option.some.inj hstep ▸ h) Call.not_mem_actions_pure
    · cases hstep
  · split at hstep
    · split at hstep
      · cases hstep
      · exact absurd (Option.some.inj hstep ▸ h) Call.not_mem_actions_pure
    · cases hstep
  · next clientIp _ =>
    split at hstep
    · split at hstep
      · dsimp only at hstep
        split at hstep
        · exact absurd (Option.some.inj hstep ▸ h) (hcpp _)
        · next n _ =>
          -- the handler of a message
          obtain rfl := Option.some.inj hstep
          unfold payloadRead at h ⊢
          rcases Call.mem_actions_bind.mp h with h | ⟨_, _, -, h⟩
          · obtain ⟨request, voterUniqueId, key, htext, hattests⟩ :=
              VoterIDService.payloadRead_signed h
            refine ⟨request, voterUniqueId, key, htext, ?_, ?_, hattests.written,
              Call.mem_actions_bind.mpr (.inl hattests.verified)⟩
            · have hendorsable := hattests.endorsable
              split at hendorsable
              · exact hendorsable
              · exact hendorsable
            · have hheld := hattests.held
              split at hheld
              · exact hheld
              · exact hheld
          · exact absurd h Call.not_mem_actions_pure
      · cases hstep
    · cases hstep
  · split at hstep
    · exact absurd (Option.some.inj hstep ▸ h) Call.not_mem_actions_pure
    · cases hstep

end Process

end VoterIDService

/-! ## A client -/

namespace PollbookClient

variable {lib : Libraries} {c : PollbookClient} {now : UInt64} {line text message : Bytes}

/-- What follows a signature check. -/
theorem mem_verifyBytes_bind {β : Type} {key : EnvelopeKey} {signature : Bytes}
    {f : Bool → Call Action β} {a : Action}
    (h : a ∈ (verifyBytes lib key text signature >>= f).actions)
    (hne : a ≠ .verified key text signature) :
    (a ∈ (f true).actions ∧ ∃ rest, (verifyBytes lib key text signature >>= f).actions =
      .verified key text signature :: rest) ∨ a ∈ (f false).actions := by
  cases hverify : lib.verify key text signature with
  | error trap =>
    unfold verifyBytes at h
    rw [hverify] at h
    exact absurd h Call.not_mem_actions_threw
  | ok valid =>
    rw [verifyBytes_bind_of_ok hverify, Call.actions_after] at h ⊢
    cases valid with
    | false => exact .inr h
    | true =>
      rcases List.mem_cons.mp h with heq | h
      · exact absurd heq hne
      · exact .inl ⟨h, _, rfl⟩

/-- A client signs a check-in request with an ID statement that has verified. -/
structure Relays (lib : Libraries) (c : PollbookClient) (response : VerifiedVoterID)
    (acts : List Action) : Prop where
  statement : (idStatement lib.toCodec response.presentedId response.voterUniqueId).utf8 = true
  verified : ∃ rest, acts = .verified c.idServiceVerifier (lib.render (idStatement lib.toCodec
    response.presentedId response.voterUniqueId)) response.idServiceSignature :: rest

theorem idResponseRead_signed (h : .signed text ∈ (c.idResponseRead lib now line).actions) :
    ∃ response, (SignedPayload.checkinRequest (c.checkinRequestBody now response)).signed lib =
      .ok text ∧ Relays lib c response (c.idResponseRead lib now line).actions := by
  generalize hcall : c.idResponseRead lib now line = call at h ⊢
  unfold idResponseRead at hcall
  rw [← hcall] at h
  obtain ⟨json, hjson, h⟩ := Call.mem_actions_ofCpp_bind.mp h
  obtain ⟨response, hresponse, h⟩ := Call.mem_actions_ofCpp_bind.mp h
  obtain ⟨statement, hstatement, h⟩ := Call.mem_actions_ofCpp_bind.mp h
  rw [hjson, Call.ofCpp_ok, Call.returned_bind, Call.after_nil, hresponse, Call.ofCpp_ok,
    Call.returned_bind, Call.after_nil, handleIdResponse, hstatement, Call.ofCpp_ok,
    Call.returned_bind, Call.after_nil] at hcall
  obtain ⟨hutf8, rfl⟩ := Codec.dump_eq_ok hstatement
  obtain ⟨h, hfirst⟩ | h := mem_verifyBytes_bind h nofun
  · rw [if_pos rfl] at h
    rw [hcall] at hfirst
    obtain ⟨body, hbody, h⟩ := Call.mem_actions_ofCpp_bind.mp h
    rcases Call.mem_actions_perform_bind.mp h with heq | h
    · rw [Action.signed.inj heq]
      exact ⟨response, hbody, hutf8, hfirst⟩
    · obtain ⟨request, -, h⟩ := Call.mem_actions_ofCpp_bind.mp h
      cases Call.mem_actions_perform.mp h
  · cases Call.mem_actions_perform.mp h

theorem idResponseRead_fails :
    .setValue true message ∉ (c.idResponseRead lib now line).actions := by
  intro h
  obtain ⟨json, -, h⟩ := Call.mem_actions_ofCpp_bind.mp h
  obtain ⟨response, -, h⟩ := Call.mem_actions_ofCpp_bind.mp h
  obtain ⟨statement, -, h⟩ := Call.mem_actions_ofCpp_bind.mp h
  obtain ⟨h, -⟩ | h := mem_verifyBytes_bind h nofun
  · rw [if_pos rfl] at h
    obtain ⟨body, -, h⟩ := Call.mem_actions_ofCpp_bind.mp h
    rcases Call.mem_actions_perform_bind.mp h with heq | h
    · cases heq
    · obtain ⟨request, -, h⟩ := Call.mem_actions_ofCpp_bind.mp h
      cases Call.mem_actions_perform.mp h
  · cases Call.mem_actions_perform.mp h

/-- An approval that has verified, and what it makes of the promise. -/
inductive Approval (lib : Libraries) (c : PollbookClient) (acts : List Action) : Bytes → Prop
  | checkin {response : CheckinResponse} {text : Bytes} {rest : List Action}
      (happroved : response.body.approved = true)
      (htext : (SignedPayload.checkinResponse response.body).signed lib = .ok text)
      (hverified : acts =
        .verified c.checkinServiceVerifier text response.checkinServiceSignature :: rest) :
      Approval lib c acts []
  | ticket {response : TicketResponse} {text : Bytes} {rest : List Action}
      (happroved : response.body.approved = true)
      (htext : (SignedPayload.ticketResponse response.body).signed lib = .ok text)
      (hverified : acts = .verified c.checkinServiceVerifier text response.signature :: rest) :
      Approval lib c acts response.body.secret

theorem checkinResponseRead_succeeds
    (h : .setValue true message ∈ (c.checkinResponseRead lib line).actions) :
    Approval lib c (c.checkinResponseRead lib line).actions message := by
  generalize hcall : c.checkinResponseRead lib line = call at h ⊢
  unfold checkinResponseRead at hcall
  rw [← hcall] at h
  obtain ⟨json, hjson, h⟩ := Call.mem_actions_ofCpp_bind.mp h
  obtain ⟨response, hresponse, h⟩ := Call.mem_actions_ofCpp_bind.mp h
  obtain ⟨text, htext, h⟩ := Call.mem_actions_ofCpp_bind.mp h
  rw [hjson, Call.ofCpp_ok, Call.returned_bind, Call.after_nil, hresponse, Call.ofCpp_ok,
    Call.returned_bind, Call.after_nil, handleCheckinResponse, htext, Call.ofCpp_ok,
    Call.returned_bind, Call.after_nil] at hcall
  obtain ⟨h, rest, hfirst⟩ | h := mem_verifyBytes_bind h nofun
  · rw [hcall] at hfirst
    cases happroved : response.body.approved with
    | true =>
      rw [happroved] at h
      cases Call.mem_actions_perform.mp h
      exact .checkin happroved htext hfirst
    | false =>
      rw [happroved] at h
      cases Call.mem_actions_perform.mp h
  · cases Call.mem_actions_perform.mp h

theorem handleTicketResponse_succeeds
    (h : .setValue true message ∈ (c.handleTicketResponse lib line).actions) :
    Approval lib c (c.handleTicketResponse lib line).actions message := by
  generalize hcall : c.handleTicketResponse lib line = call at h ⊢
  unfold handleTicketResponse at hcall
  rw [← hcall] at h
  obtain ⟨json, hjson, h⟩ := Call.mem_actions_ofCpp_bind.mp h
  obtain ⟨response, hresponse, h⟩ := Call.mem_actions_ofCpp_bind.mp h
  obtain ⟨text, htext, h⟩ := Call.mem_actions_ofCpp_bind.mp h
  rw [hjson, Call.ofCpp_ok, Call.returned_bind, Call.after_nil, hresponse, Call.ofCpp_ok,
    Call.returned_bind, Call.after_nil, htext, Call.ofCpp_ok, Call.returned_bind,
    Call.after_nil] at hcall
  obtain ⟨h, rest, hfirst⟩ | h := mem_verifyBytes_bind h nofun
  · rw [hcall] at hfirst
    obtain ⟨happroved, rfl⟩ := Action.setValue.inj (Call.mem_actions_perform.mp h)
    exact .ticket happroved.symm htext hfirst
  · cases Call.mem_actions_perform.mp h

theorem checkinResponseRead_signs : .signed text ∉ (c.checkinResponseRead lib line).actions := by
  intro h
  obtain ⟨json, -, h⟩ := Call.mem_actions_ofCpp_bind.mp h
  obtain ⟨response, -, h⟩ := Call.mem_actions_ofCpp_bind.mp h
  obtain ⟨body, -, h⟩ := Call.mem_actions_ofCpp_bind.mp h
  obtain ⟨h, -⟩ | h := mem_verifyBytes_bind h nofun
  · rw [Bool.not_true, if_neg Bool.false_ne_true] at h
    split at h
    · cases Call.mem_actions_perform.mp h
    · cases Call.mem_actions_perform.mp h
  · cases Call.mem_actions_perform.mp h

theorem handleTicketResponse_signs : .signed text ∉ (c.handleTicketResponse lib line).actions := by
  intro h
  obtain ⟨json, -, h⟩ := Call.mem_actions_ofCpp_bind.mp h
  obtain ⟨response, -, h⟩ := Call.mem_actions_ofCpp_bind.mp h
  obtain ⟨body, -, h⟩ := Call.mem_actions_ofCpp_bind.mp h
  obtain ⟨h, -⟩ | h := mem_verifyBytes_bind h nofun
  · cases Call.mem_actions_perform.mp h
  · cases Call.mem_actions_perform.mp h

/-- The handler adds to its `try` block at most a failure. -/
theorem mem_ticketResponseRead {a : Action} (h : a ∈ (c.ticketResponseRead lib line).actions) :
    (a ∈ (c.handleTicketResponse lib line).actions ∨ ∃ message, a = .setValue false message) ∧
      ∃ rest, (c.ticketResponseRead lib line).actions =
        (c.handleTicketResponse lib line).actions ++ rest := by
  unfold ticketResponseRead at h ⊢
  cases hcall : c.handleTicketResponse lib line with
  | returned u acts =>
    rw [hcall] at h
    exact ⟨.inl h, [], (List.append_nil _).symm⟩
  | threw trap acts =>
    rw [hcall] at h
    dsimp only at h ⊢
    split at h
    · next hcaught =>
      rw [if_pos hcaught]
      refine ⟨?_, _, rfl⟩
      rcases List.mem_append.mp h with h | h
      · exact .inl h
      · exact .inr ⟨_, List.mem_singleton.mp h⟩
    · next hescapes =>
      rw [if_neg hescapes]
      exact ⟨.inl h, [], (List.append_nil _).symm⟩

theorem Approval.append {acts : List Action} (h : Approval lib c acts message)
    (rest : List Action) : Approval lib c (acts ++ rest) message := by
  cases h with
  | checkin happroved htext hverified =>
    exact .checkin happroved htext (by rw [hverified]; rfl)
  | ticket happroved htext hverified =>
    exact .ticket happroved htext (by rw [hverified]; rfl)

theorem ticketResponseRead_succeeds
    (h : .setValue true message ∈ (c.ticketResponseRead lib line).actions) :
    Approval lib c (c.ticketResponseRead lib line).actions message := by
  obtain ⟨h | ⟨message', heq⟩, rest, hacts⟩ := mem_ticketResponseRead h
  · rw [hacts]
    exact (handleTicketResponse_succeeds h).append rest
  · cases heq

/-! ### Steps -/

namespace Requester

variable {s : Requester} {acts : List Action}

theorem mem_settle {promise : Option (Bool × Bytes)} {a : Action}
    (h : a ∈ (settle promise acts).actions) : a ∈ acts := by
  induction acts generalizing promise with
  | nil => cases promise <;> exact absurd h Call.not_mem_actions_pure
  | cons b acts ih =>
    cases b with
    | setValue success message =>
      cases promise with
      | none =>
        rcases Call.mem_actions_perform_bind.mp h with rfl | h
        · exact List.mem_cons_self
        · exact List.mem_cons_of_mem _ (ih h)
      | some value => exact absurd h Call.not_mem_actions_threw
    | verified | signed | wrote =>
      rw [settle_cons rfl] at h
      rcases Call.mem_actions_perform_bind.mp h with rfl | h
      · exact List.mem_cons_self
      · exact List.mem_cons_of_mem _ (ih h)

/-- A signature that verified first is not lost. -/
theorem settle_verified {promise : Option (Bool × Bytes)} {key : EnvelopeKey}
    {signature : Bytes} {rest : List Action} (h : acts = .verified key message signature :: rest) :
    ∃ rest', (settle promise acts).actions = .verified key message signature :: rest' := by
  rw [h, settle_cons rfl, Call.perform_eq, Call.returned_bind, Call.actions_after]
  exact ⟨_, rfl⟩

/-- The actions of a step are actions of its handler; one that starts with a
verified signature starts with it too. -/
theorem step_actions {e : Event} {call : Call Action Requester} (h : s.step lib e = some call) :
    ∃ handled, s.handle lib e.io e.completion = some handled ∧
      (∀ a ∈ call.actions, a ∈ handled.actions) ∧
      ∀ key message signature rest, handled.actions = .verified key message signature :: rest →
        ∃ rest', call.actions = .verified key message signature :: rest' := by
  unfold step at h
  obtain ⟨handled, hhandle, rfl⟩ := Option.map_eq_some_iff.mp h
  refine ⟨handled, hhandle, ?_⟩
  cases handled with
  | threw trap acts => exact ⟨fun a ha => ha, fun _ _ _ rest hrest => ⟨rest, hrest⟩⟩
  | returned operation acts =>
    dsimp only
    have hactions {f : Option (Bool × Bytes) → Call Action Requester}
        (hf : ∀ promise, (f promise).actions = []) :
        (settle s.currentRequestPromise acts >>= f).actions =
          (settle s.currentRequestPromise acts).actions := by
      cases settle s.currentRequestPromise acts with
      | threw trap acts' => rfl
      | returned promise acts' =>
        rw [Call.returned_bind, Call.actions_after, hf, List.append_nil]
        rfl
    rw [hactions fun _ => rfl]
    exact ⟨fun a ha => mem_settle ha, fun _ _ _ _ hrest => settle_verified hrest⟩

theorem actions_writing {α β : Type} (call : Call Action α) (f : α × Option Nat → β) :
    (writing call >>= fun x => pure (f x)).actions = call.actions := by
  cases call with
  | threw trap acts => rfl
  | returned a acts => exact List.append_nil acts

theorem actions_requestCheckIn {now : UInt64} {firstName middleName lastName voterIdData : Bytes} :
    (c.requestCheckIn lib now firstName middleName lastName voterIdData).actions =
      (c.checkInVoter lib now firstName middleName lastName voterIdData).actions :=
  actions_writing _ fun x => (⟨x.1, x.2.map .idRequestWrite, none⟩ : Requester)

theorem actions_requestVerification {now : UInt64} {ticket : Bytes} {pin : UInt32} :
    (c.requestVerification lib now ticket pin).actions =
      (c.verifyTicket lib now ticket pin).actions :=
  actions_writing _ fun x => (⟨c, x.2.map .ticketRequestWrite, none⟩ : Requester)

theorem actions_ended (call : Call Action Unit) : (ended call).actions = call.actions := by
  unfold ended
  cases call with
  | threw trap acts => rfl
  | returned u acts => rw [Call.returned_bind, Call.actions_after]; exact List.append_nil acts

theorem checkinMessageRead_actions {io : Io} {buf : Bytes} :
    (checkinMessageRead io buf).actions = [] := by
  unfold checkinMessageRead
  dsimp only
  cases resize io (extractSize (CheckinService.firstLine buf)) <;> rfl

/-- The reasons for what a handler signs, and for a success. -/
structure Grounded (lib : Libraries) (c : PollbookClient) (now : UInt64) (acts : List Action) :
    Prop where
  signed : ∀ text, .signed text ∈ acts → ∃ response, Relays lib c response acts ∧
    (SignedPayload.checkinRequest (c.checkinRequestBody now response)).signed lib = .ok text
  succeeds : ∀ message, .setValue true message ∈ acts → Approval lib c acts message

theorem grounded_nil {now : UInt64} : Grounded lib c now [] :=
  ⟨fun _ h => absurd h List.not_mem_nil, fun _ h => absurd h List.not_mem_nil⟩

theorem grounded_written {now : UInt64} {size : Nat} {operation : Operation} :
    Grounded lib c now (written size operation).actions := by
  unfold written
  split
  · exact grounded_nil
  · exact grounded_nil

theorem handle_grounded {e : Event} {call : Call Action (Option Operation)}
    (h : s.handle lib e.io e.completion = some call) :
    Grounded lib s.toPollbookClient e.io.now call.actions := by
  unfold handle at h
  split at h
  · next error _ =>
    obtain ⟨operation, -, rfl⟩ := Option.map_eq_some_iff.mp h
    constructor
    · intro text hmem
      cases Call.mem_actions_perform_bind.mp hmem with
      | inl heq => cases heq
      | inr hmem => exact absurd hmem Call.not_mem_actions_pure
    · intro message hmem
      cases Call.mem_actions_perform_bind.mp hmem with
      | inl heq => cases heq
      | inr hmem => exact absurd hmem Call.not_mem_actions_pure
  · split at h
    · exact Option.some.inj h ▸ grounded_written
    · exact Option.some.inj h ▸ grounded_written
    · exact Option.some.inj h ▸ grounded_written
    · cases h
  · split at h
    · unfold onLine at h
      split at h
      · obtain rfl := Option.some.inj h
        rw [actions_writing (s.idResponseRead lib e.io.now _) fun x =>
          x.2.map Operation.checkinRequestWrite]
        constructor
        · intro text hmem
          obtain ⟨response, htext, hrelays⟩ := idResponseRead_signed hmem
          exact ⟨response, hrelays, htext⟩
        · exact fun message hmem => absurd hmem idResponseRead_fails
      · cases h
    · split at h
      · obtain rfl := Option.some.inj h
        rw [checkinMessageRead_actions]
        exact grounded_nil
      · cases h
    · unfold onLine at h
      split at h
      · obtain rfl := Option.some.inj h
        rw [actions_ended]
        exact ⟨fun text hmem => absurd hmem checkinResponseRead_signs,
          fun message hmem => checkinResponseRead_succeeds hmem⟩
      · cases h
    · unfold onLine at h
      split at h
      · obtain rfl := Option.some.inj h
        rw [actions_ended]
        refine ⟨fun text hmem => ?_, fun message hmem => ticketResponseRead_succeeds hmem⟩
        obtain ⟨hmem | ⟨message, heq⟩, -⟩ := mem_ticketResponseRead hmem
        · exact absurd hmem handleTicketResponse_signs
        · cases heq
      · cases h
    · cases h

theorem step_grounded {e : Event} {call : Call Action Requester} (h : s.step lib e = some call) :
    Grounded lib s.toPollbookClient e.io.now call.actions := by
  obtain ⟨handled, hhandle, hsub, hfirst⟩ := step_actions h
  obtain ⟨hsigned, hsucceeds⟩ := handle_grounded hhandle
  constructor
  · intro text hmem
    obtain ⟨response, ⟨hstatement, rest, hverified⟩, htext⟩ := hsigned text (hsub _ hmem)
    exact ⟨response, ⟨hstatement, hfirst _ _ _ rest hverified⟩, htext⟩
  · intro message hmem
    cases hsucceeds message (hsub _ hmem) with
    | checkin happroved htext hverified =>
      obtain ⟨rest, hrest⟩ := hfirst _ _ _ _ hverified
      exact .checkin happroved htext hrest
    | ticket happroved htext hverified =>
      obtain ⟨rest, hrest⟩ := hfirst _ _ _ _ hverified
      exact .ticket happroved htext hrest

/-- What a client signs at a turn. -/
inductive Signs (lib : Libraries) (s : Requester) (acts : List Action) :
    Turn → SignedPayload → Prop
  | idRequest (now : UInt64) (firstName middleName lastName voterIdData : Bytes) :
      Signs lib s acts (.checkInVoter now firstName middleName lastName voterIdData)
        (.voterIDRequest ⟨s.clientId, now, lastName, middleName, firstName, voterIdData⟩)
  | checkinRequest {e : Event} {response : VerifiedVoterID}
      (hrelays : Relays lib s.toPollbookClient response acts) :
      Signs lib s acts (.completed e)
        (.checkinRequest (s.toPollbookClient.checkinRequestBody e.io.now response))
  | ticketRequest (now : UInt64) (ticket : Bytes) (pin : UInt32) :
      Signs lib s acts (.verifyTicket now ticket pin)
        (.ticketRequest ⟨s.clientId, now, ticket, pin⟩)

/-- What a client signs is what its user asked for, or a check-in request with an
ID statement that verified. -/
theorem turn_signed {t : Turn} {call : Call Action Requester} (h : s.turn lib t = some call)
    (hmem : .signed text ∈ call.actions) :
    ∃ p : SignedPayload, p.signed lib = .ok text ∧ Signs lib s call.actions t p := by
  cases t with
  | checkInVoter now firstName middleName lastName voterIdData =>
    simp only [turn] at h
    split at h
    · obtain rfl := Option.some.inj h
      rw [actions_requestCheckIn] at hmem
      unfold checkInVoter at hmem
      split at hmem
      · exact absurd hmem Call.not_mem_actions_threw
      rcases Call.mem_actions_bind.mp hmem with hmem | ⟨_, _, -, hmem⟩
      · obtain ⟨body, hbody, hmem⟩ := Call.mem_actions_ofCpp_bind.mp hmem
        rcases Call.mem_actions_perform_bind.mp hmem with heq | hmem
        · rw [Action.signed.inj heq]
          exact ⟨.voterIDRequest _, hbody, .idRequest ..⟩
        · obtain ⟨request, -, hmem⟩ := Call.mem_actions_ofCpp_bind.mp hmem
          cases Call.mem_actions_perform.mp hmem
      · exact absurd hmem Call.not_mem_actions_pure
    · cases h
  | verifyTicket now ticket pin =>
    simp only [turn] at h
    split at h
    · obtain rfl := Option.some.inj h
      rw [actions_requestVerification] at hmem
      unfold verifyTicket at hmem
      split at hmem
      · exact absurd hmem Call.not_mem_actions_threw
      obtain ⟨body, hbody, hmem⟩ := Call.mem_actions_ofCpp_bind.mp hmem
      rcases Call.mem_actions_perform_bind.mp hmem with heq | hmem
      · rw [Action.signed.inj heq]
        exact ⟨.ticketRequest _, hbody, .ticketRequest ..⟩
      · obtain ⟨request, -, hmem⟩ := Call.mem_actions_ofCpp_bind.mp hmem
        cases Call.mem_actions_perform.mp hmem
    · cases h
  | completed e =>
    obtain ⟨response, hrelays, htext⟩ := (step_grounded h).signed text hmem
    exact ⟨_, htext, .checkinRequest hrelays⟩

/-- A client reports success only for an approval that verified. -/
theorem turn_succeeds {t : Turn} {call : Call Action Requester} (h : s.turn lib t = some call)
    (hmem : .setValue true message ∈ call.actions) :
    Approval lib s.toPollbookClient call.actions message := by
  cases t with
  | checkInVoter now firstName middleName lastName voterIdData =>
    exfalso
    simp only [turn] at h
    split at h
    · obtain rfl := Option.some.inj h
      rw [actions_requestCheckIn] at hmem
      unfold checkInVoter at hmem
      split at hmem
      · exact Call.not_mem_actions_threw hmem
      rcases Call.mem_actions_bind.mp hmem with hmem | ⟨_, _, -, hmem⟩
      · obtain ⟨body, hbody, hmem⟩ := Call.mem_actions_ofCpp_bind.mp hmem
        rcases Call.mem_actions_perform_bind.mp hmem with heq | hmem
        · cases heq
        · obtain ⟨request, -, hmem⟩ := Call.mem_actions_ofCpp_bind.mp hmem
          cases Call.mem_actions_perform.mp hmem
      · exact Call.not_mem_actions_pure hmem
    · cases h
  | verifyTicket now ticket pin =>
    exfalso
    simp only [turn] at h
    split at h
    · obtain rfl := Option.some.inj h
      rw [actions_requestVerification] at hmem
      unfold verifyTicket at hmem
      split at hmem
      · exact Call.not_mem_actions_threw hmem
      obtain ⟨body, hbody, hmem⟩ := Call.mem_actions_ofCpp_bind.mp hmem
      rcases Call.mem_actions_perform_bind.mp hmem with heq | hmem
      · cases heq
      · obtain ⟨request, -, hmem⟩ := Call.mem_actions_ofCpp_bind.mp hmem
        cases Call.mem_actions_perform.mp hmem
    · cases h
  | completed e => exact (step_grounded h).succeeds message hmem

end Requester

end PollbookClient

end Pollbook
