import Pollbook.Client.Loop
import Pollbook.Lib.Run
import Pollbook.Rehearsal
import Pollbook.Verify.Outcomes

/-!
# A request of the client is answered once

Every handler of a request either starts the next operation or sets the promise,
so the promise is set once when the request is over, if the network thread is
still there. The handler of ticket responses catches what the parsers throw; the
handlers of the ID service's and the check-in service's answers do not, and a
line they cannot read ends the thread. So does a message that is too long for the
first record of its write (`requests_are_answered`).
-/

namespace Pollbook

namespace PollbookClient

open CheckinService (firstLine)

variable {lib : Libraries} {c : PollbookClient} {now : UInt64} {line : Bytes}
  {acts : List Action}

/-! ## What the handlers perform -/

/-- The values a promise gets. -/
def values (acts : List Action) : List (Bool × Bytes) :=
  acts.filterMap fun a =>
    match a with
    | .setValue success message => some (success, message)
    | _ => none

theorem values_append (acts acts' : List Action) :
    values (acts ++ acts') = values acts ++ values acts' := List.filterMap_append ..

/-- If the call throws, it has not set the promise. -/
def Unset {α : Type} (x : Call Action α) : Prop :=
  ∀ trap acts, x = .threw trap acts → values acts = []

theorem unset_pure {α : Type} (a : α) : Unset (pure a) := by
  rintro trap acts ⟨⟩

theorem unset_perform (a : Action) : Unset (Call.perform a) := by
  rintro trap acts ⟨⟩

theorem unset_bind {α β : Type} {x : Call Action α} {f : α → Call Action β}
    (hx : values x.actions = []) (hf : ∀ a, Unset (f a)) : Unset (x >>= f) := by
  intro trap acts h
  cases x with
  | threw trap' acts' =>
    rw [Call.threw_bind] at h
    obtain ⟨-, rfl⟩ := Call.threw.inj h
    exact hx
  | returned a acts' =>
    rw [Call.returned_bind] at h
    cases hcall : f a with
    | returned b acts'' =>
      rw [hcall] at h
      cases h
    | threw trap' acts'' =>
      rw [hcall] at h
      obtain ⟨-, rfl⟩ := Call.threw.inj h
      change values acts' = [] at hx
      rw [values_append, hx, hf a _ _ hcall]
      rfl

theorem values_ofCpp {α : Type} (x : Cpp α) :
    values (Call.ofCpp x : Call Action α).actions = [] := by
  cases x <;> rfl

theorem values_verifyBytes (lib : Libraries) (verifier : EnvelopeKey)
    (message signature : Bytes) :
    values (verifyBytes lib verifier message signature).actions = [] := by
  unfold verifyBytes
  cases lib.verify verifier message signature with
  | error trap => rfl
  | ok valid => cases valid <;> rfl

theorem idResponseRead_unset : Unset (c.idResponseRead lib now line) := by
  refine unset_bind (values_ofCpp _) fun json => unset_bind (values_ofCpp _) fun response => ?_
  refine unset_bind (values_ofCpp _) fun text => unset_bind (values_verifyBytes ..) fun valid => ?_
  split
  · refine unset_bind (values_ofCpp _) fun body => unset_bind rfl fun _ => ?_
    exact unset_bind (values_ofCpp _) fun message => unset_perform _
  · exact unset_perform _

theorem checkinResponseRead_unset : Unset (c.checkinResponseRead lib line) := by
  refine unset_bind (values_ofCpp _) fun json => unset_bind (values_ofCpp _) fun response => ?_
  refine unset_bind (values_ofCpp _) fun text => unset_bind (values_verifyBytes ..) fun valid => ?_
  split
  · exact unset_perform _
  split
  · exact unset_perform _
  · exact unset_perform _

theorem handleTicketResponse_unset : Unset (c.handleTicketResponse lib line) := by
  refine unset_bind (values_ofCpp _) fun json => unset_bind (values_ofCpp _) fun response => ?_
  refine unset_bind (values_ofCpp _) fun text => unset_bind (values_verifyBytes ..) fun valid => ?_
  split
  · exact unset_perform _
  · exact unset_perform _

theorem ticketResponseRead_unset : Unset (c.ticketResponseRead lib line) := by
  intro trap acts h
  unfold ticketResponseRead at h
  split at h
  · cases h
  · next trap' acts' hcall =>
    split at h
    · cases h
    · obtain ⟨-, rfl⟩ := Call.threw.inj h
      exact handleTicketResponse_unset _ _ hcall

/-! ## Lines the handlers survive -/

/-- The check-in request that follows the ID service's answer. -/
def checkinRequestBody (c : PollbookClient) (now : UInt64) (response : VerifiedVoterID) :
    CheckinRequest.Body :=
  ⟨c.clientId, now, c.currentRequestVoterName.2.2, c.currentRequestVoterName.1,
    c.currentRequestVoterName.2.1, response.voterUniqueId, response⟩

/-- The answer of the ID service is the expected message, its signature can be
checked, and the next request can be written. -/
def IdLineSurvives (lib : Libraries) (c : PollbookClient) (now : UInt64) (line : Bytes) : Prop :=
  ∃ json response, lib.parse line = .ok json ∧
    VerifiedVoterID.fromJson lib.toCodec json = .ok response ∧
    (idStatement lib.toCodec response.presentedId response.voterUniqueId).utf8 = true ∧
    ∃ valid, lib.verify c.idServiceVerifier
        (lib.render (idStatement lib.toCodec response.presentedId response.voterUniqueId))
        response.idServiceSignature = .ok valid ∧
      (valid = true →
        ((c.checkinRequestBody now response).toJson lib.toCodec).utf8 = true ∧
        ((⟨c.checkinRequestBody now response, lib.sign c.privateKeySigner
          (lib.render ((c.checkinRequestBody now response).toJson lib.toCodec))⟩ :
            CheckinRequest).toJson lib.toCodec).utf8 = true)

/-- The answer of the check-in service is the expected message, and its
signature can be checked. -/
def CheckinLineSurvives (lib : Libraries) (c : PollbookClient) (line : Bytes) : Prop :=
  ∃ json response, lib.parse line = .ok json ∧
    CheckinResponse.fromJson lib.toCodec json = .ok response ∧
    response.body.toJson.utf8 = true ∧
    ∃ valid, lib.verify c.checkinServiceVerifier (lib.render response.body.toJson)
      response.checkinServiceSignature = .ok valid

/-- The call returns, or throws an exception. -/
def Defined {α : Type} (x : Cpp α) : Prop := ∀ trap, x = .error trap → trap.caught = true

/-- Whatever is wrong with the answer to a ticket request is an exception. -/
def TicketLineSurvives (lib : Libraries) (c : PollbookClient) (line : Bytes) : Prop :=
  Defined (lib.parse line) ∧ ∀ json, lib.parse line = .ok json →
    Defined (TicketResponse.fromJson lib.toCodec json) ∧
    ∀ response, TicketResponse.fromJson lib.toCodec json = .ok response →
      response.body.toJson.utf8 = true →
      Defined (lib.verify c.checkinServiceVerifier (lib.render response.body.toJson)
        response.signature)

theorem verifyBytes_bind_of_ok {β : Type} {verifier : EnvelopeKey} {message signature : Bytes}
    {valid : Bool} (h : lib.verify verifier message signature = .ok valid)
    (f : Bool → Call Action β) :
    (verifyBytes lib verifier message signature >>= f) =
      (f valid).after (if valid then [.verified verifier message signature] else []) := by
  unfold verifyBytes
  rw [h]
  cases valid with
  | true => rfl
  | false => rfl

theorem ok_of_verifyBytes_bind {β : Type} {verifier : EnvelopeKey} {message signature : Bytes}
    {f : Bool → Call Action β} (h : (verifyBytes lib verifier message signature >>= f).Returns) :
    ∃ valid, lib.verify verifier message signature = .ok valid := by
  cases hverify : lib.verify verifier message signature with
  | ok valid => exact ⟨valid, rfl⟩
  | error trap =>
    unfold verifyBytes at h
    rw [hverify] at h
    obtain ⟨a, acts, h⟩ := h
    cases h

theorem startCheckinRequestWrite_eq {response : VerifiedVoterID}
    (hbody : ((c.checkinRequestBody now response).toJson lib.toCodec).utf8 = true) :
    c.startCheckinRequestWrite lib now response =
      (Call.ofCpp (lib.dump ((⟨c.checkinRequestBody now response, lib.sign c.privateKeySigner
          (lib.render ((c.checkinRequestBody now response).toJson lib.toCodec))⟩ :
            CheckinRequest).toJson lib.toCodec)) >>= fun message =>
        Call.perform (.wrote .checkinService (frame message))).after
          [.signed (lib.render ((c.checkinRequestBody now response).toJson lib.toCodec))] := by
  unfold startCheckinRequestWrite
  change (Call.ofCpp (lib.dump ((c.checkinRequestBody now response).toJson lib.toCodec)) >>= _) = _
  rw [lib.dump_of_utf8 hbody, Call.ofCpp_ok, Call.returned_bind, Call.after_nil, Call.perform_eq,
    Call.returned_bind]
  rfl

theorem returns_ofCpp_bind {α β : Type} {x : Cpp α} {f : α → Call Action β} :
    (Call.ofCpp x >>= f).Returns ↔ ∃ a, x = .ok a ∧ (f a).Returns := by
  rw [Call.returns_bind]
  simp only [Call.ofCpp_eq_returned]
  constructor
  · rintro ⟨a, _, ⟨ha, -⟩, h⟩
    exact ⟨a, ha, h⟩
  · rintro ⟨a, ha, h⟩
    exact ⟨a, [], ⟨ha, rfl⟩, h⟩

theorem returns_verifyBytes_bind {β : Type} {verifier : EnvelopeKey} {message signature : Bytes}
    {f : Bool → Call Action β} :
    (verifyBytes lib verifier message signature >>= f).Returns ↔
      ∃ valid, lib.verify verifier message signature = .ok valid ∧ (f valid).Returns := by
  constructor
  · intro h
    obtain ⟨valid, hvalid⟩ := ok_of_verifyBytes_bind h
    rw [verifyBytes_bind_of_ok hvalid, Call.returns_after] at h
    exact ⟨valid, hvalid, h⟩
  · rintro ⟨valid, hvalid, h⟩
    rwa [verifyBytes_bind_of_ok hvalid, Call.returns_after]

theorem returns_perform (a : Action) : (Call.perform a).Returns := ⟨(), [a], rfl⟩

theorem startCheckinRequestWrite_returns {response : VerifiedVoterID} :
    (c.startCheckinRequestWrite lib now response).Returns ↔
      ((c.checkinRequestBody now response).toJson lib.toCodec).utf8 = true ∧
      ((⟨c.checkinRequestBody now response, lib.sign c.privateKeySigner
        (lib.render ((c.checkinRequestBody now response).toJson lib.toCodec))⟩ :
          CheckinRequest).toJson lib.toCodec).utf8 = true := by
  constructor
  · intro h
    have hbody : ((c.checkinRequestBody now response).toJson lib.toCodec).utf8 = true := by
      obtain ⟨text, htext, -⟩ := returns_ofCpp_bind.mp h
      exact (Codec.dump_eq_ok htext).1
    rw [startCheckinRequestWrite_eq hbody, Call.returns_after] at h
    obtain ⟨message, hmessage, -⟩ := returns_ofCpp_bind.mp h
    exact ⟨hbody, (Codec.dump_eq_ok hmessage).1⟩
  · rintro ⟨hbody, hrequest⟩
    rw [startCheckinRequestWrite_eq hbody, Call.returns_after]
    exact returns_ofCpp_bind.mpr ⟨_, lib.dump_of_utf8 hrequest, returns_perform _⟩

theorem idResponseRead_returns :
    (c.idResponseRead lib now line).Returns ↔ IdLineSurvives lib c now line := by
  unfold idResponseRead handleIdResponse
  constructor
  · intro h
    obtain ⟨json, hjson, h⟩ := returns_ofCpp_bind.mp h
    obtain ⟨response, hresponse, h⟩ := returns_ofCpp_bind.mp h
    obtain ⟨text, htext, h⟩ := returns_ofCpp_bind.mp h
    obtain ⟨hutf8, rfl⟩ := Codec.dump_eq_ok htext
    obtain ⟨valid, hvalid, h⟩ := returns_verifyBytes_bind.mp h
    refine ⟨json, response, hjson, hresponse, hutf8, valid, hvalid, ?_⟩
    rintro rfl
    rw [if_pos rfl] at h
    exact startCheckinRequestWrite_returns.mp h
  · rintro ⟨json, response, hjson, hresponse, hutf8, valid, hvalid, hnext⟩
    refine returns_ofCpp_bind.mpr ⟨json, hjson, returns_ofCpp_bind.mpr ⟨response, hresponse, ?_⟩⟩
    refine returns_ofCpp_bind.mpr ⟨_, lib.dump_of_utf8 hutf8, ?_⟩
    refine returns_verifyBytes_bind.mpr ⟨valid, hvalid, ?_⟩
    cases valid with
    | true => exact startCheckinRequestWrite_returns.mpr (hnext rfl)
    | false => exact returns_perform _

theorem checkinResponseRead_returns :
    (c.checkinResponseRead lib line).Returns ↔ CheckinLineSurvives lib c line := by
  unfold checkinResponseRead handleCheckinResponse
  constructor
  · intro h
    obtain ⟨json, hjson, h⟩ := returns_ofCpp_bind.mp h
    obtain ⟨response, hresponse, h⟩ := returns_ofCpp_bind.mp h
    obtain ⟨text, htext, h⟩ := returns_ofCpp_bind.mp h
    obtain ⟨hutf8, rfl⟩ := Codec.dump_eq_ok htext
    obtain ⟨valid, hvalid, -⟩ := returns_verifyBytes_bind.mp h
    exact ⟨json, response, hjson, hresponse, hutf8, valid, hvalid⟩
  · rintro ⟨json, response, hjson, hresponse, hutf8, valid, hvalid⟩
    refine returns_ofCpp_bind.mpr ⟨json, hjson, returns_ofCpp_bind.mpr ⟨response, hresponse, ?_⟩⟩
    refine returns_ofCpp_bind.mpr ⟨_, lib.dump_of_utf8 hutf8, ?_⟩
    refine returns_verifyBytes_bind.mpr ⟨valid, hvalid, ?_⟩
    split
    · exact returns_perform _
    split
    · exact returns_perform _
    · exact returns_perform _

/-- The call throws an exception, if it throws. -/
def Caught {α : Type} (x : Call Action α) : Prop :=
  ∀ trap acts, x = .threw trap acts → trap.caught = true

theorem caught_ofCpp_bind {α β : Type} {x : Cpp α} {f : α → Call Action β} :
    Caught (Call.ofCpp x >>= f) ↔ Defined x ∧ ∀ a, x = .ok a → Caught (f a) := by
  unfold Caught Defined
  cases x with
  | error trap =>
    rw [Call.ofCpp_error, Call.threw_bind]
    constructor
    · intro h
      refine ⟨fun trap' heq => ?_, fun a ha => by cases ha⟩
      cases heq
      exact h trap [] rfl
    · rintro ⟨hdefined, -⟩ trap' acts heq
      cases heq
      exact hdefined trap rfl
  | ok a =>
    rw [Call.ofCpp_ok, Call.returned_bind, Call.after_nil]
    constructor
    · intro h
      constructor
      · rintro trap ⟨⟩
      · rintro b ⟨⟩
        exact h
    · rintro ⟨-, h⟩
      exact h a rfl

theorem defined_dump (j : Json) : Defined (lib.dump j) := by
  intro trap h
  unfold Codec.dump at h
  split at h
  · cases h
  · cases h
    rfl

theorem caught_verifyBytes_bind {verifier : EnvelopeKey} {message signature : Bytes}
    {a : Bool → Action} :
    Caught (verifyBytes lib verifier message signature >>= fun valid => Call.perform (a valid)) ↔
      Defined (lib.verify verifier message signature) := by
  constructor
  · intro h trap hverify
    refine h trap [] ?_
    unfold verifyBytes
    rw [hverify]
    rfl
  · intro h trap acts heq
    unfold verifyBytes at heq
    cases hverify : lib.verify verifier message signature with
    | error trap' =>
      rw [hverify] at heq
      cases heq
      exact h _ hverify
    | ok valid =>
      rw [hverify] at heq
      cases valid <;> cases heq

/-- The `try` block throws an exception, if it throws. -/
theorem handleTicketResponse_caught :
    Caught (c.handleTicketResponse lib line) ↔ TicketLineSurvives lib c line := by
  have hlast : ∀ response : TicketResponse, ∀ text,
      Caught (do
        if ← verifyBytes lib c.checkinServiceVerifier text response.signature then
          Call.perform (.setValue response.body.approved response.body.secret)
        else Call.perform (.setValue false invalidSignature)) ↔
      Defined (lib.verify c.checkinServiceVerifier text response.signature) := by
    intro response text
    rw [← caught_verifyBytes_bind (a := fun valid =>
      if valid = true then .setValue response.body.approved response.body.secret
      else .setValue false invalidSignature)]
    have hperform : ∀ valid : Bool,
        (if valid = true then Call.perform (.setValue response.body.approved response.body.secret)
          else Call.perform (.setValue false invalidSignature)) =
        (Call.perform (if valid = true then
            .setValue response.body.approved response.body.secret
          else .setValue false invalidSignature) : Call Action Unit) := by
      intro valid
      split <;> rfl
    simp only [hperform]
  unfold handleTicketResponse TicketLineSurvives
  simp only [caught_ofCpp_bind, hlast]
  constructor
  · rintro ⟨hparse, h⟩
    refine ⟨hparse, fun json hjson => ⟨(h json hjson).1, fun response hresponse hutf8 => ?_⟩⟩
    exact ((h json hjson).2 response hresponse).2 _ (lib.dump_of_utf8 hutf8)
  · rintro ⟨hparse, h⟩
    refine ⟨hparse, fun json hjson => ⟨(h json hjson).1, fun response hresponse => ?_⟩⟩
    refine ⟨defined_dump _, fun text htext => ?_⟩
    obtain ⟨hutf8, rfl⟩ := Codec.dump_eq_ok htext
    exact (h json hjson).2 response hresponse hutf8

theorem ticketResponseRead_returns :
    (c.ticketResponseRead lib line).Returns ↔ TicketLineSurvives lib c line := by
  rw [← handleTicketResponse_caught]
  unfold ticketResponseRead
  cases hcall : c.handleTicketResponse lib line with
  | returned u acts => exact iff_of_true ⟨u, acts, rfl⟩ fun trap acts h => by cases h
  | threw trap acts =>
    dsimp only
    constructor
    · intro h trap' acts' heq
      obtain ⟨rfl, rfl⟩ := Call.threw.inj heq
      by_contra hnot
      rw [if_neg hnot] at h
      exact Call.not_returns_threw _ _ h
    · intro h
      rw [if_pos (h trap acts rfl)]
      exact ⟨(), _, rfl⟩

/-! ## What the handlers have done -/

theorem returned_ofCpp_bind {α β : Type} {x : Cpp α} {f : α → Call Action β} {b : β}
    (h : Call.ofCpp x >>= f = .returned b acts) : ∃ a, x = .ok a ∧ f a = .returned b acts := by
  rw [Call.bind_eq_returned] at h
  obtain ⟨a, _, _, hx, h, rfl⟩ := h
  rw [Call.ofCpp_eq_returned] at hx
  obtain ⟨ha, rfl⟩ := hx
  exact ⟨a, ha, h⟩

theorem returned_verifyBytes_bind {β : Type} {verifier : EnvelopeKey}
    {message signature : Bytes} {f : Bool → Call Action β} {b : β}
    (h : verifyBytes lib verifier message signature >>= f = .returned b acts) :
    ∃ valid acts', f valid = .returned b acts' ∧
      acts = (if valid then [.verified verifier message signature] else []) ++ acts' := by
  obtain ⟨valid, hvalid⟩ := ok_of_verifyBytes_bind ⟨b, acts, h⟩
  rw [verifyBytes_bind_of_ok hvalid, Call.after_eq_returned] at h
  obtain ⟨acts', h, rfl⟩ := h
  exact ⟨valid, acts', h, rfl⟩

/-- The ID service's answer makes the client write the next request, or it makes
the request fail. -/
theorem idResponseRead_returned {u : Unit} (h : c.idResponseRead lib now line = .returned u acts) :
    (∃ buffer, acts.findSome? Action.buffer = some buffer) ∧ values acts = [] ∨
      acts.findSome? Action.buffer = none ∧ ∃ message, values acts = [(false, message)] := by
  obtain ⟨json, -, h⟩ := returned_ofCpp_bind h
  obtain ⟨response, -, h⟩ := returned_ofCpp_bind h
  obtain ⟨text, -, h⟩ := returned_ofCpp_bind h
  obtain ⟨valid, acts', hrest, rfl⟩ := returned_verifyBytes_bind h
  cases valid with
  | true =>
    rw [if_pos rfl] at hrest ⊢
    obtain ⟨body, -, hrest⟩ := returned_ofCpp_bind hrest
    rw [Call.perform_eq, Call.returned_bind, Call.after_eq_returned] at hrest
    obtain ⟨acts'', hlast, rfl⟩ := hrest
    obtain ⟨message, -, hlast⟩ := returned_ofCpp_bind hlast
    cases hlast
    exact .inl ⟨⟨_, rfl⟩, rfl⟩
  | false =>
    cases hrest
    exact .inr ⟨rfl, _, rfl⟩

theorem writing_eq_returned {α : Type} {call : Call Action α} {a : α} {size : Option Nat} :
    writing call = .returned (a, size) acts ↔
      call = .returned a acts ∧ size = (acts.findSome? Action.buffer).map List.length := by
  cases call with
  | threw trap acts' =>
    refine iff_of_false ?_ ?_
    · rintro ⟨⟩
    · rintro ⟨⟨⟩, -⟩
  | returned a' acts' =>
    constructor
    · rintro ⟨⟩
      exact ⟨rfl, rfl⟩
    · rintro ⟨⟨⟩, rfl⟩
      rfl

/-- A request that is made is written. -/
theorem startIdRequestWrite_returned {firstName middleName lastName voterIdData : Bytes} {u : Unit}
    (h : c.startIdRequestWrite lib now firstName middleName lastName voterIdData =
      .returned u acts) :
    ∃ buffer, acts.findSome? Action.buffer = some buffer := by
  obtain ⟨text, -, hrest⟩ := returned_ofCpp_bind h
  rw [Call.perform_eq, Call.returned_bind, Call.after_eq_returned] at hrest
  obtain ⟨acts', hlast, rfl⟩ := hrest
  obtain ⟨message, -, hlast⟩ := returned_ofCpp_bind hlast
  cases hlast
  exact ⟨_, rfl⟩

@[inherit_doc startIdRequestWrite_returned]
theorem checkInVoter_returned {firstName middleName lastName voterIdData : Bytes}
    {c' : PollbookClient}
    (h : c.checkInVoter lib now firstName middleName lastName voterIdData = .returned c' acts) :
    ∃ buffer, acts.findSome? Action.buffer = some buffer := by
  unfold checkInVoter at h
  split at h
  · cases h
  obtain ⟨u, acts₁, acts₂, hwrite, hpure, rfl⟩ := Call.bind_eq_returned.mp h
  cases hpure
  rw [List.append_nil]
  exact startIdRequestWrite_returned hwrite

@[inherit_doc startIdRequestWrite_returned]
theorem verifyTicket_returned {ticket : Bytes} {pin : UInt32} {u : Unit}
    (h : c.verifyTicket lib now ticket pin = .returned u acts) :
    ∃ buffer, acts.findSome? Action.buffer = some buffer := by
  unfold verifyTicket at h
  split at h
  · cases h
  obtain ⟨text, -, hrest⟩ := returned_ofCpp_bind h
  rw [Call.perform_eq, Call.returned_bind, Call.after_eq_returned] at hrest
  obtain ⟨acts', hlast, rfl⟩ := hrest
  obtain ⟨message, -, hlast⟩ := returned_ofCpp_bind hlast
  cases hlast
  exact ⟨_, rfl⟩

/-- The line is an approval that verified under the check-in service's key. -/
def Earned (lib : Libraries) (c : PollbookClient) (line : Bytes) (acts : List Action) : Prop :=
  ∃ json, lib.parse line = .ok json ∧
    ((∃ response, CheckinResponse.fromJson lib.toCodec json = .ok response ∧
      response.body.approved = true ∧
      .verified c.checkinServiceVerifier (lib.render response.body.toJson)
        response.checkinServiceSignature ∈ acts) ∨
    ∃ response, TicketResponse.fromJson lib.toCodec json = .ok response ∧
      response.body.approved = true ∧
      .verified c.checkinServiceVerifier (lib.render response.body.toJson)
        response.signature ∈ acts)

/-- The actions set the promise once, to success only if that is earned. -/
def Decides (lib : Libraries) (c : PollbookClient) (line : Bytes) (acts : List Action) : Prop :=
  ∃ success message, values acts = [(success, message)] ∧ (success = true → Earned lib c line acts)

theorem checkinResponseRead_returned {u : Unit}
    (h : c.checkinResponseRead lib line = .returned u acts) : Decides lib c line acts := by
  obtain ⟨json, hjson, h⟩ := returned_ofCpp_bind h
  obtain ⟨response, hresponse, h⟩ := returned_ofCpp_bind h
  obtain ⟨text, htext, h⟩ := returned_ofCpp_bind h
  obtain ⟨-, rfl⟩ := Codec.dump_eq_ok htext
  obtain ⟨valid, acts', hrest, rfl⟩ := returned_verifyBytes_bind h
  cases valid with
  | false =>
    cases hrest
    exact ⟨false, _, rfl, fun hsuccess => by cases hsuccess⟩
  | true =>
    cases happroved : response.body.approved with
    | true =>
      rw [happroved] at hrest
      cases hrest
      exact ⟨true, _, rfl, fun _ => ⟨json, hjson, .inl ⟨response, hresponse, happroved,
        List.mem_cons_self⟩⟩⟩
    | false =>
      rw [happroved] at hrest
      cases hrest
      exact ⟨false, _, rfl, fun hsuccess => by cases hsuccess⟩

theorem ticketResponseRead_returned {u : Unit}
    (h : c.ticketResponseRead lib line = .returned u acts) : Decides lib c line acts := by
  unfold ticketResponseRead at h
  split at h
  · next u' acts' hcall =>
    cases h
    obtain ⟨json, hjson, hcall⟩ := returned_ofCpp_bind hcall
    obtain ⟨response, hresponse, hcall⟩ := returned_ofCpp_bind hcall
    obtain ⟨text, htext, hcall⟩ := returned_ofCpp_bind hcall
    obtain ⟨-, rfl⟩ := Codec.dump_eq_ok htext
    obtain ⟨valid, acts'', hrest, rfl⟩ := returned_verifyBytes_bind hcall
    cases valid with
    | false =>
      cases hrest
      exact ⟨false, _, rfl, fun hsuccess => by cases hsuccess⟩
    | true =>
      cases hrest
      exact ⟨_, _, rfl, fun hsuccess => ⟨json, hjson, .inr ⟨response, hresponse, hsuccess,
        List.mem_cons_self⟩⟩⟩
  · next trap acts' hcall =>
    split at h
    · cases h
      refine ⟨false, bytes "Error parsing server response", ?_, fun hsuccess => by cases hsuccess⟩
      rw [values_append, handleTicketResponse_unset _ _ hcall]
      rfl
    · cases h

/-! ## One step -/

namespace Requester

variable {s s' : Requester} {io : Io} {completion : Completion} {e : Event}

/-- The line a completion hands to its handler. -/
def lineOf (s : Requester) : Completion → Bytes
  | .read bytes =>
    match s.operation with
    | some (.checkinResponseRead buf) => firstLine (buf ++ bytes)
    | _ => firstLine bytes
  | _ => []

/-- The handler of this event returns: what was to be written is one record, the
line it reads is one it survives. -/
def Survivable (lib : Libraries) (s : Requester) (e : Event) : Prop :=
  match e.completion, s.operation with
  | .written, some (.idRequestWrite size) | .written, some (.checkinRequestWrite size)
  | .written, some (.ticketRequestWrite size) => size ≤ tlsRecord
  | .read _, some .idMessageRead =>
    IdLineSurvives lib s.toPollbookClient e.io.now (s.lineOf e.completion)
  | .read _, some .checkinMessageRead =>
    (extractSize (s.lineOf e.completion)).toNat < 2 ^ 63 ∧ e.io.allocates = true
  | .read _, some (.checkinResponseRead _) =>
    CheckinLineSurvives lib s.toPollbookClient (s.lineOf e.completion)
  | .read _, some .ticketResponseRead =>
    TicketLineSurvives lib s.toPollbookClient (s.lineOf e.completion)
  | _, _ => True

/-- The specification of the handlers. -/
structure Spec (lib : Libraries) (s : Requester) (e : Event)
    (call : Call Action (Option Operation)) : Prop where
  returns : call.Returns ↔ s.Survivable lib e
  unset : Unset call
  ends : ∀ operation acts, call = .returned operation acts →
    operation.isSome = true ∧ values acts = [] ∨
      operation = none ∧ Decides lib s.toPollbookClient (s.lineOf e.completion) acts

theorem returns_ended {call : Call Action Unit} : (ended call).Returns ↔ call.Returns := by
  unfold ended
  rw [Call.returns_bind]
  constructor
  · rintro ⟨u, acts, h, -⟩
    exact ⟨u, acts, h⟩
  · rintro ⟨u, acts, h⟩
    exact ⟨u, acts, h, Call.returns_pure none⟩

theorem ended_returned {call : Call Action Unit} {operation : Option Operation}
    (h : ended call = .returned operation acts) : operation = none ∧ call = .returned () acts := by
  unfold ended at h
  rw [Call.bind_eq_returned] at h
  obtain ⟨u, acts₁, acts₂, hcall, hpure, rfl⟩ := h
  cases hpure
  rw [List.append_nil]
  exact ⟨rfl, hcall⟩

theorem ended_unset {call : Call Action Unit} (h : Unset call) : Unset (ended call) := by
  intro trap acts heq
  cases call with
  | returned u acts' => cases heq
  | threw trap' acts' =>
    cases heq
    exact h _ _ rfl

theorem failed_spec {operation : Operation} {error : ReadError}
    (hcompletion : e.completion = .failed error) : Spec lib s e (failed operation error) where
  returns := by
    unfold Survivable
    rw [hcompletion]
    exact iff_of_true ⟨_, _, rfl⟩ trivial
  unset := by rintro trap acts ⟨⟩
  ends := by
    rintro operation' acts ⟨⟩
    exact .inr ⟨rfl, false, _, rfl, fun hsuccess => by cases hsuccess⟩

theorem written_spec {size : Nat} {operation : Operation}
    (hsurvivable : s.Survivable lib e ↔ size ≤ tlsRecord) :
    Spec lib s e (written size operation) := by
  unfold written
  split
  · next hsize =>
    refine ⟨iff_of_true ⟨_, _, rfl⟩ (hsurvivable.mpr hsize), unset_pure _, ?_⟩
    rintro operation' acts ⟨⟩
    exact .inl ⟨rfl, rfl⟩
  · next hsize =>
    refine ⟨iff_of_false (Call.not_returns_threw _ _) (mt hsurvivable.mp hsize), ?_, ?_⟩
    · rintro trap acts ⟨⟩
      rfl
    · rintro operation' acts ⟨⟩

theorem ended_spec {call : Call Action Unit} (hreturns : call.Returns ↔ s.Survivable lib e)
    (hunset : Unset call) (hdecides : ∀ acts, call = .returned () acts →
      Decides lib s.toPollbookClient (s.lineOf e.completion) acts) :
    Spec lib s e (ended call) where
  returns := returns_ended.trans hreturns
  unset := ended_unset hunset
  ends := by
    intro operation acts h
    obtain ⟨rfl, hcall⟩ := ended_returned h
    exact .inr ⟨rfl, hdecides acts hcall⟩

theorem idMessageRead_spec {bytes : Bytes} (hcompletion : e.completion = .read bytes)
    (hoperation : s.operation = some .idMessageRead) :
    Spec lib s e (do
      let (_, size) ← writing (s.idResponseRead lib e.io.now (firstLine bytes))
      return size.map .checkinRequestWrite) := by
  have hline : s.lineOf e.completion = firstLine bytes := by
    rw [hcompletion, lineOf, hoperation]
  have hsurvivable : s.Survivable lib e ↔
      IdLineSurvives lib s.toPollbookClient e.io.now (firstLine bytes) := by
    unfold Survivable
    rw [hline, hcompletion, hoperation]
  rw [← hline] at hsurvivable ⊢
  cases hcall : s.idResponseRead lib e.io.now (s.lineOf e.completion) with
  | threw trap acts =>
    have hnot : ¬ s.Survivable lib e := by
      rw [hsurvivable, ← idResponseRead_returns, hcall]
      exact Call.not_returns_threw _ _
    refine ⟨iff_of_false (Call.not_returns_threw _ _) hnot, ?_, ?_⟩
    · rintro trap' acts' ⟨⟩
      exact idResponseRead_unset _ _ hcall
    · rintro operation acts' ⟨⟩
  | returned u acts =>
    refine ⟨iff_of_true ⟨_, _, rfl⟩ ?_, ?_, ?_⟩
    · rw [hsurvivable, ← idResponseRead_returns, hcall]
      exact ⟨_, _, rfl⟩
    · rintro trap acts' ⟨⟩
    · rintro operation acts' ⟨⟩
      rw [List.append_nil]
      rcases idResponseRead_returned hcall with
        ⟨⟨buffer, hbuffer⟩, hvalues⟩ | ⟨hbuffer, message, hvalues⟩
      · rw [hbuffer]
        exact .inl ⟨rfl, hvalues⟩
      · rw [hbuffer]
        exact .inr ⟨rfl, false, message, hvalues, fun hsuccess => by cases hsuccess⟩

theorem exists_resize_eq_ok {n : UInt64} :
    (∃ u, resize io n = .ok u) ↔ n.toNat < 2 ^ 63 ∧ io.allocates = true := by
  unfold resize
  split
  · next hlarge =>
    exact iff_of_false (fun ⟨_, h⟩ => by cases h) fun h => absurd h.1 (Nat.not_lt.mpr hlarge)
  split
  · next hsmall hallocates => exact iff_of_true ⟨(), rfl⟩ ⟨Nat.lt_of_not_le hsmall, hallocates⟩
  · next hallocates => exact iff_of_false (fun ⟨_, h⟩ => by cases h) fun h => hallocates h.2

theorem checkinMessageRead_spec {bytes : Bytes} (hcompletion : e.completion = .read bytes)
    (hoperation : s.operation = some .checkinMessageRead) :
    Spec lib s e (checkinMessageRead e.io bytes) := by
  have hsurvivable : s.Survivable lib e ↔
      ∃ u, resize e.io (extractSize (firstLine bytes)) = .ok u := by
    rw [exists_resize_eq_ok]
    unfold Survivable
    rw [hcompletion, hoperation]
    dsimp only [lineOf]
    rw [hoperation]
  unfold checkinMessageRead
  refine ⟨?_, ?_, ?_⟩
  · rw [hsurvivable]
    dsimp only
    rw [returns_ofCpp_bind]
    exact exists_congr fun u => ⟨And.left, fun h => ⟨h, Call.returns_pure _⟩⟩
  · exact unset_bind (values_ofCpp _) fun _ => unset_pure _
  · intro operation acts h
    obtain ⟨u, -, h⟩ := returned_ofCpp_bind h
    cases h
    exact .inl ⟨rfl, rfl⟩

/-- Every handler meets the specification. -/
theorem handle_spec {call : Call Action (Option Operation)}
    (h : s.handle lib e.io e.completion = some call) : Spec lib s e call := by
  unfold handle at h
  split at h
  · next error hcompletion =>
    obtain ⟨operation, -, rfl⟩ := Option.map_eq_some_iff.mp h
    exact failed_spec hcompletion
  · next hcompletion =>
    split at h
    · next hoperation =>
      cases h
      refine written_spec ?_
      unfold Survivable
      rw [hcompletion, hoperation]
    · next hoperation =>
      cases h
      refine written_spec ?_
      unfold Survivable
      rw [hcompletion, hoperation]
    · next hoperation =>
      cases h
      refine written_spec ?_
      unfold Survivable
      rw [hcompletion, hoperation]
    · cases h
  · next bytes hcompletion =>
    unfold onLine at h
    split at h
    · next hoperation =>
      split at h
      · cases h
        exact idMessageRead_spec hcompletion hoperation
      · cases h
    · next hoperation =>
      split at h
      · cases h
        exact checkinMessageRead_spec hcompletion hoperation
      · cases h
    · next buf hoperation =>
      split at h
      · cases h
        have hline : s.lineOf e.completion = firstLine (buf ++ bytes) := by
          rw [hcompletion, lineOf, hoperation]
        rw [← hline]
        refine ended_spec ?_ checkinResponseRead_unset fun acts => checkinResponseRead_returned
        rw [checkinResponseRead_returns]
        unfold Survivable
        rw [hoperation, hcompletion]
      · cases h
    · next hoperation =>
      split at h
      · cases h
        have hline : s.lineOf e.completion = firstLine bytes := by
          rw [hcompletion, lineOf, hoperation]
        rw [← hline]
        refine ended_spec ?_ ticketResponseRead_unset fun acts => ticketResponseRead_returned
        rw [ticketResponseRead_returns]
        unfold Survivable
        rw [hoperation, hcompletion]
      · cases h
    · cases h

theorem settle_cons {promise : Option (Bool × Bytes)} {a : Action} (h : values [a] = []) :
    settle promise (a :: acts) = Call.perform a >>= fun _ => settle promise acts := by
  cases a with
  | setValue success message => cases h
  | verified | signed | wrote => cases promise <;> rfl

theorem settle_unset {promise : Option (Bool × Bytes)} (h : values acts = []) :
    settle promise acts = .returned promise acts := by
  induction acts with
  | nil => cases promise <;> rfl
  | cons a acts ih =>
    have happend : values [a] ++ values acts = [] := (values_append [a] acts).symm.trans h
    obtain ⟨ha, hrest⟩ := List.append_eq_nil_iff.mp happend
    rw [settle_cons ha, ih hrest]
    rfl

theorem settle_set {success : Bool} {message : Bytes} (h : values acts = [(success, message)]) :
    settle none acts = .returned (some (success, message)) acts := by
  induction acts with
  | nil => cases h
  | cons a acts ih =>
    cases a with
    | setValue success' message' =>
      obtain ⟨heq, hrest⟩ := List.cons.inj h
      obtain ⟨rfl, rfl⟩ := Prod.mk.inj heq
      rw [settle, settle_unset hrest]
      rfl
    | verified | signed | wrote =>
      rw [settle_cons rfl, ih h]
      rfl

/-- What a step leaves: the next operation outstanding and the promise unset, or
no operation and the promise set. -/
inductive Leaves (lib : Libraries) (s : Requester) (e : Event) (s' : Requester)
    (acts : List Action) : Prop
  | goesOn (hclient : s'.toPollbookClient = s.toPollbookClient)
      (hoperation : s'.operation.isSome = true) (hpromise : s'.currentRequestPromise = none)
      (hvalues : values acts = [])
  | finished (hclient : s'.toPollbookClient = s.toPollbookClient) (hoperation : s'.operation = none)
      (hdecides : Decides lib s.toPollbookClient (s.lineOf e.completion) acts)

/-- The specification of a step. -/
structure StepSpec (lib : Libraries) (s : Requester) (e : Event) (call : Call Action Requester) :
    Prop where
  returns : call.Returns ↔ s.Survivable lib e
  unset : Unset call
  leaves : ∀ s' acts, call = .returned s' acts → Leaves lib s e s' acts

theorem step_spec {call : Call Action Requester} (hpromise : s.currentRequestPromise = none)
    (h : s.step lib e = some call) : StepSpec lib s e call := by
  unfold step at h
  obtain ⟨handled, hhandle, rfl⟩ := Option.map_eq_some_iff.mp h
  obtain ⟨hreturns, hunset, hends⟩ := handle_spec hhandle
  cases handled with
  | threw trap acts =>
    refine ⟨iff_of_false (Call.not_returns_threw _ _) fun hsurvivable => ?_, ?_, ?_⟩
    · exact Call.not_returns_threw _ _ (hreturns.mpr hsurvivable)
    · rintro trap' acts' ⟨⟩
      exact hunset _ _ rfl
    · rintro s' acts' ⟨⟩
  | returned operation acts =>
    have hsurvivable := hreturns.mp ⟨_, _, rfl⟩
    dsimp only
    rw [hpromise]
    rcases hends operation acts rfl with ⟨hsome, hvalues⟩ | ⟨rfl, hdecides⟩
    · rw [settle_unset hvalues, Call.returned_bind]
      refine ⟨iff_of_true ⟨_, _, rfl⟩ hsurvivable, ?_, ?_⟩
      · rintro trap acts' ⟨⟩
      · rintro s' acts' ⟨⟩
        rw [List.append_nil]
        exact .goesOn rfl hsome rfl hvalues
    · obtain ⟨success, message, hvalues, -⟩ := id hdecides
      rw [settle_set hvalues, Call.returned_bind]
      refine ⟨iff_of_true ⟨_, _, rfl⟩ hsurvivable, ?_, ?_⟩
      · rintro trap acts' ⟨⟩
      · rintro s' acts' ⟨⟩
        rw [List.append_nil]
        exact .finished rfl rfl hdecides

end Requester

/-! ## Runs -/

open Requester (next crash Survivable step_spec Leaves lineOf)

/-- A request has just begun. -/
inductive Begins (lib : Libraries) : Requester → Prop
  | checkIn {s : Requester} {c : PollbookClient} {now : UInt64}
      {firstName middleName lastName voterIdData : Bytes} {acts : List Action}
      (h : c.requestCheckIn lib now firstName middleName lastName voterIdData =
        .returned s acts) : Begins lib s
  | verification {s : Requester} {c : PollbookClient} {now : UInt64} {ticket : Bytes}
      {pin : UInt32} {acts : List Action}
      (h : c.requestVerification lib now ticket pin = .returned s acts) : Begins lib s

variable {s₀ s s' : Requester} {e : Event} {tr : List (Event × List Action)}

theorem Begins.outstanding (h : Begins lib s₀) :
    s₀.operation.isSome = true ∧ s₀.currentRequestPromise = none := by
  cases h with
  | checkIn h =>
    obtain ⟨⟨c', size⟩, acts, _, hwriting, hpure, -⟩ := Call.bind_eq_returned.mp h
    obtain ⟨rfl, -⟩ := Call.pure_eq_returned.mp hpure
    obtain ⟨hcall, rfl⟩ := writing_eq_returned.mp hwriting
    obtain ⟨buffer, hbuffer⟩ := checkInVoter_returned hcall
    rw [hbuffer]
    exact ⟨rfl, rfl⟩
  | verification h =>
    obtain ⟨⟨u, size⟩, acts, _, hwriting, hpure, -⟩ := Call.bind_eq_returned.mp h
    obtain ⟨rfl, -⟩ := Call.pure_eq_returned.mp hpure
    obtain ⟨hcall, rfl⟩ := writing_eq_returned.mp hwriting
    obtain ⟨buffer, hbuffer⟩ := verifyTicket_returned hcall
    rw [hbuffer]
    exact ⟨rfl, rfl⟩

/-- The values the promise gets on a trace. -/
def valuesOf (tr : List (Event × List Action)) : List (Bool × Bytes) :=
  values (tr.flatMap (·.2))

theorem valuesOf_snoc (tr : List (Event × List Action)) (e : Event) (acts : List Action) :
    valuesOf (tr ++ [(e, acts)]) = valuesOf tr ++ values acts := by
  rw [valuesOf, List.flatMap_append, List.flatMap_singleton, values_append]
  rfl

/-- The request is in progress, or it is over. -/
inductive Progress (s₀ : Requester) (tr : List (Event × List Action)) (s : Requester) : Prop
  | going (hclient : s.toPollbookClient = s₀.toPollbookClient)
      (hoperation : s.operation.isSome = true) (hpromise : s.currentRequestPromise = none)
      (hvalues : valuesOf tr = [])
  | finished (hclient : s.toPollbookClient = s₀.toPollbookClient) (hoperation : s.operation = none)
      (hvalues : (valuesOf tr).length = 1)

theorem step_of_next {acts : List Action} (h : next lib s e = some (s', acts)) :
    s.step lib e = some (.returned s' acts) := by
  unfold next at h
  split at h
  · next m acts' hstep =>
    cases h
    exact hstep
  · cases h

theorem step_of_crash {acts : List Action} (h : crash lib s e = some acts) :
    ∃ trap, s.step lib e = some (.threw trap acts) := by
  unfold crash at h
  split at h
  · next trap acts' hstep =>
    cases h
    exact ⟨trap, hstep⟩
  · cases h

/-- A request that is over has no handler left. -/
theorem step_of_over (hoperation : s.operation = none) : s.step lib e = none := by
  unfold Requester.step Requester.handle
  rw [hoperation]
  cases e.completion <;> rfl

theorem progress_of_run (hbegins : Begins lib s₀) (hrun : Run (next lib) s₀ tr s) :
    Progress s₀ tr s := by
  obtain ⟨hoperation, hpromise⟩ := hbegins.outstanding
  apply hrun.history (I := fun tr s => Progress s₀ tr s)
  · exact .going rfl hoperation hpromise rfl
  · intro tr s e s' acts _ hprogress hnext
    have hstep := step_of_next hnext
    cases hprogress with
    | finished _ hover _ =>
      rw [step_of_over hover] at hstep
      cases hstep
    | going hclient _ hpromise hvalues =>
      cases (step_spec hpromise hstep).leaves s' acts rfl with
      | goesOn hclient' hoperation' hpromise' hvalues' =>
        refine .going (hclient'.trans hclient) hoperation' hpromise' ?_
        rw [valuesOf_snoc, hvalues, hvalues']
        rfl
      | finished hclient' hoperation' hdecides =>
        obtain ⟨success, message, hvalues', -⟩ := hdecides
        refine .finished (hclient'.trans hclient) hoperation' ?_
        rw [valuesOf_snoc, hvalues, hvalues']
        rfl

theorem no_value_of_crash (hbegins : Begins lib s₀) (hrun : Run (next lib) s₀ tr s)
    {acts : List Action} (h : crash lib s e = some acts) :
    values acts = [] ∧ s.operation.isSome = true ∧ valuesOf tr = [] ∧
      ¬ s.Survivable lib e := by
  obtain ⟨trap, hstep⟩ := step_of_crash h
  cases progress_of_run hbegins hrun with
  | finished _ hover _ =>
    rw [step_of_over hover] at hstep
    cases hstep
  | going _ hoperation hpromise hvalues =>
    obtain ⟨hreturns, hunset, -⟩ := step_spec hpromise hstep
    exact ⟨hunset _ _ rfl, hoperation, hvalues, fun hsurvivable =>
      Call.not_returns_threw _ _ (hreturns.mpr hsurvivable)⟩

/-- A request has been answered once at the end of the trace, unless it is still
in progress; no exception has escaped; and it succeeded only with an approval
signed by the check-in service. -/
structure AnsweredOnce (lib : Libraries) (s₀ : Requester) (tr : List (Event × List Action)) :
    Prop where
  alive : ∃ s, Run (next lib) s₀ tr s ∧ (s.operation = none → (valuesOf tr).length = 1)
  once : (valuesOf tr).length ≤ 1
  earned : ∀ pre e acts post m, tr = pre ++ (e, acts) :: post → Run (next lib) s₀ pre m →
    ∀ message, (true, message) ∈ values acts →
      Earned lib s₀.toPollbookClient (m.lineOf e.completion) acts

theorem earned_of_next (hbegins : Begins lib s₀) (hrun : Run (next lib) s₀ tr s)
    {acts : List Action} (hnext : next lib s e = some (s', acts)) {message : Bytes}
    (hvalue : (true, message) ∈ values acts) :
    Earned lib s₀.toPollbookClient (s.lineOf e.completion) acts := by
  have hstep := step_of_next hnext
  cases progress_of_run hbegins hrun with
  | finished _ hover _ =>
    rw [step_of_over hover] at hstep
    cases hstep
  | going hclient _ hpromise _ =>
    cases (step_spec hpromise hstep).leaves s' acts rfl with
    | goesOn _ _ _ hvalues =>
      rw [hvalues] at hvalue
      cases hvalue
    | finished _ _ hdecides =>
      obtain ⟨success, message', hvalues, hearned⟩ := hdecides
      rw [hvalues, List.mem_singleton, Prod.mk.injEq] at hvalue
      rw [← hclient]
      exact hearned hvalue.1.symm

theorem once_of_run (hbegins : Begins lib s₀) (hrun : Run (next lib) s₀ tr s) :
    (valuesOf tr).length ≤ 1 ∧ (s.operation = none → (valuesOf tr).length = 1) := by
  cases progress_of_run hbegins hrun with
  | going _ hoperation _ hvalues =>
    rw [hvalues]
    refine ⟨Nat.zero_le 1, fun hnone => ?_⟩
    rw [hnone] at hoperation
    cases hoperation
  | finished _ _ hvalues =>
    rw [hvalues]
    exact ⟨Nat.le_refl 1, fun _ => rfl⟩

/-- **Requests.** A request is answered once, whatever the servers send, just
when what it wrote are single records and every line that came in is one its
handler survives. -/
theorem requests_are_answered (hbegins : Begins lib s₀)
    (hlife : Lifetime (next lib) (crash lib) s₀ tr) :
    AnsweredOnce lib s₀ tr ↔ Throughout (next lib) (Survivable lib) s₀ tr := by
  constructor
  · rintro ⟨⟨s, hrun, -⟩, -, -⟩ pre e acts post m rfl hpre
    obtain ⟨m', m'', hpre', hnext, -⟩ := hrun.splitStep
    obtain rfl := hpre.deterministic hpre'
    have hstep := step_of_next hnext
    cases progress_of_run hbegins hpre with
    | finished _ hover _ =>
      rw [step_of_over hover] at hstep
      cases hstep
    | going _ _ hpromise _ => exact (step_spec hpromise hstep).returns.mp ⟨_, _, rfl⟩
  · intro hsurvivable
    cases hlife with
    | alive hrun =>
      obtain ⟨honce, hover⟩ := once_of_run hbegins hrun
      refine ⟨⟨_, hrun, hover⟩, honce, ?_⟩
      rintro pre e acts post m rfl hpre message hvalue
      obtain ⟨m', m'', hpre', hnext, -⟩ := hrun.splitStep
      obtain rfl := hpre.deterministic hpre'
      exact earned_of_next hbegins hpre hnext hvalue
    | ended hrun hcrash =>
      obtain ⟨-, -, -, hnot⟩ := no_value_of_crash hbegins hrun hcrash
      exact absurd (hsurvivable _ _ _ [] _ rfl hrun) hnot

section Rehearsal

open Rehearsal

/-- The kiosk, connected to both servers. -/
def kiosk : PollbookClient where
  clientId := kioskId
  checkinConnected := true
  idConnected := true
  privateKeySigner := kioskKey
  idServiceVerifier := idServiceKey
  checkinServiceVerifier := config.localPrivateKey
  currentRequestVoterName := ([], [], [])

def atTime : Io := ⟨1000, true⟩

/-- Whether the request begins, and goes through these completions to an end
that passes the test. -/
def goesThrough (call : Call Action Requester) (completions : List Completion)
    (test : List (Event × List Action) × Requester → Bool) : Bool :=
  match call with
  | .returned s _ =>
    (exec (next env.toLibraries) s (completions.map (Event.mk atTime))).any test
  | .threw _ _ => false

theorem exists_of_goesThrough {call : Call Action Requester} {completions : List Completion}
    {test : List (Event × List Action) × Requester → Bool}
    (h : goesThrough call completions test = true) :
    ∃ s₀ acts tr s, call = .returned s₀ acts ∧ Run (next env.toLibraries) s₀ tr s ∧
      test (tr, s) = true := by
  cases call with
  | returned s₀ acts =>
    obtain ⟨tr, s, hrun, htest⟩ := Run.exists_of_exec h
    exact ⟨s₀, acts, tr, s, rfl, hrun, htest⟩
  | threw trap acts => cases h

/-- The voter is checked in. -/
def janeDoe : Call Action Requester :=
  kiosk.requestCheckIn env.toLibraries 1000 (bytes "Jane") (bytes "Q") (bytes "Doe") idData

/-- The ID service sends a line that is not JSON: nothing catches it. -/
theorem garbage_ends_the_client :
    ¬ ∀ (lib : Libraries) (s₀ : Requester) (tr : List (Event × List Action)), Begins lib s₀ →
      Lifetime (next lib) (crash lib) s₀ tr → AnsweredOnce lib s₀ tr := by
  intro hall
  have hthrough : goesThrough janeDoe [.written] (fun r =>
      (crash env.toLibraries r.2 ⟨atTime, .read (bytes "oops\n")⟩).isSome) = true := by
    decide +kernel
  obtain ⟨s₀, acts, tr, s, hcall, hrun, hsome⟩ := exists_of_goesThrough hthrough
  obtain ⟨acts', hcrash⟩ := Option.isSome_iff_exists.mp hsome
  obtain ⟨m, hfull, -⟩ := (hall _ s₀ _ (.checkIn hcall) (.ended hrun hcrash)).alive
  obtain ⟨m', hpre, hnext⟩ := hfull.last
  obtain rfl := hrun.deterministic hpre
  obtain ⟨trap, hthrew⟩ := step_of_crash hcrash
  rw [step_of_next hnext] at hthrew
  cases hthrew

/-- The ID service's answer to the kiosk. -/
def idAnswer : Bytes :=
  let presented := idRequest 1000 idData
  let signed := signatureOf idServiceKey
    (env.render (idStatement env.toCodec presented voter))
  env.render ((⟨presented, voter, signed⟩ : VerifiedVoterID).toJson env.toCodec)

/-- The check-in service's approval. -/
def approval : Bytes :=
  let body : CheckinResponse.Body :=
    ⟨true, kioskId, 1000, bytes "Doe", bytes "Jane", bytes "Q", voter, ticket 7⟩
  let signed := signatureOf config.localPrivateKey (env.render body.toJson)
  env.render ((⟨body, signed⟩ : CheckinResponse).toJson env.toCodec)

/-- A check-in that is answered with a ticket. -/
theorem requests_are_answered_rehearsal :
    ∃ s₀ tr s, Begins env.toLibraries s₀ ∧ Run (next env.toLibraries) s₀ tr s ∧
      s.operation = none ∧ valuesOf tr = [(true, [])] ∧
      (AnsweredOnce env.toLibraries s₀ tr ↔
        Throughout (next env.toLibraries) (Survivable env.toLibraries) s₀ tr) := by
  have hthrough : goesThrough janeDoe
      [.written, .read (idAnswer ++ [newline]), .written, .read (frame approval), .read []]
      (fun r => decide (r.2.operation = none) && decide (valuesOf r.1 = [(true, [])])) = true := by
    decide +kernel
  obtain ⟨s₀, acts, tr, s, hcall, hrun, htest⟩ := exists_of_goesThrough hthrough
  simp only [Bool.and_eq_true, decide_eq_true_eq] at htest
  exact ⟨s₀, tr, s, .checkIn hcall, hrun, htest.1, htest.2,
    requests_are_answered (.checkIn hcall) (.alive hrun)⟩

end Rehearsal

end PollbookClient

end Pollbook
