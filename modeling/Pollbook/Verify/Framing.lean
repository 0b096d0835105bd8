import Pollbook.Client.Handlers
import Pollbook.Lib.Framing
import Pollbook.Verify.Authorisation
import Pollbook.Verify.Pinning
import Pollbook.Verify.Survival

/-!
# Frames and the read loops

A message goes over a connection as a frame, and the check-in service reads it
in two handlers that share a buffer with the bytes of the next ones. What the
loop does is a move of a reader of frames (`Step.move`), so it hands over the
messages a client sends one by one and in order, however the bytes are cut. The
loop is kept going by the handler of the message, which ends the process if it
cannot deal with it (`framing_is_lossless`).
-/

namespace Pollbook

/-! ## The format -/

/-- The frames of the programs: a length in decimal, as `stoul` reads it. -/
def wireFormat : Framing.Format UInt8 where
  stop := newline
  limit := 2 ^ 64
  write := decimal
  read line := (stoul line).toOption.map (·.toNat)
  stop_notMem_write := newline_not_mem_decimal
  read_write := by
    intro n hn
    have hread : stoul (decimal n ++ [newline]) = .ok (UInt64.ofNat n) := by
      refine stoul_decimal hn _ ?_
      rintro b ⟨⟩
      decide
    rw [hread]
    exact congrArg some (UInt64.toNat_ofNat_of_lt hn)

/-- The client writes its messages as such frames. -/
theorem frame_eq (message : Bytes) : PollbookClient.frame message = wireFormat.frame message := rfl

def PendingRead.awaited : PendingRead → Framing.Awaited
  | .size => .size
  | .payload sizeOfMessage => .payload sizeOfMessage.toNat

/-! ## What an endpoint sees -/

/-- A message handed to `handle_checkin_request`. -/
def Action.handed (clientIp : Endpoint) : Action → Option Bytes
  | .dispatched ip _ .untrustedClient msgString => if ip = clientIp then some msgString else none
  | _ => none

/-- A check-in request that is answered. -/
def Action.answered (clientIp : Endpoint) : Action → Option CheckinRequest
  | .checkinAnswer ip request _ => if ip = clientIp then some request else none
  | _ => none

theorem Action.handed_self {clientIp : Endpoint} {clientId : UInt32} {msgString : Bytes} :
    (dispatched clientIp clientId .untrustedClient msgString).handed clientIp = some msgString :=
  if_pos rfl

theorem Action.answered_self {clientIp : Endpoint} {request : CheckinRequest}
    {response : CheckinResponse} :
    (checkinAnswer clientIp request response).answered clientIp = some request := if_pos rfl

/-- The messages of an endpoint handed over in a trace. -/
def handed (clientIp : Endpoint) (tr : List (Event × List Action)) : List Bytes :=
  tr.flatMap fun x => x.2.filterMap (·.handed clientIp)

/-- The requests of an endpoint answered in a trace. -/
def answered (clientIp : Endpoint) (tr : List (Event × List Action)) : List CheckinRequest :=
  tr.flatMap fun x => x.2.filterMap (·.answered clientIp)

/-- The bytes of an endpoint that came in in a trace. -/
def received (clientIp : Endpoint) (tr : List (Event × List Action)) : Bytes :=
  tr.flatMap fun x => x.1.occurrence.arrived clientIp

theorem handed_snoc (clientIp : Endpoint) (tr : List (Event × List Action))
    (x : Event × List Action) :
    handed clientIp (tr ++ [x]) = handed clientIp tr ++ x.2.filterMap (·.handed clientIp) := by
  rw [handed, List.flatMap_append, List.flatMap_singleton]
  rfl

theorem answered_snoc (clientIp : Endpoint) (tr : List (Event × List Action))
    (x : Event × List Action) :
    answered clientIp (tr ++ [x]) =
      answered clientIp tr ++ x.2.filterMap (·.answered clientIp) := by
  rw [answered, List.flatMap_append, List.flatMap_singleton]
  rfl

theorem received_append (clientIp : Endpoint) (tr tr' : List (Event × List Action)) :
    received clientIp (tr ++ tr') = received clientIp tr ++ received clientIp tr' :=
  List.flatMap_append

theorem received_snoc (clientIp : Endpoint) (tr : List (Event × List Action))
    (x : Event × List Action) :
    received clientIp (tr ++ [x]) =
      received clientIp tr ++ x.1.occurrence.arrived clientIp := by
  rw [received, List.flatMap_append, List.flatMap_singleton]
  rfl

namespace CheckinService

variable {env : Env} {io : Io} {s s' : CheckinService} {clientIp : Endpoint}
  {acts : List Action} {occurrence : Occurrence}

/-- The text is that of a check-in request. -/
def Decodes (env : Env) (line : Bytes) (request : CheckinRequest) : Prop :=
  ∃ json, env.parse line = .ok json ∧ CheckinRequest.fromJson env.toCodec json = .ok request

theorem Decodes.unique {line : Bytes} {request request' : CheckinRequest}
    (h : Decodes env line request) (h' : Decodes env line request') : request = request' := by
  obtain ⟨json, hparse, hrequest⟩ := h
  obtain ⟨json', hparse', hrequest'⟩ := h'
  rw [hparse, Except.ok.injEq] at hparse'
  subst hparse'
  rw [hrequest, Except.ok.injEq] at hrequest'
  exact hrequest'

/-- The read loop of an endpoint, as a reader of frames. -/
def reader (s : CheckinService) (clientIp : Endpoint) : Framing.Reader UInt8 where
  awaited := (s.reads clientIp).map PendingRead.awaited
  unread := s.unread clientIp

/-! ## Steps elsewhere -/

/-- Nothing is handed over or answered at the endpoint. -/
def SilentAt (clientIp : Endpoint) (acts : List Action) : Prop :=
  ∀ a ∈ acts, a.handed clientIp = none ∧ a.answered clientIp = none

theorem SilentAt.handed (h : SilentAt clientIp acts) :
    acts.filterMap (·.handed clientIp) = [] :=
  List.filterMap_eq_nil_iff.mpr fun a ha => (h a ha).1

theorem SilentAt.answered (h : SilentAt clientIp acts) :
    acts.filterMap (·.answered clientIp) = [] :=
  List.filterMap_eq_nil_iff.mpr fun a ha => (h a ha).2

theorem SilentAt.nil : SilentAt clientIp [] := fun _ ha => absurd ha List.not_mem_nil

theorem SilentAt.append {acts' : List Action} (h : SilentAt clientIp acts)
    (h' : SilentAt clientIp acts') : SilentAt clientIp (acts ++ acts') := by
  intro a ha
  exact (List.mem_append.mp ha).elim (h a) (h' a)

theorem SilentAt.cons {a : Action} (ha : a.handed clientIp = none ∧ a.answered clientIp = none)
    (h : SilentAt clientIp acts) : SilentAt clientIp (a :: acts) := by
  intro b hb
  rcases List.mem_cons.mp hb with rfl | hb
  · exact ha
  · exact h b hb

theorem Checks.silentAt {ip : Endpoint} (h : s.Checks ip acts) (clientIp : Endpoint) :
    SilentAt clientIp acts := by
  intro a ha
  rcases h a ha with ⟨key, message, signature, rfl⟩ | ⟨id, faultDesc, rfl, -⟩
  · exact ⟨rfl, rfl⟩
  · exact ⟨rfl, rfl⟩

theorem TicketOutcome.silentAt {ip : Endpoint} {request : TicketRequest}
    (h : TicketOutcome env io s ip request s' acts) (clientIp : Endpoint) :
    SilentAt clientIp acts := by
  cases h with
  | refused _ hchecks => exact hchecks.silentAt clientIp
  | denied _ hchecks hfaults =>
    exact (hchecks.silentAt clientIp).append (.cons ⟨rfl, rfl⟩ (hfaults.silentAt clientIp))
  | approved _ hchecks _ _ _ =>
    exact (hchecks.silentAt clientIp).append (.cons ⟨rfl, rfl⟩ .nil)

theorem CheckinOutcome.silentAt {ip : Endpoint} {request : CheckinRequest}
    (h : CheckinOutcome env io s ip request s' acts) (hip : ip ≠ clientIp) :
    SilentAt clientIp acts := by
  have hanswer (response : CheckinResponse) :
      SilentAt clientIp [.checkinAnswer ip request response] :=
    .cons ⟨rfl, if_neg hip⟩ .nil
  cases h with
  | unanswered _ => exact .nil
  | denied _ hchecks | accepted _ hchecks _ _ _ _ _ =>
    exact (hchecks.silentAt clientIp).append (hanswer _)

/-- A message that is not handed over at the endpoint. -/
theorem dispatched_silentAt {ip : Endpoint} {clientId : UInt32} {type : ClientType}
    {msgString : Bytes} (h : ip ≠ clientIp ∨ type = .trustedClient) :
    (Action.dispatched ip clientId type msgString).handed clientIp = none ∧
      (Action.dispatched ip clientId type msgString).answered clientIp = none := by
  refine ⟨?_, rfl⟩
  cases type with
  | trustedClient => rfl
  | untrustedClient =>
    rcases h with hip | htype
    · exact if_neg hip
    · cases htype

theorem faults_silentAt {clientId : UInt32} (h : ∀ a ∈ acts, ∃ faultDesc,
    a = .reportFault clientId faultDesc) : SilentAt clientIp acts := by
  intro a ha
  obtain ⟨faultDesc, rfl⟩ := h a ha
  exact ⟨rfl, rfl⟩

/-- Only a line of the endpoint leads to something there. -/
theorem Step.silentAt (h : Step env io s occurrence s' acts)
    (hline : occurrence ≠ .lineRead clientIp) : SilentAt clientIp acts := by
  have hother {ip : Endpoint} (hne : Occurrence.lineRead ip ≠ .lineRead clientIp) :
      ip ≠ clientIp := by
    rintro rfl
    exact hne rfl
  cases h with
  | certified _ _ _ _ hacts => exact faults_silentAt hacts
  | handshakeFailed | mismatch | payloadLost | unknownIp | unknownId =>
    exact .cons ⟨rfl, rfl⟩ .nil
  | undecoded _ _ _ htype hchecks =>
    exact .cons (dispatched_silentAt (.inr htype)) (hchecks.silentAt clientIp)
  | ticketRequest _ _ _ htype _ _ houtcome =>
    exact .cons (dispatched_silentAt (.inr htype)) (houtcome.silentAt clientIp)
  | checkinRequest _ _ _ _ _ _ houtcome =>
    exact .cons (dispatched_silentAt (.inl (hother hline))) (houtcome.silentAt (hother hline))
  | _ => exact .nil

/-- The endpoint whose read loop an event is part of. -/
def loopOf : Occurrence → Option Endpoint
  | .handshakeDone clientIp _ | .received clientIp _ | .lineRead clientIp
  | .readFailed clientIp _ => some clientIp
  | _ => none

section Elsewhere

variable {ip : Endpoint}

theorem reader_congr (hreads : s'.reads clientIp = s.reads clientIp)
    (hbuffers : s'.clientBuffers clientIp = s.clientBuffers clientIp) :
    s'.reader clientIp = s.reader clientIp := by
  unfold reader unread
  rw [hreads, hbuffers]

theorem reader_finishRead (h : ip ≠ clientIp) (s : CheckinService) :
    (s.finishRead ip).reader clientIp = s.reader clientIp :=
  reader_congr (Map.erase_of_ne _ h.symm) rfl

theorem reader_consume (h : ip ≠ clientIp) (s : CheckinService) (n : Nat) :
    (s.consume ip n).reader clientIp = s.reader clientIp :=
  reader_congr rfl (Map.set_of_ne _ h.symm _)

theorem reader_takeLine (h : ip ≠ clientIp) (s : CheckinService) :
    (s.takeLine ip).reader clientIp = s.reader clientIp :=
  (reader_consume h _ _).trans (reader_finishRead h s)

theorem reader_startSizeRead (h : ip ≠ clientIp) (s : CheckinService) :
    (s.startSizeRead ip).reader clientIp = s.reader clientIp :=
  reader_congr (Map.set_of_ne _ h.symm _) (Map.emplace_of_ne _ h.symm _)

theorem reader_startPayloadRead (h : ip ≠ clientIp) (s : CheckinService) (n : UInt64) :
    (s.startPayloadRead ip n).reader clientIp = s.reader clientIp :=
  reader_congr (Map.set_of_ne _ h.symm _) (Map.emplace_of_ne _ h.symm _)

theorem TicketOutcome.reader {request : TicketRequest}
    (h : TicketOutcome env io s ip request s' acts) : s'.reader clientIp = s.reader clientIp := by
  cases h with
  | refused | denied | approved => rfl

theorem CheckinOutcome.reader {request : CheckinRequest}
    (h : CheckinOutcome env io s ip request s' acts) (hip : ip ≠ clientIp) :
    s'.reader clientIp = s.reader clientIp := by
  cases h with
  | unanswered _ => rfl
  | denied _ _ | accepted _ _ _ _ _ _ _ => exact reader_startSizeRead hip _

/-- The other endpoints' events leave a read loop alone. -/
theorem Step.reader (h : Step env io s occurrence s' acts)
    (hloop : loopOf occurrence ≠ some clientIp) : s'.reader clientIp = s.reader clientIp := by
  have hother {ip : Endpoint} (hne : some ip ≠ some clientIp) : ip ≠ clientIp := by
    rintro rfl
    exact hne rfl
  cases h with
  | uncertified | certified => exact reader_startSizeRead (hother hloop) _
  | received => exact reader_congr rfl (Map.set_of_ne _ (hother hloop).symm _)
  | sizeRead =>
    exact (reader_startPayloadRead (hother hloop) _ _).trans (reader_takeLine (hother hloop) _)
  | mismatch | disconnected | payloadLost => exact reader_finishRead (hother hloop) _
  | unknownIp | unknownId | undecoded => exact reader_takeLine (hother hloop) _
  | ticketRequest _ _ _ _ _ _ houtcome =>
    exact houtcome.reader.trans (reader_takeLine (hother hloop) _)
  | checkinRequest _ _ _ _ _ _ houtcome =>
    exact (houtcome.reader (hother hloop)).trans (reader_takeLine (hother hloop) _)
  | _ => rfl

end Elsewhere

/-! ## The lines of the endpoint -/

/-- The endpoint belongs to an untrusted client. -/
structure Serves (s : CheckinService) (clientIp : Endpoint) (clientId : UInt32) : Prop where
  id : s.clientIdMap clientIp = some clientId
  client : ∃ client, s.clients clientId = some client ∧ client.type = .untrustedClient

variable {clientId : UInt32} {n : UInt64}

/-- A message of the announced size goes to the handler for untrusted clients. -/
theorem handle_message (hserves : s.Serves clientIp clientId) (harrived : s.Arrived clientIp n) :
    handle env io s (.lineRead clientIp) =
      some (((s.deliver clientIp clientId).handleUntrustedClient env io (s.line clientIp)
        clientIp).after [.dispatched clientIp clientId .untrustedClient (s.line clientIp)]) := by
  obtain ⟨hid, client, hclient, htype⟩ := hserves
  have hcomplete : newline ∈ s.unread clientIp := harrived.complete
  simp only [handle, harrived.outstanding, if_pos hcomplete]
  have hsize : n.toNat = (firstLine (s.unread clientIp)).length - 1 := harrived.size
  have hid' : ((s.finishRead clientIp).consume clientIp
      (firstLine (s.unread clientIp)).length).clientIdMap clientIp = some clientId := hid
  rw [payloadRead, if_pos hsize, dispatch, hid']
  dsimp only
  have hclient' : { (s.finishRead clientIp).consume clientIp
      (firstLine (s.unread clientIp)).length with clientId := clientId }.clients clientId =
        some client := hclient
  rw [hclient']
  dsimp only
  rw [Call.perform_eq, Call.returned_bind, htype]
  rfl

/-- Without a word only a request of the own client is left. -/
theorem own_of_unanswered {request : CheckinRequest}
    (h : s.handleCheckinRequest env io clientIp request = .returned s' []) :
    request.body.clientIdNum = (s.clientIdMap clientIp).getD 0 := by
  by_contra hid
  have hbeq : (request.body.clientIdNum == (s.clientIdMap clientIp).getD 0) = false := by
    simpa using hid
  unfold handleCheckinRequest at h
  simp only [hbeq, Bool.not_false, if_true, Call.bind_eq_returned, Call.perform_eq_returned] at h
  obtain ⟨_, _, _, rfl, -, hacts⟩ := h
  cases hacts

theorem Checks.handed_answer {checks : List Action} {request : CheckinRequest}
    (h : s.Checks clientIp checks) (response : CheckinResponse) :
    (checks ++ [Action.checkinAnswer clientIp request response]).filterMap
      (·.handed clientIp) = [] := by
  rw [List.filterMap_append, (h.silentAt clientIp).handed]
  rfl

theorem Checks.answered_answer {checks : List Action} {request : CheckinRequest}
    (h : s.Checks clientIp checks) (response : CheckinResponse) :
    (checks ++ [Action.checkinAnswer clientIp request response]).filterMap
      (·.answered clientIp) = [request] := by
  rw [List.filterMap_append, (h.silentAt clientIp).answered, List.nil_append,
    List.filterMap_cons_some Action.answered_self, List.filterMap_nil]

/-- A check-in request that is handled is answered, and the next one can come. -/
theorem handleCheckinRequest_answers {request : CheckinRequest}
    (hkey : (s.clientVerifiers ((s.clientIdMap clientIp).getD 0)).isSome = true)
    (h : s.handleCheckinRequest env io clientIp request = .returned s' acts) :
    acts.filterMap (·.handed clientIp) = [] ∧
      acts.filterMap (·.answered clientIp) = [request] ∧
      s'.reader clientIp = ⟨some .size, s.unread clientIp⟩ := by
  have hreader (m : CheckinService) (hunread : m.unread clientIp = s.unread clientIp) :
      (m.startSizeRead clientIp).reader clientIp = ⟨some .size, s.unread clientIp⟩ := by
    have hreads : (m.startSizeRead clientIp).reads clientIp = some .size := Map.set_self ..
    unfold reader
    rw [hreads, unread_startSizeRead, hunread]
    rfl
  have houtcome := handleCheckinRequest_returned h
  cases houtcome with
  | unanswered hnone =>
    rw [← own_of_unanswered h] at hkey
    rw [ensureVerifier_of_bound hkey rfl] at hnone
    cases hnone
  | denied _ hchecks =>
    exact ⟨hchecks.handed_answer _, hchecks.answered_answer _, hreader _ rfl⟩
  | accepted _ hchecks =>
    exact ⟨hchecks.handed_answer _, hchecks.answered_answer _, hreader _ rfl⟩

/-- The handler of a message, when it returns. -/
theorem message_returned (hserves : s.Serves clientIp clientId) (harrived : s.Arrived clientIp n)
    (hkey : (s.clientVerifiers clientId).isSome = true)
    (h : handle env io s (.lineRead clientIp) = some (.returned s' acts)) :
    ∃ request, Decodes env (s.line clientIp) request ∧
      acts.filterMap (·.handed clientIp) = [s.line clientIp] ∧
      acts.filterMap (·.answered clientIp) = [request] ∧
      s'.reader clientIp = ⟨some .size, Framing.behind newline (s.unread clientIp)⟩ := by
  rw [handle_message hserves harrived, Option.some.injEq, Call.after_eq_returned] at h
  obtain ⟨acts, hreturned, rfl⟩ := h
  unfold handleUntrustedClient at hreturned
  simp only [Call.bind_eq_returned, Call.ofCpp_eq_returned] at hreturned
  obtain ⟨json, _, _, ⟨hjson, rfl⟩, ⟨request, _, _, ⟨hrequest, rfl⟩, hhandled, rfl⟩, rfl⟩ :=
    hreturned
  split at hjson
  · cases hjson
    exact absurd hrequest (CheckinRequest.fromJson_null _ _)
  · have hkey' : ((s.deliver clientIp clientId).clientVerifiers
        (((s.deliver clientIp clientId).clientIdMap clientIp).getD 0)).isSome = true := by
      have hid : (s.deliver clientIp clientId).clientIdMap clientIp = some clientId := hserves.id
      rw [hid]
      exact hkey
    obtain ⟨hhanded, hanswered, hreader⟩ := handleCheckinRequest_answers hkey' hhandled
    refine ⟨request, ⟨json, hjson, hrequest⟩, ?_, ?_, ?_⟩
    · rw [List.singleton_append, List.filterMap_cons_some Action.handed_self]
      exact congrArg (List.cons _) hhanded
    · rw [List.singleton_append, List.filterMap_cons_none rfl]
      exact hanswered
    · rw [hreader]
      have hunread : (s.deliver clientIp clientId).unread clientIp =
          Framing.behind newline (s.unread clientIp) := by
        change (Map.set _ _ _ _).getD [] = _
        rw [Map.set_self, Option.getD_some]
        rfl
      rw [hunread]

/-! ## The loop as a reader -/

/-- The connection of the endpoint goes on, and what is written to it arrives. -/
structure Goes (clientIp : Endpoint) (e : Event) : Prop where
  stays : ∀ certificate, e.occurrence ≠ .handshakeDone clientIp certificate
  up : ∀ error, e.occurrence ≠ .readFailed clientIp error
  writes : e.occurrence = .lineRead clientIp → e.io.writes = true

theorem reader_receive (s : CheckinService) (ip : Endpoint) (bytes : Bytes) :
    { s with clientBuffers := s.clientBuffers.set ip (s.unread ip ++ bytes) }.reader ip =
      ⟨(s.reader ip).awaited, (s.reader ip).unread ++ bytes⟩ := by
  change Framing.Reader.mk _ ((Map.set _ _ _ _).getD []) = _
  rw [Map.set_self, Option.getD_some]
  rfl

/-- What happens between two lines of the endpoint. -/
theorem Step.move (h : Step env io s occurrence s' acts)
    (hstays : ∀ certificate, occurrence ≠ .handshakeDone clientIp certificate)
    (hup : ∀ error, occurrence ≠ .readFailed clientIp error)
    (hline : occurrence ≠ .lineRead clientIp) :
    Framing.Move wireFormat (s.reader clientIp) (occurrence.arrived clientIp) []
      (s'.reader clientIp) := by
  by_cases hloop : loopOf occurrence = some clientIp
  · cases occurrence with
    | received ip bytes =>
      obtain rfl : ip = clientIp := Option.some.inj hloop
      cases h with
      | @received _ read _ houtstanding _ =>
      have harrived : (Occurrence.received ip bytes).arrived ip = bytes := if_pos rfl
      have hawaited : (s.reader ip).awaited = some read.awaited := by
        unfold CheckinService.reader
        rw [houtstanding, Option.map_some]
      rw [harrived, reader_receive]
      exact .arrived hawaited bytes
    | handshakeDone ip certificate =>
      obtain rfl : ip = clientIp := Option.some.inj hloop
      exact absurd rfl (hstays certificate)
    | readFailed ip error =>
      obtain rfl : ip = clientIp := Option.some.inj hloop
      exact absurd rfl (hup error)
    | lineRead ip =>
      obtain rfl : ip = clientIp := Option.some.inj hloop
      exact absurd rfl hline
    | _ => cases hloop
  · have hnone : occurrence.arrived clientIp = [] := by
      cases occurrence with
      | received ip bytes =>
        refine if_neg ?_
        rintro rfl
        exact hloop rfl
      | _ => rfl
    rw [h.reader hloop, hnone]
    exact .still

/-- What a line of the endpoint does. -/
theorem line_move (hserves : s.Serves clientIp clientId)
    (hkey : (s.clientVerifiers clientId).isSome = true)
    (h : handle env io s (.lineRead clientIp) = some (.returned s' acts)) :
    Framing.Move wireFormat (s.reader clientIp) [] (acts.filterMap (·.handed clientIp))
      (s'.reader clientIp) ∧
    List.Forall₂ (Decodes env) (acts.filterMap (·.handed clientIp))
      (acts.filterMap (·.answered clientIp)) := by
  have hawaited {read : PendingRead} (hread : s.reads clientIp = some read) :
      (s.reader clientIp).awaited = some read.awaited := by
    unfold reader
    rw [hread, Option.map_some]
  have hbehind : (s.takeLine clientIp).unread clientIp =
      Framing.behind newline (s.unread clientIp) := by
    change (Map.set _ _ _ _).getD [] = _
    rw [Map.set_self, Option.getD_some]
    rfl
  cases handle_step h with
  | @sizeRead _ size hread hsize =>
    have hreader : ((s.takeLine clientIp).startPayloadRead clientIp size).reader clientIp =
        ⟨some (.payload size.toNat), Framing.behind newline (s.unread clientIp)⟩ := by
      have hreads : ((s.takeLine clientIp).startPayloadRead clientIp size).reads clientIp =
          some (.payload size) := Map.set_self ..
      unfold reader
      rw [hreads, unread_startPayloadRead, hbehind]
      rfl
    have hline : wireFormat.read (Framing.line newline (s.unread clientIp)) = some size.toNat := by
      have hsize' : stoul (Framing.line newline (s.unread clientIp)) = .ok size := hsize
      change (stoul _).toOption.map _ = _
      rw [hsize']
      rfl
    rw [hreader]
    exact ⟨.sized (hawaited hread.outstanding) hread.complete hline, .nil⟩
  | @mismatch _ size hread hsize =>
    have hreader : (s.finishRead clientIp).reader clientIp = ⟨none, s.unread clientIp⟩ := by
      have hreads : (s.finishRead clientIp).reads clientIp = none := Map.erase_self ..
      unfold reader
      rw [hreads]
      rfl
    rw [hreader]
    exact ⟨.refused (hawaited hread.outstanding) hread.complete hsize, .nil⟩
  | unknownIp _ hid =>
    rw [hserves.id] at hid
    cases hid
  | unknownId _ hid hclient =>
    obtain ⟨client, hknown, -⟩ := hserves.client
    rw [hserves.id, Option.some.injEq] at hid
    subst hid
    rw [hknown] at hclient
    cases hclient
  | undecoded _ hid hclient htype | ticketRequest _ hid hclient htype =>
    obtain ⟨client, hknown, huntrusted⟩ := hserves.client
    rw [hserves.id, Option.some.injEq] at hid
    subst hid
    rw [hknown, Option.some.injEq] at hclient
    subst hclient
    rw [huntrusted] at htype
    cases htype
  | checkinRequest harrived =>
    obtain ⟨request, hdecodes, hhanded, hanswered, hreader⟩ :=
      message_returned hserves harrived hkey h
    rw [hhanded, hanswered, hreader]
    refine ⟨.handed ⟨?_, harrived.complete, rfl⟩, .cons hdecodes .nil⟩
    rw [hawaited harrived.outstanding, PendingRead.awaited, harrived.size]
    rfl

/-- An exception from the handler of a message comes after it was handed over and
before it was answered. -/
theorem message_threw {trap : Trap} (hserves : s.Serves clientIp clientId)
    (harrived : s.Arrived clientIp n)
    (h : handle env io s (.lineRead clientIp) = some (.threw trap acts)) :
    acts.filterMap (·.handed clientIp) = [s.line clientIp] ∧
      acts.filterMap (·.answered clientIp) = [] := by
  rw [handle_message hserves harrived, Option.some.injEq] at h
  cases hcall : (s.deliver clientIp clientId).handleUntrustedClient env io (s.line clientIp)
      clientIp with
  | returned m checks =>
    rw [hcall] at h
    cases h
  | threw trap' checks =>
    have hsilent := (handleUntrustedClient_threw hcall).silentAt clientIp
    rw [hcall] at h
    obtain ⟨-, rfl⟩ := Call.threw.inj h
    constructor
    · rw [List.singleton_append, List.filterMap_cons_some Action.handed_self, hsilent.handed]
    · rw [List.singleton_append, List.filterMap_cons_none rfl, hsilent.answered]

/-! ## Runs -/

theorem next_handle {e : Event} (h : next env s e = some (s', acts)) :
    ∃ m, handle env e.io (s.atTime e.io.steadyNow) e.occurrence = some (.returned m acts) ∧
      s' = m.charge acts := by
  unfold next at h
  split at h
  · next m acts' hstep =>
    simp only [Option.some.injEq, Prod.mk.injEq] at h
    obtain ⟨rfl, rfl⟩ := h
    unfold step at hstep
    split at hstep
    · exact ⟨m, hstep, rfl⟩
    · cases hstep
  · cases h

theorem next_of_handle {e : Event} (hclock : s.steadyNow ≤ e.io.steadyNow)
    (h : handle env e.io (s.atTime e.io.steadyNow) e.occurrence = some (.returned s' acts)) :
    next env s e = some (s'.charge acts, acts) := by
  have hstep : step env s e = some (.returned s' acts) := by
    unfold step
    rw [if_pos hclock]
    exact h
  unfold next
  rw [hstep]

theorem crash_handle {e : Event} (h : crash env s e = some acts) :
    ∃ trap, handle env e.io (s.atTime e.io.steadyNow) e.occurrence = some (.threw trap acts) := by
  unfold crash at h
  split at h
  · next trap acts' hstep =>
    rw [Option.some.injEq] at h
    subst h
    unfold step at hstep
    split at hstep
    · exact ⟨trap, hstep⟩
    · cases hstep
  · cases h

/-- A step at which the process ends has no next state. -/
theorem not_next_of_crash {e : Event} {acts' : List Action} (h : crash env s e = some acts) :
    next env s e ≠ some (s', acts') := by
  intro hnext
  obtain ⟨trap, hthrew⟩ := crash_handle h
  obtain ⟨m, hreturned, -⟩ := next_handle hnext
  rw [hthrew] at hreturned
  cases hreturned

theorem next_serves {e : Event} (h : next env s e = some (s', acts))
    (hserves : s.Serves clientIp clientId)
    (hstays : ∀ certificate, e.occurrence ≠ .handshakeDone clientIp certificate) :
    s'.Serves clientIp clientId := by
  obtain ⟨-, m, hstep, rfl⟩ := next_step h
  obtain ⟨hid, client, hclient, htype⟩ := hserves
  constructor
  · change m.clientIdMap clientIp = some clientId
    rcases hstep.clientIdMap with ⟨ip, cert, clientId', hocc, -, hmap⟩ | ⟨-, hmap⟩
    · have hip : clientIp ≠ ip := by
        rintro rfl
        exact hstays _ hocc
      rw [hmap, Map.set_of_ne _ hip]
      exact hid
    · rw [hmap]
      exact hid
  · refine ⟨client, ?_, htype⟩
    exact hstep.clients_eq_some hclient

/-- A step of the process is a move of the reader of the endpoint, and what is
handed over is answered. -/
theorem next_move {e : Event} (h : next env s e = some (s', acts))
    (hserves : s.Serves clientIp clientId)
    (hkey : (s.clientVerifiers clientId).isSome = true) (hgoes : Goes clientIp e) :
    Framing.Move wireFormat (s.reader clientIp) (e.occurrence.arrived clientIp)
      (acts.filterMap (·.handed clientIp)) (s'.reader clientIp) ∧
    List.Forall₂ (Decodes env) (acts.filterMap (·.handed clientIp))
      (acts.filterMap (·.answered clientIp)) := by
  obtain ⟨m, hhandle, rfl⟩ := next_handle h
  have hserves' : (s.atTime e.io.steadyNow).Serves clientIp clientId :=
    ⟨hserves.id, hserves.client⟩
  by_cases hline : e.occurrence = .lineRead clientIp
  · rw [hline] at hhandle ⊢
    have hmove := line_move hserves' hkey hhandle
    exact hmove
  · have hstep := handle_step hhandle
    have hsilent := hstep.silentAt hline
    rw [hsilent.handed, hsilent.answered]
    exact ⟨hstep.move hgoes.stays hgoes.up hline, .nil⟩

section Runs

variable {found : Found} {s₀ s₁ m : CheckinService} {past tr : List (Event × List Action)}
  {texts : List Bytes} {tail ahead : Bytes} {client : ClientInfo}

/-- A handshake with a certificate on a new endpoint begins a read loop. -/
theorem begins_of_handshake {e : Event} {cert : Certificate}
    (hfresh : m.clientBuffers clientIp = none)
    (hocc : e.occurrence = .handshakeDone clientIp (some cert))
    (hshake : next env m e = some (s₁, acts)) (hid : getClientIdFromCert cert = .ok clientId)
    (hclient : s₁.clients clientId = some client) (htype : client.type = .untrustedClient) :
    s₁.Serves clientIp clientId ∧ s₁.reader clientIp = ⟨some .size, []⟩ := by
  obtain ⟨-, s', hstep, rfl⟩ := next_step hshake
  rw [hocc] at hstep
  cases hstep with
  | @certified _ _ clientId' k clients _ _ hid' _ _ _ =>
  rw [hid, Except.ok.injEq] at hid'
  subst hid'
  refine ⟨⟨Map.set_self .., client, hclient, htype⟩, ?_⟩
  have hunread : m.unread clientIp = [] := by
    unfold CheckinService.unread
    rw [hfresh]
    rfl
  have hopened (o : CheckinService) :
      (o.openSession clientIp).reader clientIp = ⟨some .size, o.unread clientIp⟩ := by
    have hreads : (o.openSession clientIp).reads clientIp = some .size := Map.set_self ..
    unfold reader
    rw [hreads, unread_openSession]
    rfl
  have hreader := hopened ((m.atTime e.io.steadyNow).admitAs clientIp clientId k clients)
  exact hreader.trans (congrArg (Framing.Reader.mk _) hunread)

/-- Where the read loop is after some steps, and what it has done. -/
theorem position_of_run (hkeys : ∀ tr m, Run (next env) s₁ tr m →
      ∀ id, (m.clients id).isSome = true → (m.clientVerifiers id).isSome = true)
    (hserves : s₁.Serves clientIp clientId) (hreader : s₁.reader clientIp = ⟨some .size, []⟩)
    (hfits : ∀ text ∈ texts, wireFormat.Fits text) (htail : Framing.Garbled wireFormat tail)
    (hrun : Run (next env) s₁ tr s) (hgoes : ∀ x ∈ tr, Goes clientIp x.1)
    (hstream : received clientIp tr ++ ahead = wireFormat.frames texts ++ tail) :
    s.Serves clientIp clientId ∧
    List.Forall₂ (Decodes env) (handed clientIp tr) (answered clientIp tr) ∧
    ∃ done todo, texts = done ++ todo ∧ handed clientIp tr = done.map (· ++ [newline]) ∧
      Framing.Position wireFormat tail todo ahead (s.reader clientIp) := by
  induction hrun generalizing ahead with
  | nil =>
    refine ⟨hserves, .nil, [], texts, rfl, rfl, ?_⟩
    have hahead : ahead = wireFormat.frames texts ++ tail := hstream
    rw [hahead, hreader]
    exact .start wireFormat tail texts
  | @snoc tr m m' e o hrun hnext ih =>
    rw [received_snoc, List.append_assoc] at hstream
    obtain ⟨hserves', hanswered, done, todo, rfl, hhanded, hposition⟩ :=
      ih (fun x hx => hgoes x (List.mem_append_left _ hx)) hstream
    have hgo : Goes clientIp e := hgoes (e, o) (List.mem_append_right _ List.mem_cons_self)
    have hknown : (m.clients clientId).isSome = true := by
      obtain ⟨client, hclient, -⟩ := hserves'.client
      rw [hclient]
      rfl
    obtain ⟨hmove, hpairs⟩ := next_move hnext hserves' (hkeys tr m hrun clientId hknown) hgo
    obtain ⟨more, rest, rfl, hmore, hposition'⟩ := hposition.move
      (fun text ht => hfits text (List.mem_append_right _ ht)) htail hmove
    refine ⟨next_serves hnext hserves' hgo.stays, ?_, done ++ more, rest, ?_, ?_, hposition'⟩
    · rw [handed_snoc, answered_snoc]
      exact List.rel_append hanswered hpairs
    · rw [List.append_assoc]
    · rw [handed_snoc, hhanded, List.map_append]
      exact congrArg _ hmore

/-- The handler of the message of a line can deal with it. -/
def Answers (env : Env) (clientIp : Endpoint) (s : CheckinService) (e : Event) : Prop :=
  e.occurrence = .lineRead clientIp →
    ∀ n clientId request, s.reads clientIp = some (.payload n) →
      n.toNat = (s.line clientIp).length - 1 → s.clientIdMap clientIp = some clientId →
      Decodes env (s.line clientIp) request →
        CheckinSurvives env e.io s.toSessions s.toKeys clientId request

/-- The texts are handed over in order and each is answered; while there are
some left, the loop waits for a line, and has one as soon as they have come in. -/
structure Lossless (env : Env) (clientIp : Endpoint) (s₁ : CheckinService) (texts : List Bytes)
    (tr : List (Event × List Action)) : Prop where
  inOrder : handed clientIp tr <+: texts.map (· ++ [newline])
  answered : List.Forall₂ (Decodes env) (handed clientIp tr) (answered clientIp tr)
  complete : ∀ s, Run (next env) s₁ tr s → (handed clientIp tr).length < texts.length →
    (s.reads clientIp).isSome = true ∧
      (texts.flatMap PollbookClient.frame <+: received clientIp tr →
        newline ∈ s.unread clientIp)

/-- A step of the process at which the condition fails ends it. -/
theorem answers_of_next {e : Event} (hc : env.toCodec.Lawful) (hstreams : s.HasStreams)
    (hserves : s.Serves clientIp clientId) (h : next env s e = some (s', acts)) :
    Answers env clientIp s e := by
  intro hocc n id request hread hsize hid hdecodes
  obtain ⟨m, hhandle, -⟩ := next_handle h
  rw [hocc] at hhandle
  have hsurvives := (lineRead_returns (s := s.atTime e.io.steadyNow) hc (hstreams clientIp)
    hhandle).mp (Call.returns_returned _ _)
  rw [LineSurvives.atTime] at hsurvives
  obtain ⟨client, hclient, htype⟩ := hserves.client
  rw [hserves.id, Option.some.injEq] at hid
  subst hid
  have hmessage := hsurvives.message n clientId client hread hsize hserves.id hclient
  rw [htype] at hmessage
  obtain ⟨json, request', hparse, hrequest, hcheckin⟩ := hmessage
  rwa [hdecodes.unique ⟨json, hparse, hrequest⟩]

/-- Where the condition holds, the process does not end in the handler of a
message of the endpoint. -/
theorem silent_of_crash {e : Event} (hc : env.toCodec.Lawful) (hstreams : s.HasStreams)
    (hserves : s.Serves clientIp clientId)
    (hdecodes : ∀ n, s.Arrived clientIp n → ∃ request, Decodes env (s.line clientIp) request)
    (hanswers : Answers env clientIp s e) (h : crash env s e = some acts) :
    SilentAt clientIp acts := by
  by_cases hocc : e.occurrence = .lineRead clientIp
  · obtain ⟨trap, hhandle⟩ := crash_handle h
    rw [hocc] at hhandle
    have hcrash := crash_step h
    rw [hocc] at hcrash
    cases hcrash with
    | silent _ => exact .nil
    | @checking _ n _ _ _ harrived hid hclient hchecks =>
    have harrived' : s.Arrived clientIp n := ⟨⟨harrived.outstanding, harrived.complete⟩,
      harrived.size⟩
    obtain ⟨request, json, hparse, hrequest⟩ := hdecodes n harrived'
    have hcheckin := hanswers hocc n clientId request harrived'.outstanding harrived'.size
      hserves.id ⟨json, hparse, hrequest⟩
    obtain ⟨client, hclient, htype⟩ := hserves.client
    have hsurvives : LineSurvives env e.io s clientIp := by
      constructor
      · intro hsize
        rw [harrived'.outstanding] at hsize
        cases hsize
      · intro n' clientId' client' _ _ hid' hclient'
        rw [hserves.id, Option.some.injEq] at hid'
        subst hid'
        rw [hclient, Option.some.injEq] at hclient'
        subst hclient'
        rw [htype]
        exact ⟨json, request, hparse, hrequest, hcheckin⟩
    rw [← LineSurvives.atTime e.io.steadyNow] at hsurvives
    have hreturns := lineRead_returns (s := s.atTime e.io.steadyNow) hc (hstreams clientIp) hhandle
    exact absurd (hreturns.mpr hsurvives) (Call.not_returns_threw _ _)
  · have hcrash := crash_step h
    generalize e.occurrence = occurrence at hocc hcrash
    cases hcrash with
    | silent _ => exact .nil
    | @checking ip _ _ _ _ _ _ _ hchecks =>
      have hip : ip ≠ clientIp := by
        rintro rfl
        exact hocc rfl
      exact .cons (dispatched_silentAt (.inl hip)) (hchecks.silentAt clientIp)

/-- A read completes with a line. -/
theorem complete_of_handle {call : Call Action CheckinService}
    (h : handle env io s (.lineRead clientIp) = some call) : newline ∈ s.unread clientIp := by
  simp only [handle] at h
  split at h
  · split at h
    · next hcomplete => exact hcomplete
    · cases h
  · cases h

theorem isPrefix_of_done {done todo : List Bytes} {messages : List Bytes}
    (htexts : texts = done ++ todo) (hmessages : messages = done.map (· ++ [newline])) :
    messages <+: texts.map (· ++ [newline]) := by
  rw [htexts, hmessages, List.map_append]
  exact List.prefix_append _ _

/-- **Framing.** -/
theorem framing_is_lossless {e : Event} {cert : Certificate} (hc : env.toCodec.Lawful)
    (hboot : boot env found = .ok s₀) (hpast : Run (next env) s₀ past m)
    (hfresh : m.clientBuffers clientIp = none)
    (hocc : e.occurrence = .handshakeDone clientIp (some cert))
    (hshake : next env m e = some (s₁, acts)) (hid : getClientIdFromCert cert = .ok clientId)
    (hclient : s₁.clients clientId = some client) (htype : client.type = .untrustedClient)
    (hfits : ∀ text ∈ texts, wireFormat.Fits text)
    (hrequests : ∀ text ∈ texts, ∃ request, Decodes env (text ++ [newline]) request)
    (htail : Framing.Garbled wireFormat tail) (hlife : Lifetime (next env) (crash env) s₁ tr)
    (hgoes : ∀ x ∈ tr, Goes clientIp x.1)
    (hstream : received clientIp tr <+: texts.flatMap PollbookClient.frame ++ tail) :
    Lossless env clientIp s₁ texts tr ↔ Throughout (next env) (Answers env clientIp) s₁ tr := by
  obtain ⟨hserves, hreader⟩ := begins_of_handshake hfresh hocc hshake hid hclient htype
  obtain ⟨keys, -, hstart⟩ := boot_eq_ok.mp hboot
  have hreached {tr : List (Event × List Action)} {m' : CheckinService}
      (hrun : Run (next env) s₁ tr m') : Run (next env) s₀ (past ++ [(e, acts)] ++ tr) m' :=
    (hpast.snoc hshake).append hrun
  have hkeys : ∀ tr m', Run (next env) s₁ tr m' → ∀ id, (m'.clients id).isSome = true →
      (m'.clientVerifiers id).isSome = true := by
    intro tr m' hrun
    exact (pinned_of_run hboot (hreached hrun)).known
  obtain ⟨missing, hmissing⟩ := hstream
  have hahead {pre post : List (Event × List Action)} (htr : tr = pre ++ post) :
      received clientIp pre ++ (received clientIp post ++ missing) =
        wireFormat.frames texts ++ tail := by
    rw [← List.append_assoc, ← received_append, ← htr]
    exact hmissing
  have hposition {pre post : List (Event × List Action)} {m' : CheckinService}
      (htr : tr = pre ++ post) (hrun : Run (next env) s₁ pre m') :=
    position_of_run hkeys hserves hreader hfits htail hrun
      (fun x hx => hgoes x (htr ▸ List.mem_append_left _ hx)) (hahead htr)
  constructor
  · intro hlossless pre e' o post m' htr hrun
    obtain ⟨hserves', hanswered, -⟩ := hposition htr hrun
    subst htr
    obtain ⟨m'', hrun', hstep⟩ := hlife.step_or_last
    obtain rfl := hrun.deterministic hrun'
    rcases hstep with ⟨m'', hnext⟩ | ⟨hcrash, rfl⟩
    · exact answers_of_next hc (hasStreams_of_run hstart (hreached hrun)) hserves' hnext
    · -- the message that was handed over last would be without an answer
      intro hline n clientId' request hread hsize hid' _
      obtain ⟨trap, hhandle⟩ := crash_handle hcrash
      rw [hline] at hhandle
      have harrived : (m'.atTime e'.io.steadyNow).Arrived clientIp n :=
        ⟨⟨hread, complete_of_handle hhandle⟩, hsize⟩
      have hserves'' : (m'.atTime e'.io.steadyNow).Serves clientIp clientId :=
        ⟨hserves'.id, hserves'.client⟩
      obtain ⟨hhanded, hnone⟩ := message_threw hserves'' harrived hhandle
      have hall := hlossless.answered.length_eq
      rw [handed_snoc, answered_snoc, hhanded, hnone, List.length_append, List.length_append,
        hanswered.length_eq] at hall
      simp at hall
  · intro hall
    cases hlife with
    | @alive _ s hrun =>
      obtain ⟨-, hanswered, done, todo, htexts, hhanded, hposition'⟩ :=
        hposition (List.append_nil tr).symm hrun
      refine ⟨isPrefix_of_done htexts hhanded, hanswered, fun s' hrun' hleft => ?_⟩
      obtain rfl := hrun.deterministic hrun'
      cases todo with
      | nil =>
        rw [htexts, hhanded, List.append_nil, List.length_map] at hleft
        exact absurd hleft (Nat.lt_irrefl _)
      | cons text todo =>
        have hwaits := hposition'.waits
        refine ⟨by simpa [reader] using hwaits, fun hall' => hposition'.complete ?_⟩
        have hlength := congrArg List.length hmissing
        have hle := hall'.length_le
        rw [List.length_append, List.length_append] at hlength
        rw [List.length_append]
        simp only [received, List.flatMap_nil, List.length_nil] at hle hlength ⊢
        omega
    | @ended tr' s e' o hrun hcrash =>
      obtain ⟨hserves', hanswered, done, todo, htexts, hhanded, hposition'⟩ := hposition rfl hrun
      have hdecodes : ∀ n, s.Arrived clientIp n →
          ∃ request, Decodes env (s.line clientIp) request := by
        intro n harrived
        have hawaited : (s.reader clientIp).awaited = some (.payload n.toNat) := by
          unfold reader
          rw [harrived.outstanding]
          rfl
        have hholds : (s.reader clientIp).Holds wireFormat (s.line clientIp) :=
          ⟨by rw [hawaited, harrived.size]; rfl, harrived.complete, rfl⟩
        obtain ⟨text, rest, htodo, hline, -⟩ := hposition'.holds
          (fun text ht => hfits text (htexts ▸ List.mem_append_right _ ht)) hholds
        rw [hline]
        refine hrequests text ?_
        rw [htexts, htodo]
        exact List.mem_append_right _ List.mem_cons_self
      have hsilent := silent_of_crash hc (hasStreams_of_run hstart (hreached hrun)) hserves'
        hdecodes (hall tr' e' o [] s rfl hrun) hcrash
      have hhanded' : handed clientIp (tr' ++ [(e', o)]) = handed clientIp tr' := by
        rw [handed_snoc, hsilent.handed, List.append_nil]
      have hanswered' : answered clientIp (tr' ++ [(e', o)]) = answered clientIp tr' := by
        rw [answered_snoc, hsilent.answered, List.append_nil]
      refine ⟨?_, ?_, fun s' hrun' => ?_⟩
      · rw [hhanded']
        exact isPrefix_of_done htexts hhanded
      · rw [hhanded', hanswered']
        exact hanswered
      · -- the process is gone
        obtain ⟨m', hrun'', hnext⟩ := hrun'.last
        obtain rfl := hrun.deterministic hrun''
        exact absurd hnext (not_next_of_crash hcrash)

end Runs

section Rehearsal

open Rehearsal

/-- The libraries of a place where, as for a key on an elliptic curve, OpenSSL
reports an error for a signature that is none. -/
def strictEnv : Env where
  toCodec := Codec.reference
  verify key message signature :=
    if signature = [] then .error (.runtimeError "EVP_DigestVerifyFinal")
    else Rehearsal.env.verify key message signature
  sign := signatureOf
  config := Rehearsal.config

def requestText (request : CheckinRequest) : Bytes :=
  Codec.reference.render (request.toJson Codec.reference)

/-- The kiosk's request without a signature. -/
def unsignedRequest : CheckinRequest := ⟨checkinBody (instant 10 7).systemNow, []⟩

theorem decodes_requestText {e : Env} (hcodec : e.toCodec = Codec.reference)
    {request : CheckinRequest} (hutf8 : request.body.Utf8) :
    Decodes e (requestText request ++ [newline]) request := by
  refine ⟨request.toJson Codec.reference, ?_, ?_⟩
  · rw [hcodec]
    refine Codec.reference_lawful.parse_render
      (CheckinRequest.plain_toJson Codec.reference_lawful hutf8) _ ?_
    intro b hb
    rw [List.mem_singleton.mp hb]
    rfl
  · rw [hcodec]
    exact CheckinRequest.fromJson_toJson Codec.reference_lawful request

theorem kioskBody_utf8 : (checkinBody (instant 10 7).systemNow).Utf8 :=
  ⟨by decide +kernel, by decide +kernel, by decide +kernel, by decide +kernel,
    by decide +kernel, by decide +kernel⟩

/-- The kiosk's handshake. -/
def kioskShakes : Event :=
  ⟨instant 1 0, .handshakeDone kioskIp (some (certificate kioskId kioskKey))⟩

theorem kioskId_of_certificate :
    getClientIdFromCert (certificate kioskId kioskKey) = .ok kioskId := by decide +kernel

theorem boot_strictEnv :
    boot strictEnv emptyFolder = .ok (openingWith emptyFolder (Keys.onDisk Map.empty)) :=
  boot_openingWith emptyFolder rfl rfl

/-- The kiosk's connection goes on when its bytes come in and its lines are read. -/
theorem goes_of_events {events : List Event} {io : Io} (hio : io.writes = true)
    (hevents : ∀ e ∈ events, ∃ bytes, e = ⟨io, .received kioskIp bytes⟩ ∨
      e = ⟨io, .lineRead kioskIp⟩) : ∀ e ∈ events, Goes kioskIp e := by
  intro e he
  obtain ⟨bytes, rfl | rfl⟩ := hevents e he
  · exact ⟨nofun, nofun, nofun⟩
  · exact ⟨nofun, nofun, fun _ => hio⟩

/-- The two handlers that read the unsigned request; the second one does not end. -/
def unsignedEvents : List Event :=
  [⟨instant 10 7, .received kioskIp (PollbookClient.frame (requestText unsignedRequest))⟩,
    ⟨instant 10 7, .lineRead kioskIp⟩]

/-- A signature that is none ends the process before the request is answered. -/
theorem malformed_signature_kills :
    ¬ ∀ (found : Found) (s₀ m s₁ : CheckinService) (past tr : List (Event × List Action))
      (e : Event) (acts : List Action) (clientIp : Endpoint) (cert : Certificate)
      (clientId : UInt32) (client : ClientInfo) (texts : List Bytes) (tail : Bytes),
      boot strictEnv found = .ok s₀ → Run (next strictEnv) s₀ past m →
      m.clientBuffers clientIp = none → e.occurrence = .handshakeDone clientIp (some cert) →
      next strictEnv m e = some (s₁, acts) → getClientIdFromCert cert = .ok clientId →
      s₁.clients clientId = some client → client.type = .untrustedClient →
      (∀ text ∈ texts, wireFormat.Fits text) →
      (∀ text ∈ texts, ∃ request, Decodes strictEnv (text ++ [newline]) request) →
      Framing.Garbled wireFormat tail → Lifetime (next strictEnv) (crash strictEnv) s₁ tr →
      (∀ x ∈ tr, Goes clientIp x.1) →
      received clientIp tr <+: texts.flatMap PollbookClient.frame ++ tail →
        Lossless strictEnv clientIp s₁ texts tr := by
  intro hall
  have hexec : (exec (next strictEnv) (openingWith emptyFolder (Keys.onDisk Map.empty))
      [⟨instant 1 0, .accepted kioskIp⟩]).any (fun past =>
        decide (past.2.clientBuffers kioskIp = none) &&
        (next strictEnv past.2 kioskShakes).any fun shaken =>
          decide (shaken.1.clients kioskId = some ⟨kioskId, .untrustedClient⟩) &&
          (exec (next strictEnv) shaken.1 unsignedEvents).any fun r =>
            (crash strictEnv r.2 ⟨instant 10 7, .lineRead kioskIp⟩).any fun acts =>
              decide (received kioskIp r.1 =
                PollbookClient.frame (requestText unsignedRequest)) &&
              decide ((handed kioskIp r.1 ++ acts.filterMap (·.handed kioskIp)).length ≠
                (answered kioskIp r.1 ++ acts.filterMap (·.answered kioskIp)).length)) = true := by
    decide +kernel
  simp only [Option.any_eq_true, Bool.and_eq_true, decide_eq_true_eq] at hexec
  obtain ⟨⟨past, m⟩, hpast, hfresh, ⟨s₁, acts⟩, hshake, hclient, ⟨tr, s⟩, htr, o, hcrash,
    hreceived, hcount⟩ := hexec
  have hgoes : ∀ e ∈ unsignedEvents ++ [⟨instant 10 7, .lineRead kioskIp⟩], Goes kioskIp e := by
    have hio : (instant 10 7).writes = true := rfl
    refine goes_of_events hio ?_
    intro e he
    simp only [unsignedEvents, List.cons_append, List.nil_append, List.mem_cons,
      List.not_mem_nil, or_false] at he
    rcases he with rfl | rfl | rfl
    · exact ⟨_, .inl rfl⟩
    · exact ⟨[], .inr rfl⟩
    · exact ⟨[], .inr rfl⟩
  have hlossless := hall emptyFolder _ m s₁ past (tr ++ [(⟨instant 10 7, .lineRead kioskIp⟩, o)])
    kioskShakes acts kioskIp (certificate kioskId kioskKey) kioskId _
    [requestText unsignedRequest] [] boot_strictEnv (Run.of_exec hpast) hfresh rfl hshake
    kioskId_of_certificate hclient rfl
    (by
      intro text htext
      rw [List.mem_singleton.mp htext]
      exact ⟨by decide +kernel, by decide +kernel⟩)
    (by
      intro text htext
      rw [List.mem_singleton.mp htext]
      exact ⟨_, decodes_requestText rfl kioskBody_utf8⟩)
    .nothing (.ended (Run.of_exec htr) hcrash)
    (by
      intro x hx
      refine hgoes x.1 ?_
      have hevents := exec_events htr
      rw [← hevents]
      have hmem := List.mem_map_of_mem (f := Prod.fst) hx
      rwa [List.map_append] at hmem)
    (by
      rw [received_snoc, hreceived]
      simp [Occurrence.arrived])
  have hlength := hlossless.answered.length_eq
  rw [handed_snoc, answered_snoc] at hlength
  exact hcount hlength

/-- The kiosk sends its request twice and then a line after a wrong length; the
first byte comes in alone, everything else at once. -/
def twiceEvents : List Event :=
  let stream := PollbookClient.frame (requestText (checkinRequest (instant 10 7).systemNow)) ++
    PollbookClient.frame (requestText (checkinRequest (instant 10 7).systemNow)) ++ bytes "9\nhi\n"
  [⟨instant 10 7, .received kioskIp (stream.take 1)⟩,
    ⟨instant 10 7, .received kioskIp (stream.drop 1)⟩] ++
  List.replicate 6 ⟨instant 10 7, .lineRead kioskIp⟩

/-- Both requests are handed over and answered, and what follows is not. -/
theorem framing_is_lossless_rehearsal :
    ∃ s₁ tr, (handed kioskIp tr).length = 2 ∧
      Throughout (next Rehearsal.env) (Answers Rehearsal.env kioskIp) s₁ tr := by
  have hexec : (exec (next Rehearsal.env) (openingWith emptyFolder (Keys.onDisk Map.empty))
      [⟨instant 1 0, .accepted kioskIp⟩]).any (fun past =>
        decide (past.2.clientBuffers kioskIp = none) &&
        (next Rehearsal.env past.2 kioskShakes).any fun shaken =>
          decide (shaken.1.clients kioskId = some ⟨kioskId, .untrustedClient⟩) &&
          (exec (next Rehearsal.env) shaken.1 twiceEvents).any fun r =>
            decide (received kioskIp r.1 =
              [requestText (checkinRequest (instant 10 7).systemNow),
                requestText (checkinRequest (instant 10 7).systemNow)].flatMap
                  PollbookClient.frame ++ bytes "9\nhi\n") &&
            decide (handed kioskIp r.1 =
              [requestText (checkinRequest (instant 10 7).systemNow),
                requestText (checkinRequest (instant 10 7).systemNow)].map (· ++ [newline])) &&
            decide (answered kioskIp r.1 =
              [checkinRequest (instant 10 7).systemNow,
                checkinRequest (instant 10 7).systemNow])) = true := by
    decide +kernel
  simp only [Option.any_eq_true, Bool.and_eq_true, decide_eq_true_eq] at hexec
  obtain ⟨⟨past, m⟩, hpast, hfresh, ⟨s₁, acts⟩, hshake, hclient, ⟨tr, s⟩, htr,
    ⟨hreceived, hhanded⟩, hanswered⟩ := hexec
  have hgoes : ∀ e ∈ twiceEvents, Goes kioskIp e := by
    have hio : (instant 10 7).writes = true := rfl
    refine goes_of_events hio ?_
    intro e he
    rcases List.mem_append.mp he with he | he
    · rcases List.mem_cons.mp he with rfl | he
      · exact ⟨_, .inl rfl⟩
      · rw [List.mem_singleton.mp he]
        exact ⟨_, .inl rfl⟩
    · rw [List.eq_of_mem_replicate he]
      exact ⟨[], .inr rfl⟩
  have hdecodes : Decodes Rehearsal.env
      (requestText (checkinRequest (instant 10 7).systemNow) ++ [newline])
      (checkinRequest (instant 10 7).systemNow) := decodes_requestText rfl kioskBody_utf8
  have hgarbled : Framing.Garbled wireFormat (bytes "9\nhi\n") := by
    have hsplit : bytes "9\nhi\n" = bytes "9" ++ newline :: (bytes "hi" ++ newline :: []) := by
      decide +kernel
    rw [hsplit]
    refine .wrong [] (by decide +kernel) (by decide +kernel) ?_
    intro size hsize
    have hnine : wireFormat.read (bytes "9" ++ [wireFormat.stop]) = some 9 := by decide +kernel
    rw [hnine] at hsize
    rw [← Option.some.inj hsize]
    decide +kernel
  have hlossless : Lossless Rehearsal.env kioskIp s₁
      [requestText (checkinRequest (instant 10 7).systemNow),
        requestText (checkinRequest (instant 10 7).systemNow)] tr := by
    refine ⟨by rw [hhanded], ?_, fun s _ hleft => ?_⟩
    · rw [hhanded, hanswered]
      exact .cons hdecodes (.cons hdecodes .nil)
    · rw [hhanded] at hleft
      exact absurd hleft (Nat.lt_irrefl 2)
  refine ⟨s₁, tr, by rw [hhanded]; rfl, (framing_is_lossless Codec.reference_lawful
    (boot_openingWith emptyFolder rfl rfl) (Run.of_exec hpast) hfresh rfl hshake
    kioskId_of_certificate hclient rfl ?_ ?_ hgarbled (.alive (Run.of_exec htr)) ?_ ?_).mp
    hlossless⟩
  · intro text htext
    have heq : text = requestText (checkinRequest (instant 10 7).systemNow) := by
      simpa using htext
    rw [heq]
    exact ⟨by decide +kernel, by decide +kernel⟩
  · intro text htext
    have heq : text = requestText (checkinRequest (instant 10 7).systemNow) := by
      simpa using htext
    rw [heq]
    exact ⟨_, hdecodes⟩
  · intro x hx
    refine hgoes x.1 ?_
    rw [← exec_events htr]
    exact List.mem_map_of_mem hx
  · rw [hreceived]

end Rehearsal

end CheckinService

end Pollbook
