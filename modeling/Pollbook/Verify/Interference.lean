import Pollbook.Verify.Decisions
import Pollbook.Verify.TicketFile
import Pollbook.Verify.Views

/-!
# Voters do not interfere

What the service keeps of the voters is a `Board`: their statuses, the expiries
of their timers, and their tickets. A request or a timeout has an `Effect` on the
entries of one voter and is decided by these entries, so that two that are about
different voters, on different connections, can change places: the answers are
the same, and the board is (`voters_do_not_interfere`, `order_does_not_matter`).
All of them share the keys, the fault tracker and the ticket file, and each
ticket request assigns the whole file to the map. That changes nothing when
every ticket was appended to the file, or when no ticket is issued twice.
-/

namespace Pollbook

/-! ## The board -/

/-- What is kept of the voters. -/
structure Board where
  statuses : Map UInt32 VoterStatus
  expiries : Map UInt32 Int
  tickets : Map Bytes (UInt32 × Bytes)

/-- What the sessions keep of the voters. -/
def Sessions.board (s : Sessions) : Board :=
  ⟨s.voterStatusTable, fun v => (s.requestTimers v).map (·.expiry), s.clientTicketsMap⟩

theorem expiries_set (timers : Map UInt32 Timer) (voterId : UInt32) (timer : Timer) :
    (fun v => (timers.set voterId timer v).map (·.expiry)) =
      Map.put (fun v => (timers v).map (·.expiry)) voterId (some (some timer.expiry)) := by
  funext v
  rw [Map.set_apply, Map.put, Function.update_apply]
  split
  · rfl
  · rfl

theorem expiries_erase (timers : Map UInt32 Timer) (voterId : UInt32) :
    (fun v => (timers.erase voterId v).map (·.expiry)) =
      Map.put (fun v => (timers v).map (·.expiry)) voterId (some none) := by
  funext v
  rw [Map.erase_apply, Map.put, Function.update_apply]
  split
  · rfl
  · rfl

/-- What happens to the entries of one voter: the status and the expiry are
assigned or erased, and a ticket is bound. -/
structure Effect where
  voterId : UInt32
  status : Option (Option VoterStatus)
  expiry : Option (Option Int)
  ticket : Option (Bytes × Bytes)

namespace Effect

/-- Nothing happens. -/
def still (voterId : UInt32) : Effect := ⟨voterId, none, none, none⟩

/-- What a timeout does: nothing if the voter is checked in. -/
def lapse (voterId : UInt32) (status : Option VoterStatus) : Effect :=
  if status = some .pending then ⟨voterId, some (some .eligible), some none, none⟩
  else .still voterId

theorem lapse_voterId (voterId : UInt32) (status : Option VoterStatus) :
    (lapse voterId status).voterId = voterId := by
  unfold lapse
  split
  · rfl
  · rfl

theorem lapse_ticket (voterId : UInt32) (status : Option VoterStatus) :
    (lapse voterId status).ticket = none := by
  unfold lapse
  split
  · rfl
  · rfl

def apply (f : Effect) (b : Board) : Board where
  statuses := b.statuses.put f.voterId f.status
  expiries := b.expiries.put f.voterId f.expiry
  tickets :=
    match f.ticket with
    | some (ticket, secret) => b.tickets.set ticket (f.voterId, secret)
    | none => b.tickets

/-- The tickets the two bind are not the same. -/
def Distinct (f g : Effect) : Prop :=
  ∀ x ∈ f.ticket, ∀ y ∈ g.ticket, x.1 ≠ y.1

/-- What happens to different voters can happen in either order. -/
theorem apply_comm {f g : Effect} (hvoters : f.voterId ≠ g.voterId) (htickets : f.Distinct g)
    (b : Board) : f.apply (g.apply b) = g.apply (f.apply b) := by
  obtain ⟨u, status, expiry, ticket⟩ := f
  obtain ⟨v, status', expiry', ticket'⟩ := g
  simp only [apply, Board.mk.injEq]
  refine ⟨Map.put_comm _ hvoters.symm _ _, Map.put_comm _ hvoters.symm _ _, ?_⟩
  cases ticket with
  | none => rfl
  | some x =>
    cases ticket' with
    | none => rfl
    | some y => exact Function.update_comm (htickets x rfl y rfl).symm ..

end Effect

namespace Sessions

variable {s : Sessions} {now : Int}

theorem destroyTimer_withStatuses (s : Sessions) (voterId : UInt32)
    (statuses : Map UInt32 VoterStatus) :
    ({ s with voterStatusTable := statuses } : Sessions).destroyTimer voterId =
      { s.destroyTimer voterId with voterStatusTable := statuses } := by
  unfold destroyTimer cancel
  dsimp only
  cases s.requestTimers voterId with
  | none => rfl
  | some timer =>
    dsimp only
    cases s.waits timer.id with
    | none => rfl
    | some wait =>
      dsimp only
      split
      · rfl
      · rfl

/-- Admitting a voter, whose timer is destroyed if there is one. -/
theorem accept_destroys (s : Sessions) (voterId : UInt32) (expiry : Int) (ticket secret : Bytes)
    (opens : Bool) :
    ∃ csv, s.accept voterId expiry ticket secret opens =
      { voterStatusTable := s.voterStatusTable.set voterId .pending
        requestTimers := s.requestTimers.set voterId ⟨s.timers, voterId, expiry⟩
        waits := (s.destroyTimer voterId).waits.set s.timers ⟨voterId, expiry, .waiting⟩
        timers := s.timers + 1
        clientTicketsMap := s.clientTicketsMap.set ticket (voterId, secret)
        ticketValidationCsv := csv } := by
  obtain ⟨waits, hwaits⟩ := destroyTimer_eq s voterId
  unfold accept startTimer
  dsimp only
  rw [destroyTimer_withStatuses, hwaits]
  obtain ⟨csv, hcsv⟩ := writeToCsv_eq
    { voterStatusTable := s.voterStatusTable.set voterId .pending
      requestTimers := s.requestTimers.set voterId ⟨s.timers, voterId, expiry⟩
      waits := waits.set s.timers ⟨voterId, expiry, .waiting⟩
      timers := s.timers + 1
      clientTicketsMap := s.clientTicketsMap.set ticket (voterId, secret)
      ticketValidationCsv := s.ticketValidationCsv } opens ticket secret voterId
  exact ⟨csv, hcsv⟩

theorem board_accept (s : Sessions) (voterId : UInt32) (expiry : Int) (ticket secret : Bytes)
    (opens : Bool) :
    (s.accept voterId expiry ticket secret opens).board =
      Effect.apply ⟨voterId, some (some .pending), some (some expiry), some (ticket, secret)⟩
        s.board := by
  obtain ⟨csv, heq⟩ := s.accept_destroys voterId expiry ticket secret opens
  rw [heq]
  simp only [board, Effect.apply, Board.mk.injEq, and_true]
  exact ⟨rfl, expiries_set _ _ _⟩

theorem Coupled.board_confirm (h : s.Coupled now) {voterId : UInt32} {timer : Timer}
    (htimer : s.requestTimers voterId = some timer) :
    (s.confirm voterId timer).board =
      Effect.apply ⟨voterId, some (some .checkedIn), some none, none⟩ s.board := by
  obtain ⟨waits, heq, -⟩ := h.confirm_eq htimer
  rw [heq]
  simp only [board, Effect.apply, Board.mk.injEq, and_true]
  exact ⟨rfl, expiries_erase _ _⟩

theorem Coupled.board_timeout (h : s.Coupled now) {id : Nat} {wait : Wait}
    (hwait : s.waits id = some wait) (hqueued : wait.status = .queued) :
    ((s.drop id).handleVerificationTimeout wait.voterId).board =
      (Effect.lapse wait.voterId (s.voterStatusTable wait.voterId)).apply s.board := by
  rw [h.timeout_eq hwait hqueued]
  unfold Effect.lapse
  split
  · simp only [board, Effect.apply, Board.mk.injEq, and_true]
    exact ⟨rfl, expiries_erase _ _⟩
  · rfl

/-! ## The queued waits of other voters -/

/-- The queued waits of the voters other than `voterId` are the same. -/
def SameWaits (voterId : UInt32) (s s' : Sessions) : Prop :=
  ∀ id wait, wait.voterId ≠ voterId → wait.status = .queued →
    (s'.waits id = some wait ↔ s.waits id = some wait)

/-- The timers of the other voters are the same, too. -/
structure Apart (voterId : UInt32) (s s' : Sessions) : Prop where
  timers : ∀ v, v ≠ voterId → s'.requestTimers v = s.requestTimers v
  waits : SameWaits voterId s s'

theorem Apart.refl (voterId : UInt32) (s : Sessions) : Apart voterId s s :=
  ⟨fun _ _ => rfl, fun _ _ _ _ => Iff.rfl⟩

theorem Coupled.waits_destroyTimer (h : s.Coupled now) (voterId : UInt32) :
    SameWaits voterId s (s.destroyTimer voterId) := by
  intro id wait hvoter hqueued
  unfold destroyTimer
  cases htimer : s.requestTimers voterId with
  | none => exact Iff.rfl
  | some timer =>
    obtain ⟨waits, heq, hother, hself⟩ := cancel_eq s timer.id
    dsimp only
    rw [heq]
    by_cases hid : id = timer.id
    · subst hid
      obtain ⟨wait₀, hwait₀, hvoter₀, -⟩ := h.armed voterId timer htimer
      have hnot : s.waits timer.id ≠ some wait := by
        intro hwait
        rw [hwait₀, Option.some.injEq] at hwait
        exact hvoter (hwait ▸ hvoter₀)
      refine iff_of_false (fun hwait => ?_) hnot
      obtain ⟨hwas, -⟩ | hcancelled := hself wait hwait
      · exact hnot hwas
      · rw [hqueued] at hcancelled
        cases hcancelled
    · dsimp only
      rw [hother id hid]

theorem Coupled.apart_accept (h : s.Coupled now) (voterId : UInt32) (expiry : Int)
    (ticket secret : Bytes) (opens : Bool) :
    Apart voterId s (s.accept voterId expiry ticket secret opens) := by
  obtain ⟨csv, heq⟩ := s.accept_destroys voterId expiry ticket secret opens
  rw [heq]
  refine ⟨fun v hv => Map.set_of_ne _ hv _, fun id wait hvoter hqueued => ?_⟩
  dsimp only
  by_cases hid : id = s.timers
  · subst hid
    rw [Map.set_self]
    constructor
    · intro hwait
      rw [← Option.some.inj hwait] at hqueued
      cases hqueued
    · intro hwait
      exact absurd (h.numbered _ _ hwait) (Nat.lt_irrefl _)
  · rw [Map.set_of_ne _ hid]
    exact h.waits_destroyTimer voterId id wait hvoter hqueued

theorem Coupled.apart_confirm (h : s.Coupled now) {voterId : UInt32} {timer : Timer}
    (htimer : s.requestTimers voterId = some timer) :
    Apart voterId s (s.confirm voterId timer) := by
  have hdestroy : (s.confirm voterId timer).waits = (s.destroyTimer voterId).waits := by
    have hpending := (h.timer_iff voterId).mp ⟨timer, htimer⟩
    unfold Sessions.confirm Sessions.destroyTimer Sessions.cancel
    simp only [htimer, hpending, if_true]
    cases s.waits timer.id with
    | none => rfl
    | some wait =>
      dsimp only
      split
      · rfl
      · rfl
  constructor
  · obtain ⟨waits, heq, -⟩ := h.confirm_eq htimer
    rw [heq]
    exact fun v hv => Map.erase_of_ne _ hv
  · intro id wait hvoter hqueued
    rw [hdestroy]
    exact h.waits_destroyTimer voterId id wait hvoter hqueued

theorem Coupled.apart_timeout (h : s.Coupled now) {id : Nat} {wait : Wait}
    (hwait : s.waits id = some wait) (hqueued : wait.status = .queued) :
    Apart wait.voterId s ((s.drop id).handleVerificationTimeout wait.voterId) := by
  have hj : ∀ j other, other.voterId ≠ wait.voterId →
      (s.waits.erase id j = some other ↔ s.waits j = some other) := by
    intro j other hvoter
    by_cases hid : j = id
    · subst hid
      rw [Map.erase_self, hwait, Option.some.injEq]
      exact iff_of_false (Option.some_ne_none _).symm fun heq => hvoter (by rw [heq])
    · rw [Map.erase_of_ne _ hid]
  rw [h.timeout_eq hwait hqueued]
  split
  · exact ⟨fun v hv => Map.erase_of_ne _ hv, fun j other hvoter _ => hj j other hvoter⟩
  · exact ⟨fun _ _ => rfl, fun j other hvoter _ => hj j other hvoter⟩

end Sessions

namespace CheckinService

open Sessions (Coupled Apart Whole rows)

variable {env : Env} {io : Io} {s t s' t' : CheckinService} {clientIp : Endpoint}
  {peer peer' : Option Endpoint} {f : Effect} {now : Int} {u v clientId : UInt32}
  {acts : List Action} {n : UInt64}

/-! ## What a step leaves alone, and what it looks at -/

/-- A step on a connection, if any, that has an effect on one voter. -/
structure Leaves (env : Env) (peer : Option Endpoint) (f : Effect) (s s' : CheckinService) :
    Prop where
  clients : s'.clients = s.clients
  identity : s'.clientIdMap = s.clientIdMap
  streams : s'.clientSslStreams = s.clientSslStreams
  reads : ∀ ip, peer ≠ some ip → s'.reads ip = s.reads ip
  buffers : ∀ ip, peer ≠ some ip → s'.clientBuffers ip = s.clientBuffers ip
  keys : ∀ clientId, keyOf env s'.toKeys clientId = keyOf env s.toKeys clientId
  apart : Apart f.voterId s.toSessions s'.toSessions
  board : s'.board = f.apply s.board

/-- The two states are the same for a connection, if any, and for one voter. -/
structure Agree (env : Env) (peer : Option Endpoint) (v : UInt32) (s t : CheckinService) :
    Prop where
  clients : t.clients = s.clients
  identity : t.clientIdMap = s.clientIdMap
  streams : t.clientSslStreams = s.clientSslStreams
  reads : ∀ ip, peer = some ip → t.reads ip = s.reads ip
  buffers : ∀ ip, peer = some ip → t.clientBuffers ip = s.clientBuffers ip
  keys : ∀ clientId, keyOf env t.toKeys clientId = keyOf env s.toKeys clientId
  status : t.voterStatusTable v = s.voterStatusTable v
  expiry : (t.requestTimers v).map (·.expiry) = (s.requestTimers v).map (·.expiry)
  tickets : ∀ ticket secret, t.clientTicketsMap ticket = some (v, secret) ↔
    s.clientTicketsMap ticket = some (v, secret)
  waits : ∀ id wait, wait.voterId = v → wait.status = .queued →
    (t.waits id = some wait ↔ s.waits id = some wait)

theorem Agree.refl (env : Env) (peer : Option Endpoint) (v : UInt32) (s : CheckinService) :
    Agree env peer v s s :=
  ⟨rfl, rfl, rfl, fun _ _ => rfl, fun _ _ => rfl, fun _ => rfl, rfl, rfl, fun _ _ => Iff.rfl,
    fun _ _ _ _ => Iff.rfl⟩

theorem Agree.symm (h : Agree env peer v s t) : Agree env peer v t s where
  clients := h.clients.symm
  identity := h.identity.symm
  streams := h.streams.symm
  reads := fun ip hip => (h.reads ip hip).symm
  buffers := fun ip hip => (h.buffers ip hip).symm
  keys := fun clientId => (h.keys clientId).symm
  status := h.status.symm
  expiry := h.expiry.symm
  tickets := fun ticket secret => (h.tickets ticket secret).symm
  waits := fun id wait hvoter hqueued => (h.waits id wait hvoter hqueued).symm

/-- What happens to one voter is nothing to another one. -/
theorem Leaves.agree (h : Leaves env peer f s s') (hvoter : f.voterId ≠ v)
    (hpeers : ∀ ip, peer' = some ip → peer ≠ some ip)
    (hfresh : ∀ x ∈ f.ticket, ∀ secret, s.clientTicketsMap x.1 ≠ some (v, secret)) :
    Agree env peer' v s s' := by
  obtain ⟨w, status, expiry, bound⟩ := f
  have hstatus : s'.voterStatusTable v = s.voterStatusTable v :=
    (congrFun (congrArg Board.statuses h.board) v).trans (Map.put_of_ne _ hvoter.symm _)
  have hexpiry : (s'.requestTimers v).map (·.expiry) = (s.requestTimers v).map (·.expiry) := by
    rw [h.apart.timers v hvoter.symm]
  have htickets := congrArg Board.tickets h.board
  refine ⟨h.clients, h.identity, h.streams, fun ip hip => h.reads ip (hpeers ip hip),
    fun ip hip => h.buffers ip (hpeers ip hip), h.keys, hstatus, hexpiry, ?_, ?_⟩
  · intro ticket secret
    have heq := congrFun htickets ticket
    cases bound with
    | none =>
      change s'.clientTicketsMap ticket = s.clientTicketsMap ticket at heq
      rw [heq]
    | some x =>
      change s'.clientTicketsMap ticket = s.clientTicketsMap.set x.1 (w, x.2) ticket at heq
      rw [heq]
      by_cases hx : ticket = x.1
      · subst hx
        rw [Map.set_self]
        refine iff_of_false (fun hsome => ?_) (hfresh x rfl secret)
        exact hvoter (congrArg Prod.fst (Option.some.inj hsome))
      · rw [Map.set_of_ne _ hx]
  · intro id wait hwait hqueued
    exact h.apart.waits id wait (fun heq => hvoter (heq.symm.trans hwait)) hqueued

/-! ## The ends of the handlers -/

theorem withVerifier_eq (env : Env) (s : CheckinService) (clientId : UInt32) :
    ∃ k : Keys, s.withVerifier env clientId = { s with toKeys := k } ∧
      ∀ c, keyOf env k c = keyOf env s.toKeys c := by
  cases hkey : keyOf env s.toKeys clientId with
  | none =>
    refine ⟨s.toKeys, ?_, fun _ => rfl⟩
    rw [withVerifier, ensureVerifier_none hkey, Option.getD_none]
  | some key =>
    unfold withVerifier ensureVerifier
    split
    · exact ⟨s.toKeys, rfl, fun _ => rfl⟩
    · next hnone =>
      rw [Option.not_isSome_iff_eq_none] at hnone
      unfold keyOf at hkey
      rw [hnone] at hkey
      unfold loadClientPublicKey
      cases hpem : fromPemPublic s.pemFiles (keyFileToLoad env.config clientId) with
      | error trap =>
        rw [hpem] at hkey
        cases hkey
      | ok key' =>
        refine ⟨_, rfl, fun c => ?_⟩
        unfold keyOf
        dsimp only
        by_cases hc : c = clientId
        · subst hc
          rw [Map.emplace_of_none hnone, Map.set_self, hnone, hpem]
          rfl
        · rw [Map.emplace_of_ne _ hc]

/-- The handler changes the sessions, loads a key and may wait for the next
message. -/
theorem leaves_of_sessions {k : Keys} {sessions : Sessions}
    (hkeys : ∀ c, keyOf env k c = keyOf env s.toKeys c)
    (hapart : Apart f.voterId s.toSessions sessions)
    (hboard : sessions.board = f.apply s.board) :
    Leaves env (some clientIp) f s { s with toKeys := k, toSessions := sessions } ∧
      Leaves env (some clientIp) f s
        (startSizeRead { s with toKeys := k, toSessions := sessions } clientIp) := by
  refine ⟨⟨rfl, rfl, rfl, fun _ _ => rfl, fun _ _ => rfl, hkeys, hapart, hboard⟩,
    ⟨rfl, rfl, rfl, fun ip hip => ?_, fun ip hip => ?_, hkeys, hapart, hboard⟩⟩
  · exact Map.set_of_ne _ (fun heq => hip (congrArg some heq.symm)) _
  · exact Map.emplace_of_ne _ (fun heq => hip (congrArg some heq.symm)) _

/-- The effects of the ways a check-in request can end. -/
theorem CheckinEnds.leaves {request : CheckinRequest} (hs : s.toSessions.Coupled now)
    (ht : t.toSessions.Coupled now)
    (h : CheckinEnds env io io.secretRandom s t clientIp request s' t') :
    ∃ f : Effect, f.voterId = request.body.voterUniqueId ∧
      (∀ x ∈ f.ticket, ∃ r, io.ticketRandom = some r ∧ x.1 = hex r.toList) ∧
      Leaves env (some clientIp) f s s' ∧ Leaves env (some clientIp) f t t' := by
  obtain ⟨k, hk, hkeys⟩ := withVerifier_eq env s request.body.clientIdNum
  obtain ⟨l, hl, hlkeys⟩ := withVerifier_eq env t request.body.clientIdNum
  have hnone : ∀ x ∈ (Effect.still request.body.voterUniqueId).ticket,
      ∃ r, io.ticketRandom = some r ∧ x.1 = hex r.toList := fun x hx => by cases hx
  cases h with
  | ignored =>
    exact ⟨.still _, rfl, hnone,
      (leaves_of_sessions (fun _ => rfl) (.refl _ _) rfl).1,
      (leaves_of_sessions (fun _ => rfl) (.refl _ _) rfl).1⟩
  | foreign =>
    exact ⟨.still _, rfl, hnone, (leaves_of_sessions (fun _ => rfl) (.refl _ _) rfl).2,
      (leaves_of_sessions (fun _ => rfl) (.refl _ _) rfl).2⟩
  | denied =>
    rw [hk, hl]
    exact ⟨.still _, rfl, hnone, (leaves_of_sessions hkeys (.refl _ _) rfl).2,
      (leaves_of_sessions hlkeys (.refl _ _) rfl).2⟩
  | @accepted ticket secret secret' hticket hsecret hsecret' =>
    obtain rfl := Option.some.inj (hsecret.symm.trans hsecret')
    rw [hk, hl]
    refine ⟨⟨request.body.voterUniqueId, some (some .pending),
      some (some (io.steadyNow + minutes env.config.timeoutInterval)),
      some (hex ticket.toList, hex secret.toList)⟩, rfl, ?_, ?_, ?_⟩
    · intro x hx
      rw [Option.mem_some_iff] at hx
      exact ⟨ticket, hticket, by rw [← hx]⟩
    · exact (leaves_of_sessions hkeys (hs.apart_accept _ _ _ _ _)
        (s.toSessions.board_accept _ _ _ _ _)).2
    · exact (leaves_of_sessions hlkeys (ht.apart_accept _ _ _ _ _)
        (t.toSessions.board_accept _ _ _ _ _)).2

/-- The effects of the ways a ticket request can end. -/
theorem TicketEnds.leaves {request : TicketRequest} {secret : Bytes}
    (hs : s.toSessions.Coupled now) (ht : t.toSessions.Coupled now)
    (hticket : s.clientTicketsMap request.body.ticket = some (v, secret))
    (h : TicketEnds env s t request s' t') :
    ∃ f : Effect, f.voterId = v ∧ f.ticket = none ∧
      Leaves env (some clientIp) f s s' ∧ Leaves env (some clientIp) f t t' := by
  obtain ⟨k, hk, hkeys⟩ := withVerifier_eq env s request.body.clientId
  obtain ⟨l, hl, hlkeys⟩ := withVerifier_eq env t request.body.clientId
  cases h with
  | ignored =>
    exact ⟨.still v, rfl, rfl, (leaves_of_sessions (fun _ => rfl) (.refl _ _) rfl).1,
      (leaves_of_sessions (fun _ => rfl) (.refl _ _) rfl).1⟩
  | checked =>
    rw [hk, hl]
    exact ⟨.still v, rfl, rfl, (leaves_of_sessions hkeys (.refl _ _) rfl).1,
      (leaves_of_sessions hlkeys (.refl _ _) rfl).1⟩
  | @redeemed voterId secret' timer timer' hticket' htimer htimer' =>
    rw [hticket, Option.some.injEq, Prod.mk.injEq] at hticket'
    obtain ⟨rfl, -⟩ := hticket'
    rw [hk, hl]
    exact ⟨⟨v, some (some .checkedIn), some none, none⟩, rfl, rfl,
      (leaves_of_sessions hkeys (hs.apart_confirm htimer) (hs.board_confirm htimer)).1,
      (leaves_of_sessions hlkeys (ht.apart_confirm htimer') (ht.board_confirm htimer')).1⟩

/-! ## One step in two states -/

/-- Reading the ticket file changes nothing. -/
def Mirrored (s : CheckinService) : Prop := s.toSessions.readFromCsv = s.toSessions

theorem readFromCsv_of_mirrored (h : s.Mirrored) (now : Int) (clientIp : Endpoint)
    (clientId : UInt32) :
    ((s.atTime now).deliver clientIp clientId).readFromCsv =
      (s.atTime now).deliver clientIp clientId := by
  unfold readFromCsv
  have hsessions : ((s.atTime now).deliver clientIp clientId).toSessions = s.toSessions := rfl
  rw [hsessions, h]
  rfl

/-- A message that is handled is no longer in the buffer. -/
theorem Leaves.of_deliver
    (h : Leaves env (some clientIp) f ((s.atTime now).deliver clientIp clientId) s') :
    Leaves env (some clientIp) f s s' where
  clients := h.clients
  identity := h.identity
  streams := h.streams
  reads := fun ip hip => (h.reads ip hip).trans
    (Map.erase_of_ne _ fun heq => hip (congrArg some heq.symm))
  buffers := fun ip hip => (h.buffers ip hip).trans
    (Map.set_of_ne _ (fun heq => hip (congrArg some heq.symm)) _)
  keys := h.keys
  apart := h.apart
  board := h.board

theorem Leaves.charge (h : Leaves env peer f s s') (acts : List Action) :
    Leaves env peer f s (s'.charge acts) :=
  ⟨h.clients, h.identity, h.streams, h.reads, h.buffers, h.keys, h.apart, h.board⟩

theorem coupled_deliver (h : s.toSessions.Coupled now) :
    ((s.atTime now).deliver clientIp clientId).toSessions.Coupled now := h

section Messages

variable (h : Agree env (some clientIp) v s t)
include h

theorem Agree.unread : t.unread clientIp = s.unread clientIp := by
  unfold CheckinService.unread
  rw [h.buffers clientIp rfl]

theorem Agree.line : t.line clientIp = s.line clientIp := by
  unfold CheckinService.line
  rw [h.unread]

theorem Agree.arrived (harrived : s.Arrived clientIp n) : t.Arrived clientIp n := by
  obtain ⟨⟨houtstanding, hcomplete⟩, hsize⟩ := harrived
  refine ⟨⟨(h.reads clientIp rfl).trans houtstanding, ?_⟩, ?_⟩
  · rw [h.unread]
    exact hcomplete
  · rw [h.line]
    exact hsize

theorem Agree.serves (hserves : s.Serves clientIp clientId) : t.Serves clientIp clientId :=
  ⟨(congrFun h.identity clientIp).trans hserves.id, by rw [h.clients]; exact hserves.client⟩

theorem Agree.trusts (htrusts : s.Trusts clientIp clientId) : t.Trusts clientIp clientId :=
  ⟨(congrFun h.identity clientIp).trans htrusts.id, by rw [h.clients]; exact htrusts.client⟩

theorem Agree.sameFor (now : Int) (clientId : UInt32) :
    SameFor env clientIp ((s.atTime now).deliver clientIp clientId)
      ((t.atTime now).deliver clientIp clientId) where
  current := rfl
  identity := (congrFun h.identity clientIp).symm
  stream := (congrFun h.streams clientIp).symm
  key := (h.keys _).symm

end Messages

theorem eq_of_like {acts acts' : List Action}
    (h : List.Forall₂ (Action.Like env Eq) acts acts') : acts = acts' := by
  induction h with
  | nil => rfl
  | cons hlike _ ih =>
    rw [ih]
    cases hlike with
    | same => rfl
    | approval _ _ _ heq => rw [heq]

/-- Calls that are alike return alike. -/
theorem returned_of_alike {V : CheckinService → CheckinService → Prop}
    {x y : Call Action CheckinService} {before : List Action}
    (h : Call.Alike V (Action.Like env Eq) x y) (hx : x.after before = .returned s' acts) :
    ∃ t', y.after before = .returned t' acts ∧ V s' t' := by
  obtain ⟨rest, rfl, rfl⟩ := Call.after_eq_returned.mp hx
  cases h with
  | returned hvalue hacts =>
    rw [eq_of_like hacts]
    exact ⟨_, rfl, hvalue⟩

/-- What an event is about. -/
inductive Concerns (env : Env) (s : CheckinService) : Occurrence → Option Endpoint → UInt32 → Prop
  | checkin {clientIp : Endpoint} {clientId : UInt32} {n : UInt64} {request : CheckinRequest}
      (hserves : s.Serves clientIp clientId) (harrived : s.Arrived clientIp n)
      (hdecodes : Decodes env (s.line clientIp) request) :
      Concerns env s (.lineRead clientIp) (some clientIp) request.body.voterUniqueId
  | ticket {clientIp : Endpoint} {clientId voterId : UInt32} {n : UInt64} {json : Json}
      {request : TicketRequest} {secret : Bytes} (htrusts : s.Trusts clientIp clientId)
      (harrived : s.Arrived clientIp n) (hparse : env.parse (s.line clientIp) = .ok json)
      (hrequest : TicketRequest.fromJson env.toCodec json = .ok request)
      (hticket : s.clientTicketsMap request.body.ticket = some (voterId, secret)) :
      Concerns env s (.lineRead clientIp) (some clientIp) voterId
  | timeout {id : Nat} {wait : Wait} (hwait : s.waits id = some wait)
      (hqueued : wait.status = .queued) : Concerns env s (.timedOut id) none wait.voterId

/-- It is about the same in a state that agrees. -/
theorem Concerns.agree {occurrence : Occurrence} (hconcerns : Concerns env s occurrence peer v)
    (h : Agree env peer v s t) : Concerns env t occurrence peer v := by
  cases hconcerns with
  | checkin hserves harrived hdecodes =>
    exact .checkin (h.serves hserves) (h.arrived harrived) (h.line ▸ hdecodes)
  | ticket htrusts harrived hparse hrequest hticket =>
    exact .ticket (h.trusts htrusts) (h.arrived harrived) (h.line.symm ▸ hparse) hrequest
      ((h.tickets _ _).mpr hticket)
  | @timeout id wait hwait hqueued =>
    exact .timeout ((h.waits id wait rfl hqueued).mpr hwait) hqueued

/-- A check-in request has the same answer in a state that agrees. -/
theorem handle_checkin (hs : s.toSessions.Coupled now) (ht : t.toSessions.Coupled now)
    {request : CheckinRequest} (hserves : s.Serves clientIp clientId)
    (harrived : s.Arrived clientIp n) (hdecodes : Decodes env (s.line clientIp) request)
    (h : Agree env (some clientIp) request.body.voterUniqueId s t)
    (hhandle : handle env io (s.atTime now) (.lineRead clientIp) = some (.returned s' acts)) :
    ∃ t' f, handle env io (t.atTime now) (.lineRead clientIp) = some (.returned t' acts) ∧
      f.voterId = request.body.voterUniqueId ∧
      (∀ x ∈ f.ticket, ∃ r, io.ticketRandom = some r ∧ x.1 = hex r.toList) ∧
      Leaves env (some clientIp) f s s' ∧ Leaves env (some clientIp) f t t' := by
  have hsh : handle env io (s.atTime now) (.lineRead clientIp) = _ :=
    handle_message ⟨hserves.id, hserves.client⟩ (harrived.atTime now)
  have hth : handle env io (t.atTime now) (.lineRead clientIp) = _ :=
    handle_message ⟨(h.serves hserves).id, (h.serves hserves).client⟩
      ((h.arrived harrived).atTime now)
  have hline : (t.atTime now).line clientIp = (s.atTime now).line clientIp := h.line
  obtain ⟨json, hparse, hrequest⟩ := hdecodes
  replace hparse : env.parse ((s.atTime now).line clientIp) = .ok json := hparse
  rw [hsh, Option.some.injEq] at hhandle
  rw [hth, hline]
  unfold handleUntrustedClient at hhandle ⊢
  rw [hparse, Call.ofCpp_ok, Call.returned_bind, Call.after_nil, hrequest, Call.ofCpp_ok,
    Call.returned_bind, Call.after_nil] at hhandle ⊢
  have halike := @handleCheckinRequest_alike env io Eq _ _ _ io.secretRandom rfl
    (h.sameFor now clientId) request h.status.symm
  obtain ⟨t', ht', hends⟩ := returned_of_alike halike hhandle
  obtain ⟨f, hvoter, hticket, hsl, htl⟩ :=
    hends.leaves (coupled_deliver hs) (coupled_deliver ht)
  exact ⟨t', f, congrArg some ht', hvoter, hticket, hsl.of_deliver, htl.of_deliver⟩

/-- And so has a ticket request, if reading the ticket file changes neither state. -/
theorem handle_ticket (hc : env.toCodec.Lawful) (hs : s.toSessions.Coupled now)
    (ht : t.toSessions.Coupled now) (hsm : s.Mirrored) (htm : t.Mirrored) {json : Json}
    {request : TicketRequest} {secret : Bytes} (htrusts : s.Trusts clientIp clientId)
    (harrived : s.Arrived clientIp n) (hparse : env.parse (s.line clientIp) = .ok json)
    (hrequest : TicketRequest.fromJson env.toCodec json = .ok request)
    (hticket : s.clientTicketsMap request.body.ticket = some (v, secret))
    (h : Agree env (some clientIp) v s t)
    (hhandle : handle env io (s.atTime now) (.lineRead clientIp) = some (.returned s' acts)) :
    ∃ t' f, handle env io (t.atTime now) (.lineRead clientIp) = some (.returned t' acts) ∧
      f.voterId = v ∧ f.ticket = none ∧
      Leaves env (some clientIp) f s s' ∧ Leaves env (some clientIp) f t t' := by
  have hsh : handle env io (s.atTime now) (.lineRead clientIp) = _ :=
    handle_trusted_message ⟨htrusts.id, htrusts.client⟩ (harrived.atTime now)
  have hth : handle env io (t.atTime now) (.lineRead clientIp) = _ :=
    handle_trusted_message ⟨(h.trusts htrusts).id, (h.trusts htrusts).client⟩
      ((h.arrived harrived).atTime now)
  have hline : (t.atTime now).line clientIp = (s.atTime now).line clientIp := h.line
  replace hparse : env.parse ((s.atTime now).line clientIp) = .ok json := hparse
  rw [hsh, Option.some.injEq] at hhandle
  rw [hth, hline]
  unfold handleTrustedClient at hhandle ⊢
  rw [hparse] at hhandle ⊢
  dsimp only at hhandle ⊢
  rw [hrequest] at hhandle ⊢
  dsimp only at hhandle ⊢
  rw [readFromCsv_of_mirrored hsm] at hhandle
  rw [readFromCsv_of_mirrored htm]
  have htticket := (h.tickets _ _).mpr hticket
  have halike := @handleTicketRequest_alike env io Eq _ _ _ hc (fun _ _ heq => by rw [heq])
    (h.sameFor now clientId) request
    (by
      change Option.Rel _ (s.clientTicketsMap _) (t.clientTicketsMap _)
      rw [hticket, htticket]
      exact .some ⟨rfl, rfl⟩)
    (by
      intro voterId' secret' hticket'
      replace hticket' : s.clientTicketsMap _ = _ := hticket'
      rw [hticket, Option.some.injEq, Prod.mk.injEq] at hticket'
      obtain ⟨rfl, -⟩ := hticket'
      exact h.expiry.symm)
  obtain ⟨t', ht', hends⟩ := returned_of_alike halike hhandle
  obtain ⟨f, hvoter, hnone, hsl, htl⟩ :=
    hends.leaves (coupled_deliver hs) (coupled_deliver ht) hticket
  exact ⟨t', f, congrArg some ht', hvoter, hnone, hsl.of_deliver, htl.of_deliver⟩

/-- The timeout of a voter, and its effect. -/
theorem handle_timeout (hs : s.toSessions.Coupled now) {id : Nat} {wait : Wait}
    (hwait : s.waits id = some wait) (hqueued : wait.status = .queued) :
    ∃ s', handle env io (s.atTime now) (.timedOut id) = some (.returned s' []) ∧
      Leaves env none (.lapse wait.voterId (s.voterStatusTable wait.voterId)) s s' := by
  have hhandle : handle env io (s.atTime now) (.timedOut id) = some (.returned
      { s.atTime now with toSessions :=
        (s.toSessions.drop id).handleVerificationTimeout wait.voterId } []) := by
    have hwait' : (s.atTime now).waits id = some wait := hwait
    simp only [handle, hwait', hqueued, if_true]
    rfl
  refine ⟨_, hhandle, rfl, rfl, rfl, fun _ _ => rfl, fun _ _ => rfl, fun _ => rfl, ?_,
    hs.board_timeout hwait hqueued⟩
  rw [Effect.lapse_voterId]
  exact hs.apart_timeout hwait hqueued

/-- In two states that agree on what an event is about, its handler does the
same, and leaves the same effect on either of them. -/
theorem handle_concerned (hc : env.toCodec.Lawful) {occurrence : Occurrence} {now : Int}
    (hs : s.toSessions.Coupled now) (ht : t.toSessions.Coupled now) (hsm : s.Mirrored)
    (htm : t.Mirrored) (hconcerns : Concerns env s occurrence peer v) (h : Agree env peer v s t)
    (hhandle : handle env io (s.atTime now) occurrence = some (.returned s' acts)) :
    ∃ t' f, handle env io (t.atTime now) occurrence = some (.returned t' acts) ∧
      f.voterId = v ∧ (∀ x ∈ f.ticket, ∃ r, io.ticketRandom = some r ∧ x.1 = hex r.toList) ∧
      Leaves env peer f s s' ∧ Leaves env peer f t t' := by
  have hnone {f : Effect} (hticket : f.ticket = none) :
      ∀ x ∈ f.ticket, ∃ r, io.ticketRandom = some r ∧ x.1 = hex r.toList := by
    rw [hticket]
    exact fun x hx => by cases hx
  cases hconcerns with
  | checkin hserves harrived hdecodes =>
    exact handle_checkin hs ht hserves harrived hdecodes h hhandle
  | ticket htrusts harrived hparse hrequest hticket =>
    obtain ⟨t', f, hsame, hvoter, hticket', hsl, htl⟩ :=
      handle_ticket hc hs ht hsm htm htrusts harrived hparse hrequest hticket h hhandle
    exact ⟨t', f, hsame, hvoter, hnone hticket', hsl, htl⟩
  | @timeout id wait hwait hqueued =>
    obtain ⟨s'', hsh, hsl⟩ := @handle_timeout env io _ _ hs _ _ hwait hqueued
    obtain ⟨t', hth, htl⟩ :=
      @handle_timeout env io _ _ ht _ _ ((h.waits id wait rfl hqueued).mpr hwait) hqueued
    rw [hsh, Option.some.injEq, Call.returned.injEq] at hhandle
    obtain ⟨rfl, rfl⟩ := hhandle
    rw [h.status] at htl
    exact ⟨t', _, hth, Effect.lapse_voterId _ _, hnone (Effect.lapse_ticket _ _), hsl, htl⟩

/-- The same of the steps. -/
theorem next_concerned (hc : env.toCodec.Lawful) {e : Event}
    (hs : s.toSessions.Coupled s.steadyNow) (ht : t.toSessions.Coupled t.steadyNow)
    (hsm : s.Mirrored) (htm : t.Mirrored) (hconcerns : Concerns env s e.occurrence peer v)
    (h : Agree env peer v s t) (hclock : t.steadyNow ≤ e.io.steadyNow)
    (hnext : next env s e = some (s', acts)) :
    ∃ t' f, next env t e = some (t', acts) ∧ f.voterId = v ∧
      (∀ x ∈ f.ticket, ∃ r, e.io.ticketRandom = some r ∧ x.1 = hex r.toList) ∧
      Leaves env peer f s s' ∧ Leaves env peer f t t' := by
  obtain ⟨m, hhandle, rfl⟩ := next_handle hnext
  obtain ⟨hclock', -, -⟩ := next_step hnext
  obtain ⟨t', f, hhandle', hvoter, hticket, hsl, htl⟩ :=
    handle_concerned hc (hs.congr hclock' rfl rfl rfl rfl) (ht.congr hclock rfl rfl rfl rfl) hsm htm
      hconcerns h hhandle
  exact ⟨t'.charge acts, f, next_of_handle hclock hhandle', hvoter, hticket, hsl.charge acts,
    htl.charge acts⟩

/-! ## The ticket file of the process -/

/-- A ticket that was issued was appended to the file. -/
def Files (x : Event × List Action) : Prop :=
  x.2.filterMap Action.admitted ≠ [] → x.1.io.csvOpens = true

/-- The map has the last entry of the file for each ticket. -/
structure Kept (s : CheckinService) : Prop where
  whole : Whole s.ticketValidationCsv
  memory : ∀ ticket b, Map.lastOf (rows s.ticketValidationCsv) ticket = some b →
    s.clientTicketsMap ticket = some b

theorem Kept.mirrored (h : s.Kept) : s.Mirrored := by
  have htickets : s.clientTicketsMap.setAll (rows s.ticketValidationCsv) = s.clientTicketsMap := by
    funext ticket
    rw [Map.setAll_eq_lastOf]
    cases hlast : Map.lastOf (rows s.ticketValidationCsv) ticket with
    | none => rfl
    | some b => exact (h.memory ticket b hlast).symm
  unfold Mirrored
  rw [Sessions.readFromCsv_rows, htickets]

/-- The ticket that is issued, if one is, was new. -/
def IssuesNew (s : CheckinService) (x : Event × List Action) : Prop :=
  ∀ y ∈ x.2.filterMap Action.admitted, s.clientTicketsMap y.2 = none

/-- A ticket that is not appended to the file must be new: an older line of it
would be read again. -/
theorem Kept.next {e : Event} (h : s.Kept) (hnext : next env s e = some (s', acts))
    (hissues : Files (e, acts) ∨ IssuesNew s (e, acts)) : s'.Kept := by
  obtain ⟨-, m, hstep, rfl⟩ := next_step hnext
  rcases hstep.enters with ⟨u, ticket, hadmitted, hfit, hmemory, hfile⟩ | ⟨-, hcsv, htickets⟩
  · replace hfile : m.ticketValidationCsv = (s.toSessions.writeToCsv e.io.csvOpens ticket
      (dumped e.io.secretRandom) u).ticketValidationCsv := hfile
    cases hopens : e.io.csvOpens with
    | true =>
      rw [hopens] at hfile
      obtain ⟨hwhole, hrows⟩ := Sessions.rows_writeToCsv hfit u h.whole
      rw [← hfile] at hwhole hrows
      refine ⟨hwhole, fun ticket' b hlast => ?_⟩
      replace hlast : Map.lastOf (rows m.ticketValidationCsv) ticket' = some b := hlast
      change m.clientTicketsMap ticket' = some b
      rw [hrows, Map.lastOf_concat, Map.set_apply] at hlast
      rw [hmemory, Map.set_apply]
      split
      · next heq =>
        rw [if_pos heq] at hlast
        exact hlast
      · next hne =>
        rw [if_neg hne] at hlast
        exact h.memory ticket' b hlast
    | false =>
      rw [hopens] at hfile
      replace hfile : m.ticketValidationCsv = s.ticketValidationCsv := hfile
      have hnew : s.clientTicketsMap ticket = none := by
        rcases hissues with hfiles | hnew
        · have hopened : e.io.csvOpens = true :=
            hfiles (by rw [hadmitted]; exact List.cons_ne_nil _ _)
          rw [hopens] at hopened
          cases hopened
        · exact hnew (u, ticket) (by rw [hadmitted]; exact List.mem_singleton_self _)
      refine ⟨?_, fun ticket' b hlast => ?_⟩
      · change Whole m.ticketValidationCsv
        rw [hfile]
        exact h.whole
      · change Map.lastOf (rows m.ticketValidationCsv) ticket' = some b at hlast
        change m.clientTicketsMap ticket' = some b
        rw [hfile] at hlast
        have hknown := h.memory ticket' b hlast
        rw [hmemory, Map.set_of_ne _ ?_]
        · exact hknown
        · rintro rfl
          rw [hnew] at hknown
          cases hknown
  · replace hcsv : m.ticketValidationCsv = s.ticketValidationCsv := hcsv
    have hsame : m.clientTicketsMap = s.clientTicketsMap := by
      rcases htickets with hsame | hread
      · exact hsame
      · exact hread.trans (congrArg Sessions.clientTicketsMap h.mirrored)
    refine ⟨?_, fun ticket b hlast => ?_⟩
    · change Whole m.ticketValidationCsv
      rw [hcsv]
      exact h.whole
    · change Map.lastOf (rows m.ticketValidationCsv) ticket = some b at hlast
      change m.clientTicketsMap ticket = some b
      rw [hcsv] at hlast
      rw [hsame]
      exact h.memory ticket b hlast

section Runs

variable {found : Surroundings} {s₀ : CheckinService} {tr : List (Event × List Action)}

theorem kept_of_run (hstart : start env found = .ok s₀)
    (hempty : found.ticketValidationCsv.getD [] = []) (hrun : Run (next env) s₀ tr s)
    (hissues : ∀ pre x post m, tr = pre ++ x :: post → Run (next env) s₀ pre m →
      Files x ∨ IssuesNew m x) : s.Kept := by
  induction hrun with
  | nil =>
    obtain ⟨table, -, rfl⟩ := start_eq_ok hstart
    refine ⟨.inl hempty, fun ticket b hlast => ?_⟩
    have hrows : rows found.ticketValidationCsv = [] := by
      unfold Sessions.rows
      rw [hempty]
      rfl
    replace hlast : Map.lastOf (rows found.ticketValidationCsv) ticket = some b := hlast
    rw [hrows] at hlast
    cases hlast
  | @snoc tr m m' e acts hpre hnext ih =>
    have hpast := ih fun pre x post k htr => hissues pre x (post ++ [(e, acts)]) k (by
      rw [htr, List.append_assoc, List.cons_append])
    exact hpast.next hnext (hissues tr (e, acts) [] m rfl hpre)

/-- In a run that issues no ticket twice, every ticket that is issued is new. -/
theorem issuesNew_of_run (hstart : start env found = .ok s₀)
    (hempty : found.ticketValidationCsv.getD [] = []) {pre post : List (Event × List Action)}
    {x : Event × List Action} (hpre : Run (next env) s₀ pre s)
    (honce : ((issued (pre ++ x :: post)).map (·.2)).Nodup) : IssuesNew s x := by
  intro y hy
  cases hticket : s.clientTicketsMap y.2 with
  | none => rfl
  | some b =>
    exfalso
    have hissued : (b.1, y.2) ∈ issued pre :=
      (bound_of_run hstart hempty hpre).memory y.2 b.1 b.2 hticket
    have hbefore : y.2 ∈ (issued pre).map (·.2) := List.mem_map.mpr ⟨_, hissued, rfl⟩
    rw [issued_append, issued_cons, List.map_append, List.nodup_append] at honce
    exact honce.2.2 y.2 hbefore y.2 (List.mem_map_of_mem (List.mem_append_left _ hy)) rfl

end Runs

/-! ## Two events -/

/-- What the service keeps of a voter is the same in the two states. -/
structure Untouched (v : UInt32) (s s' : CheckinService) : Prop where
  status : s'.voterStatusTable v = s.voterStatusTable v
  timer : s'.requestTimers v = s.requestTimers v
  tickets : ∀ ticket secret, s'.clientTicketsMap ticket = some (v, secret) ↔
    s.clientTicketsMap ticket = some (v, secret)

theorem Leaves.untouched (h : Leaves env peer f s s') (hagree : Agree env peer' v s s')
    (hvoter : f.voterId ≠ v) : Untouched v s s' :=
  ⟨hagree.status, h.apart.timers v hvoter.symm, hagree.tickets⟩

/-- The random bytes of the event are those of no ticket yet. -/
def DrawsNew (s : CheckinService) (e : Event) : Prop :=
  ∀ r, e.io.ticketRandom = some r → s.clientTicketsMap (hex r.toList) = none

theorem DrawsNew.issuesNew {e : Event} (h : DrawsNew s e)
    (hnext : next env s e = some (s', acts)) : IssuesNew s (e, acts) := by
  rintro ⟨w, ticket⟩ hy
  obtain ⟨-, m, hstep, -⟩ := next_step hnext
  obtain ⟨ip, request, response, ha, happroved, -, rfl⟩ := exists_checkinAnswer hy
  obtain ⟨r, hr, hticket⟩ := (hstep.accepts ha happroved).1.fresh
  rw [hticket]
  exact h r hr

/-- A new ticket is nobody's yet. -/
theorem DrawsNew.nobody {e : Event} (h : DrawsNew s e)
    (hticket : ∀ x ∈ f.ticket, ∃ r, e.io.ticketRandom = some r ∧ x.1 = hex r.toList) :
    ∀ x ∈ f.ticket, ∀ secret, s.clientTicketsMap x.1 ≠ some (u, secret) := by
  intro x hx secret hsome
  obtain ⟨r, hr, heq⟩ := hticket x hx
  rw [heq, h r hr] at hsome
  cases hsome

/-- An event about one voter leaves the other voters alone. -/
theorem untouched_of_concerned (hc : env.toCodec.Lawful) {e : Event}
    (hs : s.toSessions.Coupled s.steadyNow) (hsm : s.Mirrored)
    (hconcerns : Concerns env s e.occurrence peer u) (hvoters : u ≠ v)
    (hpeers : ∀ ip, peer = some ip → peer' ≠ some ip) (hfresh : DrawsNew s e)
    (hnext : next env s e = some (s', acts)) : Agree env peer' v s s' ∧ Untouched v s s' := by
  obtain ⟨hclock, -, -⟩ := next_makes hnext
  obtain ⟨-, f, -, hf, hticket, hleaves, -⟩ := next_concerned hc hs hs hsm hsm hconcerns
    (Agree.refl env peer u s) hclock hnext
  have hvoter : f.voterId ≠ v := hf.symm ▸ hvoters
  have hagree := hleaves.agree hvoter (fun ip hip heq => hpeers ip heq hip) (hfresh.nobody hticket)
  exact ⟨hagree, hleaves.untouched hagree hvoter⟩

/-- The second of two events can be handled first, and the first one after it,
with the same answers and the same board in the end. -/
theorem changes_places (hc : env.toCodec.Lawful) {s₁ s₁₂ : CheckinService} {e₁ e₂ : Event}
    {acts₁ acts₂ : List Action} (hcoupled : s.toSessions.Coupled s.steadyNow) (hkept : s.Kept)
    (hkept₁ : s₁.Kept) (hkept₂ : ∀ s₂, next env s e₂ = some (s₂, acts₂) → s₂.Kept)
    (h₁ : Concerns env s e₁.occurrence peer u) (h₂ : Concerns env s e₂.occurrence peer' v)
    (hvoters : u ≠ v) (hpeers : ∀ ip, peer = some ip → peer' ≠ some ip)
    (hclock : e₁.io.steadyNow = e₂.io.steadyNow)
    (hfresh₁ : DrawsNew s e₁) (hfresh₂ : DrawsNew s e₂)
    (hdistinct : ∀ r, e₁.io.ticketRandom = some r → e₂.io.ticketRandom ≠ some r)
    (hnext₁ : next env s e₁ = some (s₁, acts₁)) (hnext₂ : next env s₁ e₂ = some (s₁₂, acts₂)) :
    ∃ s₂ s₂₁, next env s e₂ = some (s₂, acts₂) ∧ next env s₂ e₁ = some (s₂₁, acts₁) ∧
      s₂₁.board = s₁₂.board := by
  have hcoupled₁ := next_coupled hcoupled hnext₁
  obtain ⟨hclock₁, -, -⟩ := next_makes hnext₁
  have hagree₁ := (untouched_of_concerned hc hcoupled hkept.mirrored h₁ hvoters hpeers hfresh₁
    hnext₁).1
  -- the second event, in the state before the first one
  obtain ⟨s₂, g, hfirst, hg, hgticket, hleaves₁₂, hleaves₂⟩ := next_concerned hc hcoupled₁ hcoupled
    hkept₁.mirrored hkept.mirrored (h₂.agree hagree₁) hagree₁.symm (hclock ▸ hclock₁) hnext₂
  have hagree₂ := hleaves₂.agree (hg.symm ▸ hvoters.symm) hpeers (hfresh₂.nobody hgticket)
  have hcoupled₂ := next_coupled hcoupled hfirst
  obtain ⟨-, hnow₂, -⟩ := next_makes hfirst
  -- and the first event after it
  obtain ⟨s₂₁, f, hsecond, hf, hfticket, hleaves₁, hleaves₂₁⟩ := next_concerned hc hcoupled
    hcoupled₂ hkept.mirrored (hkept₂ s₂ hfirst).mirrored h₁ hagree₂ (hnow₂.trans hclock.symm).le
    hnext₁
  refine ⟨s₂, s₂₁, hfirst, hsecond, ?_⟩
  have htickets : f.Distinct g := by
    intro x hx y hy heq
    obtain ⟨r, hr, hx'⟩ := hfticket x hx
    obtain ⟨r', hr', hy'⟩ := hgticket y hy
    rw [hx', hy'] at heq
    have hsame : r = r' := Vector.toList_inj.mp (hex_injective heq)
    exact hdistinct r hr (hsame ▸ hr')
  calc s₂₁.board = f.apply s₂.board := hleaves₂₁.board
    _ = f.apply (g.apply s.board) := by rw [hleaves₂.board]
    _ = g.apply (f.apply s.board) := Effect.apply_comm (by rw [hf, hg]; exact hvoters) htickets _
    _ = g.apply s₁.board := by rw [hleaves₁.board]
    _ = s₁₂.board := hleaves₁₂.board.symm

/-- Two events about different voters, on different connections, can change
places: neither touches the other's voter, the answers are the same, and so is
the board. -/
theorem voters_do_not_interfere (hc : env.toCodec.Lawful) {found : Surroundings}
    {s₀ s₁ s₁₂ : CheckinService} {tr : List (Event × List Action)} {e₁ e₂ : Event}
    {acts₁ acts₂ : List Action} (hstart : start env found = .ok s₀)
    (hempty : found.ticketValidationCsv.getD [] = []) (hrun : Run (next env) s₀ tr s)
    (hfiles : ∀ x ∈ tr ++ [(e₁, acts₁), (e₂, acts₂)], Files x)
    (h₁ : Concerns env s e₁.occurrence peer u) (h₂ : Concerns env s e₂.occurrence peer' v)
    (hvoters : u ≠ v) (hpeers : ∀ ip, peer = some ip → peer' ≠ some ip)
    (hclock : e₁.io.steadyNow = e₂.io.steadyNow)
    (hfresh₁ : DrawsNew s e₁) (hfresh₂ : DrawsNew s e₂)
    (hdistinct : ∀ r, e₁.io.ticketRandom = some r → e₂.io.ticketRandom ≠ some r)
    (hnext₁ : next env s e₁ = some (s₁, acts₁)) (hnext₂ : next env s₁ e₂ = some (s₁₂, acts₂)) :
    Untouched v s s₁ ∧ ∃ s₂ s₂₁, next env s e₂ = some (s₂, acts₂) ∧
      next env s₂ e₁ = some (s₂₁, acts₁) ∧ Untouched u s s₂ ∧ s₂₁.board = s₁₂.board := by
  have hcoupled := coupled_of_run hstart hrun
  have hkept : s.Kept := kept_of_run hstart hempty hrun fun pre x post m htr _ =>
    .inl (hfiles x (List.mem_append_left _ (by rw [htr]; exact List.mem_append_cons_self)))
  have hkept₁ := hkept.next hnext₁ (.inl (hfiles _ (List.mem_append_right _ List.mem_cons_self)))
  have hpeers' : ∀ ip, peer' = some ip → peer ≠ some ip := fun ip hip heq => hpeers ip heq hip
  obtain ⟨s₂, s₂₁, hfirst, hsecond, hboard⟩ := changes_places hc hcoupled hkept hkept₁
    (fun s₂ hnext => hkept.next hnext (.inl (hfiles _ (List.mem_append_right _
      (List.mem_cons_of_mem _ (List.mem_singleton_self _))))))
    h₁ h₂ hvoters hpeers hclock hfresh₁ hfresh₂ hdistinct hnext₁ hnext₂
  exact ⟨(untouched_of_concerned hc hcoupled hkept.mirrored h₁ hvoters hpeers hfresh₁ hnext₁).2,
    s₂, s₂₁, hfirst, hsecond, (untouched_of_concerned hc hcoupled hkept.mirrored h₂ hvoters.symm
      hpeers' hfresh₂ hfirst).2, hboard⟩

/-- The two events are handled in this order, with these answers and this board
in the end. -/
def Ends (env : Env) (s : CheckinService) (e₁ e₂ : Event) (acts₁ acts₂ : List Action) (b : Board) :
    Prop :=
  ∃ s₁ s₁₂, next env s e₁ = some (s₁, acts₁) ∧ next env s₁ e₂ = some (s₁₂, acts₂) ∧ s₁₂.board = b

/-- When no ticket is issued twice, the order of two events about different
voters, on different connections, does not matter, even if tickets could not be
appended to the file; and each leaves the other's voter alone. -/
theorem order_does_not_matter (hc : env.toCodec.Lawful) {found : Surroundings}
    {s₀ : CheckinService} {tr : List (Event × List Action)} {e₁ e₂ : Event}
    (hstart : start env found = .ok s₀) (hempty : found.ticketValidationCsv.getD [] = [])
    (hrun : Run (next env) s₀ tr s) (honce : ((issued tr).map (·.2)).Nodup)
    (h₁ : Concerns env s e₁.occurrence peer u) (h₂ : Concerns env s e₂.occurrence peer' v)
    (hvoters : u ≠ v) (hpeers : ∀ ip, peer = some ip → peer' ≠ some ip)
    (hclock : e₁.io.steadyNow = e₂.io.steadyNow)
    (hfresh₁ : DrawsNew s e₁) (hfresh₂ : DrawsNew s e₂)
    (hdistinct : ∀ r, e₁.io.ticketRandom = some r → e₂.io.ticketRandom ≠ some r) :
    (∀ s₁ acts₁, next env s e₁ = some (s₁, acts₁) → Untouched v s s₁) ∧
      (∀ s₂ acts₂, next env s e₂ = some (s₂, acts₂) → Untouched u s s₂) ∧
      ∀ acts₁ acts₂ b, Ends env s e₁ e₂ acts₁ acts₂ b ↔ Ends env s e₂ e₁ acts₂ acts₁ b := by
  have hcoupled := coupled_of_run hstart hrun
  have hkept : s.Kept := kept_of_run hstart hempty hrun fun pre x post m htr hpre =>
    .inr (issuesNew_of_run hstart hempty hpre (htr ▸ honce))
  have hpeers' : ∀ ip, peer' = some ip → peer ≠ some ip := fun ip hip heq => hpeers ip heq hip
  have hkept₁ {s₁ : CheckinService} {acts₁ : List Action}
      (hnext : next env s e₁ = some (s₁, acts₁)) : s₁.Kept :=
    hkept.next hnext (.inr (hfresh₁.issuesNew hnext))
  have hkept₂ {s₂ : CheckinService} {acts₂ : List Action}
      (hnext : next env s e₂ = some (s₂, acts₂)) : s₂.Kept :=
    hkept.next hnext (.inr (hfresh₂.issuesNew hnext))
  refine ⟨fun s₁ acts₁ hnext => ?_, fun s₂ acts₂ hnext => ?_, fun acts₁ acts₂ b => ⟨?_, ?_⟩⟩
  · exact (untouched_of_concerned hc hcoupled hkept.mirrored h₁ hvoters hpeers hfresh₁ hnext).2
  · exact (untouched_of_concerned hc hcoupled hkept.mirrored h₂ hvoters.symm hpeers' hfresh₂
      hnext).2
  · rintro ⟨s₁, s₁₂, hnext₁, hnext₂, rfl⟩
    exact changes_places hc hcoupled hkept (hkept₁ hnext₁) (fun _ => hkept₂) h₁ h₂ hvoters hpeers
      hclock hfresh₁ hfresh₂ hdistinct hnext₁ hnext₂
  · rintro ⟨s₂, s₂₁, hnext₂, hnext₁, rfl⟩
    exact changes_places hc hcoupled hkept (hkept₂ hnext₂) (fun _ => hkept₁) h₂ h₁ hvoters.symm
      hpeers' hclock.symm hfresh₂ hfresh₁ (fun r hr heq => hdistinct r heq hr) hnext₂ hnext₁

section Rehearsal

open Rehearsal

/-- Another voter. -/
def neighbour : UInt32 := 1002

/-- The place with both voters on the roll. -/
def biggerPlace : Env :=
  { Rehearsal.env with
    config := { Rehearsal.config with
      voterListFile := voterListFile ++ bytes "1002,1111,Roe,Mary,,2 Oak St,Auburn,AL,36830\n" } }

/-- The service before the first event. -/
def biggerOpening : CheckinService :=
  (construct Rehearsal.found ((Map.empty.emplace voter .eligible).emplace neighbour
    .eligible)).doAccept

theorem start_biggerOpening : start biggerPlace Rehearsal.found = .ok biggerOpening := by
  have hlines : lines biggerPlace.config.voterListFile =
      [bytes "UID,PIN,Last Name,First Name,Middle Name,Address,City,State,Zip",
        bytes "1001,4321,Doe,Jane,Q,1 Elm St,Auburn,AL,36830",
        bytes "1002,1111,Roe,Mary,,2 Oak St,Auburn,AL,36830"] := by decide +kernel
  have hload := @loadVoterList_rows _ _ _ [1001, 1002] hlines (by decide +kernel)
    (by decide +kernel)
  simp only [start, hload, bind, Except.bind]
  rfl

/-- The kiosk's request for the neighbour. -/
def neighbourRequest : CheckinRequest :=
  let now := (instant 310000 9).systemNow
  let idBody : VoterIDRequest.Body :=
    ⟨kioskId, now, bytes "Roe", [], bytes "Mary", bytes "ID-78"⟩
  let presented : VoterIDRequest :=
    ⟨idBody, signatureOf kioskKey (biggerPlace.render (idBody.toJson biggerPlace.toCodec))⟩
  let statement := biggerPlace.render (idStatement biggerPlace.toCodec presented neighbour)
  let body : CheckinRequest.Body :=
    ⟨kioskId, now, bytes "Roe", bytes "Mary", [], neighbour,
      ⟨presented, neighbour, signatureOf idServiceKey statement⟩⟩
  ⟨body, signatureOf kioskKey (biggerPlace.render (body.toJson biggerPlace.toCodec))⟩

theorem neighbourRequest_utf8 : neighbourRequest.body.Utf8 :=
  ⟨by decide +kernel, by decide +kernel, by decide +kernel, by decide +kernel,
    by decide +kernel, by decide +kernel⟩

/-- The voter's timer has expired, and the neighbour's request has come in. -/
def neighbourAsked : List Event :=
  connections ++ checkin 10 7 ++ [⟨instant 310000 9, .timerExpired 0⟩,
    ⟨instant 310000 9, .received kioskIp (PollbookClient.frame (requestText neighbourRequest))⟩,
    ⟨instant 310000 9, .lineRead kioskIp⟩]

/-- The voter's timeout. -/
def lapses : Event := ⟨instant 310000 8, .timedOut 0⟩

/-- The neighbour's check-in. -/
def checksIn : Event := ⟨instant 310000 9, .lineRead kioskIp⟩

/-- The kiosk's request, once it is complete, is about the neighbour. -/
theorem concerns_neighbour (hid : s.clientIdMap kioskIp = some kioskId)
    (hclient : s.clients kioskId = some ⟨kioskId, .untrustedClient⟩)
    (hread : s.reads kioskIp =
      some (.payload (UInt64.ofNat (requestText neighbourRequest).length)))
    (hunread : s.unread kioskIp = requestText neighbourRequest ++ [newline]) :
    Concerns biggerPlace s checksIn.occurrence (some kioskIp) neighbour := by
  have hline : s.line kioskIp = requestText neighbourRequest ++ [newline] := by
    unfold CheckinService.line
    rw [hunread]
    decide +kernel
  have harrived : s.Arrived kioskIp (UInt64.ofNat (requestText neighbourRequest).length) := by
    refine ⟨⟨hread, ?_⟩, ?_⟩
    · rw [hunread]
      exact List.mem_append_right _ (List.mem_singleton_self _)
    · rw [hline]
      decide +kernel
  have hdecodes : Decodes biggerPlace (s.line kioskIp) neighbourRequest := by
    rw [hline]
    exact decodes_requestText rfl neighbourRequest_utf8
  exact .checkin ⟨hid, _, hclient, rfl⟩ harrived hdecodes

theorem drawsNew_of_seed {e : Event} {seed : UInt8}
    (he : e.io.ticketRandom = some (Vector.replicate 16 seed))
    (hticket : s.clientTicketsMap (ticket seed) = none) : DrawsNew s e := by
  intro r hr
  rw [he, Option.some.injEq] at hr
  rw [← hr, Vector.toList_replicate]
  exact hticket

/-- The neighbour may be admitted before the voter's timeout. -/
theorem voters_do_not_interfere_rehearsal :
    ∃ tr s s₁ s₁₂ acts₁ acts₂, Run (next biggerPlace) biggerOpening tr s ∧
      next biggerPlace s lapses = some (s₁, acts₁) ∧
      next biggerPlace s₁ checksIn = some (s₁₂, acts₂) ∧
      s.voterStatusTable voter = some .pending ∧ s₁.voterStatusTable voter = some .eligible ∧
      s₁.voterStatusTable neighbour = some .eligible ∧
      s₁₂.voterStatusTable neighbour = some .pending ∧
      ∃ s₂ s₂₁, next biggerPlace s checksIn = some (s₂, acts₂) ∧
        next biggerPlace s₂ lapses = some (s₂₁, acts₁) ∧ s₂₁.board = s₁₂.board := by
  have hexec : (exec (next biggerPlace) biggerOpening neighbourAsked).any (fun r =>
      (r.1.all fun x => x.1.io.csvOpens) &&
      (decide (r.2.clientIdMap kioskIp = some kioskId) &&
      (decide (r.2.clients kioskId = some ⟨kioskId, .untrustedClient⟩) &&
      (decide (r.2.reads kioskIp =
        some (.payload (UInt64.ofNat (requestText neighbourRequest).length))) &&
      (decide (r.2.unread kioskIp = requestText neighbourRequest ++ [newline]) &&
      (decide (r.2.waits 0 = some ⟨voter, 300010000000, .queued⟩) &&
      (decide (r.2.clientTicketsMap (ticket 8) = none) &&
      (decide (r.2.clientTicketsMap (ticket 9) = none) &&
      (decide (r.2.voterStatusTable voter = some .pending) &&
      (next biggerPlace r.2 lapses).any fun x =>
        decide (x.1.voterStatusTable voter = some .eligible) &&
        (decide (x.1.voterStatusTable neighbour = some .eligible) &&
        (next biggerPlace x.1 checksIn).any fun y =>
          decide (y.1.voterStatusTable neighbour = some .pending))))))))))) = true := by
    decide +kernel
  obtain ⟨tr, s, hrun, hs⟩ := Run.exists_of_exec hexec
  simp only [Bool.and_eq_true, decide_eq_true_eq, Option.any_eq_true, List.all_eq_true] at hs
  obtain ⟨hopens, hid, hclient, hread, hunread, hwait, hticket₈, hticket₉, hpending,
    ⟨s₁, acts₁⟩, hnext₁, hlapsed, heligible, ⟨s₁₂, acts₂⟩, hnext₂, hadmitted⟩ := hs
  have hfiles : ∀ x ∈ tr ++ [(lapses, acts₁), (checksIn, acts₂)], Files x := by
    intro x hx _
    rcases List.mem_append.mp hx with hx | hx
    · exact hopens x hx
    · rcases List.mem_cons.mp hx with rfl | hx
      · rfl
      · rw [List.mem_singleton.mp hx]
        rfl
  have hdistinct : ∀ r, lapses.io.ticketRandom = some r → checksIn.io.ticketRandom ≠ some r := by
    intro r hr
    rw [← hr]
    decide +kernel
  obtain ⟨-, s₂, s₂₁, hfirst, hsecond, -, hboard⟩ :=
    voters_do_not_interfere Codec.reference_lawful start_biggerOpening rfl hrun hfiles
      (.timeout hwait rfl) (concerns_neighbour hid hclient hread hunread) (by decide) nofun rfl
      (drawsNew_of_seed rfl hticket₈) (drawsNew_of_seed rfl hticket₉) hdistinct hnext₁ hnext₂
  exact ⟨tr, s, s₁, s₁₂, acts₁, acts₂, hrun, hnext₁, hnext₂, hpending, hlapsed, heligible,
    hadmitted, s₂, s₂₁, hfirst, hsecond, hboard⟩

/-- The tablet's request for the voter's ticket. -/
def presented : TicketRequest := ticketRequest (instant 310000 7).systemNow 7 4321

def presentedText : Bytes := Codec.reference.render (presented.toJson Codec.reference)

/-- The voter's ticket could not be appended to the file, and the requests of
both clients have come in. -/
def bothAsked : List Event :=
  connections ++
    (checkin 309000 7).map (fun e => { e with io := { e.io with csvOpens := false } }) ++
    [⟨instant 310000 7, .received tabletIp (PollbookClient.frame presentedText)⟩,
      ⟨instant 310000 7, .lineRead tabletIp⟩,
      ⟨instant 310000 9, .received kioskIp (PollbookClient.frame (requestText neighbourRequest))⟩,
      ⟨instant 310000 9, .lineRead kioskIp⟩]

/-- The voter's ticket is redeemed. -/
def redeems : Event := ⟨instant 310000 8, .lineRead tabletIp⟩

/-- The tablet's request, once it is complete, is about the voter. -/
theorem concerns_voter {secret : Bytes} (hid : s.clientIdMap tabletIp = some tabletId)
    (hclient : s.clients tabletId = some ⟨tabletId, .trustedClient⟩)
    (hread : s.reads tabletIp = some (.payload (UInt64.ofNat presentedText.length)))
    (hunread : s.unread tabletIp = presentedText ++ [newline])
    (hticket : s.clientTicketsMap (ticket 7) = some (voter, secret)) :
    Concerns biggerPlace s redeems.occurrence (some tabletIp) voter := by
  have hline : s.line tabletIp = presentedText ++ [newline] := by
    unfold CheckinService.line
    rw [hunread]
    decide +kernel
  have harrived : s.Arrived tabletIp (UInt64.ofNat presentedText.length) := by
    refine ⟨⟨hread, ?_⟩, ?_⟩
    · rw [hunread]
      exact List.mem_append_right _ (List.mem_singleton_self _)
    · rw [hline]
      decide +kernel
  have hutf8 : presented.body.Utf8 := by
    unfold TicketRequest.Body.Utf8
    decide +kernel
  have hparse : biggerPlace.parse (s.line tabletIp) = .ok (presented.toJson Codec.reference) := by
    rw [hline]
    refine Codec.reference_lawful.parse_render
      (TicketRequest.plain_toJson Codec.reference_lawful hutf8) _ ?_
    intro b hb
    rw [List.mem_singleton.mp hb]
    rfl
  exact .ticket ⟨hid, _, hclient, rfl⟩ harrived hparse
    (TicketRequest.fromJson_toJson Codec.reference_lawful _) hticket

/-- The neighbour may be admitted before the voter's ticket is redeemed. -/
theorem order_does_not_matter_rehearsal :
    ∃ tr s acts₁ acts₂ b, Run (next biggerPlace) biggerOpening tr s ∧
      s.ticketValidationCsv = none ∧ s.voterStatusTable voter = some .pending ∧
      s.voterStatusTable neighbour = some .eligible ∧
      b.statuses voter = some .checkedIn ∧ b.statuses neighbour = some .pending ∧
      Ends biggerPlace s redeems checksIn acts₁ acts₂ b ∧
      Ends biggerPlace s checksIn redeems acts₂ acts₁ b := by
  have hexec : (exec (next biggerPlace) biggerOpening bothAsked).any (fun r =>
      decide (((issued r.1).map (·.2)).Nodup) &&
      (decide (r.2.ticketValidationCsv = none) &&
      (decide (r.2.clientIdMap kioskIp = some kioskId) &&
      (decide (r.2.clients kioskId = some ⟨kioskId, .untrustedClient⟩) &&
      (decide (r.2.reads kioskIp =
        some (.payload (UInt64.ofNat (requestText neighbourRequest).length))) &&
      (decide (r.2.unread kioskIp = requestText neighbourRequest ++ [newline]) &&
      (decide (r.2.clientIdMap tabletIp = some tabletId) &&
      (decide (r.2.clients tabletId = some ⟨tabletId, .trustedClient⟩) &&
      (decide (r.2.reads tabletIp = some (.payload (UInt64.ofNat presentedText.length))) &&
      (decide (r.2.unread tabletIp = presentedText ++ [newline]) &&
      (decide (r.2.clientTicketsMap (ticket 7) = some (voter, hex (List.replicate 32 7))) &&
      (decide (r.2.clientTicketsMap (ticket 8) = none) &&
      (decide (r.2.clientTicketsMap (ticket 9) = none) &&
      (decide (r.2.voterStatusTable voter = some .pending) &&
      (decide (r.2.voterStatusTable neighbour = some .eligible) &&
      (next biggerPlace r.2 redeems).any fun x =>
        (next biggerPlace x.1 checksIn).any fun y =>
          decide (y.1.voterStatusTable voter = some .checkedIn) &&
          decide (y.1.voterStatusTable neighbour = some .pending)))))))))))))))) = true := by
    decide +kernel
  obtain ⟨tr, s, hrun, hs⟩ := Run.exists_of_exec hexec
  simp only [Bool.and_eq_true, decide_eq_true_eq, Option.any_eq_true] at hs
  obtain ⟨honce, hcsv, hkiosk, hkiosk', hread, hunread, htablet, htablet', hread', hunread',
    hticket₇, hticket₈, hticket₉, hpending, heligible, ⟨s₁, acts₁⟩, hnext₁, ⟨s₁₂, acts₂⟩, hnext₂,
    hcheckedIn, hadmitted⟩ := hs
  have hdistinct : ∀ r, redeems.io.ticketRandom = some r → checksIn.io.ticketRandom ≠ some r := by
    intro r hr
    rw [← hr]
    decide +kernel
  have hends : Ends biggerPlace s redeems checksIn acts₁ acts₂ s₁₂.board :=
    ⟨s₁, s₁₂, hnext₁, hnext₂, rfl⟩
  obtain ⟨-, -, horder⟩ := order_does_not_matter Codec.reference_lawful start_biggerOpening rfl hrun
    honce (concerns_voter htablet htablet' hread' hunread' hticket₇)
    (concerns_neighbour hkiosk hkiosk' hread hunread) (by decide) (by rintro ip ⟨⟩; decide) rfl
    (drawsNew_of_seed rfl hticket₈) (drawsNew_of_seed rfl hticket₉) hdistinct
  exact ⟨tr, s, acts₁, acts₂, s₁₂.board, hrun, hcsv, hpending, heligible, hcheckedIn, hadmitted,
    hends, (horder _ _ _).mp hends⟩

end Rehearsal

end CheckinService

end Pollbook
