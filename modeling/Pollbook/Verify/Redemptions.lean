import Pollbook.Verify.Freshness
import Pollbook.Verify.TicketFile
import Pollbook.Verify.Visits

/-!
# A call of verify_ticket

The client writes a ticket request, the check-in service looks the ticket up
after it has read the ticket file again, compares the voter's PIN and the timer,
and the client reads the response. A ticket that was issued to a voter is found
as long as it is not issued again (`OnFile.run`), and a timer lets the voter
in until it expires (`Redemption.InOrder.withinWindow`).
-/

namespace Pollbook

/-! ## From the check-in to the ticket request -/

namespace CheckinService

open Sessions (Whole rows)

variable {env : Env} {s s' : CheckinService} {acts : List Action}
  {tr : List (Event × List Action)}

/-- The ticket belongs to the voter, in memory and by the ticket file. -/
structure OnFile (s : CheckinService) (ticket : Bytes) (b : UInt32 × Bytes) : Prop where
  whole : Whole s.ticketValidationCsv
  file : Map.lastOf (rows s.ticketValidationCsv) ticket = some b
  memory : s.clientTicketsMap ticket = some b

/-- It is found when a ticket request is handled. -/
theorem OnFile.readFromCsv {ticket : Bytes} {b : UInt32 × Bytes} (h : s.OnFile ticket b) :
    s.readFromCsv.clientTicketsMap ticket = some b := by
  change s.toSessions.readFromCsv.clientTicketsMap ticket = some b
  rw [Sessions.readFromCsv_tickets]
  exact Map.setAll_of_lastOf h.file _

/-- No step takes it away that does not issue the same ticket. -/
theorem OnFile.next {e : Event} {ticket : Bytes} {b : UInt32 × Bytes} (h : s.OnFile ticket b)
    (hnext : next env s e = some (s', acts))
    (hother : ∀ u, (u, ticket) ∉ acts.filterMap Action.admitted) : s'.OnFile ticket b := by
  obtain ⟨-, -, change, hmakes⟩ := next_makes hnext
  rcases hmakes.moves.tickets with ⟨u, t, secret, opens, rfl, hfit, htickets, hcsv⟩ |
    ⟨-, hcsv, htickets⟩
  · have hne : ticket ≠ t := by
      rintro rfl
      refine hother u ?_
      rw [hmakes.admitted]
      exact List.mem_singleton_self _
    have hmemory : s'.clientTicketsMap ticket = some b := by
      rw [htickets, Map.set_of_ne _ hne]
      exact h.memory
    cases opens with
    | true =>
      obtain ⟨hwhole, hrows⟩ := Sessions.rows_writeToCsv hfit u h.whole
      rw [← hcsv] at hwhole hrows
      refine ⟨hwhole, ?_, hmemory⟩
      rw [hrows, Map.lastOf_concat, Map.set_of_ne _ hne]
      exact h.file
    | false =>
      replace hcsv : s'.ticketValidationCsv = s.ticketValidationCsv := hcsv
      exact ⟨hcsv ▸ h.whole, hcsv ▸ h.file, hmemory⟩
  · refine ⟨hcsv ▸ h.whole, hcsv ▸ h.file, ?_⟩
    rcases htickets with hsame | hread
    · rw [hsame]
      exact h.memory
    · rw [hread]
      exact h.readFromCsv

theorem OnFile.run {ticket : Bytes} {b : UInt32 × Bytes} (h : s.OnFile ticket b)
    (hrun : Run (CheckinService.next env) s tr s')
    (hother : ∀ x ∈ tr, ∀ u, (u, ticket) ∉ x.2.filterMap Action.admitted) :
    s'.OnFile ticket b := by
  induction hrun with
  | nil => exact h
  | @snoc tr m m' e acts hpre hnext ih =>
    exact (ih fun x hx => hother x (List.mem_append_left _ hx)).next hnext
      (hother (e, acts) (List.mem_append_right _ (List.mem_singleton_self _)))

/-- No timer runs for longer than the time limit. -/
def Bounded (env : Env) (s : CheckinService) : Prop :=
  ∀ v timer, s.requestTimers v = some timer →
    timer.expiry ≤ s.steadyNow + minutes env.config.timeoutInterval

end CheckinService

/-! ## The call -/

/-- A call of `verify_ticket`: the time at the client, the surroundings of the
handler of the check-in service, and where it sees the client. -/
structure Redemption where
  asked : UInt64
  io : Io
  clientIp : Endpoint

namespace Redemption

open PollbookClient (tlsRecord frame)

variable {ι : Type} (d : Deployment ι) (j : ι) (redemption : Redemption) (ticket : Bytes)
  (pin : UInt32)

def request : TicketRequest :=
  let body : TicketRequest.Body := ⟨(d.clients j).clientId, redemption.asked, ticket, pin⟩
  ⟨body, d.lib.sign (d.clients j).privateKeySigner (d.lib.render body.toJson)⟩

/-- The buffer of the write. -/
def requestFrame : Bytes :=
  frame (d.lib.render ((redemption.request d j ticket pin).toJson d.lib.toCodec))

/-- The write is one TLS record. -/
def Fits : Prop := (redemption.requestFrame d j ticket pin).length ≤ tlsRecord

instance : Decidable (redemption.Fits d j ticket pin) := inferInstanceAs (Decidable (_ ≤ _))

/-- An event of the client. -/
def event (completion : PollbookClient.Completion) : PollbookClient.Event :=
  ⟨⟨redemption.asked, true⟩, completion⟩

/-- The handlers of the two programs, one after the other, as in `Visit.run`. -/
def run (s : CheckinService) :
    Option (CheckinService × TicketResponse × Option (Bool × Bytes)) := do
  let client ← ((d.clients j).requestVerification d.lib redemption.asked ticket pin).value
  let (client, _) ← client.next d.lib (redemption.event .written)
  let (s', acts) ← CheckinService.next d.env s ⟨redemption.io, .lineRead redemption.clientIp⟩
  let (_, _, response) ← acts.findSome? Action.ticketReply
  guard redemption.io.writes
  let answer := d.lib.line (response.toJson d.lib.toCodec)
  let (client, _) ← client.next d.lib (redemption.event (.read answer))
  return (s', response, client.currentRequestPromise)

end Redemption

namespace Redemption

open PollbookClient (Requester tlsRecord frame)

variable {ι : Type} {d : Deployment ι} {j : ι} {redemption : Redemption} {ticket secret : Bytes}
  {voter : Voter} {since : Int} {s : CheckinService}

/-- The client is trusted and its key is known, its message has come in in time
and before the timer of the voter, who was accepted at the time `since`, expires;
what is written is written. The voter has not been checked in before. -/
structure InOrder (d : Deployment ι) (j : ι) (redemption : Redemption) (ticket : Bytes)
    (voter : Voter) (since : Int) (s : CheckinService) : Prop where
  connected : (d.clients j).checkinConnected = true
  trusted : (d.clients j).clientId ∈ d.checkinConfig.trustedClients
  key : s.clientVerifiers (d.clients j).clientId = some (d.clients j).privateKeySigner
  id : s.clientIdMap redemption.clientIp = some (d.clients j).clientId
  known : ∃ client, s.clients (d.clients j).clientId = some client
  delivered : redemption.Fits d j ticket voter.pin →
    Delivered (s.reads redemption.clientIp) (s.unread redemption.clientIp)
      (redemption.requestFrame d j ticket voter.pin)
  fresh : distance redemption.io.systemNow redemption.asked ≤
    d.checkinConfig.requestFreshnessInterval.toNat
  clock : s.steadyNow ≤ redemption.io.steadyNow
  early : redemption.io.steadyNow < since + minutes d.checkinConfig.timeoutInterval
  writes : redemption.io.writes = true
  unredeemed : s.voterStatusTable voter.uid ≠ some .checkedIn

/-- The timer of a voter who is held runs. -/
theorem InOrder.withinWindow (h : redemption.InOrder d j ticket voter since s)
    (hheld : CheckinService.Held d.checkinConfig voter.uid since s) (hbounded : s.Bounded d.env) :
    ∃ timer, s.requestTimers voter.uid = some timer ∧
      CheckinService.withinWindow d.checkinConfig timer redemption.io.steadyNow = true := by
  rcases hheld with hchecked | ⟨timer, htimer, hexpiry⟩ | hover
  · exact absurd hchecked h.unredeemed
  · refine ⟨timer, htimer, ?_⟩
    have hbound : timer.expiry ≤ s.steadyNow + minutes d.checkinConfig.timeoutInterval :=
      hbounded _ _ htimer
    have hclock := h.clock
    have hearly := h.early
    unfold CheckinService.withinWindow
    rw [Bool.and_eq_true, decide_eq_true_iff, decide_eq_true_iff]
    constructor
    · omega
    · omega
  · exact absurd (hover.trans h.clock) (Int.not_le.mpr h.early)

/-- The client with its request. -/
def asking (d : Deployment ι) (j : ι) (operation : PollbookClient.Operation) : Requester where
  toPollbookClient := d.clients j
  operation := some operation
  currentRequestPromise := none

end Redemption

end Pollbook
