import Pollbook.System
import Pollbook.Verify.IdSurvival
import Pollbook.Verify.InOrder
import Pollbook.Verify.Interference
import Pollbook.Verify.Residents

/-!
# A call of check_in_voter

Three programs have a part in the call: the client writes an ID request, the ID
service endorses the voter, the client writes a check-in request, the check-in
service accepts the voter, and the client reads the response. Here their
handlers are put together, each at what the one before it wrote. Where all is
in order, the voter is accepted just when each write of the client is one TLS
record (`Visit.run_of_fits`, `Visit.run_of_not_fits`).
-/

namespace Pollbook

open CheckinService (firstLine)

/-! ## Messages that have come in -/

/-- All bytes of a buffer have come in, the first ones on the connection, and the
line of their size has been handled: the read that is outstanding, and what is
still unread. -/
structure Delivered (read : Option PendingRead) (unread buffer : Bytes) : Prop where
  size : ∃ n, stoul (firstLine buffer) = .ok n ∧ read = some (.payload n)
  payload : unread = buffer.drop (firstLine buffer).length

theorem delivered_frame_iff {read : Option PendingRead} {unread message : Bytes}
    (hsize : message.length < 2 ^ 64) :
    Delivered read unread (PollbookClient.frame message) ↔
      read = some (.payload (UInt64.ofNat message.length)) ∧ unread = message ++ [newline] := by
  constructor
  · rintro ⟨⟨n, hn, hread⟩, hunread⟩
    rw [stoul_firstLine_frame hsize, Except.ok.injEq] at hn
    rw [drop_firstLine_frame] at hunread
    exact ⟨hn ▸ hread, hunread⟩
  · rintro ⟨hread, hunread⟩
    exact ⟨⟨_, stoul_firstLine_frame hsize, hread⟩, by rw [drop_firstLine_frame, hunread]⟩

/-- The read completes with the message, and this has the announced size. -/
theorem Delivered.arrived {read : Option PendingRead} {unread message : Bytes}
    (h : Delivered read unread (PollbookClient.frame message)) (hline : newline ∉ message)
    (hsize : message.length < 2 ^ 64) :
    firstLine unread = message ++ [newline] ∧ ∃ n, read = some (.payload n) ∧ newline ∈ unread ∧
      n.toNat = (firstLine unread).length - 1 := by
  obtain ⟨hread, hunread⟩ := (delivered_frame_iff hsize).mp h
  have hfirst : firstLine unread = message ++ [newline] := by
    rw [hunread]
    exact Framing.line_append hline []
  refine ⟨hfirst, _, hread, ?_, ?_⟩
  · rw [hunread]
    exact List.mem_append_right _ (List.mem_singleton_self _)
  · rw [hfirst, UInt64.toNat_ofNat_of_lt' hsize, List.length_append, List.length_singleton,
      Nat.add_sub_cancel]

/-! ## Checking a voter in -/

/-- A call of `check_in_voter`: what the user types, the time at the client at the
call and when the ID service has answered, the surroundings of the handlers of
the services, and where they see the client. Of the response, `early` bytes come
in with its size. -/
structure Visit where
  firstName : Bytes
  middleName : Bytes
  lastName : Bytes
  idData : Bytes
  asked : UInt64
  endorsed : UInt64
  idIo : VoterIDService.Io
  io : Io
  idClientIp : Endpoint
  clientIp : Endpoint
  early : Nat

namespace Visit

variable {ι : Type} (d : Deployment ι) (i : ι) (visit : Visit) (uid : UInt32)

/-! The messages of the client and of the ID service. -/

def idRequest : VoterIDRequest :=
  let body : VoterIDRequest.Body :=
    ⟨(d.clients i).clientId, visit.asked, visit.lastName, visit.middleName, visit.firstName,
      PollbookClient.littleEndian uid ++ visit.idData⟩
  ⟨body, d.lib.sign (d.clients i).privateKeySigner (d.lib.render (body.toJson d.lib.toCodec))⟩

def verifiedId : VerifiedVoterID :=
  VoterIDService.verifiedVoterID d.idEnv (visit.idRequest d i uid) uid

def checkinRequest : CheckinRequest :=
  let body : CheckinRequest.Body :=
    ⟨(d.clients i).clientId, visit.endorsed, visit.lastName, visit.firstName, visit.middleName,
      uid, visit.verifiedId d i uid⟩
  ⟨body, d.lib.sign (d.clients i).privateKeySigner (d.lib.render (body.toJson d.lib.toCodec))⟩

/-- The check-in service's response when it accepts the voter. -/
def response (ticket : Bytes) : CheckinResponse :=
  d.env.signCheckinResponse
    (CheckinService.checkinResponseBody visit.io (visit.checkinRequest d i uid) true ticket)

/-- The buffer of the first write. -/
def idFrame : Bytes :=
  PollbookClient.frame (d.lib.render ((visit.idRequest d i uid).toJson d.lib.toCodec))

/-- The buffer of the second write. -/
def checkinFrame : Bytes :=
  PollbookClient.frame (d.lib.render ((visit.checkinRequest d i uid).toJson d.lib.toCodec))

/-- Each write is one TLS record. -/
def Fits : Prop :=
  (visit.idFrame d i uid).length ≤ PollbookClient.tlsRecord ∧
    (visit.checkinFrame d i uid).length ≤ PollbookClient.tlsRecord

instance : Decidable (visit.Fits d i uid) := inferInstanceAs (Decidable (_ ∧ _))

/-- An event of the client. -/
def event (completion : PollbookClient.Completion) : PollbookClient.Event :=
  ⟨⟨visit.endorsed, true⟩, completion⟩

/-- The handlers of the three programs, one after the other, from the call to the
promise, when the messages of the client have come in at the services; the voter's
number is in front of the ID data, where `checkInVoterAs` puts it. The check-in
service afterwards, its response, and the value of the promise; there is none
if one of the handlers does not do what the next one needs. -/
def run (p : VoterIDService.Process) (s : CheckinService) :
    Option (CheckinService × CheckinResponse × Option (Bool × Bytes)) := do
  let client ← ((d.clients i).requestCheckIn d.lib visit.asked visit.firstName visit.middleName
    visit.lastName (PollbookClient.littleEndian uid ++ visit.idData)).value
  let (client, _) ← client.next d.lib (visit.event .written)
  let (_, acts) ← VoterIDService.Process.next d.idEnv p
    ⟨visit.idIo, true, .lineRead visit.idClientIp⟩
  let (_, answer) ← acts.findSome? VoterIDService.Action.sent
  let (client, _) ← client.next d.lib (visit.event (.read answer))
  let (client, _) ← client.next d.lib (visit.event .written)
  let (s', acts) ← CheckinService.next d.env s ⟨visit.io, .lineRead visit.clientIp⟩
  let (_, _, response) ← acts.findSome? Action.checkinReply
  let reply := PollbookClient.frame (d.lib.render (response.toJson d.lib.toCodec))
  let cut := (firstLine reply).length + visit.early
  let (client, _) ← client.next d.lib (visit.event (.read (reply.take cut)))
  let (client, _) ← client.next d.lib (visit.event (.read (reply.drop cut)))
  return (s', response, client.currentRequestPromise)

end Visit

/-! ## A call that is in order -/

namespace Visit

open PollbookClient (Requester tlsRecord frame littleEndian)
open VoterIDService (tolower)

variable {ι : Type} {d : Deployment ι} {i : ι} {visit : Visit} {voter : Voter}
  {p : VoterIDService.Process} {s : CheckinService}

/-- The user gives the voter's names in any letter case, the client is not
trusted and its key is known, its messages have come in in time, what is written
is written, there are random bytes and the voter is eligible. Of a message that
is longer than a record, nothing is said to have come in. -/
structure InOrder (d : Deployment ι) (i : ι) (visit : Visit) (voter : Voter)
    (p : VoterIDService.Process) (s : CheckinService) : Prop where
  firstName : visit.firstName.map tolower = voter.firstName.map tolower
  middleName : visit.middleName.map tolower = voter.middleName.map tolower
  lastName : visit.lastName.map tolower = voter.lastName.map tolower
  checkinConnected : (d.clients i).checkinConnected = true
  idConnected : (d.clients i).idConnected = true
  untrusted : (d.clients i).clientId ∉ d.checkinConfig.trustedClients
  idKey : p.clientVerifiers (d.clients i).clientId = some (d.clients i).privateKeySigner
  key : s.clientVerifiers (d.clients i).clientId = some (d.clients i).privateKeySigner
  id : s.clientIdMap visit.clientIp = some (d.clients i).clientId
  known : ∃ client, s.clients (d.clients i).clientId = some client
  idDelivered : (visit.idFrame d i voter.uid).length ≤ tlsRecord →
    Delivered (p.reads visit.idClientIp) (p.unread visit.idClientIp) (visit.idFrame d i voter.uid)
  delivered : visit.Fits d i voter.uid →
    Delivered (s.reads visit.clientIp) (s.unread visit.clientIp) (visit.checkinFrame d i voter.uid)
  idFresh : distance visit.idIo.systemNow visit.asked ≤ d.idConfig.requestFreshnessInterval.toNat
  fresh : distance visit.io.systemNow visit.endorsed ≤
    d.checkinConfig.requestFreshnessInterval.toNat
  clock : s.steadyNow ≤ visit.io.steadyNow
  idWrites : visit.idIo.writes = true
  writes : visit.io.writes = true
  csvOpens : visit.io.csvOpens = true
  ticketRandom : visit.io.ticketRandom.isSome = true
  secretRandom : visit.io.secretRandom.isSome = true
  reply : ∀ t, visit.io.ticketRandom = some t → (d.lib.render
    ((visit.response d i voter.uid (hex t.toList)).toJson d.lib.toCodec)).length < 2 ^ 63
  eligible : s.voterStatusTable voter.uid = some .eligible

/-- The client with its first request. -/
def asking (d : Deployment ι) (i : ι) (visit : Visit) (operation : PollbookClient.Operation) :
    Requester where
  toPollbookClient := { d.clients i with
    currentRequestVoterName := (visit.firstName, visit.middleName, visit.lastName) }
  operation := some operation
  currentRequestPromise := none

end Visit

end Pollbook
