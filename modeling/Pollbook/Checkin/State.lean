import Pollbook.Common

/-!
# The state of the check-in service

The members of `CheckinService` (`checkin_service.hpp`), and behind them what
the process keeps in asio's `io_context`, in its files and in the fault
tracker. The members set once by the constructor and never assigned again are
in `Env`, with the library functions the service calls.

`CheckinService` is put together from three parts, because most handlers
change one of them only: the voters' check-in sessions, the client keys and
the connections.
-/

namespace Pollbook

/-! ## Time -/

/-- A duration of the clocks, which count nanoseconds in an `int64_t`. What is
out of its range wraps around. -/
def nanoseconds (count : Int) : Int := count.bmod (2 ^ 64)

theorem nanoseconds_eq {count : Int} (hlo : -2 ^ 63 ≤ count) (hhi : count < 2 ^ 63) :
    nanoseconds count = count := by
  apply Int.bmod_eq_of_le
  · omega
  · omega

/-! ## Voters and their sessions -/

inductive VoterStatus where
  | eligible
  | pending
  | checkedIn
  deriving DecidableEq, Repr

/-- `struct Timer`, behind its `shared_ptr`. The number stands for the pointer:
no two `Timer` objects of a process share it. `expiry` is a reading of the
steady clock, in nanoseconds. -/
structure Timer where
  id : Nat
  voterId : UInt32
  expiry : Int
  deriving DecidableEq, Repr

/-- An `async_wait` on a `steady_timer`: cancelling stops it only while it is
still waiting; once it has expired its handler is queued and will run with
success. -/
inductive WaitStatus where
  | waiting
  | queued
  | cancelled
  deriving DecidableEq, Repr

/-- One `async_wait`, with the voter its handler captured. -/
structure Wait where
  voterId : UInt32
  expiry : Int
  status : WaitStatus
  deriving DecidableEq, Repr

/-- The voters' statuses, their timers and tickets, and the ticket file. -/
structure Sessions where
  voterStatusTable : Map UInt32 VoterStatus
  requestTimers : Map UInt32 Timer
  /-- The outstanding waits of the `io_context`, by timer. -/
  waits : Map Nat Wait
  /-- How many `Timer` objects have been made. -/
  timers : Nat
  clientTicketsMap : Map Bytes (UInt32 × Bytes)
  /-- `ticket_validation.csv`, if it is there. -/
  ticketValidationCsv : Option Bytes

/-! ## Connections -/

inductive ClientType where
  | untrustedClient
  | trustedClient
  deriving DecidableEq, Repr

structure ClientInfo where
  id : UInt32
  type : ClientType
  deriving DecidableEq, Repr

/-- An outstanding `async_read_until` and the handler it has: `start_size_read`
or `start_payload_read` with the announced size. -/
inductive PendingRead where
  | size
  | payload (sizeOfMessage : UInt64)
  deriving DecidableEq, Repr

/-- The clients and their connections. `client_sockets` is left out: nothing
is ever put into it. -/
structure Connections where
  clients : Map UInt32 ClientInfo
  /-- The streams, numbered in the order they were made. -/
  clientSslStreams : Map Endpoint Nat
  clientBuffers : Map Endpoint Bytes
  clientIdMap : Map Endpoint UInt32
  /-- How many streams have been made. -/
  streams : Nat
  /-- How many `async_accept`s are outstanding. -/
  accepts : Nat
  /-- The peers whose `async_handshake` is outstanding. -/
  handshakes : List Endpoint
  /-- The outstanding reads, by peer. -/
  reads : Map Endpoint PendingRead

/-! ## The service -/

/-- `FaultTracker::clientMap`: the `faultDescriptions` of each record. -/
abbrev ClientMap := Map UInt32 (List String)

/-- `FaultTracker::reportFault` -/
def ClientMap.reportFault (m : ClientMap) (clientId : UInt32) (faultDesc : String) : ClientMap :=
  m.set clientId ((m clientId).getD [] ++ [faultDesc])

/-- The service. -/
structure CheckinService extends Sessions, Keys, Connections where
  /-- The member `client_id`: the client whose message was dispatched last.
  The constructor leaves it indeterminate. -/
  clientId : UInt32
  /-- The last reading of the steady clock. -/
  steadyNow : Int
  faultTracker : ClientMap

/-- The configuration file's values, and the contents of the files it names. -/
structure Config where
  /-- in milliseconds -/
  requestFreshnessInterval : UInt32
  /-- in minutes -/
  timeoutInterval : Int32
  voterListFile : Bytes
  /-- The set `load_trusted_clients` returned. -/
  trustedClients : List UInt32
  idServicePublicKey : EnvelopeKey
  /-- The key pair of the service, by its public half. -/
  localPrivateKey : EnvelopeKey
  clientKeysFolder : Bytes
  clientKeyFilePrefix : Bytes

/-- What does not change while the process runs: the libraries and the
configuration. -/
structure Env extends Libraries where
  config : Config

/-- What one completion handler gets from its surroundings: the readings of
the clocks, the random bytes, and how its writes end. -/
structure Io where
  /-- `system_clock::now()` in milliseconds -/
  systemNow : UInt64
  /-- `steady_clock::now()` in nanoseconds -/
  steadyNow : Int
  /-- `RAND_bytes` for the ticket, if it succeeds. -/
  ticketRandom : Option (Vector UInt8 16)
  /-- `RAND_bytes` for the secret, if it succeeds. -/
  secretRandom : Option (Vector UInt8 32)
  /-- `ticket_validation.csv` opens for appending. -/
  csvOpens : Bool
  /-- `asio::write` succeeds. -/
  writes : Bool
  /-- A new client's key file can be written. -/
  savesKey : Bool

/-- What a handler does that others can see: a signature that verified, a
message handed to the handler of its client's type, a fault, an answer
together with the request it answers. A `checkinAnswer` was written; a
`ticketAnswer` was given to `write`, whose failure is only logged. -/
inductive Action where
  | verified (key : EnvelopeKey) (message signature : Bytes)
  | dispatched (clientIp : Endpoint) (clientId : UInt32) (type : ClientType) (msgString : Bytes)
  | reportFault (clientId : UInt32) (faultDesc : String)
  | checkinAnswer (clientIp : Endpoint) (request : CheckinRequest) (response : CheckinResponse)
  | ticketAnswer (clientIp : Endpoint) (request : TicketRequest) (response : TicketResponse)
  deriving DecidableEq

end Pollbook
