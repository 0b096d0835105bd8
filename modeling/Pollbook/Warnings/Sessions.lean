import Pollbook.Lib.Map
import Pollbook.Warnings.Server

/-!
# The sessions of the query server

`handle_session` keeps a buffer for each connection and reads it line by line:
a line is a command, and the next one is read when the response to it has been
written. What comes in meanwhile stays in the socket. The server accepts the
next connection at once. A session that fails is gone without a word.
-/

namespace Pollbook

namespace WarningQueryServer

/-- What a session waits for: the end of `async_read_until`, or of
`async_write`. -/
inductive Awaited where
  | line
  | written
  deriving DecidableEq, Repr

structure Session where
  /-- The `streambuf`. -/
  unread : Bytes
  awaited : Awaited
  deriving DecidableEq, Repr

/-- The server, with the cache it serves. -/
structure Process where
  sink : Option WarningCacheSink
  sessions : Map Nat Session
  /-- How many connections have been accepted. -/
  accepted : Nat

/-- What can happen next. -/
inductive Occurrence where
  /-- A message reaches the sink. -/
  | logged (level : Level) (formatted : Bytes)
  /-- `async_accept` completes. -/
  | accepted
  /-- `async_accept` completes with an error. -/
  | acceptFailed
  /-- Bytes come in, while a read that has seen no newline is outstanding. -/
  | received (session : Nat) (bytes : Bytes)
  /-- `async_read_until` completes: the buffer has a newline. -/
  | lineRead (session : Nat)
  /-- `async_read_until` completes with an error. -/
  | readFailed (session : Nat)
  /-- `async_write` completes. -/
  | written (session : Nat)
  /-- `async_write` completes with an error. -/
  | writeFailed (session : Nat)
  deriving DecidableEq

namespace Process

/-- `handle_session`, up to its first read. -/
def handleSession (s : Process) : Process :=
  { s with
    sessions := s.sessions.set s.accepted ⟨[], .line⟩
    accepted := s.accepted + 1 }

/-- `std::getline` on the buffer of a session: the line, and what stays. -/
def getline (unread : Bytes) : Bytes × Bytes :=
  (unread.takeWhile (· ≠ newline), (unread.dropWhile (· ≠ newline)).tail)

/-- One step, with the commands it executed and their responses, or the message
it logged. `none` when the occurrence cannot happen or the process ends. -/
def next (codec : Codec) (s : Process) :
    Occurrence → Option (Process × List (Event × List Response))
  | .logged level formatted =>
    (WarningQueryServer.next codec s.sink (.logged level formatted)).map fun r =>
      ({ s with sink := r.1 }, [(.logged level formatted, r.2)])
  | .accepted => some (s.handleSession, [])
  | .acceptFailed => some (s, [])
  | .received k bytes =>
    match s.sessions k with
    | some ⟨unread, .line⟩ =>
      if newline ∈ unread then none
      else some ({ s with sessions := s.sessions.set k ⟨unread ++ bytes, .line⟩ }, [])
    | _ => none
  | .lineRead k =>
    match s.sessions k with
    | some ⟨unread, .line⟩ =>
      if newline ∈ unread then
        let (command, rest) := getline unread
        (WarningQueryServer.next codec s.sink (.command k command)).map fun r =>
          ({ s with sink := r.1, sessions := s.sessions.set k ⟨rest, .written⟩ },
            [(.command k command, r.2)])
      else none
    | _ => none
  | .readFailed k =>
    match s.sessions k with
    | some ⟨_, .line⟩ => some ({ s with sessions := s.sessions.erase k }, [])
    | _ => none
  | .written k =>
    match s.sessions k with
    | some ⟨unread, .written⟩ =>
      some ({ s with sessions := s.sessions.set k ⟨unread, .line⟩ }, [])
    | _ => none
  | .writeFailed k =>
    match s.sessions k with
    | some ⟨_, .written⟩ => some ({ s with sessions := s.sessions.erase k }, [])
    | _ => none

/-- The server before its first connection. -/
def start (sink : Option WarningCacheSink) : Process := ⟨sink, Map.empty, 0⟩

end Process

end WarningQueryServer

end Pollbook
