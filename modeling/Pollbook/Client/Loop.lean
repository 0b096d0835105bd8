import Pollbook.Checkin.Loop
import Pollbook.Client.Handlers

/-!
# The network thread of the client

A request is a chain of asynchronous operations, each started by the handler of
the one before. At most one is outstanding; when a handler starts none, the
request is over. `step` is what the handler does when its operation completes.
Nothing catches an exception on the network thread, except where a handler does.

The buffer of a write is a string of the function that starts it, and the
function returns before the write is over. What the stream takes at once is sent
as it is; it is one TLS record. A longer write goes on with a string that has
been destroyed.
-/

namespace Pollbook

namespace PollbookClient

open CheckinService (firstLine)

/-- The operation a request waits for: the writes of `start_id_request_write`,
`start_checkin_request_write` and `verify_ticket`, with the sizes of their
buffers, the two reads of `start_message_read`, and the reads of the responses.
The read of a check-in response goes on with the buffer in which its size came. -/
inductive Operation where
  | idRequestWrite (size : Nat)
  | idMessageRead
  | checkinRequestWrite (size : Nat)
  | checkinMessageRead
  | checkinResponseRead (buf : Bytes)
  | ticketRequestWrite (size : Nat)
  | ticketResponseRead
  deriving DecidableEq, Repr

/-- How an operation completes: a read with the bytes that came in meanwhile; a
write when its first record is sent, or it fails before. -/
inductive Completion where
  | written
  | read (bytes : Bytes)
  | failed (error : ReadError)
  deriving DecidableEq, Repr

/-- What a handler gets from its surroundings: the time, and whether memory can
be allocated. -/
structure Io where
  now : UInt64
  allocates : Bool

/-- A completion, with what its handler gets. -/
structure Event where
  io : Io
  completion : Completion

/-- The client with a request in progress. -/
structure Requester extends PollbookClient where
  operation : Option Operation
  /-- The value of the promise, once it is set. -/
  currentRequestPromise : Option (Bool × Bytes)

/-- The buffer a function called `async_write` with. -/
def Action.buffer : Action → Option Bytes
  | .wrote _ buffer => some buffer
  | _ => none

/-- A function that may start a write, and the size of its buffer. -/
def writing {α : Type} (call : Call Action α) : Call Action (α × Option Nat) :=
  match call with
  | .returned a actions =>
    .returned (a, (actions.findSome? Action.buffer).map List.length) actions
  | .threw trap actions => .threw trap actions

/-- `check_in_voter`, up to its return. -/
def requestCheckIn (lib : Libraries) (c : PollbookClient) (now : UInt64)
    (firstName middleName lastName voterIdData : Bytes) : Call Action Requester := do
  let (c, size) ← writing (c.checkInVoter lib now firstName middleName lastName voterIdData)
  return ⟨c, size.map .idRequestWrite, none⟩

/-- `verify_ticket`, up to its return. -/
def requestVerification (lib : Libraries) (c : PollbookClient) (now : UInt64) (ticket : Bytes)
    (pin : UInt32) : Call Action Requester := do
  let (_, size) ← writing (c.verifyTicket lib now ticket pin)
  return ⟨c, size.map .ticketRequestWrite, none⟩

/-! ## Handlers -/

/-- What the promise gets when an operation fails. -/
def failure : Operation → ReadError → Bytes
  | .idRequestWrite _, _ =>
    bytes "Network error: I/O error when sending a request to the Voter ID service"
  | .idMessageRead, .other =>
    bytes "Network error: I/O error when reading from Voter ID service"
  | .idMessageRead, _ => bytes "Network error: Voter ID service disconnected"
  | .checkinRequestWrite _, _ =>
    bytes "Network error: I/O error when sending a request to the check-in service"
  | .checkinMessageRead, .other | .checkinResponseRead _, .other =>
    bytes "Network error: I/O error when reading from the checkin service"
  | .checkinMessageRead, _ | .checkinResponseRead _, _ =>
    bytes "Network error: Checkin service disconnected"
  | .ticketRequestWrite _, _ =>
    bytes "Network error: I/O error when sending a verify_ticket request to the check-in service"
  | .ticketResponseRead, _ =>
    bytes "Network error: I/O error when reading verify_ticket response from the check-in service"

/-- `ss >> *message_size`: 0 without a number, the largest number if it does not
fit. -/
def extractSize (line : Bytes) : UInt64 :=
  let (negative, s) := sign (line.dropWhile isspace)
  let ds := s.takeWhile isdigit
  if ds = [] then 0
  else if 2 ^ 64 ≤ digitsValue ds then UInt64.ofNat (2 ^ 64 - 1)
  else if negative then -UInt64.ofNat (digitsValue ds) else UInt64.ofNat (digitsValue ds)

/-- `checkin_server_buffer.resize(message_size)`; what it throws without memory
is `std::bad_alloc`. -/
def resize (io : Io) (messageSize : UInt64) : Cpp Unit :=
  if 2 ^ 63 ≤ messageSize.toNat then .error (.lengthError "vector::_M_default_append")
  else if io.allocates then .ok ()
  else .error (.systemError "std::bad_alloc")

/-- The handler `start_message_read` installs for the check-in service: it goes
on with the rest of the buffer. -/
def checkinMessageRead (io : Io) (buf : Bytes) : Call Action (Option Operation) := do
  let line := firstLine buf
  Call.ofCpp (resize io (extractSize line))
  return some (.checkinResponseRead (buf.drop line.length))

/-- How much of a buffer the stream takes before `async_write` returns. -/
def tlsRecord : Nat := 16384

/-- The handler of a write whose first record is sent: it starts the next
operation, unless there is more to write. -/
def written (size : Nat) (operation : Operation) : Call Action (Option Operation) :=
  if size ≤ tlsRecord then return some operation
  else Call.threw (.undefined "async_write: the buffer is destroyed") []

/-- A handler that starts no operation. -/
def ended (call : Call Action Unit) : Call Action (Option Operation) := do
  call
  return none

/-- The handler of an operation that failed. -/
def failed (operation : Operation) (error : ReadError) : Call Action (Option Operation) := do
  Call.perform (.setValue false (failure operation error))
  return none

/-- The handler of a completed read: it needs a line. -/
def onLine (buf : Bytes) (handler : Bytes → Call Action (Option Operation)) :
    Option (Call Action (Option Operation)) :=
  if newline ∈ buf then some (handler (firstLine buf)) else none

namespace Requester

/-- What the handler of the outstanding operation does, and the operation it
starts; `none` when the operation cannot complete like that. -/
def handle (lib : Libraries) (io : Io) (s : Requester) :
    Completion → Option (Call Action (Option Operation))
  | .failed error => s.operation.map fun operation => failed operation error
  | .written =>
    match s.operation with
    | some (.idRequestWrite size) => some (written size .idMessageRead)
    | some (.checkinRequestWrite size) => some (written size .checkinMessageRead)
    | some (.ticketRequestWrite size) => some (written size .ticketResponseRead)
    | _ => none
  | .read bytes =>
    match s.operation with
    | some .idMessageRead =>
      onLine bytes fun line => do
        let (_, size) ← writing (s.idResponseRead lib io.now line)
        return size.map .checkinRequestWrite
    | some .checkinMessageRead =>
      if newline ∈ bytes then some (checkinMessageRead io bytes) else none
    | some (.checkinResponseRead buf) =>
      onLine (buf ++ bytes) fun line => ended (s.toPollbookClient.checkinResponseRead lib line)
    | some .ticketResponseRead => onLine bytes fun line => ended (s.ticketResponseRead lib line)
    | _ => none

/-- The promise after the actions of a handler. Setting it again throws. -/
def settle : Option (Bool × Bytes) → List Action → Call Action (Option (Bool × Bytes))
  | promise, [] => return promise
  | none, .setValue success message :: actions => do
    Call.perform (.setValue success message)
    settle (some (success, message)) actions
  | some _, .setValue _ _ :: _ =>
    Call.threw (.runtimeError "std::future_error: Promise already satisfied") []
  | promise, action :: actions => do
    Call.perform action
    settle promise actions

/-- One step. -/
def step (lib : Libraries) (s : Requester) (e : Event) : Option (Call Action Requester) :=
  (s.handle lib e.io e.completion).map fun call =>
    match call with
    | .threw trap actions => .threw trap actions
    | .returned operation actions => do
      let currentRequestPromise ← settle s.currentRequestPromise actions
      return { s with operation, currentRequestPromise }

/-- The step of a client whose network thread is still there afterwards. -/
def next (lib : Libraries) (s : Requester) (e : Event) : Option (Requester × List Action) :=
  match s.step lib e with
  | some (.returned s' actions) => some (s', actions)
  | _ => none

/-- The actions of the step at which an exception escapes. -/
def crash (lib : Libraries) (s : Requester) (e : Event) : Option (List Action) :=
  match s.step lib e with
  | some (.threw _ actions) => some actions
  | _ => none

/-! ## Request after request -/

/-- What happens at a client: its user calls `check_in_voter` or `verify_ticket`
when the last request is over, or the outstanding operation completes. -/
inductive Turn where
  | checkInVoter (now : UInt64) (firstName middleName lastName voterIdData : Bytes)
  | verifyTicket (now : UInt64) (ticket : Bytes) (pin : UInt32)
  | completed (e : Event)

/-- What the client does then. -/
def turn (lib : Libraries) (s : Requester) : Turn → Option (Call Action Requester)
  | .checkInVoter now firstName middleName lastName voterIdData =>
    if s.operation = none then
      some (s.toPollbookClient.requestCheckIn lib now firstName middleName lastName voterIdData)
    else none
  | .verifyTicket now ticket pin =>
    if s.operation = none then some (s.toPollbookClient.requestVerification lib now ticket pin)
    else none
  | .completed e => s.step lib e

/-- The turn of a client that is still there afterwards. A call that throws makes
no request: its exception goes to the user. -/
def nextTurn (lib : Libraries) (s : Requester) (t : Turn) : Option (Requester × List Action) :=
  match s.turn lib t with
  | some (.returned s' actions) => some (s', actions)
  | _ => none

/-- The actions of the turn at which the client ends. -/
def crashTurn (lib : Libraries) (s : Requester) : Turn → Option (List Action)
  | .completed e => s.crash lib e
  | _ => none

end Requester

/-- A client before its first request. -/
def idle (c : PollbookClient) : Requester where
  toPollbookClient := c
  operation := none
  currentRequestPromise := none

end PollbookClient

end Pollbook
