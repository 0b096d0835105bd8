import Pollbook.Lib.Codec
import Pollbook.Lib.Run

/-!
# The warning cache and its query server

`WarningCacheSink` keeps the warnings the logger formatted, and
`WarningQueryServer` lets any number of sessions look at them and remove them.
Every command takes the lock of the sink once, so a command is one step, and so
is a message that reaches the sink. A session sends its next command when the
response to the last one has been written.

The response is a string of the handler, which returns before the write is over.
What the socket takes at once is sent as it is, and `async_write` gives it 64 KiB
of the string; the rest would be read after the string has been destroyed. Here a
socket takes what it is given.
-/

namespace Pollbook

/-- A warning in the cache. Its number, the count of the warnings before it,
tells apart warnings with the same text; no command reads it. -/
structure Warning where
  number : Nat
  text : Bytes
  deriving DecidableEq, Repr

/-- `spdlog::level` -/
inductive Level where
  | trace
  | debug
  | info
  | warn
  | err
  | critical
  deriving DecidableEq, Repr

/-! ## The sink -/

structure WarningCacheSink where
  warnings : List Warning
  /-- How many warnings have been entered. -/
  logged : Nat

namespace WarningCacheSink

/-- `WarningCacheSink::sink_it_`, given the text of the formatted message. -/
def sinkIt (s : WarningCacheSink) (level : Level) (formatted : Bytes) : WarningCacheSink :=
  if level = .warn then
    { warnings := s.warnings ++ [⟨s.logged, formatted⟩], logged := s.logged + 1 }
  else s

/-- `WarningCacheSink::clear` -/
def clear (s : WarningCacheSink) : WarningCacheSink := { s with warnings := [] }

/-- `WarningCacheSink::remove_warning_at` -/
def removeWarningAt (s : WarningCacheSink) (index : UInt64) : Bool × WarningCacheSink :=
  if s.warnings.length ≤ index.toNat then (false, s)
  else (true, { s with warnings := s.warnings.eraseIdx index.toNat })

end WarningCacheSink

namespace LogUtils

/-- `LogUtils::clear_warning_cache`; the sink is there if the cache is enabled. -/
def clearWarningCache (sink : Option WarningCacheSink) : Option WarningCacheSink :=
  sink.map (·.clear)

/-- `LogUtils::remove_warning_at_index` -/
def removeWarningAtIndex (sink : Option WarningCacheSink) (index : UInt64) :
    Bool × Option WarningCacheSink :=
  match sink with
  | some s => ((s.removeWarningAt index).1, some (s.removeWarningAt index).2)
  | none => (false, none)

/-- `LogUtils::get_warning_cache_snapshot` -/
def getWarningCacheSnapshot (sink : Option WarningCacheSink) : List Warning :=
  (sink.map (·.warnings)).getD []

end LogUtils

/-! ## Commands and responses -/

namespace WarningQueryServer

/-- What a response says. -/
inductive Reply where
  | warnings (warnings : List Warning)
  | cleared
  | removed (index : UInt64)
  | invalidIndex
  | invalidIndexFormat
  | unknownCommand
  deriving DecidableEq

/-- The body of a response. -/
def Reply.body (codec : Codec) : Reply → Cpp Bytes
  | warnings ws =>
    codec.dump (.object [("warnings", .array (ws.map fun w => .string w.text))])
  | cleared => codec.dump (.object [("status", .string (bytes "ok"))])
  | removed index =>
    codec.dump (.object [("index", .numberUnsigned index), ("status", .string (bytes "removed"))])
  | invalidIndex => codec.dump (.object [("error", .string (bytes "invalid index"))])
  | invalidIndexFormat => .ok (bytes "\x7b\"error\": \"invalid index format\"\x7d")
  | unknownCommand => .ok (bytes "\x7b\"error\": \"unknown command\"\x7d")

/-- `"remove_warning "` -/
def removeWarning : Bytes := bytes "remove_warning "

/-- What a command does, in the handler `handle_session` installs. -/
def command (sink : Option WarningCacheSink) (command : Bytes) :
    Option WarningCacheSink × Reply :=
  if command = bytes "get_warnings" then (sink, .warnings (LogUtils.getWarningCacheSnapshot sink))
  else if command = bytes "clear_warnings" then (LogUtils.clearWarningCache sink, .cleared)
  else if removeWarning.isPrefixOf command then
    match stoul (command.drop removeWarning.length) with
    | .ok index =>
      let (success, sink) := LogUtils.removeWarningAtIndex sink index
      (sink, if success then .removed index else .invalidIndex)
    | .error _ => (sink, .invalidIndexFormat)
  else (sink, .unknownCommand)

/-- What can happen next: a message reaches the sink, or a command line of a
session is read. -/
inductive Event where
  | logged (level : Level) (formatted : Bytes)
  | command (session : Nat) (line : Bytes)

/-- A response to a session. -/
structure Response where
  session : Nat
  reply : Reply
  body : Bytes

/-- How much of a response `async_write` sends before it returns. -/
def atOnce : Nat := 65536

/-- One step. Nothing catches what `dump` throws for a warning that is not
UTF-8: the process is gone then. What it does after a response that is too long
is undefined. -/
def next (codec : Codec) (sink : Option WarningCacheSink) :
    Event → Option (Option WarningCacheSink × List Response)
  | .logged level formatted => some (sink.map (·.sinkIt level formatted), [])
  | .command session line =>
    let (sink, reply) := command sink line
    match reply.body codec with
    | .ok body =>
      if body.length < atOnce then some (sink, [⟨session, reply, body ++ [newline]⟩]) else none
    | .error _ => none

end WarningQueryServer

end Pollbook
