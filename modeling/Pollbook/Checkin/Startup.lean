import Pollbook.Checkin.Loop
import Pollbook.Keys
import Pollbook.Lib.Run

/-!
# The start of the check-in service

`start` takes the client keys as they are after `load_client_public_keys`.
`boot` is the whole constructor: it reads the key folder too.
-/

namespace Pollbook

namespace CheckinService

/-! ## The trusted clients -/

/-- `iss >> client_id` into a `uint32_t`: white space, an optional sign and
digits, as for `stoul`, but more than 32 bits are an error. A minus sign negates
modulo `2^32`. -/
def extractUInt32 (line : Bytes) : Option UInt32 :=
  let (negative, s) := sign (line.dropWhile isspace)
  let ds := s.takeWhile isdigit
  if ds = [] ∨ 2 ^ 32 ≤ digitsValue ds then none
  else some (if negative then -UInt32.ofNat (digitsValue ds) else UInt32.ofNat (digitsValue ds))

/-- `CheckinService::load_trusted_clients` on the contents of the file; lines
without a number are skipped. -/
def loadTrustedClients (file : Bytes) : List UInt32 := (lines file).filterMap extractUInt32

/-! ## Startup -/

/-- What the constructor finds: the member it leaves alone, the files, the
entries of the key folder in the order they are listed, and the clock. -/
structure Found where
  clientId : UInt32
  pemFiles : Map Bytes PemFile
  keyFiles : List (Bytes × PemFile)
  ticketValidationCsv : Option Bytes
  steadyNow : Int

/-- The surroundings once the keys are loaded. -/
def Found.withKeys (found : Found) (keys : Keys) : Surroundings where
  clientId := found.clientId
  clientVerifiers := keys.clientVerifiers
  clientPublicKeys := keys.clientPublicKeys
  pemFiles := keys.pemFiles
  ticketValidationCsv := found.ticketValidationCsv
  steadyNow := found.steadyNow

/-- The constructor, and `run` up to the event loop. -/
def boot (env : Env) (found : Found) : Cpp CheckinService := do
  let voterStatusTable ← loadVoterList env.config.voterListFile
  let keys ← (Keys.onDisk found.pemFiles).loadClientPublicKeys env.config.clientKeyFilePrefix
    found.keyFiles
  pure (construct (found.withKeys keys) voterStatusTable).doAccept

theorem boot_eq_ok {env : Env} {found : Found} {s : CheckinService} :
    boot env found = .ok s ↔
      ∃ keys, (Keys.onDisk found.pemFiles).loadClientPublicKeys env.config.clientKeyFilePrefix
          found.keyFiles = .ok keys ∧
        start env (found.withKeys keys) = .ok s := by
  unfold boot start
  simp only [bind_eq_ok]
  constructor
  · rintro ⟨table, htable, keys, hkeys, hs⟩
    exact ⟨keys, hkeys, table, htable, hs⟩
  · rintro ⟨keys, hkeys, table, htable, hs⟩
    exact ⟨table, htable, keys, hkeys, hs⟩

/-! ## Restarts -/

/-- What a restart adds to the files the last process has left: the member the
constructor leaves alone, the order in which the key folder is listed, and the
clock. If the last process ended with the answer to an accepted check-in request
still to be written, its voter, ticket and secret are `unanswered`. -/
structure Reboot where
  clientId : UInt32
  keyFiles : List (Bytes × PemFile)
  unanswered : Option (UInt32 × Vector UInt8 16 × Vector UInt8 32)
  steadyNow : Int

/-- `ticket_validation.csv` as the last process leaves it: the line of an
accepted request is written before the answer. -/
def Reboot.csv (r : Reboot) (s : CheckinService) : Option Bytes :=
  match r.unanswered with
  | none => s.ticketValidationCsv
  | some (voterId, ticket, secret) =>
    (s.toSessions.writeToCsv true (hex ticket.toList) (hex secret.toList)
      voterId).ticketValidationCsv

/-- What the next process finds. -/
def Reboot.found (r : Reboot) (s : CheckinService) : Found where
  clientId := r.clientId
  pemFiles := s.pemFiles
  keyFiles := r.keyFiles
  ticketValidationCsv := r.csv s
  steadyNow := r.steadyNow

/-- The process ends, and the service is started again. -/
def reboot (env : Env) (s : CheckinService) (r : Reboot) : Option CheckinService :=
  (boot env (r.found s)).toOption

theorem reboot_eq_some {env : Env} {s s' : CheckinService} {r : Reboot} :
    reboot env s r = some s' ↔ boot env (r.found s) = .ok s' := by
  unfold reboot
  cases boot env (r.found s) with
  | error trap =>
    constructor
    · rintro ⟨⟩
    · rintro ⟨⟩
  | ok m => exact ⟨fun h => congrArg _ (Option.some.inj h), fun h => congrArg _ (Except.ok.inj h)⟩

/-- The service over any number of processes, one after the other. -/
def life (env : Env) : CheckinService → Event ⊕ Reboot → Option (CheckinService × List Action) :=
  withRestarts (next env) (reboot env)

end CheckinService

end Pollbook
