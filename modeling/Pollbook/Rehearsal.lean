import Pollbook.Checkin.Startup
import Pollbook.IdService.Loop
import Pollbook.Lib.Reference
import Pollbook.Lib.Run

/-!
# A small polling place

One voter, one kiosk and one tablet, with the settings of the local test
deployment: the runs that show what the theorems are about take place here.
Texts are those of `Codec.reference`. A signature is the key followed by a
checksum of the message, so that it verifies for the message and the key it
was made with.
-/

namespace Pollbook

namespace Rehearsal

open CheckinService (next start)

/-! ## Keys and signatures -/

/-- A checksum modulo the prime `2^61 - 1`. -/
def checksum (message : Bytes) : Nat :=
  message.foldl (fun n b => (n * 257 + b.toNat + 1) % 2305843009213693951) 7

/-- The signature of a message. -/
def signatureOf (key : EnvelopeKey) (message : Bytes) : Bytes :=
  key.der ++ decimal (checksum message)

def idServiceKey : EnvelopeKey := ⟨[1]⟩
def checkinServiceKey : EnvelopeKey := ⟨[2]⟩
def kioskKey : EnvelopeKey := ⟨[3]⟩
def tabletKey : EnvelopeKey := ⟨[4]⟩

/-! ## The place -/

def voter : UInt32 := 1001

/-- The roll: one voter, with the PIN 4321. -/
def voterListFile : Bytes :=
  bytes "UID,PIN,Last Name,First Name,Middle Name,Address,City,State,Zip\n" ++
    bytes "1001,4321,Doe,Jane,Q,1 Elm St,Auburn,AL,36830\n"

def kioskId : UInt32 := 1
def tabletId : UInt32 := 2

def config : Config where
  requestFreshnessInterval := 5000
  timeoutInterval := 5
  voterListFile := voterListFile
  trustedClients := [tabletId]
  idServicePublicKey := idServiceKey
  localPrivateKey := checkinServiceKey
  clientKeysFolder := bytes "client_public_keys/"
  clientKeyFilePrefix := bytes "client_pubkey_"

def env : Env where
  toCodec := Codec.reference
  verify key message signature := .ok (signature == signatureOf key message)
  sign := signatureOf
  config := config

/-- Every key verifies what it signs. -/
theorem verifies (key : EnvelopeKey) : env.Verifies key := by
  intro message
  change Except.ok (signatureOf key message == signatureOf key message) = _
  rw [beq_self_eq_true]

/-- What the process finds when it starts: nothing. -/
def found : CheckinService.Surroundings where
  clientId := 0
  clientVerifiers := Map.empty
  clientPublicKeys := Map.empty
  pemFiles := Map.empty
  ticketValidationCsv := none
  steadyNow := 0

/-- The service before the first event. -/
def opening : CheckinService :=
  (CheckinService.construct found (Map.empty.set voter .eligible)).doAccept

/-- A roll whose rows have these UIDs. -/
theorem loadVoterList_rows {file header : Bytes} {rows : List Bytes} {uids : List UInt64}
    (hlines : lines file = header :: rows)
    (hheader : header.takeWhile (· ≠ comma) = bytes "UID")
    (huids : (rows.map fun row => stoul (row.takeWhile (· ≠ comma))) = uids.map .ok) :
    loadVoterList file =
      .ok (uids.foldl (fun table uid => table.emplace uid.toUInt32 .eligible) Map.empty) := by
  unfold loadVoterList
  simp only [hlines, List.headD_cons, List.tail_cons]
  rw [if_neg (fun hne => hne hheader)]
  clear hlines
  generalize Map.empty = table
  induction rows generalizing uids table with
  | nil =>
    cases uids with
    | nil => rfl
    | cons uid uids => cases huids
  | cons row rows ih =>
    cases uids with
    | nil => cases huids
    | cons uid uids =>
      rw [List.map_cons, List.map_cons, List.cons.injEq] at huids
      obtain ⟨huid, huids⟩ := huids
      rw [List.foldlM_cons, loadVoterRow, huid]
      exact ih huids _

theorem loadVoterList_roll :
    loadVoterList voterListFile = .ok (Map.empty.set voter .eligible) := by
  have hlines : lines voterListFile =
      [bytes "UID,PIN,Last Name,First Name,Middle Name,Address,City,State,Zip",
        bytes "1001,4321,Doe,Jane,Q,1 Elm St,Auburn,AL,36830"] := by decide +kernel
  exact @loadVoterList_rows _ _ _ [1001] hlines (by decide +kernel) (by decide +kernel)

theorem start_opening : start env found = .ok opening := by
  have hload : loadVoterList env.config.voterListFile = _ := loadVoterList_roll
  simp only [start, hload, bind, Except.bind]
  rfl

/-- The service before the first event, when it finds this. -/
def openingWith (found : CheckinService.Found) (keys : Keys) : CheckinService :=
  (CheckinService.construct (found.withKeys keys) (Map.empty.set voter .eligible)).doAccept

theorem boot_openingWith {e : Env} (found : CheckinService.Found) {keys : Keys}
    (hroll : e.config.voterListFile = voterListFile)
    (h : (Keys.onDisk found.pemFiles).loadClientPublicKeys e.config.clientKeyFilePrefix
      found.keyFiles = .ok keys) :
    CheckinService.boot e found = .ok (openingWith found keys) := by
  simp only [CheckinService.boot, hroll, loadVoterList_roll, h, bind, Except.bind]
  rfl

/-- Nothing is stored yet. -/
def emptyFolder : CheckinService.Found where
  clientId := 0
  pemFiles := Map.empty
  keyFiles := []
  ticketValidationCsv := none
  steadyNow := 0

theorem boot_emptyFolder :
    CheckinService.boot env emptyFolder = .ok (openingWith emptyFolder (Keys.onDisk Map.empty)) :=
  boot_openingWith emptyFolder rfl rfl

/-! ## Clocks and connections -/

/-- The surroundings `ms` milliseconds after the start. `seed` is the random
byte. -/
def instant (ms : Nat) (seed : UInt8) : Io where
  systemNow := UInt64.ofNat (1000000 + ms)
  steadyNow := ms * 1000000
  ticketRandom := some (Vector.replicate 16 seed)
  secretRandom := some (Vector.replicate 32 seed)
  csvOpens := true
  writes := true
  savesKey := true

def kioskIp : Endpoint := ⟨0x0A000001, 40001⟩
def tabletIp : Endpoint := ⟨0x0A000002, 40002⟩

/-- A client's certificate. -/
def certificate (clientId : UInt32) (key : EnvelopeKey) : Certificate where
  commonName := some (bytes "client " ++ decimal clientId.toNat)
  publicKey := some key

/-- A client connects. -/
def connect (io : Io) (clientIp : Endpoint) (cert : Option Certificate) : List Event :=
  [⟨io, .accepted clientIp⟩, ⟨io, .handshakeDone clientIp cert⟩]

/-- A client sends a message, with its size in front of it. -/
def send (io : Io) (clientIp : Endpoint) (message : Bytes) : List Event :=
  [⟨io, .received clientIp (decimal message.length ++ newline :: (message ++ [newline]))⟩,
    ⟨io, .lineRead clientIp⟩, ⟨io, .lineRead clientIp⟩]

/-! ## Messages -/

/-- The check-in request for the voter, made by the kiosk at a time. -/
def presentedId (timestamp : UInt64) : VoterIDRequest :=
  let body : VoterIDRequest.Body :=
    ⟨kioskId, timestamp, bytes "Doe", bytes "Q", bytes "Jane", bytes "ID-77"⟩
  ⟨body, signatureOf kioskKey (env.render (body.toJson env.toCodec))⟩

def statement (timestamp : UInt64) : Bytes :=
  env.render (idStatement env.toCodec (presentedId timestamp) voter)

def checkinBody (timestamp : UInt64) : CheckinRequest.Body :=
  ⟨kioskId, timestamp, bytes "Doe", bytes "Jane", bytes "Q", voter,
    ⟨presentedId timestamp, voter, signatureOf idServiceKey (statement timestamp)⟩⟩

def checkinBodyText (timestamp : UInt64) : Bytes :=
  env.render ((checkinBody timestamp).toJson env.toCodec)

def checkinRequest (timestamp : UInt64) : CheckinRequest :=
  ⟨checkinBody timestamp, signatureOf kioskKey (checkinBodyText timestamp)⟩

/-- The ticket the service makes from a random byte. -/
def ticket (seed : UInt8) : Bytes := hex (List.replicate 16 seed)

def ticketBody (timestamp : UInt64) (seed : UInt8) (pin : UInt32) : TicketRequest.Body :=
  ⟨tabletId, timestamp, ticket seed, pin⟩

def ticketRequest (timestamp : UInt64) (seed : UInt8) (pin : UInt32) : TicketRequest :=
  let body := ticketBody timestamp seed pin
  ⟨body, signatureOf tabletKey (env.render body.toJson)⟩

/-! ## A check-in -/

/-- The kiosk and the tablet connect. -/
def connections : List Event :=
  connect (instant 1 0) kioskIp (some (certificate kioskId kioskKey)) ++
    connect (instant 2 0) tabletIp (some (certificate tabletId tabletKey))

/-- The ID service and the kiosk sign, and the kiosk sends its request. -/
def checkin (ms : Nat) (seed : UInt8) : List Event :=
  let io := instant ms seed
  [⟨io, .signed idServiceKey (statement io.systemNow)⟩,
    ⟨io, .signed kioskKey (checkinBodyText io.systemNow)⟩] ++
  send io kioskIp (env.render ((checkinRequest io.systemNow).toJson env.toCodec))

/-- The tablet signs and sends a ticket and a PIN. -/
def redeem (ms : Nat) (seed : UInt8) (pin : UInt32) : List Event :=
  let io := instant ms seed
  [⟨io, .signed tabletKey (env.render (ticketBody io.systemNow seed pin).toJson)⟩] ++
  send io tabletIp (env.render ((ticketRequest io.systemNow seed pin).toJson env.toCodec))

/-- A timer expires, and its handler runs. -/
def timeout (ms : Nat) (id : Nat) : List Event :=
  [⟨instant ms 0, .timerExpired id⟩, ⟨instant ms 0, .timedOut id⟩]

/-- The whole check-in of the voter. -/
def checkinRun : List Event := connections ++ checkin 10 7 ++ redeem 20 7 4321

/-! ## The ID service -/

def idConfig : VoterIDService.Config where
  requestFreshnessInterval := 5000
  localPrivateKey := idServiceKey
  clientKeysFolder := bytes "client_public_keys/"
  clientKeyFilePrefix := bytes "client_pubkey_"

def idEnv : VoterIDService.Env where
  toLibraries := env.toLibraries
  config := idConfig

/-- The roll of the ID service. -/
def idVoterListFile : Bytes :=
  bytes "UID,Last Name,First Name,Middle Name,Address,City,State,Zip\n" ++
    bytes "1001,Doe,Jane,Q,1 Elm St,Auburn,AL,36830\n"

/-- What the ID service finds when it starts: its roll. -/
def idFound : VoterIDService.Surroundings where
  voterListFile := idVoterListFile
  pemFiles := Map.empty
  keyFiles := []

/-- The ID service before the first event. -/
def idOpening : VoterIDService.Process :=
  (VoterIDService.construct idFound (Keys.onDisk Map.empty)).doAccept

theorem start_idOpening : VoterIDService.start idEnv idFound = .ok idOpening := rfl

/-- The surroundings of the ID service `ms` milliseconds after the start. -/
def idInstant (ms : Nat) : VoterIDService.Io where
  systemNow := UInt64.ofNat (1000000 + ms)
  writes := true

/-- The kiosk's request for the voter with this ID data. -/
def idRequest (timestamp : UInt64) (voterIdData : Bytes) : VoterIDRequest :=
  let body : VoterIDRequest.Body :=
    ⟨kioskId, timestamp, bytes "Doe", bytes "Q", bytes "Jane", voterIdData⟩
  ⟨body, signatureOf kioskKey (env.render (body.toJson env.toCodec))⟩

/-- The voter's UID, as ID data. -/
def idData : Bytes := [0xE9, 0x03, 0, 0]

/-- The kiosk connects to the ID service and asks it to endorse the voter. -/
def idAsk : List VoterIDService.Event :=
  let request := env.render ((idRequest (idInstant 10).systemNow idData).toJson env.toCodec)
  let message := decimal request.length ++ newline :: (request ++ [newline])
  let occurrences : List VoterIDService.Occurrence :=
    [.accepted kioskIp, .handshakeDone kioskIp (some (certificate kioskId kioskKey)),
      .received kioskIp message, .lineRead kioskIp, .lineRead kioskIp]
  occurrences.map fun occurrence => ⟨idInstant 10, true, occurrence⟩

end Rehearsal

end Pollbook
