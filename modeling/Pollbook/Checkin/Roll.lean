import Pollbook.Checkin.State

/-!
# The files the service reads row by row

The check-in roll is read twice, by `load_voter_list` at startup and by
`find_voter` for each ticket request; the ticket file is appended to by
`write_to_csv` and read back by `read_from_csv`.
-/

namespace Pollbook

/-! ## The roll -/

/-- The entries of the map `find_voter` returns that are read again. An entry
that is not there reads as the empty string. -/
structure VoterInfo where
  lastName : Bytes
  firstName : Bytes
  middleName : Bytes
  pin : Bytes
  deriving DecidableEq, Repr

/-- A line of the roll, as the nine `getline`s of `find_voter` take it apart:
the UID column and the voter. -/
def voterRow (line : Bytes) : Option (Bytes × VoterInfo) := do
  let (uid, rest) ← getline comma line
  let (pin, rest) ← getline comma rest
  let (lastName, rest) ← getline comma rest
  let (firstName, rest) ← getline comma rest
  let (middleName, rest) ← getline comma rest
  let (_, rest) ← getline comma rest
  let (_, rest) ← getline comma rest
  let (_, rest) ← getline comma rest
  let (_, _) ← getline newline rest
  pure (uid, ⟨lastName, firstName, middleName, pin⟩)

/-- `CheckinService::find_voter` on the contents of the roll. -/
def findVoter (voterListFile : Bytes) (id : UInt32) : VoterInfo :=
  let row := (lines voterListFile).findSome? fun line =>
    (voterRow line).bind fun r => if r.1 = decimal id.toNat then some r.2 else none
  row.getD ⟨[], [], [], []⟩

/-- A row of the roll is entered into the status table. -/
def loadVoterRow (table : Map UInt32 VoterStatus) (line : Bytes) :
    Cpp (Map UInt32 VoterStatus) := do
  let uid ← stoul (line.takeWhile (· ≠ comma))
  pure (table.emplace uid.toUInt32 .eligible)

/-- `CheckinService::load_voter_list` on the contents of the roll. -/
def loadVoterList (voterListFile : Bytes) : Cpp (Map UInt32 VoterStatus) :=
  let headerLine := (lines voterListFile).headD []
  if headerLine.takeWhile (· ≠ comma) ≠ bytes "UID" then
    .error (.runtimeError "Voter CSV file did not have the expected column headers")
  else (lines voterListFile).tail.foldlM loadVoterRow Map.empty

/-- Every voter starts eligible. -/
theorem loadVoterList_eligible {voterListFile : Bytes} {table : Map UInt32 VoterStatus}
    (h : loadVoterList voterListFile = .ok table) {v : UInt32} {status : VoterStatus}
    (hv : table v = some status) : status = .eligible := by
  have hrows : ∀ (rows : List Bytes) (start : Map UInt32 VoterStatus),
      (∀ v status, start v = some status → status = .eligible) →
      rows.foldlM loadVoterRow start = .ok table →
      ∀ v status, table v = some status → status = .eligible := by
    intro rows
    induction rows with
    | nil =>
      rintro start hstart ⟨⟩
      exact hstart
    | cons row rows ih =>
      intro start hstart hload
      rw [List.foldlM_cons] at hload
      unfold loadVoterRow at hload
      cases huid : stoul (row.takeWhile (· ≠ comma)) with
      | error trap =>
        rw [huid] at hload
        cases hload
      | ok uid =>
        rw [huid] at hload
        refine ih (start.emplace uid.toUInt32 .eligible) (fun v status hstatus => ?_) hload
        cases huid' : start uid.toUInt32 with
        | some _ =>
          rw [Map.emplace_of_some huid'] at hstatus
          exact hstart v status hstatus
        | none =>
          rw [Map.emplace_of_none huid', Map.set_apply] at hstatus
          split at hstatus
          · exact (Option.some.inj hstatus).symm
          · exact hstart v status hstatus
  unfold loadVoterList at h
  dsimp only at h
  split at h
  · cases h
  · exact hrows _ _ (fun v status hempty => by cases hempty) h v status hv

/-! ## The ticket file -/

/-- `CheckinService::generate_secret`, given what `RAND_bytes` filled in. -/
def generateSecret (random : Option Bytes) : Cpp Bytes :=
  match random with
  | some bytes => .ok (hex bytes)
  | none => .error (.runtimeError "Failed to generate secret")

/-- A line of the ticket file, as `read_from_csv` takes it apart; a line it
complains about has no entry. -/
def ticketRow (line : Bytes) : Option (Bytes × (UInt32 × Bytes)) := do
  let (ticket, rest) ← getline comma line
  let (idStr, rest) ← getline comma rest
  let (secret, _) ← getline newline rest
  match stoul idStr with
  | .ok id => some (ticket, (id.toUInt32, secret))
  | .error _ => none

/-- The line `write_to_csv` appends. -/
def ticketLine (ticket secret : Bytes) (id : UInt32) : Bytes :=
  ticket ++ comma :: (decimal id.toNat ++ comma :: secret)

namespace Sessions

/-- `CheckinService::read_from_csv`, on the sessions. -/
def readFromCsv (s : Sessions) : Sessions :=
  match s.ticketValidationCsv with
  | none => s
  | some text =>
    { s with clientTicketsMap := s.clientTicketsMap.setAll ((lines text).filterMap ticketRow) }

/-- `CheckinService::write_to_csv`; `opens` says whether the file could be
opened. -/
def writeToCsv (s : Sessions) (opens : Bool) (ticket secret : Bytes) (id : UInt32) : Sessions :=
  let written := s.ticketValidationCsv.getD [] ++ (ticketLine ticket secret id ++ [newline])
  if opens then { s with ticketValidationCsv := some written } else s

end Sessions

/-- Strings the separators of the ticket file do not cut. -/
structure Fit (ticket secret : Bytes) : Prop where
  comma_ticket : comma ∉ ticket
  newline_ticket : newline ∉ ticket
  newline_secret : newline ∉ secret
  secret_ne_nil : secret ≠ []

theorem fit_hex (ticket : Vector UInt8 16) (secret : Vector UInt8 32) :
    Fit (hex ticket.toList) (hex secret.toList) where
  comma_ticket := fun hmem => absurd (hex_range hmem).1 (by decide)
  newline_ticket := fun hmem => absurd (hex_range hmem).1 (by decide)
  newline_secret := fun hmem => absurd (hex_range hmem).1 (by decide)
  secret_ne_nil := by
    intro hnil
    have hlen := length_hex secret.toList
    rw [hnil, List.length_nil, Vector.length_toList] at hlen
    cases hlen

/-- `read_from_csv` reads back the line `write_to_csv` appended. -/
theorem ticketRow_ticketLine {ticket secret : Bytes} (h : Fit ticket secret) (id : UInt32) :
    ticketRow (ticketLine ticket secret id) = some (ticket, (id, secret)) := by
  have hstoul : stoul (decimal id.toNat) = .ok (UInt64.ofNat id.toNat) := by
    have hlt : id.toNat < 2 ^ 64 := Nat.lt_of_lt_of_le id.toNat_lt (by decide)
    simpa using stoul_decimal hlt [] (by simp)
  simp [ticketRow, ticketLine, getline_append h.comma_ticket,
    getline_append (comma_not_mem_decimal _), getline_end h.secret_ne_nil h.newline_secret, hstoul]

theorem newline_not_mem_ticketLine {ticket secret : Bytes} (h : Fit ticket secret) (id : UInt32) :
    newline ∉ ticketLine ticket secret id := by
  intro hmem
  rcases List.mem_append.mp hmem with hmem | hmem
  · exact h.newline_ticket hmem
  rcases List.mem_cons.mp hmem with heq | hmem
  · exact absurd heq (by decide)
  rcases List.mem_append.mp hmem with hmem | hmem
  · exact newline_not_mem_decimal _ hmem
  rcases List.mem_cons.mp hmem with heq | hmem
  · exact absurd heq (by decide)
  · exact h.newline_secret hmem

/-- A line appended to a file of whole lines is one more row. -/
theorem rows_append {text ticket secret : Bytes} (h : Fit ticket secret) (id : UInt32)
    (htext : text = [] ∨ text.getLast? = some newline) :
    (lines (text ++ (ticketLine ticket secret id ++ [newline]))).filterMap ticketRow =
      (lines text).filterMap ticketRow ++ [(ticket, (id, secret))] := by
  rw [lines_append htext, lines_append_newline (newline_not_mem_ticketLine h id),
    List.filterMap_append]
  change _ ++ List.filterMap ticketRow [ticketLine ticket secret id] = _
  rw [List.filterMap_cons_some (ticketRow_ticketLine h id), List.filterMap_nil]

namespace Sessions

/-- The ticket file is empty, or its last line is complete. -/
def Whole (csv : Option Bytes) : Prop := csv.getD [] = [] ∨ (csv.getD []).getLast? = some newline

/-- The entries of the ticket file. -/
def rows (csv : Option Bytes) : List (Bytes × (UInt32 × Bytes)) :=
  (lines (csv.getD [])).filterMap ticketRow

theorem readFromCsv_rows (s : Sessions) :
    s.readFromCsv =
      { s with clientTicketsMap := s.clientTicketsMap.setAll (rows s.ticketValidationCsv) } := by
  obtain ⟨voterStatusTable, requestTimers, waits, timers, clientTicketsMap, csv⟩ := s
  cases csv <;> rfl

theorem readFromCsv_tickets (s : Sessions) :
    s.readFromCsv.clientTicketsMap = s.clientTicketsMap.setAll (rows s.ticketValidationCsv) := by
  rw [readFromCsv_rows]

/-- What one more line does to the file. -/
theorem rows_writeToCsv {s : Sessions} {ticket secret : Bytes} (hfit : Fit ticket secret)
    (u : UInt32) (hwhole : Whole s.ticketValidationCsv) :
    Whole (s.writeToCsv true ticket secret u).ticketValidationCsv ∧
      rows (s.writeToCsv true ticket secret u).ticketValidationCsv =
        rows s.ticketValidationCsv ++ [(ticket, (u, secret))] := by
  have hwritten : (s.writeToCsv true ticket secret u).ticketValidationCsv.getD [] =
      s.ticketValidationCsv.getD [] ++ (ticketLine ticket secret u ++ [newline]) := rfl
  constructor
  · right
    rw [hwritten, ← List.append_assoc, List.getLast?_append]
    rfl
  · unfold rows
    rw [hwritten]
    exact rows_append hfit u hwhole

end Sessions

end Pollbook
