import Pollbook.Verify.Restarts

/-!
# The ticket file and the ticket map

Every accepted check-in request is entered twice, into `client_tickets_map` and,
as a line, into `ticket_validation.csv`, and each ticket request assigns all the
lines to the map again. As long as every append succeeds, that changes nothing
for the tickets of the process: the last line with a ticket is the entry the map
has, and after a restart it is the entry the map gets (`ticket_file_mirrors`).
-/

namespace Pollbook

namespace CheckinService

open Sessions (Whole rows Moves)

variable {env : Env} {found : Found} {s₀ s s' : CheckinService} {ev : Event ⊕ Reboot}
  {e : Event} {acts : List Action} {tr : List ((Event ⊕ Reboot) × List Action)}

/-! ## The entries of a run -/

/-- The text `generate_secret` makes of random bytes; empty if there are none. -/
def dumped {n : Nat} (random : Option (Vector UInt8 n)) : Bytes :=
  (generateSecret (random.map (·.toList))).toOption.getD []

/-- The entries that one step of the service makes, those included whose answer
was never written. -/
def entered (x : (Event ⊕ Reboot) × List Action) : List (Bytes × (UInt32 × Bytes)) :=
  match x.1 with
  | .inl e => (x.2.filterMap Action.admitted).map fun r => (r.2, (r.1, dumped e.io.secretRandom))
  | .inr r => r.unanswered.toList.map fun y => (hex y.2.1.toList, (y.1, hex y.2.2.toList))

/-- The steps since the last restart. -/
def sinceRestart : List ((Event ⊕ Reboot) × List Action) → List ((Event ⊕ Reboot) × List Action)
  | [] => []
  | x :: tr =>
    if tr.any (·.1.isRight) then sinceRestart tr
    else if x.1.isRight then tr else x :: tr

/-- Every line was appended. -/
def Appended (tr : List ((Event ⊕ Reboot) × List Action)) : Prop :=
  ∀ e acts, (.inl e, acts) ∈ tr → acts.filterMap Action.admitted ≠ [] → e.io.csvOpens = true

theorem sinceRestart_inl (tr : List ((Event ⊕ Reboot) × List Action)) (e : Event)
    (acts : List Action) :
    sinceRestart (tr ++ [(.inl e, acts)]) = sinceRestart tr ++ [(.inl e, acts)] := by
  induction tr with
  | nil => rfl
  | cons x tr ih =>
    have hany : (tr ++ [((.inl e : Event ⊕ Reboot), acts)]).any (·.1.isRight) =
        tr.any (·.1.isRight) := by
      simp
    rw [List.cons_append, sinceRestart, sinceRestart, hany, ih]
    split
    · rfl
    · split <;> rfl

theorem sinceRestart_inr (tr : List ((Event ⊕ Reboot) × List Action)) (r : Reboot)
    (acts : List Action) : sinceRestart (tr ++ [(.inr r, acts)]) = [] := by
  induction tr with
  | nil => rfl
  | cons x tr ih =>
    have hany : (tr ++ [((.inr r : Event ⊕ Reboot), acts)]).any (·.1.isRight) = true := by simp
    rw [List.cons_append, sinceRestart, if_pos hany, ih]

/-- The steps since the last restart end the run. -/
theorem sinceRestart_suffix (tr : List ((Event ⊕ Reboot) × List Action)) :
    sinceRestart tr <:+ tr := by
  induction tr with
  | nil => exact List.suffix_refl _
  | cons x tr ih =>
    rw [sinceRestart]
    split
    · exact ih.trans (List.suffix_cons x tr)
    · split
      · exact List.suffix_cons x tr
      · exact List.suffix_refl _

/-! ## One step -/

/-- The entry of an accepted request: the ticket is the one its answer carries,
the secret is made of the step's random bytes. -/
structure Enters (io : Io) (s : CheckinService) (u : UInt32) (t : Bytes) (s' : CheckinService) :
    Prop where
  fit : Fit t (dumped io.secretRandom)
  memory : s'.clientTicketsMap = s.clientTicketsMap.set t (u, dumped io.secretRandom)
  file : s'.ticketValidationCsv =
    (s.toSessions.writeToCsv io.csvOpens t (dumped io.secretRandom) u).ticketValidationCsv

theorem CheckinOutcome.enters {io : Io} {clientIp : Endpoint} {request : CheckinRequest}
    {u : UInt32} {t : Bytes} (h : CheckinOutcome env io s clientIp request s' acts)
    (hadmitted : (u, t) ∈ acts.filterMap Action.admitted) : Enters io s u t s' := by
  cases h with
  | unanswered => cases hadmitted
  | denied _ hchecks =>
    rw [List.filterMap_append, hchecks.admitted] at hadmitted
    cases hadmitted
  | @accepted k acts₁ t' sec _ hchecks _ _ _ _ hsecret =>
    rw [List.filterMap_append, hchecks.admitted] at hadmitted
    obtain ⟨rfl, rfl⟩ := Prod.mk.inj (List.mem_singleton.mp hadmitted)
    have hdumped : dumped io.secretRandom = hex sec.toList := by rw [hsecret]; rfl
    obtain ⟨-, htickets, hcsv⟩ := s.toSessions.accept_fields request.body.voterUniqueId
      (io.steadyNow + minutes env.config.timeoutInterval) (hex t'.toList) (hex sec.toList)
      io.csvOpens
    refine ⟨?_, ?_, ?_⟩
    · rw [hdumped]
      exact fit_hex t' sec
    · rw [hdumped]
      exact htickets
    · rw [hdumped]
      exact hcsv

theorem TicketOutcome.admitted {io : Io} {clientIp : Endpoint} {request : TicketRequest}
    (h : TicketOutcome env io s clientIp request s' acts) :
    acts.filterMap Action.admitted = [] := by
  cases h with
  | refused _ hchecks => exact hchecks.admitted
  | denied _ hchecks hfaults =>
    rw [List.filterMap_append, hchecks.admitted, List.filterMap_cons_none rfl, hfaults.admitted]
    rfl
  | approved _ hchecks _ _ _ =>
    rw [List.filterMap_append, hchecks.admitted]
    rfl

/-- What a step does to the ticket map and the ticket file: one entry for both,
or the file is read at most. -/
theorem Step.enters {io : Io} {occurrence : Occurrence} (h : Step env io s occurrence s' acts) :
    (∃ u t, acts.filterMap Action.admitted = [(u, t)] ∧ Enters io s u t s') ∨
    acts.filterMap Action.admitted = [] ∧ s'.ticketValidationCsv = s.ticketValidationCsv ∧
      (s'.clientTicketsMap = s.clientTicketsMap ∨
        s'.clientTicketsMap = s.toSessions.readFromCsv.clientTicketsMap) := by
  obtain ⟨change, hmakes⟩ := h.makes
  rcases hmakes.moves.tickets with ⟨u, t, _, _, rfl, -⟩ | ⟨hnone, hcsv, htickets⟩
  · left
    refine ⟨u, t, hmakes.admitted, ?_⟩
    have hadmitted : (u, t) ∈ acts.filterMap Action.admitted := by
      rw [hmakes.admitted]
      exact List.mem_singleton_self _
    rcases h.answers with hsilent |
      ⟨ip, clientId, info, json, request', acts', -, -, -, rfl, -, -, rfl, houtcome⟩ |
      ⟨ip, clientId, info, json, request', acts', -, -, -, rfl, -, -, rfl, houtcome⟩
    · obtain ⟨_, _, _, ha, -⟩ := exists_checkinAnswer hadmitted
      exact absurd ha hsilent.no_checkinAnswer
    · rw [List.filterMap_cons_none rfl] at hadmitted
      obtain ⟨hfit, hmemory, hfile⟩ := houtcome.enters hadmitted
      exact ⟨hfit, hmemory, hfile⟩
    · rw [List.filterMap_cons_none rfl, houtcome.admitted] at hadmitted
      cases hadmitted
  · exact .inr ⟨by rw [hmakes.admitted, hnone]; rfl, hcsv, htickets⟩

/-! ## Runs over any number of processes -/

/-- The lines of the file are those it started with and the entries made since,
and the map has the entries of this process. -/
structure Filed (csv : Option Bytes) (tr : List ((Event ⊕ Reboot) × List Action))
    (s : CheckinService) : Prop where
  whole : Whole s.ticketValidationCsv
  lines : rows s.ticketValidationCsv = rows csv ++ tr.flatMap entered
  memory : ∀ t b, Map.lastOf ((sinceRestart tr).flatMap entered) t = some b →
    s.clientTicketsMap t = some b

/-- Reading the file gives every ticket its last entry. -/
theorem Filed.readFromCsv {csv : Option Bytes} (h : Filed csv tr s) {t : Bytes}
    {b : UInt32 × Bytes} (hlast : Map.lastOf (tr.flatMap entered) t = some b) :
    s.toSessions.readFromCsv.clientTicketsMap t = some b := by
  rw [Sessions.readFromCsv_tickets, h.lines]
  exact Map.setAll_of_lastOf (Map.lastOf_append_of_some hlast _) _

/-- The last entry of this process is the last of all. -/
theorem lastOf_sinceRestart {t : Bytes} {b : UInt32 × Bytes}
    (h : Map.lastOf ((sinceRestart tr).flatMap entered) t = some b) :
    Map.lastOf (tr.flatMap entered) t = some b := by
  obtain ⟨before, htr⟩ := sinceRestart_suffix tr
  rw [← htr, List.flatMap_append]
  exact Map.lastOf_append_of_some h _

theorem Filed.next {csv : Option Bytes} (h : Filed csv tr s)
    (hnext : next env s e = some (s', acts))
    (hopens : acts.filterMap Action.admitted ≠ [] → e.io.csvOpens = true) :
    Filed csv (tr ++ [(.inl e, acts)]) s' := by
  obtain ⟨-, s₁, hstep, rfl⟩ := next_step hnext
  have hentered : entered (.inl e, acts) =
      (acts.filterMap Action.admitted).map fun r => (r.2, (r.1, dumped e.io.secretRandom)) := rfl
  rcases hstep.enters with ⟨u, t, hadmitted, hfit, hmemory, hfile⟩ | ⟨hnone, hcsv, htickets⟩
  · rw [hadmitted] at hentered hopens
    rw [hopens (List.cons_ne_nil _ _)] at hfile
    obtain ⟨hwhole, hrows⟩ := Sessions.rows_writeToCsv hfit u h.whole
    replace hfile : s₁.ticketValidationCsv = (s.toSessions.writeToCsv true t
      (dumped e.io.secretRandom) u).ticketValidationCsv := hfile
    rw [← hfile] at hwhole hrows
    refine ⟨hwhole, ?_, fun t' b hlast => ?_⟩
    · change rows s₁.ticketValidationCsv = _
      rw [hrows, List.flatMap_append, List.flatMap_singleton, hentered, ← List.append_assoc,
        ← h.lines]
      rfl
    · change s₁.clientTicketsMap t' = some b
      rw [sinceRestart_inl, List.flatMap_append, List.flatMap_singleton, hentered,
        List.map_singleton, Map.lastOf_concat, Map.set_apply] at hlast
      rw [hmemory, Map.set_apply]
      split
      · next heq =>
        rw [if_pos heq] at hlast
        exact hlast
      · next hne =>
        rw [if_neg hne] at hlast
        exact h.memory t' b hlast
  · rw [hnone, List.map_nil] at hentered
    refine ⟨?_, ?_, fun t b hlast => ?_⟩
    · change Whole s₁.ticketValidationCsv
      rw [hcsv]
      exact h.whole
    · change rows s₁.ticketValidationCsv = _
      rw [hcsv, List.flatMap_append, List.flatMap_singleton, hentered, List.append_nil]
      exact h.lines
    · change s₁.clientTicketsMap t = some b
      rw [sinceRestart_inl, List.flatMap_append, List.flatMap_singleton, hentered,
        List.append_nil] at hlast
      rcases htickets with htickets | htickets
      · rw [htickets]
        exact h.memory t b hlast
      · rw [htickets]
        exact h.readFromCsv (lastOf_sinceRestart hlast)

theorem Filed.reboot {csv : Option Bytes} {r : Reboot} (h : Filed csv tr s)
    (hreboot : reboot env s r = some s') : Filed csv (tr ++ [(.inr r, [])]) s' := by
  obtain ⟨hcsv, -⟩ := boot_tickets (reboot_eq_some.mp hreboot)
  replace hcsv : s'.ticketValidationCsv = r.csv s := hcsv
  suffices hfile : Whole s'.ticketValidationCsv ∧
      rows s'.ticketValidationCsv = rows s.ticketValidationCsv ++ entered (.inr r, []) by
    refine ⟨hfile.1, ?_, fun t b hlast => ?_⟩
    · rw [hfile.2, h.lines, List.flatMap_append, List.flatMap_singleton, List.append_assoc]
    · rw [sinceRestart_inr] at hlast
      cases hlast
  unfold Reboot.csv at hcsv
  cases hr : r.unanswered with
  | none =>
    rw [hr] at hcsv
    rw [hcsv]
    simp only [entered, hr]
    exact ⟨h.whole, (List.append_nil _).symm⟩
  | some y =>
    obtain ⟨u, ticket, secret⟩ := y
    rw [hr] at hcsv
    rw [hcsv]
    simp only [entered, hr]
    exact Sessions.rows_writeToCsv (fit_hex ticket secret) u h.whole

theorem filed_of_run (hboot : boot env found = .ok s₀)
    (hwhole : Whole found.ticketValidationCsv) (hrun : Run (life env) s₀ tr s)
    (happended : Appended tr) : Filed found.ticketValidationCsv tr s := by
  apply hrun.history (I := fun tr s => Appended tr → Filed found.ticketValidationCsv tr s)
  · intro _
    obtain ⟨hcsv, -⟩ := boot_tickets hboot
    refine ⟨hcsv ▸ hwhole, ?_, ?_⟩
    · rw [hcsv]
      exact (List.append_nil _).symm
    · rintro t b ⟨⟩
  · intro tr s ev s' acts _ hfiled hstep happended
    have hpast := hfiled fun e acts hmem => happended e acts (List.mem_append_left _ hmem)
    cases ev with
    | inl e =>
      exact hpast.next hstep
        (happended e acts (List.mem_append_right _ (List.mem_singleton_self _)))
    | inr r =>
      obtain ⟨hreboot, rfl⟩ := withRestarts_inr.mp hstep
      exact hpast.reboot hreboot
  · exact happended

/-! ## The file and the map -/

/-- The ticket file mirrors the tickets, whenever it is read. -/
structure Mirrors (env : Env) (csv : Option Bytes) (tr : List ((Event ⊕ Reboot) × List Action))
    (s : CheckinService) : Prop where
  /-- A ticket issued in this process has the entry made for it last, and keeps it. -/
  issued : ∀ t b, Map.lastOf ((sinceRestart tr).flatMap entered) t = some b →
    s.clientTicketsMap t = some b ∧ s.toSessions.readFromCsv.clientTicketsMap t = some b
  idempotent : s.toSessions.readFromCsv.readFromCsv = s.toSessions.readFromCsv
  /-- A new process gets, for each ticket, the entry made for it last in any process. -/
  restored : ∀ r s', reboot env s r = some s' →
    s'.toSessions.readFromCsv.clientTicketsMap =
      Map.lastOf (rows csv ++ (tr.flatMap entered ++ entered (.inr r, [])))

theorem readFromCsv_idempotent (s : Sessions) : s.readFromCsv.readFromCsv = s.readFromCsv := by
  rw [Sessions.readFromCsv_rows s.readFromCsv, Sessions.readFromCsv_rows s, Map.setAll_setAll]

/-- **The ticket file.** As long as every line is appended to a file of whole
lines, the file mirrors the tickets; they are lowercase hexadecimal dumps, and
different random bytes give different ones. -/
theorem ticket_file_mirrors (hboot : boot env found = .ok s₀)
    (hwhole : Whole found.ticketValidationCsv) (hrun : Run (life env) s₀ tr s)
    (happended : Appended tr) :
    Mirrors env found.ticketValidationCsv tr s ∧
      (∀ bs, ∃ text, generateSecret (some bs) = .ok text ∧ text.length = 2 * bs.length ∧
        ∀ b ∈ text, isLowerHex b = true) ∧
      ∀ bs bs', generateSecret (some bs) = generateSecret (some bs') → bs = bs' := by
  have hfiled := filed_of_run hboot hwhole hrun happended
  refine ⟨⟨fun t b hlast => ?_, readFromCsv_idempotent _, fun r s' hreboot => ?_⟩, fun bs => ?_,
    fun bs bs' heq => hex_injective (Except.ok.inj heq)⟩
  · exact ⟨hfiled.memory t b hlast, hfiled.readFromCsv (lastOf_sinceRestart hlast)⟩
  · obtain ⟨-, htickets⟩ := boot_tickets (reboot_eq_some.mp hreboot)
    rw [Sessions.readFromCsv_tickets, htickets, (hfiled.reboot hreboot).lines,
      List.flatMap_append, List.flatMap_singleton]
    rfl
  · exact ⟨hex bs, rfl, length_hex bs, fun b hb => isLowerHex_of_mem_hex hb⟩

section Rehearsal

open Rehearsal

/-- Two processes issue a ticket each; the first one is redeemed in between. -/
theorem ticket_file_mirrors_rehearsal :
    ∃ s₀ tr s, boot Rehearsal.env emptyFolder = .ok s₀ ∧ Run (life Rehearsal.env) s₀ tr s ∧
      (tr.flatMap entered).length = 2 ∧ ((sinceRestart tr).flatMap entered).length = 1 ∧
      Mirrors Rehearsal.env none tr s := by
  have hexec : (exec (life Rehearsal.env) (openingWith emptyFolder (Keys.onDisk Map.empty))
      (twoProcesses checkinRun (connections ++ checkin 30 8))).any (fun r =>
        decide ((r.1.flatMap entered).length = 2) &&
        decide (((sinceRestart r.1).flatMap entered).length = 1) &&
        r.1.all fun x => x.1.elim (fun e => e.io.csvOpens) fun _ => true) = true := by
    decide +kernel
  obtain ⟨tr, s, hrun, hs⟩ := Run.exists_of_exec hexec
  simp only [Bool.and_eq_true, decide_eq_true_eq, List.all_eq_true] at hs
  obtain ⟨⟨hall, hlast⟩, hopens⟩ := hs
  refine ⟨_, tr, s, boot_emptyFolder, hrun, hall, hlast, ?_⟩
  exact (ticket_file_mirrors boot_emptyFolder (.inl rfl) hrun
    fun e acts hmem _ => hopens _ hmem).1

end Rehearsal

end CheckinService

end Pollbook
