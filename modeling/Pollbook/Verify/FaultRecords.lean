import Pollbook.Checkin.FaultTracker
import Pollbook.Verify.Faults

/-!
# The records of faults

The state of the service keeps every fault it reported. The fault tracker drops
records as the service runs, at any time, also between two faults of one handler:
what it has of a client is the last part of what the service reported, and the
rest is old (`recent_faults_are_kept`).
-/

namespace Pollbook

open FaultTracker (Access Dropped after reports recordOf)

/-- The fault an action reports, and whose it is. -/
def Action.fault : Action → Option (UInt32 × String)
  | .reportFault clientId faultDesc => some (clientId, faultDesc)
  | _ => none

/-- The fault an access enters. -/
def FaultTracker.Access.fault : Access → Option (UInt32 × String)
  | .reportFault _ clientId faultDesc => some (clientId, faultDesc)
  | .clearOldRecords _ => none

/-- The tracker was given the faults of the trace in their order, and passes of
the other thread came in between. -/
def Interleaves (log : List Access) (tr : List (Event × List Action)) : Prop :=
  log.filterMap Access.fault = tr.flatMap fun x => x.2.filterMap Action.fault

/-- The descriptions of one client's faults. -/
def descriptions (clientId : UInt32) (faults : List (UInt32 × String)) : List String :=
  faults.filterMap fun x => if x.1 = clientId then some x.2 else none

theorem descriptions_append (clientId : UInt32) (faults faults' : List (UInt32 × String)) :
    descriptions clientId (faults ++ faults') =
      descriptions clientId faults ++ descriptions clientId faults' :=
  List.filterMap_append

theorem map_reports (clientId : UInt32) (log : List Access) :
    (reports clientId log).map Prod.snd = descriptions clientId (log.filterMap Access.fault) := by
  unfold reports descriptions
  rw [List.map_filterMap, List.filterMap_filterMap]
  refine List.filterMap_congr fun a _ => ?_
  cases a with
  | clearOldRecords => rfl
  | reportFault now id faultDesc =>
    unfold Access.report Access.fault
    dsimp only
    rw [Option.bind_some]
    split
    · rfl
    · rfl

theorem ClientMap.reportFault_getD (m : ClientMap) (id clientId : UInt32) (faultDesc : String) :
    (m.reportFault id faultDesc clientId).getD [] =
      (m clientId).getD [] ++ descriptions clientId [(id, faultDesc)] := by
  unfold ClientMap.reportFault
  rw [Map.set_apply]
  by_cases hid : clientId = id
  · subst hid
    simp [descriptions]
  · simp [descriptions, hid, Ne.symm hid]

namespace CheckinService

variable {env : Env} {found : Surroundings} {s₀ s : CheckinService}
  {tr : List (Event × List Action)} {log : List Access}

/-! ## What the service reported -/

theorem charge_getD (s : CheckinService) (acts : List Action) (clientId : UInt32) :
    ((s.charge acts).faultTracker clientId).getD [] = (s.faultTracker clientId).getD [] ++
      descriptions clientId (acts.filterMap Action.fault) := by
  unfold charge
  dsimp only
  generalize s.faultTracker = m
  induction acts generalizing m with
  | nil => exact (List.append_nil _).symm
  | cons a acts ih =>
    rw [List.foldl_cons, ih]
    cases a with
    | reportFault id faultDesc =>
      change (m.reportFault id faultDesc clientId).getD [] ++ _ =
        _ ++ descriptions clientId ([(id, faultDesc)] ++ acts.filterMap Action.fault)
      rw [ClientMap.reportFault_getD, descriptions_append, List.append_assoc]
    | _ => rfl

/-- The state has all faults of the run. -/
theorem faultTracker_getD (hstart : start env found = .ok s₀) (hrun : Run (next env) s₀ tr s)
    (clientId : UInt32) :
    (s.faultTracker clientId).getD [] =
      descriptions clientId (tr.flatMap fun x => x.2.filterMap Action.fault) := by
  induction hrun with
  | nil =>
    obtain ⟨table, -, rfl⟩ := start_eq_ok hstart
    rfl
  | snoc _ hnext ih =>
    obtain ⟨-, m, hstep, rfl⟩ := next_step hnext
    rw [charge_getD, hstep.faultTracker, List.flatMap_append, descriptions_append, ← ih,
      List.flatMap_singleton]
    rfl

/-- The record of a client has the last of the faults that the service reported,
and if the clock is not put back, the others are older than the threshold, unless
it is one of more than 292 years. -/
theorem recent_faults_are_kept (hstart : start env found = .ok s₀)
    (hrun : Run (next env) s₀ tr s) (hlog : Interleaves log tr) (faultCleanupHours : Option Int32)
    (clientId : UInt32) :
    ∃ before since, log = before ++ since ∧
      Dropped (setupFaultTracking faultCleanupHours) clientId before since ∧
      (after (setupFaultTracking faultCleanupHours) log).clientMap clientId =
        recordOf (reports clientId since) ∧
      (s.faultTracker clientId).getD [] =
        (reports clientId before).map Prod.snd ++ (reports clientId since).map Prod.snd ∧
      (-2562047 ≤ (faultCleanupHours.getD 24).toInt → (faultCleanupHours.getD 24).toInt ≤ 2562047 →
        log.Pairwise (fun a b => a.now ≤ b.now) → ∀ now, (∀ a ∈ log, a.now ≤ now) →
          ∀ x ∈ reports clientId before,
            (faultCleanupHours.getD 24).toInt * 3600000000000 < now - x.1) := by
  obtain ⟨before, since, rfl, hdropped, hrecord⟩ :=
    FaultTracker.exists_since (setupFaultTracking faultCleanupHours) log clientId
  refine ⟨before, since, rfl, hdropped, hrecord, ?_, fun hlo hhi hclock now hnow => ?_⟩
  · calc (s.faultTracker clientId).getD []
        = descriptions clientId (tr.flatMap fun x => x.2.filterMap Action.fault) :=
          faultTracker_getD hstart hrun clientId
      _ = (reports clientId (before ++ since)).map Prod.snd := by rw [map_reports, hlog]
      _ = _ := by rw [FaultTracker.reports_append, List.map_append]
  · rw [← setupFaultTracking_eq hlo hhi]
    exact hdropped.old hclock hnow

section Rehearsal

open Rehearsal

/-- The tablet sends an empty object, and another one a day later. -/
def emptyRequests : List Event :=
  emptyRequest ++ connect (instant 93600000 0) tabletIp (some (certificate tabletId tabletKey)) ++
    send (instant 93600000 0) tabletIp (bytes "{}")

/-- What the empty objects are reported as. -/
def emptyFault : String := "Missing 'body' or 'signature' in JSON"

/-- Of the passes in between, the first comes too early for the record. -/
def emptyAccesses : List Access :=
  [.reportFault 0 tabletId emptyFault, .clearOldRecords (hours 1), .clearOldRecords (hours 25),
    .reportFault (hours 26) tabletId emptyFault]

/-- The service reported both; the tracker has the second one, and the first is
more than a day old. -/
theorem recent_faults_are_kept_rehearsal :
    ∃ tr s, Run (next Rehearsal.env) opening tr s ∧ Interleaves emptyAccesses tr ∧
      (s.faultTracker tabletId).getD [] = [emptyFault, emptyFault] ∧
      (after (setupFaultTracking none) emptyAccesses).clientMap tabletId =
        some ⟨hours 26, [emptyFault]⟩ ∧
      ∃ before since, emptyAccesses = before ++ since ∧
        (reports tabletId before).map Prod.snd = [emptyFault] ∧
        ∀ x ∈ reports tabletId before, 24 * 3600000000000 < hours 26 - x.1 := by
  have hexec : (exec (next Rehearsal.env) opening emptyRequests).any (fun r =>
      decide ((r.1.flatMap fun x => x.2.filterMap Action.fault) =
        [(tabletId, emptyFault), (tabletId, emptyFault)])) = true := by
    decide +kernel
  obtain ⟨tr, s, hrun, hs⟩ := Run.exists_of_exec hexec
  have hlog : Interleaves emptyAccesses tr := (of_decide_eq_true hs).symm
  obtain ⟨before, since, hsplit, -, hrecord, hfaults, hold⟩ :=
    recent_faults_are_kept start_opening hrun hlog none tabletId
  have hafter : (after (setupFaultTracking none) emptyAccesses).clientMap tabletId =
      some ⟨hours 26, [emptyFault]⟩ := by
    decide +kernel
  have hboth : (s.faultTracker tabletId).getD [] = [emptyFault, emptyFault] := by
    rw [faultTracker_getD start_opening hrun, of_decide_eq_true hs]
    rfl
  have hsince : (reports tabletId since).map Prod.snd = [emptyFault] := by
    rw [← FaultTracker.descriptions_recordOf, ← hrecord, hafter]
    rfl
  rw [hboth, hsince] at hfaults
  refine ⟨tr, s, hrun, hlog, hboth, hafter, before, since, hsplit,
    (List.append_inj' (hfaults : [emptyFault] ++ [emptyFault] = _) rfl).1.symm, ?_⟩
  refine hold ?_ ?_ ?_ (hours 26) ?_
  · decide
  · decide
  · decide +kernel
  · decide +kernel

end Rehearsal

end CheckinService

end Pollbook
