import Pollbook.Checkin.State

/-!
# The fault tracker

The record of a client's faults has the time of the last report next to the
descriptions, and the thread the service starts for it drops the records whose
last report is too long ago. What the threads do to the tracker they do under its
mutex, one after the other: a `List Access`.

A record is all or nothing: it has the reports since the last pass of the thread
that dropped it (`FaultTracker.exists_since`). As long as the clock is not put
back, what was dropped is old, although a record may have older reports
(`Dropped.old`).
-/

namespace Pollbook

/-- `std::chrono::hours(n)` as a duration of the system clock. -/
def hours (n : Int32) : Int := nanoseconds (n.toInt * 3600000000000)

/-- 292 years fit. -/
theorem hours_eq {n : Int32} (hlo : -2562047 ≤ n.toInt) (hhi : n.toInt ≤ 2562047) :
    hours n = n.toInt * 3600000000000 :=
  nanoseconds_eq (by omega) (by omega)

/-- `CheckinService::setupFaultTracking`: the `cleanup_threshold`, given the
`fault_cleanup_hours` of the configuration file. -/
def setupFaultTracking (faultCleanupHours : Option Int32) : Int :=
  match faultCleanupHours with
  | some n => hours n
  | none => hours 24

theorem setupFaultTracking_eq {faultCleanupHours : Option Int32}
    (hlo : -2562047 ≤ (faultCleanupHours.getD 24).toInt)
    (hhi : (faultCleanupHours.getD 24).toInt ≤ 2562047) :
    setupFaultTracking faultCleanupHours =
      (faultCleanupHours.getD 24).toInt * 3600000000000 := by
  cases faultCleanupHours with
  | some n => exact hours_eq hlo hhi
  | none => exact hours_eq hlo hhi

structure FaultyClientRecord where
  /-- in nanoseconds -/
  lastReportTime : Int
  faultDescriptions : List String
deriving DecidableEq

structure FaultTracker where
  clientMap : Map UInt32 FaultyClientRecord

namespace FaultTracker

/-- One lock of the tracker's mutex, with the reading of the system clock. -/
inductive Access
  | reportFault (now : Int) (clientId : UInt32) (faultDesc : String)
  | clearOldRecords (now : Int)

/-- The reading of the clock. -/
def Access.now : Access → Int
  | .reportFault now _ _ => now
  | .clearOldRecords now => now

/-- `operator[]` makes an empty record if there is none. -/
def reportFault (t : FaultTracker) (now : Int) (clientId : UInt32) (faultDesc : String) :
    FaultTracker :=
  let record := (t.clientMap clientId).getD ⟨0, []⟩
  ⟨t.clientMap.set clientId ⟨now, record.faultDescriptions ++ [faultDesc]⟩⟩

/-- The loop erases every record that is too old. -/
def clearOldRecords (t : FaultTracker) (now threshold : Int) : FaultTracker :=
  ⟨fun clientId =>
    match t.clientMap clientId with
    | some record => if now - record.lastReportTime > threshold then none else some record
    | none => none⟩

def access (threshold : Int) (t : FaultTracker) : Access → FaultTracker
  | .reportFault now clientId faultDesc => t.reportFault now clientId faultDesc
  | .clearOldRecords now => t.clearOldRecords now threshold

/-- The tracker of the process after these accesses. -/
def after (threshold : Int) (log : List Access) : FaultTracker :=
  log.foldl (access threshold) ⟨Map.empty⟩

theorem after_concat (threshold : Int) (log : List Access) (a : Access) :
    after threshold (log ++ [a]) = access threshold (after threshold log) a := by
  simp only [after, List.foldl_append, List.foldl_cons, List.foldl_nil]

/-! ## The reports about a client -/

/-- The report an access makes about a client. -/
def Access.report (clientId : UInt32) : Access → Option (Int × String)
  | .reportFault now id faultDesc => if id = clientId then some (now, faultDesc) else none
  | .clearOldRecords _ => none

/-- The reports about a client, with their times. -/
def reports (clientId : UInt32) (log : List Access) : List (Int × String) :=
  log.filterMap (Access.report clientId)

/-- The record these reports make. -/
def recordOf (l : List (Int × String)) : Option FaultyClientRecord :=
  l.getLast?.map fun last => ⟨last.1, l.map Prod.snd⟩

/-- The last one of the reports is older than the threshold. -/
def Stale (threshold now : Int) (l : List (Int × String)) : Prop :=
  ∃ last ∈ l.getLast?, threshold < now - last.1

/-- The accesses `before` end with the last pass that drops the client's record. -/
structure Dropped (threshold : Int) (clientId : UInt32) (before since : List Access) : Prop where
  pass : before = [] ∨ ∃ pre now, before = pre ++ [.clearOldRecords now] ∧
    Stale threshold now (reports clientId pre)
  kept : ∀ pre now post, since = pre ++ .clearOldRecords now :: post →
    ¬ Stale threshold now (reports clientId pre)

section Reports

variable {threshold now : Int} {clientId id : UInt32} {faultDesc : String}
  {log before since : List Access} {a : Access} {l : List (Int × String)}

theorem reports_append (clientId : UInt32) (log log' : List Access) :
    reports clientId (log ++ log') = reports clientId log ++ reports clientId log' :=
  List.filterMap_append

theorem reports_concat_pass (clientId : UInt32) (log : List Access) (now : Int) :
    reports clientId (log ++ [.clearOldRecords now]) = reports clientId log := by
  rw [reports_append]
  exact List.append_nil _

theorem reports_concat_self (log : List Access) (now : Int) (clientId : UInt32)
    (faultDesc : String) :
    reports clientId (log ++ [.reportFault now clientId faultDesc]) =
      reports clientId log ++ [(now, faultDesc)] := by
  rw [reports_append]
  simp [reports, Access.report]

theorem reports_concat_other (h : id ≠ clientId) (log : List Access) (now : Int)
    (faultDesc : String) :
    reports clientId (log ++ [.reportFault now id faultDesc]) = reports clientId log := by
  rw [reports_append]
  simp [reports, Access.report, h]

theorem descriptions_recordOf (l : List (Int × String)) :
    ((recordOf l).getD ⟨0, []⟩).faultDescriptions = l.map Prod.snd := by
  unfold recordOf
  cases hlast : l.getLast? with
  | none => rw [List.getLast?_eq_none_iff.mp hlast]; rfl
  | some last => rfl

theorem recordOf_concat (l : List (Int × String)) (now : Int) (faultDesc : String) :
    recordOf (l ++ [(now, faultDesc)]) = some ⟨now, l.map Prod.snd ++ [faultDesc]⟩ := by
  simp [recordOf]

/-- The last of the later reports is the last of all. -/
theorem Stale.append (h : Stale threshold now l) (l' : List (Int × String)) :
    Stale threshold now (l' ++ l) := by
  obtain ⟨last, hlast, hold⟩ := h
  obtain ⟨init, rfl⟩ := List.getLast?_eq_some_iff.mp hlast
  refine ⟨last, ?_, hold⟩
  rw [← List.append_assoc, List.getLast?_concat]
  rfl

/-! ## One access -/

theorem Dropped.concat (h : Dropped threshold clientId before since)
    (hkept : ∀ now, a = .clearOldRecords now → ¬ Stale threshold now (reports clientId since)) :
    Dropped threshold clientId before (since ++ [a]) := by
  refine ⟨h.pass, fun pre now post heq => ?_⟩
  cases post using List.reverseRecOn with
  | nil =>
    obtain ⟨rfl, ha⟩ := List.append_inj' heq rfl
    exact hkept now (List.singleton_inj.mp ha)
  | append_singleton post b =>
    rw [← List.cons_append, ← List.append_assoc] at heq
    obtain ⟨hsince, -⟩ := List.append_inj' heq rfl
    exact h.kept pre now post hsince

/-- The record that a report is added to. -/
theorem clientMap_reportFault {t : FaultTracker} (h : t.clientMap clientId = recordOf l)
    (now : Int) (faultDesc : String) :
    (t.reportFault now clientId faultDesc).clientMap clientId =
      recordOf (l ++ [(now, faultDesc)]) := by
  rw [recordOf_concat]
  unfold reportFault
  dsimp only
  rw [Map.set_self, h, descriptions_recordOf]

/-- A pass drops a record that is stale, -/
theorem clientMap_of_stale {t : FaultTracker} (h : t.clientMap clientId = recordOf l)
    (hstale : Stale threshold now l) :
    (t.clearOldRecords now threshold).clientMap clientId = none := by
  obtain ⟨last, hlast, hold⟩ := hstale
  unfold clearOldRecords
  dsimp only
  rw [h, recordOf, hlast, Option.map_some]
  exact if_pos hold

/-- and no other one. -/
theorem clientMap_of_not_stale {t : FaultTracker}
    (h : t.clientMap clientId = recordOf l) (hstale : ¬ Stale threshold now l) :
    (t.clearOldRecords now threshold).clientMap clientId = recordOf l := by
  unfold clearOldRecords
  dsimp only
  rw [h]
  unfold recordOf
  cases hlast : l.getLast? with
  | none => rfl
  | some last => exact if_neg fun hold => hstale ⟨last, hlast, hold⟩

/-! ## All accesses -/

/-- The record has the reports since the last pass that dropped it. -/
theorem exists_since (threshold : Int) (log : List Access) (clientId : UInt32) :
    ∃ before since, log = before ++ since ∧ Dropped threshold clientId before since ∧
      (after threshold log).clientMap clientId = recordOf (reports clientId since) := by
  induction log using List.reverseRecOn with
  | nil => exact ⟨[], [], rfl, ⟨.inl rfl, fun pre _ _ heq => by simp at heq⟩, rfl⟩
  | append_singleton log a ih =>
    obtain ⟨before, since, rfl, hdropped, hrecord⟩ := ih
    rw [after_concat]
    cases a with
    | reportFault now id faultDesc =>
      refine ⟨before, since ++ [_], List.append_assoc .., hdropped.concat ?_, ?_⟩
      · intro now' ha
        cases ha
      · by_cases hid : id = clientId
        · subst hid
          rw [reports_concat_self]
          exact clientMap_reportFault hrecord now faultDesc
        · rw [reports_concat_other hid]
          exact (Map.set_of_ne _ (Ne.symm hid) _).trans hrecord
    | clearOldRecords now =>
      by_cases hstale : Stale threshold now (reports clientId since)
      · refine ⟨before ++ since ++ [.clearOldRecords now], [], (List.append_nil _).symm,
          ⟨.inr ⟨_, now, rfl, ?_⟩, fun pre _ _ heq => by simp at heq⟩, ?_⟩
        · rw [reports_append]
          exact hstale.append _
        · exact clientMap_of_stale hrecord hstale
      · refine ⟨before, since ++ [_], List.append_assoc .., hdropped.concat ?_, ?_⟩
        · intro now' ha
          obtain rfl := Access.clearOldRecords.inj ha
          exact hstale
        · rw [reports_concat_pass]
          exact clientMap_of_not_stale hrecord hstale

/-! ## What was dropped is old -/

theorem pairwise_reports (h : log.Pairwise fun a b => a.now ≤ b.now) (clientId : UInt32) :
    (reports clientId log).Pairwise fun x y => x.1 ≤ y.1 := by
  have htime {a : Access} {x : Int × String} (hx : a.report clientId = some x) : a.now = x.1 := by
    cases a with
    | clearOldRecords => cases hx
    | reportFault now id faultDesc =>
      unfold Access.report at hx
      dsimp only at hx
      split at hx
      · rw [← Option.some.inj hx]
        rfl
      · cases hx
  refine List.Pairwise.filterMap _ (fun a b hab x hx y hy => ?_) h
  rw [← htime hx, ← htime hy]
  exact hab

/-- If the clock is not put back, no report that was dropped is more recent than
the threshold. -/
theorem Dropped.old (h : Dropped threshold clientId before since)
    (hclock : (before ++ since).Pairwise fun a b => a.now ≤ b.now)
    (hnow : ∀ a ∈ before ++ since, a.now ≤ now) :
    ∀ x ∈ reports clientId before, threshold < now - x.1 := by
  intro x hx
  obtain rfl | ⟨pre, passed, rfl, last, hlast, hold⟩ := h.pass
  · cases hx
  · rw [reports_concat_pass] at hx
    obtain ⟨init, heq⟩ := List.getLast?_eq_some_iff.mp hlast
    have hpre := pairwise_reports (List.pairwise_append.mp (List.pairwise_append.mp hclock).1).1
      clientId
    rw [heq] at hpre hx
    have hle : x.1 ≤ last.1 := by
      rcases List.mem_append.mp hx with hx | hx
      · exact (List.pairwise_append.mp hpre).2.2 x hx last (List.mem_singleton_self _)
      · rw [List.mem_singleton.mp hx]
    have hpassed : passed ≤ now :=
      hnow (.clearOldRecords passed) (List.mem_append_left _
        (List.mem_append_right _ (List.mem_singleton_self _)))
    omega

end Reports

end FaultTracker

end Pollbook
