import Pollbook.Rehearsal
import Pollbook.Verify.IdSteps

/-!
# One answer a connection

The ID service reads one message of a connection and then no more: the handler of
the payload starts no other read. So over any number of processes a peer gets at
most one answer for each of its handshakes, and until it connects again, no more
than a size line and a payload of it are read (`connections_get_one_answer`).
-/

namespace Pollbook

namespace VoterIDService

namespace Process

variable {env : Env} {found : Surroundings} {s₀ s s' : Process} {clientIp : Endpoint} {e : Event}
  {acts : List Action} {ev : Event ⊕ Reboot} {tr : List ((Event ⊕ Reboot) × List Action)}

/-- The step answers the peer so many times. -/
def answersTo (clientIp : Endpoint) (x : (Event ⊕ Reboot) × List Action) : Nat :=
  x.2.countP fun a =>
    match a with
    | .wrote ip _ => ip == clientIp
    | _ => false

/-- A handshake of the peer is done. -/
def connects (clientIp : Endpoint) (x : (Event ⊕ Reboot) × List Action) : Bool :=
  match x.1 with
  | .inl e =>
    match e.occurrence with
    | .handshakeDone ip _ => ip == clientIp
    | _ => false
  | .inr _ => false

/-- A line of the peer is read. -/
def readsLine (clientIp : Endpoint) (x : (Event ⊕ Reboot) × List Action) : Bool :=
  match x.1 with
  | .inl e =>
    match e.occurrence with
    | .lineRead ip => ip == clientIp
    | _ => false
  | .inr _ => false

/-! ## The read of one peer -/

/-- What a step can do to the outstanding read of a peer, with whether a handshake
of the peer is done, whether a line of it is read, and how often it is answered. -/
inductive Turn : Option PendingRead → Option PendingRead → Bool → Bool → Nat → Prop
  | kept (read : Option PendingRead) : Turn read read false false 0
  | ended (read : Option PendingRead) : Turn read none false false 0
  | connected (read : Option PendingRead) : Turn read (some .size) true false 0
  | sizeLine (n : UInt64) : Turn (some .size) (some (.payload n)) false true 0
  | payloadLine (n : UInt64) {answers : Nat} (hone : answers ≤ 1) :
      Turn (some (.payload n)) none false true answers

/-- A line of a peer is read, and the other peers keep their reads. -/
theorem Turn.of_lineRead {ip : Endpoint} {read read' : Option PendingRead} {answers : Nat}
    (hself : ip = clientIp → Turn read read' false true answers)
    (hother : ip ≠ clientIp → read' = read ∧ answers = 0) :
    Turn read read' false (ip == clientIp) answers := by
  by_cases hip : ip = clientIp
  · rw [beq_iff_eq.mpr hip]
    exact hself hip
  · obtain ⟨rfl, rfl⟩ := hother hip
    rw [beq_eq_false_iff_ne.mpr hip]
    exact .kept _

/-- Every step of the service is one of these for every peer. -/
theorem life_turn (hnext : life env s ev = some (s', acts)) (clientIp : Endpoint) :
    Turn (s.reads clientIp) (s'.reads clientIp) (connects clientIp (ev, acts))
      (readsLine clientIp (ev, acts)) (answersTo clientIp (ev, acts)) := by
  cases ev with
  | inr r =>
    obtain ⟨hreboot, rfl⟩ := withRestarts_inr.mp hnext
    obtain ⟨keys, -, rfl⟩ := start_eq_ok (reboot_eq_some.mp hreboot)
    exact .ended _
  | inl e =>
    obtain ⟨io, savesKey, occurrence⟩ := e
    cases next_step hnext with
    | accepted | acceptFailed | received | handshakeFailed => exact .kept _
    | uncertified ip | @certified ip =>
      -- the session that begins reads a size line
      change Turn _ (s.reads.set ip .size clientIp) (ip == clientIp) false 0
      by_cases hip : ip = clientIp
      · rw [hip, Map.set_self, beq_self_eq_true]
        exact .connected _
      · rw [Map.set_of_ne _ (Ne.symm hip), beq_eq_false_iff_ne.mpr hip]
        exact .kept _
    | @sizeRead ip n stream hread hsize hstream =>
      change Turn _ ((s.reads.erase ip).set ip (.payload n) clientIp) false (ip == clientIp) 0
      refine .of_lineRead (fun hip => ?_) fun hip => ⟨?_, rfl⟩
      · rw [← hip, hread.outstanding, Map.set_self]
        exact .sizeLine n
      · rw [Map.set_of_ne _ (Ne.symm hip), Map.erase_of_ne _ (Ne.symm hip)]
    | @mismatch ip n hread =>
      change Turn _ (s.reads.erase ip clientIp) false (ip == clientIp) 0
      refine .of_lineRead (fun hip => ?_) fun hip => ⟨Map.erase_of_ne _ (Ne.symm hip), rfl⟩
      rw [← hip, hread.outstanding, Map.erase_self]
      exact .payloadLine n (Nat.zero_le _)
    | @request ip n json request svc acts hread hsize hparse hrequest houtcome =>
      change Turn _ (s.reads.erase ip clientIp) false (ip == clientIp) _
      have hanswers : answersTo clientIp (.inl ⟨io, savesKey, .lineRead ip⟩, acts) ≤
          if ip = clientIp then 1 else 0 := by
        cases houtcome with
        | ignored => exact Nat.zero_le _
        | endorsed =>
          by_cases hip : ip = clientIp
          · simp [answersTo, hip]
          · simp [answersTo, hip]
      refine .of_lineRead (fun hip => ?_) fun hip => ⟨Map.erase_of_ne _ (Ne.symm hip), ?_⟩
      · rw [if_pos hip] at hanswers
        rw [← hip, hread.outstanding, Map.erase_self, hip]
        exact .payloadLine n hanswers
      · rw [if_neg hip] at hanswers
        exact Nat.le_zero.mp hanswers
    | @disconnected ip | @readFailed ip =>
      change Turn _ (s.reads.erase ip clientIp) false false 0
      rw [Map.erase_apply]
      split
      · exact .ended _
      · exact .kept _

/-! ## What a read can still bring -/

/-- How many lines will be read. -/
def linesLeft : Option PendingRead → Nat
  | some .size => 2
  | some (.payload _) => 1
  | none => 0

/-- How many answers there will be. -/
def answersLeft : Option PendingRead → Nat
  | some _ => 1
  | none => 0

section Turns

variable {read read' : Option PendingRead} {connected line : Bool} {answers : Nat}

/-- An answer uses up a read, and only a handshake makes room for another. -/
theorem Turn.answers_le (h : Turn read read' connected line answers) :
    answers + answersLeft read' ≤ answersLeft read + (if connected then 1 else 0) := by
  cases h with
  | kept | sizeLine => exact Nat.le_of_eq (Nat.zero_add _)
  | ended => exact Nat.zero_le _
  | connected => exact Nat.le_add_left _ _
  | payloadLine n hone => exact hone

/-- So does a line, and there are two to a handshake. -/
theorem Turn.lines_le (h : Turn read read' connected line answers) :
    (if line then 1 else 0) + linesLeft read' ≤
      linesLeft read + 2 * (if connected then 1 else 0) := by
  cases h with
  | kept => exact Nat.le_of_eq (Nat.zero_add _)
  | ended => exact Nat.zero_le _
  | connected => exact Nat.le_add_left _ _
  | sizeLine | payloadLine => exact Nat.le_refl _

/-- An answer is given to the last line there is. -/
theorem Turn.of_answered (h : Turn read read' connected line answers) (hpos : 0 < answers) :
    line = true ∧ connected = false ∧ read' = none := by
  cases h with
  | payloadLine => exact ⟨rfl, rfl, rfl⟩
  | _ => cases hpos

theorem Turn.of_line (h : Turn read read' connected line answers) (hline : line = true) :
    connected = false := by
  cases h with
  | connected => cases hline
  | _ => rfl

end Turns

/-! ## Runs -/

theorem run_answers (hrun : Run (life env) s₀ tr s) (clientIp : Endpoint) :
    (tr.map (answersTo clientIp)).sum + answersLeft (s.reads clientIp) ≤
      answersLeft (s₀.reads clientIp) + tr.countP (connects clientIp) := by
  induction hrun with
  | nil => simp
  | snoc hrun hnext ih =>
    have hstep := (life_turn hnext clientIp).answers_le
    rw [List.map_append, List.sum_append, List.countP_append, List.map_singleton,
      List.sum_singleton, List.countP_singleton]
    omega

theorem run_lines (hrun : Run (life env) s₀ tr s) (clientIp : Endpoint) :
    tr.countP (readsLine clientIp) + linesLeft (s.reads clientIp) ≤
      linesLeft (s₀.reads clientIp) + 2 * tr.countP (connects clientIp) := by
  induction hrun with
  | nil => simp
  | snoc hrun hnext ih =>
    have hstep := (life_turn hnext clientIp).lines_le
    rw [List.countP_append, List.countP_append, List.countP_singleton, List.countP_singleton]
    omega

theorem linesLeft_le (read : Option PendingRead) : linesLeft read ≤ 2 := by
  unfold linesLeft
  split <;> decide

/-- A peer gets at most one answer for each of its handshakes, over any number of
processes. Until it connects again, at most two of its lines are read, the size
line and the payload, and none after an answer. -/
theorem connections_get_one_answer (hstart : start env found = .ok s₀)
    (hrun : Run (life env) s₀ tr s) (clientIp : Endpoint) :
    (tr.map (answersTo clientIp)).sum ≤ tr.countP (connects clientIp) ∧
      tr.countP (readsLine clientIp) ≤ 2 * tr.countP (connects clientIp) ∧
      (∀ x ∈ tr, 0 < answersTo clientIp x → readsLine clientIp x = true) ∧
      (∀ pre x mid y post, tr = pre ++ x :: (mid ++ y :: post) → 0 < answersTo clientIp x →
        readsLine clientIp y = true → ∃ z ∈ mid, connects clientIp z = true) ∧
      ∀ pre mid post, tr = pre ++ (mid ++ post) → (∀ z ∈ mid, connects clientIp z = false) →
        mid.countP (readsLine clientIp) ≤ 2 := by
  have hnone : s₀.reads clientIp = none := by
    obtain ⟨keys, -, rfl⟩ := start_eq_ok hstart
    rfl
  refine ⟨?_, ?_, ?_, ?_, ?_⟩
  · have hle := run_answers hrun clientIp
    rw [hnone, answersLeft] at hle
    omega
  · have hle := run_lines hrun clientIp
    rw [hnone, linesLeft] at hle
    omega
  · rintro ⟨ev, acts⟩ hx hanswered
    obtain ⟨pre, post, rfl⟩ := List.append_of_mem hx
    obtain ⟨m, m', -, hnext, -⟩ := hrun.splitStep
    exact ((life_turn hnext clientIp).of_answered hanswered).1
  · rintro pre ⟨ev, acts⟩ mid ⟨ev', acts'⟩ post rfl hanswered hline
    obtain ⟨m, m', -, hnext, hrest⟩ := hrun.splitStep
    obtain ⟨k, k', hmid, hnext', -⟩ := hrest.splitStep
    -- the answer leaves nothing to be read, and the line needs a read
    obtain ⟨-, -, hread⟩ := (life_turn hnext clientIp).of_answered hanswered
    have hsecond := (life_turn hnext' clientIp).lines_le
    have hbetween := run_lines hmid clientIp
    rw [hread, linesLeft] at hbetween
    rw [(life_turn hnext' clientIp).of_line hline, if_pos hline, if_neg Bool.false_ne_true]
      at hsecond
    exact List.countP_pos_iff.mp (by omega)
  · rintro pre mid post rfl hquiet
    obtain ⟨m, -, hrest⟩ := hrun.split
    obtain ⟨k, hmid, -⟩ := hrest.split
    have hle := run_lines hmid clientIp
    have hbefore := linesLeft_le (m.reads clientIp)
    have hzero : mid.countP (connects clientIp) = 0 :=
      List.countP_eq_zero.mpr fun z hz => by simp [hquiet z hz]
    omega

section Rehearsal

open Rehearsal

/-- The kiosk connects, asks, connects again and asks again. -/
def askTwice : List (Event ⊕ Reboot) := (idAsk ++ idAsk).map .inl

theorem connections_get_one_answer_rehearsal :
    ∃ tr s, Run (life idEnv) idOpening tr s ∧ (tr.map (answersTo kioskIp)).sum = 2 ∧
      tr.countP (readsLine kioskIp) = 4 ∧
      (tr.map (answersTo kioskIp)).sum ≤ tr.countP (connects kioskIp) ∧
      tr.countP (readsLine kioskIp) ≤ 2 * tr.countP (connects kioskIp) := by
  have hexec : (exec (life idEnv) idOpening askTwice).any
      (fun r => decide ((r.1.map (answersTo kioskIp)).sum = 2 ∧
        r.1.countP (readsLine kioskIp) = 4)) = true := by
    decide +kernel
  obtain ⟨tr, s, hrun, hs⟩ := Run.exists_of_exec hexec
  obtain ⟨hanswers, hlines⟩ := of_decide_eq_true hs
  obtain ⟨hle, htwo, -⟩ := connections_get_one_answer start_idOpening hrun kioskIp
  exact ⟨tr, s, hrun, hanswers, hlines, hle, htwo⟩

end Rehearsal

end Process

end VoterIDService

end Pollbook
