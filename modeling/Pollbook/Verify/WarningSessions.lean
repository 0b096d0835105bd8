import Pollbook.Rehearsal
import Pollbook.Warnings.Sessions

/-!
# What the sessions of the query server execute

The server that serves lines to one client at a time, and the one that reads
bytes from any number of connections: each run of the second is one of the
first, with the commands of a session the first lines of what came in on its
connection, in order, and one response to each before the next is read
(`sessions_execute_their_lines`).
-/

namespace Pollbook

namespace WarningQueryServer

namespace Process

variable {codec : Codec} {sink₀ : Option WarningCacheSink} {s s' : Process} {k j : Nat}
  {occ : Occurrence} {out : List (Event × List Response)} {unread : Bytes}
  {tr : List (Occurrence × List (Event × List Response))}

/-! ## One step -/

theorem getline_eq {unread : Bytes} (h : newline ∈ unread) :
    (getline unread).1 ++ newline :: (getline unread).2 = unread ∧
      newline ∉ (getline unread).1 := by
  constructor
  · have hne : unread.dropWhile (· ≠ newline) ≠ [] := by
      intro hnil
      have hall := List.dropWhile_eq_nil_iff.mp hnil newline h
      simp at hall
    have hhead : (unread.dropWhile (· ≠ newline)).head hne = newline := by
      have hnot := List.head_dropWhile_not (· ≠ newline) hne
      simpa using hnot
    have htail := List.cons_head_tail hne
    rw [hhead] at htail
    dsimp only [getline]
    rw [htail]
    exact List.takeWhile_append_dropWhile
  · intro hmem
    have hne := List.mem_takeWhile_imp hmem
    simp at hne

/-- What a step does to the sessions. -/
inductive Step (s : Process) : Occurrence → Process → List (Event × List Response) → Prop
  | logged {level : Level} {formatted : Bytes} {sink : Option WarningCacheSink}
      {responses : List Response} :
      Step s (.logged level formatted) { s with sink := sink }
        [(.logged level formatted, responses)]
  | accepted : Step s .accepted s.handleSession []
  | acceptFailed : Step s .acceptFailed s []
  | received {k : Nat} {unread : Bytes} (bytes : Bytes)
      (hsession : s.sessions k = some ⟨unread, .line⟩) :
      Step s (.received k bytes)
        { s with sessions := s.sessions.set k ⟨unread ++ bytes, .line⟩ } []
  | lineRead {k : Nat} {command rest : Bytes} {sink : Option WarningCacheSink}
      {responses : List Response} (hline : newline ∉ command)
      (hsession : s.sessions k = some ⟨command ++ newline :: rest, .line⟩) :
      Step s (.lineRead k)
        { s with sink := sink, sessions := s.sessions.set k ⟨rest, .written⟩ }
        [(.command k command, responses)]
  | readFailed {k : Nat} {unread : Bytes} (hsession : s.sessions k = some ⟨unread, .line⟩) :
      Step s (.readFailed k) { s with sessions := s.sessions.erase k } []
  | written {k : Nat} {unread : Bytes} (hsession : s.sessions k = some ⟨unread, .written⟩) :
      Step s (.written k) { s with sessions := s.sessions.set k ⟨unread, .line⟩ } []
  | writeFailed {k : Nat} {unread : Bytes} (hsession : s.sessions k = some ⟨unread, .written⟩) :
      Step s (.writeFailed k) { s with sessions := s.sessions.erase k } []

theorem next_step (h : next codec s occ = some (s', out)) :
    Step s occ s' out ∧ Run (WarningQueryServer.next codec) s.sink out s'.sink := by
  cases occ with
  | logged level formatted =>
    dsimp only [next] at h
    obtain ⟨⟨sink, responses⟩, hnext, heq⟩ := Option.map_eq_some_iff.mp h
    obtain ⟨rfl, rfl⟩ := Prod.mk.inj heq
    exact ⟨.logged, .single hnext⟩
  | accepted =>
    obtain ⟨rfl, rfl⟩ := Prod.mk.inj (Option.some.inj h)
    exact ⟨.accepted, .nil⟩
  | acceptFailed =>
    obtain ⟨rfl, rfl⟩ := Prod.mk.inj (Option.some.inj h)
    exact ⟨.acceptFailed, .nil⟩
  | received k bytes =>
    dsimp only [next] at h
    split at h
    · next hsession =>
      split at h
      · cases h
      · obtain ⟨rfl, rfl⟩ := Prod.mk.inj (Option.some.inj h)
        exact ⟨.received bytes hsession, .nil⟩
    · cases h
  | lineRead k =>
    dsimp only [next] at h
    split at h
    · next unread hsession =>
      split at h
      · next hmem =>
        obtain ⟨⟨sink, responses⟩, hnext, heq⟩ := Option.map_eq_some_iff.mp h
        obtain ⟨rfl, rfl⟩ := Prod.mk.inj heq
        obtain ⟨hunread, hline⟩ := getline_eq hmem
        exact ⟨.lineRead hline (hunread.symm ▸ hsession), .single hnext⟩
      · cases h
    · cases h
  | readFailed k =>
    dsimp only [next] at h
    split at h
    · next hsession =>
      obtain ⟨rfl, rfl⟩ := Prod.mk.inj (Option.some.inj h)
      exact ⟨.readFailed hsession, .nil⟩
    · cases h
  | written k =>
    dsimp only [next] at h
    split at h
    · next hsession =>
      obtain ⟨rfl, rfl⟩ := Prod.mk.inj (Option.some.inj h)
      exact ⟨.written hsession, .nil⟩
    · cases h
  | writeFailed k =>
    dsimp only [next] at h
    split at h
    · next hsession =>
      obtain ⟨rfl, rfl⟩ := Prod.mk.inj (Option.some.inj h)
      exact ⟨.writeFailed hsession, .nil⟩
    · cases h

/-! ## The past of a session -/

/-- The bytes a step brings to a session. -/
def brought (k : Nat) (x : Occurrence × List (Event × List Response)) : Bytes :=
  match x.1 with
  | .received j bytes => if j = k then bytes else []
  | _ => []

/-- The bytes that came in on the connection of a session. -/
def arrived (k : Nat) (tr : List (Occurrence × List (Event × List Response))) : Bytes :=
  tr.flatMap (brought k)

/-- The steps of the server that serves lines. -/
def executed (tr : List (Occurrence × List (Event × List Response))) :
    List (Event × List Response) :=
  tr.flatMap (·.2)

/-- The command of a session, if the step is one. -/
def commandOf (k : Nat) (x : Event × List Response) : Option Bytes :=
  match x.1 with
  | .command j line => if j = k then some line else none
  | .logged _ _ => none

/-- The commands of a session. -/
def commands (k : Nat) (tr : List (Occurrence × List (Event × List Response))) : List Bytes :=
  (executed tr).filterMap (commandOf k)

/-- How many responses a session has written. -/
def responded (k : Nat) (tr : List (Occurrence × List (Event × List Response))) : Nat :=
  tr.countP fun x => x.1 = .written k

/-- Lines, each with its end. -/
def spoken (lines : List Bytes) : Bytes := lines.flatMap (· ++ [newline])

theorem spoken_append_singleton (lines : List Bytes) (line rest : Bytes) :
    spoken (lines ++ [line]) ++ rest = spoken lines ++ (line ++ newline :: rest) := by
  simp [spoken]

/-- A session, with what came in on its connection, the commands it executed and
the responses it has written. -/
inductive Told : Bytes → List Bytes → Nat → Option Session → Prop
  | reading (lines : List Bytes) (unread : Bytes) :
      Told (spoken lines ++ unread) lines lines.length (some ⟨unread, .line⟩)
  | writing (lines : List Bytes) (line unread : Bytes) :
      Told (spoken (lines ++ [line]) ++ unread) (lines ++ [line]) lines.length
        (some ⟨unread, .written⟩)
  | gone {arrived : Bytes} {lines : List Bytes} {n : Nat} (hlines : spoken lines <+: arrived)
      (hle : n ≤ lines.length) (hlt : lines.length ≤ n + 1) : Told arrived lines n none

/-- Nothing is known of a session. -/
def Unheard (k : Nat) (tr : List (Occurrence × List (Event × List Response))) : Prop :=
  arrived k tr = [] ∧ commands k tr = [] ∧ responded k tr = 0

namespace Told

variable {arrived : Bytes} {lines : List Bytes} {n : Nat}

theorem receive (h : Told arrived lines n (some ⟨unread, .line⟩)) (bytes : Bytes) :
    Told (arrived ++ bytes) lines n (some ⟨unread ++ bytes, .line⟩) := by
  cases h with
  | reading =>
    rw [List.append_assoc]
    exact .reading lines (unread ++ bytes)

theorem read {line rest : Bytes}
    (h : Told arrived lines n (some ⟨line ++ newline :: rest, .line⟩)) :
    Told arrived (lines ++ [line]) n (some ⟨rest, .written⟩) := by
  cases h with
  | reading =>
    rw [← spoken_append_singleton]
    exact .writing lines line rest

theorem write (h : Told arrived lines n (some ⟨unread, .written⟩)) :
    Told arrived lines (n + 1) (some ⟨unread, .line⟩) := by
  cases h with
  | writing lines line =>
    have hlength : (lines ++ [line]).length = lines.length + 1 := List.length_append
    rw [← hlength]
    exact .reading (lines ++ [line]) unread

/-- Every command has been read from what came in, and all but the last one
answered. -/
theorem bounds {session : Option Session} (h : Told arrived lines n session) :
    spoken lines <+: arrived ∧ n ≤ lines.length ∧ lines.length ≤ n + 1 := by
  cases h with
  | reading => exact ⟨List.prefix_append .., Nat.le_refl _, Nat.le_succ _⟩
  | writing lines line =>
    have hlength : (lines ++ [line]).length = lines.length + 1 := List.length_append
    rw [hlength]
    exact ⟨List.prefix_append .., Nat.le_succ _, Nat.le_refl _⟩
  | gone hlines hle hlt => exact ⟨hlines, hle, hlt⟩

theorem fail {session : Option Session} (h : Told arrived lines n session) :
    Told arrived lines n none :=
  .gone h.bounds.1 h.bounds.2.1 h.bounds.2.2

end Told

/-- What is so of a session in a run. -/
structure Known (s : Process) (k : Nat)
    (tr : List (Occurrence × List (Event × List Response))) : Prop where
  told : Told (arrived k tr) (commands k tr) (responded k tr) (s.sessions k)
  lines : ∀ line ∈ commands k tr, newline ∉ line
  unborn : s.accepted ≤ k → s.sessions k = none ∧ arrived k tr = [] ∧ commands k tr = [] ∧
    responded k tr = 0

theorem Known.accepted_lt {c : Session} (h : Known s k tr) (hsession : s.sessions k = some c) :
    k < s.accepted := by
  by_contra hge
  obtain ⟨hnone, -⟩ := h.unborn (Nat.le_of_not_lt hge)
  rw [hsession] at hnone
  cases hnone

/-! The past of a session, one step on. -/

theorem arrived_snoc : arrived k (tr ++ [(occ, out)]) = arrived k tr ++ brought k (occ, out) := by
  simp [arrived]

theorem commands_snoc :
    commands k (tr ++ [(occ, out)]) = commands k tr ++ out.filterMap (commandOf k) := by
  simp [commands, executed]

theorem responded_snoc : responded k (tr ++ [(occ, out)]) =
    responded k tr + (if occ = .written k then 1 else 0) := by
  simp [responded, List.countP_append, List.countP_singleton]

/-- A step that does nothing a session can see. -/
theorem Known.silent (h : Known s k tr) (hbrought : brought k (occ, out) = [])
    (hcommands : out.filterMap (commandOf k) = []) (hwritten : occ ≠ .written k)
    (hsession : s'.sessions k = s.sessions k) (haccepted : s.accepted ≤ s'.accepted) :
    Known s' k (tr ++ [(occ, out)]) := by
  have harrived : arrived k (tr ++ [(occ, out)]) = arrived k tr := by
    rw [arrived_snoc, hbrought, List.append_nil]
  have hlines : commands k (tr ++ [(occ, out)]) = commands k tr := by
    rw [commands_snoc, hcommands, List.append_nil]
  have hresponded : responded k (tr ++ [(occ, out)]) = responded k tr := by
    rw [responded_snoc, if_neg hwritten, Nat.add_zero]
  refine ⟨?_, ?_, fun hle => ?_⟩
  · rw [harrived, hlines, hresponded, hsession]
    exact h.told
  · rw [hlines]
    exact h.lines
  · rw [harrived, hlines, hresponded, hsession]
    exact h.unborn (Nat.le_trans haccepted hle)

/-- A step of a session that is there. -/
theorem Known.own {c : Session} {c' : Option Session} (h : Known s k tr)
    (hsession : s.sessions k = some c) (haccepted : s'.accepted = s.accepted)
    (hsession' : s'.sessions k = c')
    (hlines : ∀ line ∈ out.filterMap (commandOf k), newline ∉ line)
    (htold : Told (arrived k tr ++ brought k (occ, out))
      (commands k tr ++ out.filterMap (commandOf k))
      (responded k tr + if occ = .written k then 1 else 0) c') :
    Known s' k (tr ++ [(occ, out)]) := by
  refine ⟨?_, ?_, fun hle => ?_⟩
  · rw [arrived_snoc, commands_snoc, responded_snoc, hsession']
    exact htold
  · rw [commands_snoc]
    exact List.forall_mem_append.mpr ⟨h.lines, hlines⟩
  · have hlt := h.accepted_lt hsession
    omega

theorem Step.known (hstep : Step s occ s' out) (h : Known s k tr) :
    Known s' k (tr ++ [(occ, out)]) := by
  have htold := h.told
  have hquiet : ∀ line ∈ ([] : List Bytes), newline ∉ line := fun _ hmem => nomatch hmem
  cases hstep with
  | logged => exact h.silent rfl rfl nofun rfl (Nat.le_refl _)
  | acceptFailed => exact h.silent rfl rfl nofun rfl (Nat.le_refl _)
  | accepted =>
    by_cases hk : k = s.accepted
    · obtain ⟨-, harrived, hcommands, hresponded⟩ := h.unborn (Nat.le_of_eq hk.symm)
      refine ⟨?_, ?_, fun hle => ?_⟩
      · have hsession : s.handleSession.sessions k = some ⟨[], .line⟩ := by
          rw [hk]
          exact Map.set_self ..
        rw [arrived_snoc, commands_snoc, responded_snoc, harrived, hcommands, hresponded, hsession]
        exact .reading [] []
      · rw [commands_snoc, hcommands]
        exact hquiet
      · have hlt : s.accepted + 1 ≤ k := hle
        omega
    · exact h.silent rfl rfl nofun (Map.set_of_ne _ hk _) (Nat.le_succ _)
  | @received j unread bytes hsession =>
    by_cases hk : k = j
    · subst hk
      rw [hsession] at htold
      refine h.own hsession rfl (Map.set_self ..) hquiet ?_
      simpa [brought] using htold.receive bytes
    · exact h.silent (if_neg (Ne.symm hk)) rfl nofun (Map.set_of_ne _ hk _) (Nat.le_refl _)
  | @lineRead j command rest sink responses hline hsession =>
    by_cases hk : k = j
    · subst hk
      rw [hsession] at htold
      refine h.own hsession rfl (Map.set_self ..) ?_ ?_
      · simpa [commandOf] using hline
      · simpa [brought, commandOf] using htold.read
    · refine h.silent rfl ?_ nofun (Map.set_of_ne _ hk _) (Nat.le_refl _)
      simp [commandOf, Ne.symm hk]
  | @readFailed j unread hsession =>
    by_cases hk : k = j
    · subst hk
      refine h.own hsession rfl (Map.erase_self ..) hquiet ?_
      simpa [brought] using htold.fail
    · exact h.silent rfl rfl nofun (Map.erase_of_ne _ hk) (Nat.le_refl _)
  | @written j unread hsession =>
    by_cases hk : k = j
    · subst hk
      rw [hsession] at htold
      refine h.own hsession rfl (Map.set_self ..) hquiet ?_
      simpa [brought] using htold.write
    · refine h.silent rfl rfl ?_ (Map.set_of_ne _ hk _) (Nat.le_refl _)
      rintro ⟨rfl⟩
      exact hk rfl
  | @writeFailed j unread hsession =>
    by_cases hk : k = j
    · subst hk
      refine h.own hsession rfl (Map.erase_self ..) hquiet ?_
      simpa [brought] using htold.fail
    · exact h.silent rfl rfl nofun (Map.erase_of_ne _ hk) (Nat.le_refl _)

/-! ## Runs -/

/-- What came in on a connection and what its session does with it. -/
theorem run_known (hrun : Run (next codec) (start sink₀) tr s) (k : Nat) : Known s k tr := by
  induction hrun with
  | nil =>
    have hquiet : ∀ line ∈ ([] : List Bytes), newline ∉ line := fun _ hmem => nomatch hmem
    refine ⟨?_, hquiet, fun _ => ⟨rfl, rfl, rfl, rfl⟩⟩
    exact .gone List.nil_prefix (Nat.le_refl _) (Nat.le_succ _)
  | snoc _ hnext ih => exact (next_step hnext).1.known ih

theorem run_executed (hrun : Run (next codec) (start sink₀) tr s) :
    Run (WarningQueryServer.next codec) sink₀ (executed tr) s.sink := by
  induction hrun with
  | nil => exact .nil
  | @snoc tr m s occ out _ hnext ih =>
    have hexecuted : executed (tr ++ [(occ, out)]) = executed tr ++ out := by
      simp [executed]
    rw [hexecuted]
    exact ih.append (next_step hnext).2

/-- A run over bytes is a run over lines: the commands of a session are the first
lines of what came in on its connection, and each waits for the response to the
one before. -/
theorem sessions_execute_their_lines (hrun : Run (next codec) (start sink₀) tr s) :
    Run (WarningQueryServer.next codec) sink₀ (executed tr) s.sink ∧
      ∀ k, (∀ line ∈ commands k tr, newline ∉ line) ∧ spoken (commands k tr) <+: arrived k tr ∧
        responded k tr ≤ (commands k tr).length ∧ (commands k tr).length ≤ responded k tr + 1 ∧
        ∀ c, s.sessions k = some c → arrived k tr = spoken (commands k tr) ++ c.unread ∧
          (c.awaited = .line ↔ (commands k tr).length = responded k tr) := by
  refine ⟨run_executed hrun, fun k => ?_⟩
  obtain ⟨htold, hlines, -⟩ := run_known hrun k
  obtain ⟨hspoken, hle, hlt⟩ := htold.bounds
  refine ⟨hlines, hspoken, hle, hlt, fun c hsession => ?_⟩
  rw [hsession] at htold
  generalize arrived k tr = arrived, commands k tr = lines, responded k tr = n at htold
  cases htold with
  | reading => simp
  | writing => simp

section Rehearsal

/-- The first session sends two commands at once, and the second one a command
in two pieces. -/
def twoSessions : List Occurrence :=
  [.logged .warn (bytes "first"), .accepted, .accepted,
    .received 0 (bytes "get_warnings" ++ newline :: (bytes "remove_warning 0" ++ [newline])),
    .received 1 (bytes "clear_"), .lineRead 0, .received 1 (bytes "warnings" ++ [newline]),
    .lineRead 1, .written 0, .lineRead 0]

theorem sessions_execute_their_lines_rehearsal :
    ∃ tr s, Run (next Codec.reference) (start (some ⟨[], 0⟩)) tr s ∧
      (commands 0 tr).length = 2 ∧ commands 1 tr = [bytes "clear_warnings"] ∧
      Run (WarningQueryServer.next Codec.reference) (some ⟨[], 0⟩) (executed tr) s.sink := by
  have hexec : (exec (next Codec.reference) (start (some ⟨[], 0⟩)) twoSessions).any (fun r =>
      decide ((commands 0 r.1).length = 2) &&
        decide (commands 1 r.1 = [bytes "clear_warnings"])) = true := by
    decide +kernel
  obtain ⟨tr, s, hrun, hs⟩ := Run.exists_of_exec hexec
  simp only [Bool.and_eq_true, decide_eq_true_eq] at hs
  exact ⟨tr, s, hrun, hs.1, hs.2, (sessions_execute_their_lines hrun).1⟩

end Rehearsal

end Process

end WarningQueryServer

end Pollbook
