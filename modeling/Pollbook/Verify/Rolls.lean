import Pollbook.Rehearsal

/-!
# The two readers of the check-in roll

`load_voter_list` takes the number in front of a line for a UID and admits the
voter; `find_voter` looks for a line of nine columns that begins with the UID as
`to_string` prints it, and the PIN is compared as a text too. A voter the first
admits is found by the second when the voter's first line is written that way
(`admitted_is_confirmable`).
-/

namespace Pollbook

/-! ## Columns -/

/-- What is behind the first `n` commas of a line. -/
def behind : Nat → Bytes → Bytes
  | 0, line => line
  | n + 1, line => behind n (line.dropWhile (· ≠ comma)).tail

/-- The columns of a line, counted from 0. -/
def column (n : Nat) (line : Bytes) : Bytes := (behind n line).takeWhile (· ≠ comma)

theorem behind_succ (n : Nat) (line : Bytes) :
    behind (n + 1) line = ((behind n line).dropWhile (· ≠ comma)).tail := by
  induction n generalizing line with
  | zero => rfl
  | succ n ih => exact ih (line.dropWhile (· ≠ comma)).tail

theorem behind_ne_nil {n : Nat} {line : Bytes} (h : behind (n + 1) line ≠ []) :
    behind n line ≠ [] := by
  intro hnil
  rw [behind_succ, hnil] at h
  exact h rfl

/-- `getline` on the rest of a line takes the next column. -/
theorem getline_behind {n : Nat} {line : Bytes} (h : behind n line ≠ []) :
    getline comma (behind n line) = some (column n line, behind (n + 1) line) := by
  rw [behind_succ]
  unfold column
  cases hrest : behind n line with
  | nil => exact absurd hrest h
  | cons b rest => rfl

theorem rest_of_getline {n : Nat} {line field rest : Bytes}
    (h : getline comma (behind n line) = some (field, rest)) : rest = behind (n + 1) line := by
  have hne : behind n line ≠ [] := by
    intro hnil
    rw [hnil] at h
    cases h
  rw [getline_behind hne, Option.some.injEq, Prod.mk.injEq] at h
  exact h.2.symm

/-- The columns of a line of the roll that are used. -/
def voterOf (line : Bytes) : VoterInfo :=
  ⟨column 2 line, column 3 line, column 4 line, column 1 line⟩

/-- A line with nothing in its ninth column cannot be taken apart. -/
theorem voterRow_eq_none {line : Bytes} (h : behind 8 line = []) : voterRow line = none := by
  refine Option.eq_none_iff_forall_not_mem.mpr ?_
  intro x hx
  unfold voterRow at hx
  simp only [Option.mem_def, Option.bind_eq_bind, Option.bind_eq_some_iff] at hx
  obtain ⟨⟨_, r₁⟩, h₁, ⟨_, r₂⟩, h₂, ⟨_, r₃⟩, h₃, ⟨_, r₄⟩, h₄, ⟨_, r₅⟩, h₅, ⟨_, r₆⟩, h₆, ⟨_, r₇⟩, h₇,
    ⟨_, r₈⟩, h₈, ⟨_, r₉⟩, h₉, -⟩ := hx
  have hr₁ : r₁ = behind 1 line := @rest_of_getline 0 line _ _ h₁
  subst hr₁
  obtain rfl := rest_of_getline h₂
  obtain rfl := rest_of_getline h₃
  obtain rfl := rest_of_getline h₄
  obtain rfl := rest_of_getline h₅
  obtain rfl := rest_of_getline h₆
  obtain rfl := rest_of_getline h₇
  obtain rfl := rest_of_getline h₈
  rw [h] at h₉
  cases h₉

/-- A line can be taken apart when there is something in its ninth column. -/
theorem voterRow_eq_some {line : Bytes} (h₈ : behind 8 line ≠ []) :
    voterRow line = some (column 0 line, voterOf line) := by
  have h₇ := behind_ne_nil h₈
  have h₆ := behind_ne_nil h₇
  have h₅ := behind_ne_nil h₆
  have h₄ := behind_ne_nil h₅
  have h₃ := behind_ne_nil h₄
  have h₂ := behind_ne_nil h₃
  have h₁ := behind_ne_nil h₂
  have hfirst : getline comma line = some (column 0 line, behind 1 line) :=
    getline_behind (behind_ne_nil h₁)
  have hlast : ∃ x, getline newline (behind 8 line) = some x := by
    cases hrest : behind 8 line with
    | nil => exact absurd hrest h₈
    | cons b rest => exact ⟨_, rfl⟩
  obtain ⟨x, hx⟩ := hlast
  unfold voterRow
  simp only [hfirst, getline_behind h₁, getline_behind h₂, getline_behind h₃, getline_behind h₄,
    getline_behind h₅, getline_behind h₆, getline_behind h₇, hx, Option.bind_eq_bind,
    Option.bind_some]
  rfl

/-! ## The rows that are read -/

/-- `load_voter_list` reads the line as one of the voter. -/
def readsAs (u : UInt32) (line : Bytes) : Bool :=
  (stoul (column 0 line)).toOption.any fun uid => uid.toUInt32 == u

/-- The first line `load_voter_list` reads as one of the voter. -/
def admittedRow (voterListFile : Bytes) (u : UInt32) : Option Bytes :=
  (lines voterListFile).tail.find? (readsAs u)

/-- `find_voter` takes the line for one of the voter. -/
def looksUp (u : UInt32) (line : Bytes) : Bool :=
  (voterRow line).any fun r => r.1 == decimal u.toNat

/-- The line at which the loop of `find_voter` ends. -/
def lookupRow (voterListFile : Bytes) (u : UInt32) : Option Bytes :=
  (lines voterListFile).find? (looksUp u)

theorem looksUp_iff {u : UInt32} {line : Bytes} :
    looksUp u line = true ↔ column 0 line = decimal u.toNat ∧ behind 8 line ≠ [] := by
  unfold looksUp
  by_cases h : behind 8 line = []
  · simp [voterRow_eq_none h, h]
  · simp [voterRow_eq_some h, h]

/-- What `find_voter` returns is in the line its loop ended at. -/
theorem findVoter_of_lookupRow {voterListFile line : Bytes} {u : UInt32}
    (h : lookupRow voterListFile u = some line) : findVoter voterListFile u = voterOf line := by
  obtain ⟨huid, hrest⟩ := looksUp_iff.mp (List.find?_some h)
  have hfirst : ∀ ls : List Bytes, ls.find? (looksUp u) = some line →
      (ls.findSome? fun line =>
        (voterRow line).bind fun r => if r.1 = decimal u.toNat then some r.2 else none) =
      some (voterOf line) := by
    intro ls
    induction ls with
    | nil => rintro ⟨⟩
    | cons l ls ih =>
      intro hfind
      rw [List.find?_cons] at hfind
      rw [List.findSome?_cons]
      cases hl : looksUp u l with
      | true =>
        rw [hl, Option.some.injEq] at hfind
        subst hfind
        rw [voterRow_eq_some hrest, Option.bind_some, if_pos huid]
      | false =>
        rw [hl] at hfind
        have hnone : ((voterRow l).bind fun r =>
            if r.1 = decimal u.toNat then some r.2 else none) = none := by
          unfold looksUp at hl
          cases hrow : voterRow l with
          | none => rfl
          | some r =>
            rw [hrow, Option.any_some, beq_eq_false_iff_ne] at hl
            rw [Option.bind_some, if_neg hl]
        rw [hnone]
        exact ih hfind
  unfold findVoter
  dsimp only
  rw [hfirst _ h]
  rfl

/-- The voters in the table are those some line is read as. -/
theorem loadVoterRow_isSome {rows : List Bytes} {start table : Map UInt32 VoterStatus}
    (h : rows.foldlM loadVoterRow start = .ok table) (u : UInt32) :
    (table u).isSome = ((start u).isSome || rows.any (readsAs u)) := by
  induction rows generalizing start with
  | nil =>
    cases h
    simp
  | cons row rows ih =>
    rw [List.foldlM_cons] at h
    unfold loadVoterRow at h
    cases huid : stoul (row.takeWhile (· ≠ comma)) with
    | error trap =>
      rw [huid] at h
      cases h
    | ok uid =>
      rw [huid] at h
      rw [ih h, List.any_cons]
      have hreads : readsAs u row = (uid.toUInt32 == u) := by
        unfold readsAs column behind
        rw [huid]
        rfl
      have hentry : ((start.emplace uid.toUInt32 .eligible) u).isSome =
          ((start u).isSome || (uid.toUInt32 == u)) := by
        by_cases hu : uid.toUInt32 = u
        · subst hu
          cases hstart : start uid.toUInt32 with
          | some status => rw [Map.emplace_of_some hstart, hstart, Option.isSome_some, Bool.true_or]
          | none => rw [Map.emplace_of_none hstart, Map.set_self]; simp
        · cases hstart : start uid.toUInt32 with
          | some status => rw [Map.emplace_of_some hstart]; simp [hu]
          | none => rw [Map.emplace_of_none hstart, Map.set_of_ne _ (Ne.symm hu)]; simp [hu]
      rw [hentry, hreads, Bool.or_assoc]

/-- A voter the loader admits has a first line. -/
theorem exists_admittedRow {voterListFile : Bytes} {table : Map UInt32 VoterStatus}
    (h : loadVoterList voterListFile = .ok table) {u : UInt32} {status : VoterStatus}
    (hu : table u = some status) : ∃ line, admittedRow voterListFile u = some line := by
  unfold loadVoterList at h
  dsimp only at h
  split at h
  · cases h
  · have hany := loadVoterRow_isSome h u
    rw [hu, Option.isSome_some, Map.empty_apply, Option.isSome_none, Bool.false_or] at hany
    exact Option.isSome_iff_exists.mp (List.find?_isSome.mpr (List.any_eq_true.mp hany.symm))

/-- The header of a roll that can be loaded is no voter's line. -/
theorem looksUp_header {header : Bytes} (h : column 0 header = bytes "UID") (u : UInt32) :
    looksUp u header = false := by
  rw [Bool.eq_false_iff]
  intro hlooks
  have huid := (looksUp_iff.mp hlooks).1
  rw [h] at huid
  have hdigit := isdigit_of_mem_decimal (n := u.toNat) (b := 85) (by
    rw [← huid]
    decide +kernel)
  exact absurd hdigit (by decide)

/-- The loop of `find_voter` ends below it. -/
theorem lookupRow_eq {voterListFile : Bytes} {table : Map UInt32 VoterStatus}
    (h : loadVoterList voterListFile = .ok table) (u : UInt32) :
    lookupRow voterListFile u = (lines voterListFile).tail.find? (looksUp u) := by
  unfold loadVoterList at h
  dsimp only at h
  split at h
  · cases h
  · next hheader =>
    have hfirst : column 0 ((lines voterListFile).headD []) = bytes "UID" :=
      Decidable.not_not.mp hheader
    unfold lookupRow
    cases hlines : lines voterListFile with
    | nil => rfl
    | cons header rows =>
      rw [hlines, List.headD_cons] at hfirst
      rw [List.find?_cons, looksUp_header hfirst, List.tail_cons]

/-- What is alone in having the property is found. -/
theorem find?_of_unique {α : Type} {p : α → Bool} {l : List α} {x : α} (hx : x ∈ l)
    (hp : p x = true) (hunique : ∀ y ∈ l, p y = true → y = x) : l.find? p = some x := by
  cases hfind : l.find? p with
  | none => exact absurd hp (List.find?_eq_none.mp hfind x hx)
  | some y => rw [hunique y (List.mem_of_find?_eq_some hfind) (List.find?_some hfind)]

/-- What is found first is found first by a narrower search too, if it is found
at all. -/
theorem find?_of_imp {α : Type} {p q : α → Bool} (himp : ∀ x, q x = true → p x = true)
    {l : List α} {x : α} (hfind : l.find? p = some x) (hx : q x = true) : l.find? q = some x := by
  induction l with
  | nil => cases hfind
  | cons y l ih =>
    rw [List.find?_cons] at hfind ⊢
    cases hy : q y with
    | true =>
      rw [himp y hy] at hfind
      exact hfind
    | false =>
      cases hp : p y with
      | true =>
        rw [hp, Option.some.injEq] at hfind
        rw [hfind, hx] at hy
        cases hy
      | false =>
        rw [hp] at hfind
        exact ih hfind

theorem stoul_decimal_toNat (n : UInt32) : stoul (decimal n.toNat) = .ok n.toUInt64 := by
  have hlt : n.toNat < 2 ^ 64 := Nat.lt_of_lt_of_le n.toNat_lt (by decide)
  have hstoul := stoul_decimal hlt [] (by simp)
  rw [List.append_nil] at hstoul
  rw [hstoul]
  congr 1
  rw [← UInt64.toNat_inj, UInt64.toNat_ofNat_of_lt' hlt, UInt32.toNat_toUInt64]

theorem readsAs_of_looksUp {u : UInt32} {line : Bytes} (h : looksUp u line = true) :
    readsAs u line = true := by
  unfold readsAs
  rw [(looksUp_iff.mp h).1, stoul_decimal_toNat]
  simp [Except.toOption]

/-! ## Agreement -/

/-- The voter of a line can be confirmed: the lookup ends at the line, returns
its record, and the number in its PIN column passes the comparison. -/
structure Confirmable (voterListFile : Bytes) (u : UInt32) (line : Bytes) : Prop where
  found : lookupRow voterListFile u = some line
  record : findVoter voterListFile u = voterOf line
  pin : ∃ pin : UInt32, stoul (column 1 line) = .ok pin.toUInt64 ∧
    decimal pin.toNat = (findVoter voterListFile u).pin

/-- The line is written the way the lookup expects. -/
structure Canonical (u : UInt32) (line : Bytes) : Prop where
  uid : column 0 line = decimal u.toNat
  pin : ∃ pin : UInt32, column 1 line = decimal pin.toNat
  zip : behind 8 line ≠ []

/-- The first line of a voter who is admitted makes the voter confirmable just
when its UID and its PIN are written as `to_string` prints them and there are
nine columns. -/
theorem admitted_is_confirmable {voterListFile : Bytes} {table : Map UInt32 VoterStatus}
    (h : loadVoterList voterListFile = .ok table) {u : UInt32}
    (hu : table u = some .eligible) :
    ∃ line, admittedRow voterListFile u = some line ∧
      (Confirmable voterListFile u line ↔ Canonical u line) := by
  obtain ⟨line, hline⟩ := exists_admittedRow h hu
  refine ⟨line, hline, fun hconfirm => ?_, fun hcanonical => ?_⟩
  · obtain ⟨huid, hzip⟩ := looksUp_iff.mp (List.find?_some hconfirm.found)
    obtain ⟨pin, -, hpin⟩ := hconfirm.pin
    rw [hconfirm.record] at hpin
    exact ⟨huid, ⟨pin, hpin.symm⟩, hzip⟩
  · have hlooks : looksUp u line = true := looksUp_iff.mpr ⟨hcanonical.uid, hcanonical.zip⟩
    have hfound : lookupRow voterListFile u = some line := by
      rw [lookupRow_eq h]
      exact find?_of_imp (fun l => readsAs_of_looksUp) hline hlooks
    have hrecord := findVoter_of_lookupRow hfound
    obtain ⟨pin, hpin⟩ := hcanonical.pin
    refine ⟨hfound, hrecord, pin, ?_, ?_⟩
    · rw [hpin, stoul_decimal_toNat]
    · rw [hrecord]
      exact hpin.symm

section Rehearsal

open Rehearsal

/-- The roll, with a zero in front of the UID. -/
def paddedRoll : Bytes :=
  bytes "UID,PIN,Last Name,First Name,Middle Name,Address,City,State,Zip\n" ++
    bytes "01001,4321,Doe,Jane,Q,1 Elm St,Auburn,AL,36830\n"

/-- The voter is admitted, and not found. -/
theorem padded_uid_is_not_found :
    ¬ ∀ (voterListFile : Bytes) (table : Map UInt32 VoterStatus) (u : UInt32),
      loadVoterList voterListFile = .ok table → table u = some .eligible →
      ∃ line, admittedRow voterListFile u = some line ∧ Confirmable voterListFile u line := by
  intro hall
  have hlines : lines paddedRoll =
      [bytes "UID,PIN,Last Name,First Name,Middle Name,Address,City,State,Zip",
        bytes "01001,4321,Doe,Jane,Q,1 Elm St,Auburn,AL,36830"] := by decide +kernel
  have hload : loadVoterList paddedRoll = .ok (Map.empty.set voter .eligible) :=
    @loadVoterList_rows _ _ _ [1001] hlines (by decide +kernel) (by decide +kernel)
  obtain ⟨line, -, hconfirm⟩ := hall paddedRoll _ voter hload (Map.set_self ..)
  have hnone : lookupRow paddedRoll voter = none := by decide +kernel
  rw [hconfirm.found] at hnone
  cases hnone

/-- A roll with other voters before the voter, one of them without a zip code. -/
def longerRoll : Bytes :=
  bytes "UID,PIN,Last Name,First Name,Middle Name,Address,City,State,Zip\n" ++
    bytes "1002,1111,Roe,Mary,,2 Oak St,Auburn,AL,36830\n" ++
    bytes "01003,2222,Poe,Edgar,A,3 Ash St,Auburn,AL\n" ++
    bytes "1001,4321,Doe,Jane,Q,1 Elm St,Auburn,AL,36830\n"

/-- The voter can be confirmed. -/
theorem admitted_is_confirmable_rehearsal :
    ∃ table line, loadVoterList longerRoll = .ok table ∧ table voter = some .eligible ∧
      admittedRow longerRoll voter = some line ∧ Confirmable longerRoll voter line := by
  have hloads : (loadVoterList longerRoll).toOption.any
      (fun table => table voter == some .eligible) = true := by decide +kernel
  have hfirst : admittedRow longerRoll voter =
      some (bytes "1001,4321,Doe,Jane,Q,1 Elm St,Auburn,AL,36830") := by decide +kernel
  cases hload : loadVoterList longerRoll with
  | error trap =>
    rw [hload] at hloads
    cases hloads
  | ok table =>
    have hvoter : table voter = some .eligible := by
      rw [hload] at hloads
      exact beq_iff_eq.mp hloads
    obtain ⟨line, hline, hiff⟩ := admitted_is_confirmable hload hvoter
    obtain rfl := Option.some.inj (hline.symm.trans hfirst)
    exact ⟨table, _, rfl, hvoter, hline,
      hiff.mpr ⟨by decide +kernel, ⟨4321, by decide +kernel⟩, by decide +kernel⟩⟩

end Rehearsal

end Pollbook
