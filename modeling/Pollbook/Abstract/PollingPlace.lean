import Pollbook.Lib.Simulation

/-!
# The polling place

What a check-in service is for, without its messages, keys, files and timers. A
voter on the roll is admitted, gets a ticket, and then either has a ticket
redeemed in time or lapses and may be admitted again; whoever has redeemed a
ticket is done until the place is opened anew. Voters, tickets and times are
arbitrary.

Lapses show nothing. `watch` says what the rest of a voter's history looks like
(`Path.watched`), and `Path.provenance` where the redeemed tickets come from.
-/

namespace Pollbook

/-- Where a voter stands. -/
inductive Phase (τ : Type) where
  | eligible
  /-- admitted at this time -/
  | pending (since : τ)
  | checkedIn
  deriving DecidableEq

/-- The voters on the roll with where they stand, the tickets that can be
redeemed with the voters they are for, and the time. -/
structure PollingPlace (V T τ : Type) where
  phase : V → Option (Phase τ)
  tickets : Set (T × V)
  clock : τ

/-- What is written down. A place that is opened anew may find one ticket that
was made but never handed out. -/
inductive Entry (V T τ : Type) where
  | checkin (voter : V) (ticket : T) (now : τ)
  | redeem (voter : V) (ticket : T) (now : τ)
  | reopen (unanswered : Option (T × V))
  deriving DecidableEq

/-- The ticket an entry brings, with the voter it is for. -/
def Entry.brings {V T τ : Type} : Entry V T τ → Option (T × V)
  | checkin voter ticket _ => some (ticket, voter)
  | redeem _ _ _ => none
  | reopen unanswered => unanswered

namespace PollingPlace

variable {V T τ : Type}

/-- The roll at the opening: everybody on it may be admitted. -/
def opened (roll : V → Prop) [DecidablePred roll] (v : V) : Option (Phase τ) :=
  if roll v then some .eligible else none

section Step

variable [DecidableEq V] [Add τ] [LE τ]

/-- The steps of a place that gives its voters the time `window` to redeem a
ticket. -/
inductive Step (roll : V → Prop) [DecidablePred roll] (window : τ) (p : PollingPlace V T τ) :
    Option (Entry V T τ) → PollingPlace V T τ → Prop
  | checkin {v : V} {now : τ} (t : T) (hclock : p.clock ≤ now)
      (heligible : p.phase v = some .eligible) :
      Step roll window p (some (.checkin v t now))
        ⟨Function.update p.phase v (some (.pending now)), insert (t, v) p.tickets, now⟩
  | redeem {v : V} {t : T} {since now : τ} (hclock : p.clock ≤ now)
      (hpending : p.phase v = some (.pending since)) (hticket : (t, v) ∈ p.tickets)
      (hsince : since ≤ now) (hwindow : now ≤ since + window) :
      Step roll window p (some (.redeem v t now))
        ⟨Function.update p.phase v (some .checkedIn), p.tickets, now⟩
  | lapse {v : V} {since now : τ} (hclock : p.clock ≤ now)
      (hpending : p.phase v = some (.pending since)) (hwindow : since + window ≤ now) :
      Step roll window p none
        ⟨Function.update p.phase v (some .eligible), p.tickets, now⟩
  | reopen (unanswered : Option (T × V)) (now : τ) :
      Step roll window p (some (.reopen unanswered))
        ⟨opened roll, p.tickets ∪ {x | unanswered = some x}, now⟩

end Step

/-! ## The history of a voter -/

/-- What was last written down about a voter. -/
inductive Watch (τ : Type) where
  | unseen
  | admitted (since : τ)
  | served
  deriving DecidableEq

section Watch

variable [DecidableEq V] [Add τ] [LE τ] [DecidableLE τ]

/-- The histories a voter can have: a new admission comes at least `window` after
the last, a redemption at most `window` after the last admission, and nothing
after a redemption. -/
def watch (window : τ) (v : V) (w : Watch τ) : Entry V T τ → Option (Watch τ)
  | .checkin u _ now =>
    if u = v then
      match w with
      | .unseen => some (.admitted now)
      | .admitted since => if since + window ≤ now then some (.admitted now) else none
      | .served => none
    else some w
  | .redeem u _ now =>
    if u = v then
      match w with
      | .admitted since => if since ≤ now ∧ now ≤ since + window then some .served else none
      | _ => none
    else some w
  | .reopen _ => some .unseen

end Watch

/-- What was last written down about a voter fits where the voter stands. -/
def Fits [Add τ] [LE τ] (window : τ) (clock : τ) : Option (Phase τ) → Watch τ → Prop
  | none, w => w = .unseen
  | some .eligible, w => w = .unseen ∨ ∃ since, w = .admitted since ∧ since + window ≤ clock
  | some (.pending since), w => w = .admitted since
  | some .checkedIn, w => w = .served

section Histories

variable [DecidableEq V] [Add τ] [Preorder τ] {roll : V → Prop} [DecidablePred roll]
  {window now now' : τ} {p p' : PollingPlace V T τ} {v : V} {w : Watch τ}
  {phase : Option (Phase τ)} {es : List (Entry V T τ)}

/-- Time passes. -/
theorem Fits.later (h : Fits window now phase w) (hnow : now ≤ now') :
    Fits window now' phase w := by
  match phase with
  | none => exact h
  | some .eligible =>
    rcases h with h | ⟨since, h, hlapsed⟩
    · exact .inl h
    · exact .inr ⟨since, h, hlapsed.trans hnow⟩
  | some (.pending _) => exact h
  | some .checkedIn => exact h

omit [DecidableEq V] in
theorem fits_opened : Fits window now (opened roll v) .unseen := by
  unfold opened
  split
  · exact .inl rfl
  · rfl

/-- A voter other than the one a step is about. -/
theorem Fits.update {u : V} (h : Fits window now (p.phase v) w) (hne : u ≠ v)
    (hnow : now ≤ now') : Fits window now' (Function.update p.phase u phase v) w := by
  rw [Function.update_of_ne (Ne.symm hne)]
  exact h.later hnow

theorem Step.silent (h : Step roll window p none p') (hfits : Fits window p.clock (p.phase v) w) :
    Fits window p'.clock (p'.phase v) w := by
  cases h with
  | @lapse u since now hclock hpending hwindow =>
    by_cases hu : u = v
    · subst hu
      rw [hpending] at hfits
      dsimp only
      rw [Function.update_self]
      exact .inr ⟨since, hfits, hwindow⟩
    · exact hfits.update hu hclock

variable [DecidableLE τ]

theorem Step.watched {e : Entry V T τ} (h : Step roll window p (some e) p')
    (hfits : Fits window p.clock (p.phase v) w) :
    ∃ w', watch window v w e = some w' ∧ Fits window p'.clock (p'.phase v) w' := by
  cases h with
  | @checkin u now t hclock heligible =>
    by_cases hu : u = v
    · subst hu
      rw [heligible] at hfits
      refine ⟨.admitted now, ?_, by dsimp only; rw [Function.update_self]; rfl⟩
      rcases hfits with rfl | ⟨since, rfl, hlapsed⟩
      · simp only [watch, if_true]
      · simp only [watch, if_true, if_pos (hlapsed.trans hclock)]
    · exact ⟨w, if_neg hu, hfits.update hu hclock⟩
  | @redeem u t since now hclock hpending hticket hsince hwindow =>
    by_cases hu : u = v
    · subst hu
      rw [hpending] at hfits
      obtain rfl : w = .admitted since := hfits
      refine ⟨.served, ?_, by dsimp only; rw [Function.update_self]; rfl⟩
      simp only [watch, if_true, if_pos (And.intro hsince hwindow)]
    · exact ⟨w, if_neg hu, hfits.update hu hclock⟩
  | reopen unanswered now => exact ⟨.unseen, rfl, fits_opened⟩

end Histories

end PollingPlace

/-! ## Paths of a polling place -/

namespace Path

open PollingPlace

variable {V T τ : Type} [DecidableEq V] [Add τ] [Preorder τ] {roll : V → Prop}
  [DecidablePred roll] {window : τ} {p₀ p : PollingPlace V T τ} {es : List (Entry V T τ)}

/-- The history of every voter is one that `watch` accepts. -/
theorem watched [DecidableLE τ] (h : Path (Step roll window) p₀ es p)
    (h₀ : p₀.phase = opened roll) (v : V) :
    ∃ w, es.foldlM (watch window v) .unseen = some w ∧ Fits window p.clock (p.phase v) w := by
  refine h.accepted (J := fun p w => Fits window p.clock (p.phase v) w) ?_ ?_ ?_
  · rw [h₀]
    exact fits_opened
  · exact fun _ _ _ hfits hstep => hstep.silent hfits
  · exact fun _ _ _ _ hfits hstep => hstep.watched hfits

/-- The tickets that can be redeemed were there at the opening or came since. -/
theorem tickets (h : Path (Step roll window) p₀ es p) :
    ∀ x ∈ p.tickets, x ∈ p₀.tickets ∨ ∃ e ∈ es, e.brings = some x := by
  refine h.history (I := fun es p => ∀ x ∈ p.tickets, x ∈ p₀.tickets ∨
    ∃ e ∈ es, e.brings = some x) (fun x hx => .inl hx) ?_ ?_
  · intro es p p' hI hstep x hx
    cases hstep with
    | lapse => exact hI x hx
  · intro es p e p' hI hstep x hx
    have hnew : x ∈ p.tickets ∨ e.brings = some x := by
      cases hstep with
      | checkin t =>
        exact (Set.mem_insert_iff.mp hx).symm.imp_right fun heq => congrArg some heq.symm
      | redeem => exact .inl hx
      | reopen unanswered now => exact hx
    rcases hnew with hx | hx
    · refine (hI x hx).imp_right fun ⟨e', he', hbrings⟩ => ?_
      exact ⟨e', List.mem_append_left _ he', hbrings⟩
    · exact .inr ⟨e, List.mem_append_right _ (List.mem_singleton_self e), hx⟩

/-- Who redeems a ticket was given it, or it was there for the voter at the
opening. -/
theorem provenance (h : Path (Step roll window) p₀ es p) :
    ∀ pre v t now post, es = pre ++ .redeem v t now :: post →
      (t, v) ∈ p₀.tickets ∨ ∃ e ∈ pre, e.brings = some (t, v) := by
  induction h with
  | nil =>
    intro pre v t now post hes
    simp at hes
  | silent _ _ ih => exact ih
  | @snoc es p p' e hpath hstep ih =>
    intro pre v t now post hes
    rcases append_eq_append_cons hes with ⟨post', hes, -⟩ | ⟨mid, rfl, hmid⟩
    · exact ih pre v t now post' hes
    · cases mid with
      | nil =>
        obtain ⟨rfl, -⟩ := List.cons.inj hmid
        rw [List.append_nil]
        cases hstep with
        | redeem _ _ hticket _ _ => exact hpath.tickets _ hticket
      | cons x mid => simp at hmid

end Path

end Pollbook
