import Mathlib

/-!
# Runs of a deterministic labelled machine

A machine is a function `next` from a state and an event to the next state and
what the step produced, or `none` when the event cannot happen there or the
machine stops. All nondeterminism is in the choice of events. A `Run` carries
its whole trace, oldest step first, so a property of the past of a state is a
property of a list.

The rules below are the ones invariant and history arguments need: an
invariant is checked on one step (`Run.invariant`), a state predicate that
became true became true at one step (`Run.turns`), a predicate that steps keep
is kept by runs (`Run.stable`), and what enters a kept predicate happens at
most once (`Run.atMostOnce`). A condition on what happens is `Throughout` a
trace when every step meets it. A `Lifetime` is a run together with the step
at which the machine crashed, if it did.
-/

namespace Pollbook

/-! ## Traces -/

/-- An element of a joined list is in one of the two. -/
theorem append_eq_append_cons {α : Type} {l₁ l₂ a b : List α} {x : α}
    (h : l₁ ++ l₂ = a ++ x :: b) :
    (∃ b', l₁ = a ++ x :: b' ∧ b = b' ++ l₂) ∨ ∃ a', a = l₁ ++ a' ∧ l₂ = a' ++ x :: b := by
  rcases List.append_eq_append_iff.mp h with ⟨a', ha, hl₂⟩ | ⟨c, hl₁, hc⟩
  · exact .inr ⟨a', ha, hl₂⟩
  · cases c with
    | nil => exact .inr ⟨[], by rw [hl₁, List.append_nil, List.append_nil], hc.symm⟩
    | cons y c =>
      rw [List.cons_append, List.cons.injEq] at hc
      obtain ⟨rfl, rfl⟩ := hc
      exact .inl ⟨c, hl₁, rfl⟩

/-- What scores once a step, and never twice, scores once. -/
theorem sum_le_one_of_pairs {α : Type} {score : α → Nat} {l : List α}
    (hone : ∀ x ∈ l, score x ≤ 1)
    (hpairs : ∀ pre x mid y post, l = pre ++ x :: (mid ++ y :: post) → 0 < score x →
      score y = 0) :
    (l.map score).sum ≤ 1 := by
  induction l with
  | nil => simp
  | cons x l ih =>
    rw [List.map_cons, List.sum_cons]
    by_cases hx : score x = 0
    · have hrest := ih (fun y hy => hone y (List.mem_cons_of_mem x hy))
        fun pre y mid z post h hy => hpairs (x :: pre) y mid z post (by rw [h]; rfl) hy
      omega
    · have hzero : (l.map score).sum = 0 := by
        apply List.sum_eq_zero
        intro n hn
        obtain ⟨y, hy, rfl⟩ := List.mem_map.mp hn
        obtain ⟨mid, post, rfl⟩ := List.append_of_mem hy
        exact hpairs [] x mid y post rfl (Nat.pos_of_ne_zero hx)
      have hle := hone x List.mem_cons_self
      omega

/-! ## Runs -/

variable {σ ε ο : Type}

/-- `Run next s₀ tr s`: the steps of `tr` lead from `s₀` to `s`. -/
inductive Run (next : σ → ε → Option (σ × ο)) (s₀ : σ) : List (ε × ο) → σ → Prop
  | nil : Run next s₀ [] s₀
  | snoc {tr : List (ε × ο)} {s s' : σ} {e : ε} {o : ο} :
      Run next s₀ tr s → next s e = some (s', o) → Run next s₀ (tr ++ [(e, o)]) s'

namespace Run

variable {next : σ → ε → Option (σ × ο)} {s₀ s : σ} {tr : List (ε × ο)}

/-- The invariant rule. -/
theorem invariant {I : σ → Prop} (h : Run next s₀ tr s) (h₀ : I s₀)
    (hstep : ∀ s e s' o, I s → next s e = some (s', o) → I s') : I s := by
  induction h with
  | nil => exact h₀
  | snoc _ hnext ih => exact hstep _ _ _ _ ih hnext

/-- The invariant rule for a relation between the past and the state. -/
theorem history {I : List (ε × ο) → σ → Prop} (h : Run next s₀ tr s) (h₀ : I [] s₀)
    (hstep : ∀ tr s e s' o, Run next s₀ tr s → I tr s → next s e = some (s', o) →
      I (tr ++ [(e, o)]) s') : I tr s := by
  induction h with
  | nil => exact h₀
  | snoc hrun hnext ih => exact hstep _ _ _ _ _ hrun ih hnext

/-- A predicate every step keeps is kept by a run. -/
theorem stable {P : σ → Prop} (h : Run next s₀ tr s)
    (hkeep : ∀ s e s' o, P s → next s e = some (s', o) → P s') (h₀ : P s₀) : P s :=
  h.invariant h₀ hkeep

theorem eq_of_nil (h : Run next s₀ [] s) : s = s₀ := by
  generalize hnil : ([] : List (ε × ο)) = tr at h
  cases h with
  | nil => rfl
  | snoc _ _ => simp at hnil

/-- The last step of a run. -/
theorem last {x : ε × ο} (h : Run next s₀ (tr ++ [x]) s) :
    ∃ m, Run next s₀ tr m ∧ next m x.1 = some (s, x.2) := by
  generalize htr : tr ++ [x] = tr' at h
  cases h with
  | nil => simp at htr
  | snoc hrun hnext =>
    obtain ⟨rfl, hx⟩ := List.append_inj' htr rfl
    simp only [List.cons.injEq, and_true] at hx
    subst hx
    exact ⟨_, hrun, hnext⟩

theorem append {tr' : List (ε × ο)} {s' : σ} (h : Run next s₀ tr s) (h' : Run next s tr' s') :
    Run next s₀ (tr ++ tr') s' := by
  induction h' with
  | nil => rwa [List.append_nil]
  | snoc _ hnext ih =>
    rw [← List.append_assoc]
    exact ih.snoc hnext

theorem single {e : ε} {o : ο} (h : next s₀ e = some (s, o)) : Run next s₀ [(e, o)] s := by
  rw [← List.nil_append [(e, o)]]
  exact Run.nil.snoc h

/-- A trace leads to one state only. -/
theorem deterministic {s' : σ} (h : Run next s₀ tr s) (h' : Run next s₀ tr s') : s = s' := by
  induction h generalizing s' with
  | nil => exact h'.eq_of_nil.symm
  | snoc _ hnext ih =>
    obtain ⟨m, hrun, hnext'⟩ := h'.last
    rw [← ih hrun, hnext, Option.some.injEq, Prod.mk.injEq] at hnext'
    exact hnext'.1

/-- A run can be cut between any two steps. -/
theorem split {pre post : List (ε × ο)} (h : Run next s₀ (pre ++ post) s) :
    ∃ m, Run next s₀ pre m ∧ Run next m post s := by
  induction post using List.reverseRecOn generalizing s with
  | nil => exact ⟨s, by rwa [List.append_nil] at h, .nil⟩
  | append_singleton post x ih =>
    rw [← List.append_assoc] at h
    obtain ⟨m', hrun, hnext⟩ := h.last
    obtain ⟨m, hpre, hpost⟩ := ih hrun
    exact ⟨m, hpre, hpost.snoc hnext⟩

/-- A run can be cut around any of its steps. -/
theorem splitStep {pre post : List (ε × ο)} {e : ε} {o : ο}
    (h : Run next s₀ (pre ++ (e, o) :: post) s) :
    ∃ m m', Run next s₀ pre m ∧ next m e = some (m', o) ∧ Run next m' post s := by
  rw [List.append_cons] at h
  obtain ⟨m', hpre, hpost⟩ := h.split
  obtain ⟨m, hrun, hnext⟩ := hpre.last
  exact ⟨m, m', hrun, hnext, hpost⟩

/-- A state predicate that holds at the end and not at the start was entered
by one of the steps. -/
theorem turns {P : σ → Prop} (h : Run next s₀ tr s) (h₀ : ¬ P s₀) (hs : P s) :
    ∃ pre e o post m m', tr = pre ++ (e, o) :: post ∧ Run next s₀ pre m ∧
      next m e = some (m', o) ∧ Run next m' post s ∧ ¬ P m ∧ P m' := by
  induction h with
  | nil => exact absurd hs h₀
  | @snoc tr m s' e o hrun hnext ih =>
    by_cases hm : P m
    · obtain ⟨pre, e', o', post, m₁, m₂, rfl, hpre, hstep, hpost, hn, hp⟩ := ih hm
      refine ⟨pre, e', o', post ++ [(e, o)], m₁, m₂, ?_, hpre, hstep, hpost.snoc hnext, hn, hp⟩
      rw [List.append_assoc, List.cons_append]
    · exact ⟨tr, e, o, [], m, s', rfl, hrun, hnext, .nil, hm, hs⟩

/-- If the steps that score enter a predicate no step leaves, and score once,
then a run scores at most once. -/
theorem atMostOnce {P : σ → Prop} {score : ε × ο → Nat} (h : Run next s₀ tr s)
    (hkeep : ∀ tr s e s' o, Run next s₀ tr s → P s → next s e = some (s', o) → P s')
    (hscore : ∀ tr s e s' o, Run next s₀ tr s → next s e = some (s', o) →
      score (e, o) ≤ 1 ∧ (0 < score (e, o) → ¬ P s ∧ P s')) :
    (tr.map score).sum ≤ 1 := by
  have key : (tr.map score).sum ≤ 1 ∧ (0 < (tr.map score).sum → P s) := by
    induction h with
    | nil => simp
    | @snoc tr m s' e o hrun hnext ih =>
      obtain ⟨hle, hpos⟩ := ih
      obtain ⟨hone, henter⟩ := hscore tr m e s' o hrun hnext
      rw [List.map_append, List.sum_append, List.map_singleton, List.sum_singleton]
      by_cases hzero : score (e, o) = 0
      · rw [hzero]
        exact ⟨hle, fun hlt => hkeep tr m e s' o hrun (hpos hlt) hnext⟩
      · obtain ⟨hn, hp⟩ := henter (Nat.pos_of_ne_zero hzero)
        have hnone : (tr.map score).sum = 0 := by
          by_contra hne
          exact hn (hpos (Nat.pos_of_ne_zero hne))
        exact ⟨by omega, fun _ => hp⟩
  exact key.1

/-- What the steps cost is taken from a budget. -/
theorem account {budget : σ → Nat} {cost : ε → Nat} (h : Run next s₀ tr s)
    (hstep : ∀ s e s' o, next s e = some (s', o) → budget s' + cost e = budget s) :
    budget s + (tr.map fun x => cost x.1).sum = budget s₀ := by
  induction h with
  | nil => simp
  | @snoc tr m s' e o hrun hnext ih =>
    have hlast := hstep m e s' o hnext
    rw [List.map_append, List.sum_append, List.map_singleton, List.sum_singleton]
    dsimp only
    omega

end Run

/-! ## Reachable states -/

/-- The states some run reaches. -/
def Reachable (next : σ → ε → Option (σ × ο)) (s₀ s : σ) : Prop := ∃ tr, Run next s₀ tr s

theorem Run.reachable {next : σ → ε → Option (σ × ο)} {s₀ s : σ} {tr : List (ε × ο)}
    (h : Run next s₀ tr s) : Reachable next s₀ s := ⟨tr, h⟩

/-! ## Conditions on the steps -/

/-- Every step of the trace is taken from a state that has `P` for its event. -/
def Throughout (next : σ → ε → Option (σ × ο)) (P : σ → ε → Prop) (s₀ : σ)
    (tr : List (ε × ο)) : Prop :=
  ∀ pre e o post m, tr = pre ++ (e, o) :: post → Run next s₀ pre m → P m e

section Throughout

variable {next : σ → ε → Option (σ × ο)} {P : σ → ε → Prop} {s₀ s : σ} {tr : List (ε × ο)}

theorem Throughout.past {post : List (ε × ο)} (h : Throughout next P s₀ (tr ++ post)) :
    Throughout next P s₀ tr := by
  intro pre e o mid m htr hrun
  refine h pre e o (mid ++ post) m ?_ hrun
  rw [htr, List.append_assoc, List.cons_append]

theorem Throughout.nil : Throughout next P s₀ ([] : List (ε × ο)) := by
  intro pre e o post m htr
  simp at htr

theorem Throughout.snoc {e : ε} {o : ο} (h : Throughout next P s₀ tr) (hrun : Run next s₀ tr s)
    (he : P s e) : Throughout next P s₀ (tr ++ [(e, o)]) := by
  intro pre e' o' post m htr hpre
  rcases append_eq_append_cons htr with ⟨post', rfl, -⟩ | ⟨mid, rfl, hmid⟩
  · exact h pre e' o' post' m rfl hpre
  · cases mid with
    | nil =>
      obtain ⟨heq, -⟩ := List.cons.inj hmid
      obtain ⟨rfl, -⟩ := Prod.mk.inj heq
      rw [List.append_nil] at hpre
      rw [← hrun.deterministic hpre]
      exact he
    | cons x mid => simp at hmid

/-- The rule for a relation between the past and the state, in a run whose
steps meet a condition. -/
theorem Run.historyUnder {I : List (ε × ο) → σ → Prop} (h : Run next s₀ tr s)
    (hP : Throughout next P s₀ tr) (h₀ : I [] s₀)
    (hstep : ∀ tr s e s' o, I tr s → P s e → next s e = some (s', o) → I (tr ++ [(e, o)]) s') :
    I tr s := by
  induction h with
  | nil => exact h₀
  | snoc hrun hnext ih =>
    have hlast := hP _ _ _ [] _ rfl hrun
    exact hstep _ _ _ _ _ (ih hP.past) hlast hnext

end Throughout

/-! ## Machines that can crash -/

/-- The trace of a run, perhaps with one more step: the one at which the
machine stopped. -/
inductive Lifetime (next : σ → ε → Option (σ × ο)) (crash : σ → ε → Option ο) (s₀ : σ) :
    List (ε × ο) → Prop
  | alive {tr : List (ε × ο)} {s : σ} (hrun : Run next s₀ tr s) : Lifetime next crash s₀ tr
  | ended {tr : List (ε × ο)} {s : σ} {e : ε} {o : ο} (hrun : Run next s₀ tr s)
      (hcrash : crash s e = some o) : Lifetime next crash s₀ (tr ++ [(e, o)])

namespace Lifetime

variable {next : σ → ε → Option (σ × ο)} {crash : σ → ε → Option ο} {s₀ : σ}
  {tr : List (ε × ο)}

/-- Every step of a lifetime is taken from a state a run reached; a crash is the
last one. -/
theorem step_or_last {pre post : List (ε × ο)} {e : ε} {o : ο}
    (h : Lifetime next crash s₀ (pre ++ (e, o) :: post)) :
    ∃ m, Run next s₀ pre m ∧
      ((∃ m', next m e = some (m', o)) ∨ crash m e = some o ∧ post = []) := by
  generalize htr : pre ++ (e, o) :: post = tr at h
  cases h with
  | alive hrun =>
    subst htr
    obtain ⟨m, m', hpre, hnext, -⟩ := hrun.splitStep
    exact ⟨m, hpre, .inl ⟨m', hnext⟩⟩
  | @ended tr s e' o' hrun hcrash =>
    cases post using List.reverseRecOn with
    | nil =>
      obtain ⟨rfl, hx⟩ := List.append_inj' htr rfl
      simp only [List.cons.injEq, Prod.mk.injEq, and_true] at hx
      obtain ⟨rfl, rfl⟩ := hx
      exact ⟨s, hrun, .inr ⟨hcrash, rfl⟩⟩
    | append_singleton post x =>
      rw [← List.cons_append, ← List.append_assoc] at htr
      obtain ⟨rfl, -⟩ := List.append_inj' htr rfl
      obtain ⟨m, m', hpre, hnext, -⟩ := hrun.splitStep
      exact ⟨m, hpre, .inl ⟨m', hnext⟩⟩

theorem step {pre post : List (ε × ο)} {e : ε} {o : ο}
    (h : Lifetime next crash s₀ (pre ++ (e, o) :: post)) :
    ∃ m, Run next s₀ pre m ∧ ((∃ m', next m e = some (m', o)) ∨ crash m e = some o) := by
  obtain ⟨m, hrun, hnext | ⟨hcrash, -⟩⟩ := h.step_or_last
  · exact ⟨m, hrun, .inl hnext⟩
  · exact ⟨m, hrun, .inr hcrash⟩

/-- What no crash scores can be counted in runs. -/
theorem sum_le {score : ε × ο → Nat} {n : Nat} (h : Lifetime next crash s₀ tr)
    (hrun : ∀ tr s, Run next s₀ tr s → (tr.map score).sum ≤ n)
    (hcrash : ∀ s e o, crash s e = some o → score (e, o) = 0) : (tr.map score).sum ≤ n := by
  cases h with
  | alive hr => exact hrun _ _ hr
  | ended hr hc =>
    rw [List.map_append, List.sum_append, List.map_singleton, List.sum_singleton,
      hcrash _ _ _ hc]
    exact hrun _ _ hr

/-- The budget is still there at the end just when no step cost anything and
none was the end. -/
theorem account_iff {P : σ → ε → Prop} (budget : σ → Nat) (cost : ε → Nat)
    (h : Lifetime next crash s₀ tr)
    (hstep : ∀ s e s' o, next s e = some (s', o) → budget s' + cost e = budget s)
    (hfree : ∀ tr s e s' o, Run next s₀ tr s → next s e = some (s', o) →
      (P s e ↔ cost e = 0))
    (hcrash : ∀ tr s e o, Run next s₀ tr s → crash s e = some o → ¬ P s e) :
    (∃ s, Run next s₀ tr s ∧ budget s = budget s₀) ↔ Throughout next P s₀ tr := by
  constructor
  · rintro ⟨s, hrun, hbudget⟩ pre e o post m rfl hpre
    have hsum := hrun.account hstep
    have hzero : (((pre ++ (e, o) :: post).map fun x => cost x.1)).sum = 0 := by omega
    obtain ⟨m₁, m', hpre₁, hnext, -⟩ := hrun.splitStep
    rw [hpre.deterministic hpre₁, hfree pre m₁ e m' o hpre₁ hnext]
    exact List.sum_eq_zero_iff.mp hzero _ (List.mem_map.mpr ⟨(e, o), by simp, rfl⟩)
  · intro hall
    cases h with
    | ended hrun hcrashed =>
      exact absurd (hall _ _ _ [] _ rfl hrun) (hcrash _ _ _ _ hrun hcrashed)
    | @alive _ s hrun =>
      refine ⟨s, hrun, ?_⟩
      have hzero : (tr.map fun x => cost x.1).sum = 0 := by
        apply List.sum_eq_zero
        intro n hn
        obtain ⟨⟨e, o⟩, hmem, rfl⟩ := List.mem_map.mp hn
        obtain ⟨pre, post, rfl⟩ := List.append_of_mem hmem
        obtain ⟨m, m', hpre, hnext, -⟩ := hrun.splitStep
        exact (hfree pre m e m' o hpre hnext).mp (hall pre e o post m rfl hpre)
      have hsum := hrun.account hstep
      omega

end Lifetime

/-! ## Two runs side by side -/

theorem forall₂_snoc {α β : Type} {R : α → β → Prop} {l : List α} {l' : List β} {x : α} {y : β}
    (h : List.Forall₂ R (l ++ [x]) (l' ++ [y])) : List.Forall₂ R l l' ∧ R x y := by
  rw [← List.forall₂_reverse_iff, List.reverse_append, List.reverse_append] at h
  obtain ⟨hlast, hrest⟩ := List.forall₂_cons.mp h
  exact ⟨List.forall₂_reverse_iff.mp hrest, hlast⟩

/-- Machines whose steps keep `R`, on events related by `E`, produce what `O`
relates. -/
theorem Run.lockstep {σ' ε' ο' : Type} {next : σ → ε → Option (σ × ο)}
    {next' : σ' → ε' → Option (σ' × ο')} {R : σ → σ' → Prop} {E : ε → ε' → Prop}
    {O : ο → ο' → Prop} {s₀ s : σ} {t₀ t : σ'} {tr : List (ε × ο)} {tr' : List (ε' × ο')}
    (hstep : ∀ s t e e' s' t' o o', R s t → E e e' → next s e = some (s', o) →
      next' t e' = some (t', o') → R s' t' ∧ O o o')
    (h₀ : R s₀ t₀) (h : Run next s₀ tr s) (h' : Run next' t₀ tr' t)
    (hevents : List.Forall₂ (fun x y => E x.1 y.1) tr tr') :
    R s t ∧ List.Forall₂ (fun x y => O x.2 y.2) tr tr' := by
  induction h generalizing tr' t with
  | nil =>
    cases hevents
    rw [h'.eq_of_nil]
    exact ⟨h₀, .nil⟩
  | @snoc tr m s' e o hrun hnext ih =>
    cases tr' using List.reverseRecOn with
    | nil => simp at hevents
    | append_singleton tr' y =>
      obtain ⟨n, hrun', hnext'⟩ := h'.last
      obtain ⟨hpast, hlast⟩ := forall₂_snoc hevents
      obtain ⟨hR, houtputs⟩ := ih hrun' hpast
      obtain ⟨hR', houtput⟩ := hstep _ _ _ _ _ _ _ _ hR hlast hnext hnext'
      exact ⟨hR', List.rel_append houtputs (.cons houtput .nil)⟩

/-- Two lifetimes side by side: neither machine crashes alone. -/
theorem Lifetime.lockstep {σ' ε' ο' : Type} {next : σ → ε → Option (σ × ο)}
    {crash : σ → ε → Option ο} {next' : σ' → ε' → Option (σ' × ο')} {crash' : σ' → ε' → Option ο'}
    {R : σ → σ' → Prop} {E : ε → ε' → Prop} {O : ο → ο' → Prop} {s₀ : σ} {t₀ : σ'}
    {tr : List (ε × ο)} {tr' : List (ε' × ο')}
    (hstep : ∀ s t e e' s' t' o o', R s t → E e e' → next s e = some (s', o) →
      next' t e' = some (t', o') → R s' t' ∧ O o o')
    (hcrash : ∀ s t e e' o o', R s t → E e e' → crash s e = some o → crash' t e' = some o' → O o o')
    (hfirst : ∀ s t e e' o o' s', R s t → E e e' → next s e = some (s', o) →
      crash' t e' ≠ some o')
    (hsecond : ∀ s t e e' o o' t', R s t → E e e' → crash s e = some o →
      next' t e' ≠ some (t', o'))
    (h₀ : R s₀ t₀) (h : Lifetime next crash s₀ tr) (h' : Lifetime next' crash' t₀ tr')
    (hevents : List.Forall₂ (fun x y => E x.1 y.1) tr tr') :
    List.Forall₂ (fun x y => O x.2 y.2) tr tr' := by
  cases h with
  | alive hrun =>
    cases h' with
    | alive hrun' => exact (Run.lockstep hstep h₀ hrun hrun' hevents).2
    | ended hrun' hcrash' =>
      cases tr using List.reverseRecOn with
      | nil => simp at hevents
      | append_singleton tr x =>
        obtain ⟨m, hpre, hnext⟩ := hrun.last
        obtain ⟨hpast, hlast⟩ := forall₂_snoc hevents
        have hR := (Run.lockstep hstep h₀ hpre hrun' hpast).1
        exact absurd hcrash' (hfirst _ _ _ _ _ _ _ hR hlast hnext)
  | ended hrun hcrashed =>
    cases h' with
    | ended hrun' hcrash' =>
      obtain ⟨hpast, hlast⟩ := forall₂_snoc hevents
      obtain ⟨hR, houtputs⟩ := Run.lockstep hstep h₀ hrun hrun' hpast
      exact List.rel_append houtputs (.cons (hcrash _ _ _ _ _ _ hR hlast hcrashed hcrash') .nil)
    | alive hrun' =>
      cases tr' using List.reverseRecOn with
      | nil => simp at hevents
      | append_singleton tr' y =>
        obtain ⟨m, hpre, hnext⟩ := hrun'.last
        obtain ⟨hpast, hlast⟩ := forall₂_snoc hevents
        have hR := (Run.lockstep hstep h₀ hrun hpre hpast).1
        exact absurd hnext (hsecond _ _ _ _ _ _ _ hR hlast hcrashed)

/-! ## Machines that are started again -/

/-- The machine with one more kind of event: it stops, or has stopped, and is
started again from what it left. -/
def withRestarts {ρ α : Type} (next : σ → ε → Option (σ × List α)) (restart : σ → ρ → Option σ)
    (s : σ) : ε ⊕ ρ → Option (σ × List α)
  | .inl e => next s e
  | .inr r => (restart s r).map fun s' => (s', [])

theorem withRestarts_inr {ρ α : Type} {next : σ → ε → Option (σ × List α)}
    {restart : σ → ρ → Option σ} {s s' : σ} {r : ρ} {o : List α} :
    withRestarts next restart s (.inr r) = some (s', o) ↔ restart s r = some s' ∧ o = [] := by
  simp only [withRestarts, Option.map_eq_some_iff, Prod.mk.injEq]
  constructor
  · rintro ⟨m, hrestart, rfl, rfl⟩
    exact ⟨hrestart, rfl⟩
  · rintro ⟨hrestart, rfl⟩
    exact ⟨s', hrestart, rfl, rfl⟩

/-! ## Machines that come to rest -/

/-- The machine with the events `p` only. -/
def only (p : ε → Bool) (next : σ → ε → Option (σ × ο)) (s : σ) (e : ε) : Option (σ × ο) :=
  if p e then next s e else none

theorem only_eq_some {p : ε → Bool} {next : σ → ε → Option (σ × ο)} {s s' : σ} {e : ε} {o : ο} :
    only p next s e = some (s', o) ↔ p e = true ∧ next s e = some (s', o) := by
  unfold only
  split
  · next hp => exact ⟨fun h => ⟨hp, h⟩, fun h => h.2⟩
  · next hp => exact ⟨nofun, fun h => absurd h.1 hp⟩

section Rest

variable {next : σ → ε → Option (σ × ο)} {s₀ s : σ} {tr : List (ε × ο)} {I : σ → Prop}
  {μ : σ → Nat}

/-- Steps that use up a measure can be counted. -/
theorem Run.length_le (h : Run next s₀ tr s) (h₀ : I s₀)
    (hstep : ∀ s e s' o, I s → next s e = some (s', o) → I s' ∧ μ s' < μ s) :
    I s ∧ tr.length + μ s ≤ μ s₀ := by
  induction h with
  | nil => exact ⟨h₀, by simp⟩
  | snoc _ hnext ih =>
    obtain ⟨hI, hle⟩ := ih
    obtain ⟨hI', hlt⟩ := hstep _ _ _ _ hI hnext
    refine ⟨hI', ?_⟩
    rw [List.length_append, List.length_singleton]
    omega

/-- A machine whose steps use up a measure comes to rest. -/
theorem exists_rest (h₀ : I s₀)
    (hstep : ∀ s e s' o, I s → next s e = some (s', o) → I s' ∧ μ s' < μ s) :
    ∃ tr s, Run next s₀ tr s ∧ ∀ e, next s e = none := by
  induction hn : μ s₀ using Nat.strong_induction_on generalizing s₀ with
  | _ n ih =>
    by_cases hrest : ∀ e, next s₀ e = none
    · exact ⟨[], s₀, .nil, hrest⟩
    · obtain ⟨e, he⟩ := not_forall.mp hrest
      obtain ⟨⟨s', o⟩, hnext⟩ := Option.ne_none_iff_exists'.mp he
      obtain ⟨hI', hlt⟩ := hstep _ _ _ _ h₀ hnext
      obtain ⟨tr, s, hrun, hs⟩ := ih (μ s') (hn ▸ hlt) hI' rfl
      exact ⟨(e, o) :: tr, s, (Run.single hnext).append hrun, hs⟩

end Rest

/-! ## Executing a list of events -/

/-- Run the events in order, collecting the trace. -/
def exec (next : σ → ε → Option (σ × ο)) : σ → List ε → Option (List (ε × ο) × σ)
  | s, [] => some ([], s)
  | s, e :: es =>
    match next s e with
    | none => none
    | some (s', o) => (exec next s' es).map fun r => ((e, o) :: r.1, r.2)

theorem exec_nil (next : σ → ε → Option (σ × ο)) (s : σ) : exec next s [] = some ([], s) := rfl

theorem exec_cons {next : σ → ε → Option (σ × ο)} {s s' s'' : σ} {e : ε} {o : ο} {es : List ε}
    {tr : List (ε × ο)} (hnext : next s e = some (s', o)) (h : exec next s' es = some (tr, s'')) :
    exec next s (e :: es) = some ((e, o) :: tr, s'') := by
  simp only [exec, hnext, h, Option.map_some]

theorem Run.of_exec {next : σ → ε → Option (σ × ο)} {es : List ε} {s₀ s : σ}
    {tr : List (ε × ο)} (h : exec next s₀ es = some (tr, s)) : Run next s₀ tr s := by
  induction es generalizing s₀ tr with
  | nil =>
    simp only [exec, Option.some.injEq, Prod.mk.injEq] at h
    obtain ⟨rfl, rfl⟩ := h
    exact .nil
  | cons e es ih =>
    unfold exec at h
    split at h
    · cases h
    · next s' o hnext =>
      obtain ⟨⟨tr', s''⟩, hrest, heq⟩ := Option.map_eq_some_iff.mp h
      simp only [Prod.mk.injEq] at heq
      obtain ⟨rfl, rfl⟩ := heq
      exact (Run.single hnext).append (ih hrest)

theorem exec_events {next : σ → ε → Option (σ × ο)} {es : List ε} {s₀ s : σ}
    {tr : List (ε × ο)} (h : exec next s₀ es = some (tr, s)) : tr.map (·.1) = es := by
  induction es generalizing s₀ tr with
  | nil =>
    simp only [exec, Option.some.injEq, Prod.mk.injEq] at h
    rw [← h.1, List.map_nil]
  | cons e es ih =>
    unfold exec at h
    split at h
    · cases h
    · obtain ⟨⟨tr', s''⟩, hrest, heq⟩ := Option.map_eq_some_iff.mp h
      simp only [Prod.mk.injEq] at heq
      obtain ⟨rfl, rfl⟩ := heq
      rw [List.map_cons, ih hrest]

/-- `p` holds of every state on the way, with the event that comes next. -/
def along (next : σ → ε → Option (σ × ο)) (p : σ → ε → Bool) : σ → List ε → Bool
  | _, [] => true
  | s, e :: es => p s e && (next s e).all fun r => along next p r.1 es

theorem Throughout.of_along {next : σ → ε → Option (σ × ο)} {p : σ → ε → Bool} {es : List ε}
    {s₀ s : σ} {tr : List (ε × ο)} (h : exec next s₀ es = some (tr, s))
    (hp : along next p s₀ es = true) : Throughout next (fun s e => p s e = true) s₀ tr := by
  induction es generalizing s₀ tr with
  | nil =>
    intro pre e o post m htr
    simp only [exec, Option.some.injEq, Prod.mk.injEq] at h
    rw [← h.1] at htr
    simp at htr
  | cons e es ih =>
    rw [along, Bool.and_eq_true] at hp
    unfold exec at h
    split at h
    · cases h
    · next s' o hnext =>
      obtain ⟨⟨tr', s''⟩, hrest, heq⟩ := Option.map_eq_some_iff.mp h
      simp only [Prod.mk.injEq] at heq
      obtain ⟨rfl, rfl⟩ := heq
      rw [hnext, Option.all_some] at hp
      intro pre e' o' post m htr hrun
      cases pre with
      | nil =>
        rw [List.nil_append, List.cons.injEq, Prod.mk.injEq] at htr
        rw [hrun.eq_of_nil, ← htr.1.1]
        exact hp.1
      | cons x pre =>
        rw [List.cons_append, List.cons.injEq] at htr
        rw [← htr.1] at hrun
        have hfirst : Run next s₀ ([(e, o)] ++ pre) m := hrun
        obtain ⟨k, hk, hpre⟩ := hfirst.split
        rw [hk.deterministic (Run.single hnext)] at hpre
        exact ih hrest hp.2 pre e' o' post m htr.2 hpre

/-- A run with a property that executing the events shows. -/
theorem Run.exists_of_exec {next : σ → ε → Option (σ × ο)} {es : List ε} {s₀ : σ}
    {p : List (ε × ο) × σ → Bool} (h : (exec next s₀ es).any p = true) :
    ∃ tr s, Run next s₀ tr s ∧ p (tr, s) = true := by
  cases hexec : exec next s₀ es with
  | none =>
    rw [hexec] at h
    cases h
  | some r =>
    rw [hexec] at h
    exact ⟨r.1, r.2, Run.of_exec hexec, h⟩

end Pollbook
