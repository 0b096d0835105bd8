import Pollbook.Lib.Run

/-!
# Machines side by side

Machines that run side by side take their steps in any order, and every step is
a step of one of them: of one of two (`beside`), or of one of many of a kind
(`family`). Such a machine has a `Part` in what its state and its steps show of
it, and what a run shows of a part is a run of that part (`Run.part`).

A machine that crashed takes no more steps until it is started again; the
others go on (`mortal`).

`Once` says that a step of the past was of a kind, where the kind may ask for
earlier steps in the same way.
-/

namespace Pollbook

variable {σ τ υ ε δ γ ο π ω α ρ ι : Type}

/-! ## Parts -/

/-- `next'` is the part of `next` that `view` and `seen` show: a step is seen as
a step of the part, or leaves the part as it was. -/
def Part (next : σ → ε → Option (σ × ο)) (next' : τ → δ → Option (τ × π)) (view : σ → τ)
    (seen : ε × ο → Option (δ × π)) : Prop :=
  ∀ s e s' o, next s e = some (s', o) →
    match seen (e, o) with
    | some y => next' (view s) y.1 = some (view s', y.2)
    | none => view s' = view s

section Part

variable {next : σ → ε → Option (σ × ο)} {next' : τ → δ → Option (τ × π)}
  {next'' : υ → γ → Option (υ × ω)} {view : σ → τ} {view' : τ → υ}
  {seen : ε × ο → Option (δ × π)} {seen' : δ × π → Option (γ × ω)} {s₀ s s' : σ}
  {tr : List (ε × ο)} {e : ε} {o : ο}

theorem Part.step (h : Part next next' view seen) (hnext : next s e = some (s', o)) {e' : δ}
    {o' : π} (hseen : seen (e, o) = some (e', o')) :
    next' (view s) e' = some (view s', o') := by
  have hstep := h s e s' o hnext
  rw [hseen] at hstep
  exact hstep

theorem Part.still (h : Part next next' view seen) (hnext : next s e = some (s', o))
    (hseen : seen (e, o) = none) : view s' = view s := by
  have hstep := h s e s' o hnext
  rw [hseen] at hstep
  exact hstep

/-- A part of a part. -/
theorem Part.trans (h : Part next next' view seen) (h' : Part next' next'' view' seen') :
    Part next next'' (fun s => view' (view s)) (fun x => (seen x).bind seen') := by
  intro s e s' o hnext
  dsimp only
  cases hseen : seen (e, o) with
  | none => exact congrArg view' (h.still hnext hseen)
  | some y => exact h' _ _ _ _ (h.step hnext hseen)

/-- What a run shows of a part is a run of it. -/
theorem Run.part (h : Part next next' view seen) (hrun : Run next s₀ tr s) :
    Run next' (view s₀) (tr.filterMap seen) (view s) := by
  induction hrun with
  | nil => exact .nil
  | @snoc tr m s' e o hrun hnext ih =>
    rw [List.filterMap_append]
    cases hseen : seen (e, o) with
    | none =>
      rw [List.filterMap_cons_none hseen, List.filterMap_nil, List.append_nil,
        h.still hnext hseen]
      exact ih
    | some y =>
      rw [List.filterMap_cons_some hseen, List.filterMap_nil]
      exact ih.snoc (h.step hnext hseen)

end Part

/-! ## Two machines -/

/-- Two machines side by side. -/
def beside (next : σ → ε → Option (σ × ο)) (next' : τ → δ → Option (τ × π)) (s : σ × τ) :
    ε ⊕ δ → Option ((σ × τ) × (ο ⊕ π))
  | .inl e => (next s.1 e).map fun r => ((r.1, s.2), .inl r.2)
  | .inr e => (next' s.2 e).map fun r => ((s.1, r.1), .inr r.2)

/-- A step of the first machine. -/
def firstStep : (ε ⊕ δ) × (ο ⊕ π) → Option (ε × ο)
  | (.inl e, .inl o) => some (e, o)
  | _ => none

/-- A step of the second machine. -/
def secondStep : (ε ⊕ δ) × (ο ⊕ π) → Option (δ × π)
  | (.inr e, .inr o) => some (e, o)
  | _ => none

section Beside

variable (next : σ → ε → Option (σ × ο)) (next' : τ → δ → Option (τ × π))

theorem beside_first : Part (beside next next') next Prod.fst firstStep := by
  intro s e s' o h
  cases e with
  | inl e =>
    obtain ⟨r, hr, heq⟩ := Option.map_eq_some_iff.mp h
    cases heq
    exact hr
  | inr e =>
    obtain ⟨r, -, heq⟩ := Option.map_eq_some_iff.mp h
    cases heq
    rfl

theorem beside_second : Part (beside next next') next' Prod.snd secondStep := by
  intro s e s' o h
  cases e with
  | inl e =>
    obtain ⟨r, -, heq⟩ := Option.map_eq_some_iff.mp h
    cases heq
    rfl
  | inr e =>
    obtain ⟨r, hr, heq⟩ := Option.map_eq_some_iff.mp h
    cases heq
    exact hr

end Beside

/-! ## Many machines of a kind -/

/-- A family of machines side by side. -/
def family [DecidableEq ι] (next : σ → ε → Option (σ × ο)) (s : ι → σ) (e : ι × ε) :
    Option ((ι → σ) × ο) :=
  (next (s e.1) e.2).map fun r => (Function.update s e.1 r.1, r.2)

/-- A step of the machine `i`. -/
def memberStep [DecidableEq ι] (i : ι) (x : (ι × ε) × ο) : Option (ε × ο) :=
  if x.1.1 = i then some (x.1.2, x.2) else none

theorem family_member [DecidableEq ι] (next : σ → ε → Option (σ × ο)) (i : ι) :
    Part (family next) next (fun s : ι → σ => s i) (memberStep i) := by
  rintro s ⟨j, e⟩ s' o h
  obtain ⟨r, hr, heq⟩ := Option.map_eq_some_iff.mp h
  cases heq
  by_cases hj : j = i
  · subst hj
    simp only [memberStep, if_pos, Function.update_self]
    exact hr
  · simp only [memberStep, if_neg hj, Function.update_of_ne (Ne.symm hj)]

/-! ## Machines that crash and the others go on -/

/-- The machine with its crashes: it stays where it was, without steps, until it
is started again. The flag says whether it is running. -/
def mortal (next : σ → ε → Option (σ × List α)) (crash : σ → ε → Option (List α))
    (restart : σ → ρ → Option σ) (s : σ × Bool) : ε ⊕ ρ → Option ((σ × Bool) × List α)
  | .inl e =>
    if s.2 then
      match next s.1 e with
      | some (s', o) => some ((s', true), o)
      | none => (crash s.1 e).map fun o => ((s.1, false), o)
    else none
  | .inr r => (restart s.1 r).map fun s' => ((s', true), [])

section Mortal

variable {next : σ → ε → Option (σ × List α)} {crash : σ → ε → Option (List α)}
  {restart : σ → ρ → Option σ} {s₀ s s' : σ} {alive alive' : Bool} {e : ε} {o : List α}

theorem mortal_inl (h : mortal next crash restart (s, alive) (.inl e) = some ((s', alive'), o)) :
    alive = true ∧ (next s e = some (s', o) ∧ alive' = true ∨
      next s e = none ∧ crash s e = some o ∧ s' = s ∧ alive' = false) := by
  unfold mortal at h
  cases alive with
  | false => cases h
  | true =>
    refine ⟨rfl, ?_⟩
    simp only [if_true] at h
    split at h
    · next s₁ o₁ hnext =>
      cases h
      exact .inl ⟨hnext, rfl⟩
    · next hnext =>
      obtain ⟨o₁, hcrash, heq⟩ := Option.map_eq_some_iff.mp h
      cases heq
      exact .inr ⟨hnext, hcrash, rfl, rfl⟩

theorem mortal_inr {r : ρ}
    (h : mortal next crash restart (s, alive) (.inr r) = some ((s', alive'), o)) :
    restart s r = some s' ∧ alive' = true ∧ o = [] := by
  obtain ⟨m, hrestart, heq⟩ := Option.map_eq_some_iff.mp h
  cases heq
  exact ⟨hrestart, rfl, rfl⟩

end Mortal

/-! ## What once happened -/

/-- A step of the trace was of the kind `K`, which may look at the past of the
step, at the states around it and at the step itself. -/
def Once (next : σ → ε → Option (σ × ο)) (s₀ : σ) (K : List (ε × ο) → σ → ε → ο → σ → Prop)
    (tr : List (ε × ο)) : Prop :=
  ∃ pre e o post m m', tr = pre ++ (e, o) :: post ∧ Run next s₀ pre m ∧
    next m e = some (m', o) ∧ K pre m e o m'

section Once

variable {next : σ → ε → Option (σ × ο)} {s₀ s : σ}
  {K K' : List (ε × ο) → σ → ε → ο → σ → Prop} {tr : List (ε × ο)}

theorem Once.mono (h : Once next s₀ K tr)
    (hK : ∀ pre m e o m' post, tr = pre ++ (e, o) :: post → Run next s₀ pre m →
      next m e = some (m', o) → K pre m e o m' → K' pre m e o m') : Once next s₀ K' tr := by
  obtain ⟨pre, e, o, post, m, m', htr, hpre, hnext, hkind⟩ := h
  exact ⟨pre, e, o, post, m, m', htr, hpre, hnext, hK pre m e o m' post htr hpre hnext hkind⟩

/-- Every step of a run once happened. -/
theorem Once.of_mem (hrun : Run next s₀ tr s) {x : ε × ο} (hx : x ∈ tr)
    (hK : ∀ pre m m' post, tr = pre ++ x :: post → Run next s₀ pre m →
      next m x.1 = some (m', x.2) → K pre m x.1 x.2 m') : Once next s₀ K tr := by
  obtain ⟨pre, post, htr⟩ := List.append_of_mem hx
  obtain ⟨m, m', hpre, hnext, -⟩ := (htr ▸ hrun).splitStep
  exact ⟨pre, x.1, x.2, post, m, m', htr, hpre, hnext, hK pre m m' post htr hpre hnext⟩

end Once

end Pollbook
