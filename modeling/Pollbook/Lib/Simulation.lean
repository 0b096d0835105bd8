import Pollbook.Lib.Run

/-!
# Simulation

An abstract model is a relation whose steps show a label or nothing. A `Path`
carries the labels it shows. A machine of `Lib/Run` is simulated by the model
when each of its steps is matched by a path that shows what the step shows
(`Simulates`); then every run is matched by a path that shows what the run
shows (`Simulates.run`). What the labels of all paths have in common, they have
in common for all runs: `Path.history` relates the labels to the state reached,
`Path.accepted` runs a monitor over them.
-/

namespace Pollbook

/-! ## Paths -/

variable {α l : Type}

/-- `Path step a₀ ls a`: steps of the model lead from `a₀` to `a` and show `ls`. -/
inductive Path (step : α → Option l → α → Prop) (a₀ : α) : List l → α → Prop
  | nil : Path step a₀ [] a₀
  | silent {ls : List l} {a a' : α} : Path step a₀ ls a → step a none a' → Path step a₀ ls a'
  | snoc {ls : List l} {a a' : α} {x : l} :
      Path step a₀ ls a → step a (some x) a' → Path step a₀ (ls ++ [x]) a'

namespace Path

variable {step : α → Option l → α → Prop} {a₀ a a' : α} {ls ls' : List l}

theorem append (h : Path step a₀ ls a) (h' : Path step a ls' a') : Path step a₀ (ls ++ ls') a' := by
  induction h' with
  | nil => rwa [List.append_nil]
  | silent _ hstep ih => exact ih.silent hstep
  | snoc _ hstep ih =>
    rw [← List.append_assoc]
    exact ih.snoc hstep

theorem single {x : l} (h : step a₀ (some x) a) : Path step a₀ [x] a := by
  rw [← List.nil_append [x]]
  exact Path.nil.snoc h

/-- The rule for a relation between what a path shows and where it leads. -/
theorem history {I : List l → α → Prop} (h : Path step a₀ ls a) (h₀ : I [] a₀)
    (hsilent : ∀ ls a a', I ls a → step a none a' → I ls a')
    (hshown : ∀ ls a x a', I ls a → step a (some x) a' → I (ls ++ [x]) a') : I ls a := by
  induction h with
  | nil => exact h₀
  | silent _ hstep ih => exact hsilent _ _ _ ih hstep
  | snoc _ hstep ih => exact hshown _ _ _ _ ih hstep

/-- A monitor that follows the model accepts what a path shows. -/
theorem accepted {m : Type} {watch : m → l → Option m} {J : α → m → Prop} {w₀ : m}
    (h : Path step a₀ ls a) (h₀ : J a₀ w₀)
    (hsilent : ∀ a w a', J a w → step a none a' → J a' w)
    (hshown : ∀ a w x a', J a w → step a (some x) a' → ∃ w', watch w x = some w' ∧ J a' w') :
    ∃ w, ls.foldlM watch w₀ = some w ∧ J a w := by
  refine h.history (I := fun ls a => ∃ w, ls.foldlM watch w₀ = some w ∧ J a w) ⟨w₀, rfl, h₀⟩ ?_ ?_
  · rintro ls a a' ⟨w, hw, hJ⟩ hstep
    exact ⟨w, hw, hsilent a w a' hJ hstep⟩
  · rintro ls a x a' ⟨w, hw, hJ⟩ hstep
    obtain ⟨w', hw', hJ'⟩ := hshown a w x a' hJ hstep
    refine ⟨w', ?_, hJ'⟩
    rw [List.foldlM_append, hw]
    simpa using hw'

end Path

/-! ## Simulation -/

variable {σ ε ο : Type}

/-- Every step of the machine is matched by a path of the model that shows the
same and keeps the relation. -/
def Simulates (next : σ → ε → Option (σ × ο)) (step : α → Option l → α → Prop)
    (shows : ε × ο → List l) (R : σ → α → Prop) : Prop :=
  ∀ s a e s' o, R s a → next s e = some (s', o) → ∃ a', Path step a (shows (e, o)) a' ∧ R s' a'

/-- Every run is matched by a path. -/
theorem Simulates.run {next : σ → ε → Option (σ × ο)} {step : α → Option l → α → Prop}
    {shows : ε × ο → List l} {R : σ → α → Prop} (h : Simulates next step shows R) {s₀ s : σ}
    {a₀ : α} {tr : List (ε × ο)} (h₀ : R s₀ a₀) (hrun : Run next s₀ tr s) :
    ∃ a, Path step a₀ (tr.flatMap shows) a ∧ R s a := by
  induction hrun with
  | nil => exact ⟨a₀, .nil, h₀⟩
  | snoc _ hnext ih =>
    obtain ⟨a, hpath, hR⟩ := ih
    obtain ⟨a', hpath', hR'⟩ := h _ _ _ _ _ hR hnext
    refine ⟨a', ?_, hR'⟩
    rw [List.flatMap_append, List.flatMap_singleton]
    exact hpath.append hpath'

end Pollbook
