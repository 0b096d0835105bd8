import Pollbook.Lib.Text

/-!
# Calls that perform actions

A C++ function performs actions others can observe and then returns, or an
exception or undefined behaviour ends it. `Call ω α` is what such a call did:
the actions of type `ω` it performed, oldest first, with the value it returned
or the trap that ended it. A trapped call keeps the actions it performed
before.

The inversion rules take a returned call apart one bind at a time
(`bind_eq_returned`), and `Returns` is the event that nothing trapped.
-/

namespace Pollbook

theorem bind_eq_ok {α β : Type} {x : Cpp α} {f : α → Cpp β} {b : β} :
    (x >>= f) = .ok b ↔ ∃ a, x = .ok a ∧ f a = .ok b := by
  cases x with
  | error trap =>
    constructor
    · rintro ⟨⟩
    · rintro ⟨a, ⟨⟩, -⟩
  | ok a =>
    constructor
    · exact fun h => ⟨a, rfl, h⟩
    · rintro ⟨a', ⟨⟩, h⟩
      exact h

/-- What a call did. -/
inductive Call (ω α : Type) where
  | returned (value : α) (actions : List ω)
  | threw (trap : Trap) (actions : List ω)

namespace Call

variable {ω α β : Type}

/-- Run one call after another. -/
protected def bind (x : Call ω α) (f : α → Call ω β) : Call ω β :=
  match x with
  | threw trap actions => threw trap actions
  | returned a actions =>
    match f a with
    | returned b actions' => returned b (actions ++ actions')
    | threw trap actions' => threw trap (actions ++ actions')

instance : Monad (Call ω) where
  pure a := returned a []
  bind := Call.bind

/-- Perform one action. -/
def perform (action : ω) : Call ω Unit := returned () [action]

/-- A call of a function that performs no actions. -/
def ofCpp : Cpp α → Call ω α
  | .ok a => returned a []
  | .error trap => threw trap []

/-- The actions a call performed. -/
def actions : Call ω α → List ω
  | returned _ actions => actions
  | threw _ actions => actions

/-- What a call returned, if it returned. -/
def value : Call ω α → Option α
  | returned a _ => some a
  | threw _ _ => none

/-- A trap ended the call. -/
def trapped : Call ω α → Bool
  | returned _ _ => false
  | threw _ _ => true

/-- The call returns normally. -/
def Returns (x : Call ω α) : Prop := ∃ a actions, x = returned a actions

/-! ## Inversion -/

@[simp] theorem pure_eq_returned {a b : α} {acts : List ω} :
    (pure a : Call ω α) = returned b acts ↔ b = a ∧ acts = [] := by
  change returned a [] = returned b acts ↔ _
  rw [returned.injEq]
  exact ⟨fun ⟨h₁, h₂⟩ => ⟨h₁.symm, h₂.symm⟩, fun ⟨h₁, h₂⟩ => ⟨h₁.symm, h₂.symm⟩⟩

theorem bind_eq_returned {x : Call ω α} {f : α → Call ω β} {b : β} {acts : List ω} :
    (x >>= f) = returned b acts ↔
      ∃ a acts₁ acts₂, x = returned a acts₁ ∧ f a = returned b acts₂ ∧ acts = acts₁ ++ acts₂ := by
  change Call.bind x f = _ ↔ _
  cases x with
  | threw trap acts₁ => simp [Call.bind]
  | returned a acts₁ =>
    cases hf : f a with
    | threw trap acts₂ => simp [Call.bind, hf]
    | returned b' acts₂ =>
      simp only [Call.bind, hf, returned.injEq]
      constructor
      · rintro ⟨rfl, rfl⟩
        exact ⟨a, acts₁, acts₂, ⟨rfl, rfl⟩, hf, rfl⟩
      · rintro ⟨a', acts₁', acts₂', ⟨rfl, rfl⟩, hf', rfl⟩
        rw [hf, returned.injEq] at hf'
        exact ⟨hf'.1, by rw [hf'.2]⟩

/-- A trap ends a sequence in its first call or in a later one. -/
theorem bind_eq_threw {x : Call ω α} {f : α → Call ω β} {trap : Trap} {acts : List ω} :
    (x >>= f) = threw trap acts ↔ x = threw trap acts ∨
      ∃ a acts₁ acts₂, x = returned a acts₁ ∧ f a = threw trap acts₂ ∧ acts = acts₁ ++ acts₂ := by
  change Call.bind x f = _ ↔ _
  cases x with
  | threw trap' acts₁ => simp [Call.bind]
  | returned a acts₁ =>
    cases hf : f a with
    | returned b acts₂ => simp [Call.bind, hf]
    | threw trap' acts₂ =>
      simp only [Call.bind, hf, threw.injEq, reduceCtorEq, false_or, returned.injEq]
      constructor
      · rintro ⟨rfl, rfl⟩
        exact ⟨a, acts₁, acts₂, ⟨rfl, rfl⟩, hf, rfl⟩
      · rintro ⟨a', acts₁', acts₂', ⟨rfl, rfl⟩, hf', rfl⟩
        rw [hf, threw.injEq] at hf'
        exact ⟨hf'.1, by rw [hf'.2]⟩

@[simp] theorem pure_eq_threw {a : α} {trap : Trap} {acts : List ω} :
    (pure a : Call ω α) = threw trap acts ↔ False := by
  simp [pure]

@[simp] theorem perform_eq_threw {action : ω} {trap : Trap} {acts : List ω} :
    perform action = threw trap acts ↔ False := by
  simp [perform]

@[simp] theorem ofCpp_eq_threw {x : Cpp α} {trap : Trap} {acts : List ω} :
    (ofCpp x : Call ω α) = threw trap acts ↔ x = .error trap ∧ acts = [] := by
  cases x with
  | ok a => simp [ofCpp]
  | error trap' =>
    simp only [ofCpp, threw.injEq, Except.error.injEq]
    exact and_congr_right fun _ => eq_comm

@[simp] theorem perform_eq_returned {action : ω} {u : Unit} {acts : List ω} :
    perform action = returned u acts ↔ acts = [action] := by
  simp only [perform, returned.injEq, true_and]
  exact eq_comm

@[simp] theorem ofCpp_eq_returned {x : Cpp α} {a : α} {acts : List ω} :
    (ofCpp x : Call ω α) = returned a acts ↔ x = .ok a ∧ acts = [] := by
  cases x with
  | ok b =>
    simp only [ofCpp, returned.injEq, Except.ok.injEq]
    exact and_congr_right fun _ => eq_comm
  | error trap => simp [ofCpp]

@[simp] theorem threw_eq_returned {trap : Trap} {acts acts' : List ω} {a : α} :
    (threw trap acts : Call ω α) = returned a acts' ↔ False := by
  simp

/-! ## Returning -/

@[simp] theorem returns_pure (a : α) : (pure a : Call ω α).Returns := ⟨a, [], rfl⟩

@[simp] theorem returns_returned (a : α) (acts : List ω) : (returned a acts).Returns :=
  ⟨a, acts, rfl⟩

@[simp] theorem not_returns_threw (trap : Trap) (acts : List ω) :
    ¬ (threw trap acts : Call ω α).Returns := by
  rintro ⟨a, acts', h⟩
  cases h

@[simp] theorem returns_ofCpp {x : Cpp α} : (ofCpp x : Call ω α).Returns ↔ ∃ a, x = .ok a := by
  simp [Returns]

theorem returns_bind {x : Call ω α} {f : α → Call ω β} :
    (x >>= f).Returns ↔ ∃ a acts, x = returned a acts ∧ (f a).Returns := by
  constructor
  · rintro ⟨b, acts, h⟩
    obtain ⟨a, acts₁, acts₂, hx, hf, -⟩ := bind_eq_returned.mp h
    exact ⟨a, acts₁, hx, b, acts₂, hf⟩
  · rintro ⟨a, acts₁, hx, b, acts₂, hf⟩
    exact ⟨b, acts₁ ++ acts₂, bind_eq_returned.mpr ⟨a, acts₁, acts₂, hx, hf, rfl⟩⟩

/-! ## Symbolic execution -/

/-- The call, with actions performed before it. -/
def after (acts : List ω) : Call ω α → Call ω α
  | returned a acts' => returned a (acts ++ acts')
  | threw trap acts' => threw trap (acts ++ acts')

theorem returned_bind (a : α) (acts : List ω) (f : α → Call ω β) :
    (returned a acts >>= f) = (f a).after acts := by
  change Call.bind (returned a acts) f = _
  cases hf : f a with
  | returned b acts' => simp only [Call.bind, hf, after]
  | threw trap acts' => simp only [Call.bind, hf, after]

theorem threw_bind (trap : Trap) (acts : List ω) (f : α → Call ω β) :
    (threw trap acts >>= f) = threw trap acts := rfl

theorem after_nil (x : Call ω α) : x.after [] = x := by
  cases x with
  | returned a acts => rfl
  | threw trap acts => rfl

theorem ofCpp_ok (a : α) : (ofCpp (.ok a) : Call ω α) = returned a [] := rfl

theorem ofCpp_error (trap : Trap) : (ofCpp (.error trap) : Call ω α) = threw trap [] := rfl

theorem perform_eq (action : ω) : perform action = returned () [action] := rfl

theorem pure_eq (a : α) : (pure a : Call ω α) = returned a [] := rfl

theorem after_eq_returned {x : Call ω α} {acts acts' : List ω} {a : α} :
    x.after acts = returned a acts' ↔ ∃ acts₂, x = returned a acts₂ ∧ acts' = acts ++ acts₂ := by
  cases x with
  | threw trap acts₂ => simp [after]
  | returned b acts₂ =>
    simp only [after, returned.injEq]
    constructor
    · rintro ⟨rfl, rfl⟩
      exact ⟨acts₂, ⟨rfl, rfl⟩, rfl⟩
    · rintro ⟨acts₂', ⟨rfl, rfl⟩, rfl⟩
      exact ⟨rfl, rfl⟩

theorem after_returned (acts acts' : List ω) (a : α) :
    (returned a acts').after acts = returned a (acts ++ acts') := rfl

theorem actions_after (x : Call ω α) (acts : List ω) :
    (x.after acts).actions = acts ++ x.actions := by
  cases x with
  | returned a acts' => rfl
  | threw trap acts' => rfl

@[simp] theorem returns_after {x : Call ω α} {acts : List ω} :
    (x.after acts).Returns ↔ x.Returns := by
  cases x with
  | threw trap acts₂ => simp [after]
  | returned b acts₂ => simp [after]

/-! ## What every action has -/

/-- Every action of the call has `p`. -/
def Performs (p : ω → Prop) (x : Call ω α) : Prop := ∀ action ∈ x.actions, p action

variable {p : ω → Prop}

theorem performs_bind {x : Call ω α} {f : α → Call ω β} (hx : x.Performs p)
    (hf : ∀ a, (f a).Performs p) : (x >>= f).Performs p := by
  cases x with
  | threw trap acts => exact hx
  | returned a acts =>
    rw [returned_bind]
    intro action haction
    rw [actions_after, List.mem_append] at haction
    exact haction.elim (hx action) (hf a action)

theorem performs_pure (a : α) : (pure a : Call ω α).Performs p := fun _ h => nomatch h

theorem performs_ofCpp (x : Cpp α) : (ofCpp x : Call ω α).Performs p := by
  cases x with
  | ok a => exact fun _ h => nomatch h
  | error trap => exact fun _ h => nomatch h

theorem performs_ofCpp_bind {x : Cpp α} {f : α → Call ω β}
    (h : ∀ a, x = .ok a → (f a).Performs p) : (ofCpp x >>= f).Performs p := by
  cases x with
  | error trap => exact fun _ h => nomatch h
  | ok a =>
    rw [ofCpp_ok, returned_bind, after_nil]
    exact h a rfl

theorem performs_threw (trap : Trap) : (threw trap [] : Call ω α).Performs p :=
  fun _ h => nomatch h

theorem performs_perform {action : ω} (h : p action) : (perform action).Performs p := by
  intro action' haction
  rw [List.mem_singleton.mp haction]
  exact h

/-! ## Where an action comes from -/

theorem mem_actions_bind {x : Call ω α} {f : α → Call ω β} {action : ω} :
    action ∈ (x >>= f).actions ↔
      action ∈ x.actions ∨ ∃ a acts, x = returned a acts ∧ action ∈ (f a).actions := by
  cases x with
  | threw trap acts =>
    rw [threw_bind]
    refine ⟨Or.inl, ?_⟩
    rintro (h | ⟨_, _, heq, -⟩)
    · exact h
    · cases heq
  | returned a acts =>
    rw [returned_bind, actions_after, List.mem_append]
    refine or_congr_right ⟨fun h => ⟨a, acts, rfl, h⟩, ?_⟩
    rintro ⟨_, _, ⟨⟩, h⟩
    exact h

theorem mem_actions_ofCpp_bind {x : Cpp α} {f : α → Call ω β} {action : ω} :
    action ∈ (ofCpp x >>= f).actions ↔ ∃ a, x = .ok a ∧ action ∈ (f a).actions := by
  cases x with
  | error trap =>
    rw [ofCpp_error, threw_bind]
    constructor
    · intro h
      cases h
    · rintro ⟨_, heq, -⟩
      cases heq
  | ok a =>
    rw [ofCpp_ok, returned_bind, after_nil]
    refine ⟨fun h => ⟨a, rfl, h⟩, ?_⟩
    rintro ⟨_, ⟨⟩, h⟩
    exact h

theorem mem_actions_perform_bind {b action : ω} {f : Unit → Call ω β} :
    action ∈ (perform b >>= f).actions ↔ action = b ∨ action ∈ (f ()).actions := by
  rw [perform_eq, returned_bind, actions_after, List.mem_append, List.mem_singleton]

theorem mem_actions_perform {b action : ω} :
    action ∈ (perform b).actions ↔ action = b := List.mem_singleton

theorem not_mem_actions_pure {a : α} {action : ω} : action ∉ (pure a : Call ω α).actions :=
  List.not_mem_nil

theorem not_mem_actions_threw {trap : Trap} {action : ω} :
    action ∉ (threw trap [] : Call ω α).actions := List.not_mem_nil

/-! ## Two calls side by side -/

/-- The calls end the same way, with values related by `V`, and their actions
are related by `A` one by one. -/
inductive Alike {γ : Type} (V : α → γ → Prop) (A : ω → ω → Prop) : Call ω α → Call ω γ → Prop
  | returned {a : α} {b : γ} {acts acts' : List ω} (hvalue : V a b)
      (hacts : List.Forall₂ A acts acts') : Alike V A (returned a acts) (returned b acts')
  | threw {trap trap' : Trap} {acts acts' : List ω} (hacts : List.Forall₂ A acts acts') :
      Alike V A (threw trap acts) (threw trap' acts')

namespace Alike

variable {γ δ : Type} {V : α → γ → Prop} {W : β → δ → Prop} {A : ω → ω → Prop}

theorem pure {a : α} {b : γ} (h : V a b) : Alike V A (pure a) (pure b) := .returned h .nil

/-- The same call twice. -/
theorem same {V : α → α → Prop} (hV : ∀ a, V a a) (hA : ∀ a, A a a) (x : Call ω α) :
    Alike V A x x := by
  cases x with
  | returned a acts => exact .returned (hV a) (List.forall₂_same.mpr fun a _ => hA a)
  | threw trap acts => exact .threw (List.forall₂_same.mpr fun a _ => hA a)

theorem perform {a b : ω} (h : A a b) : Alike (fun _ _ => True) A (perform a) (perform b) :=
  .returned trivial (.cons h .nil)

theorem bind {x : Call ω α} {y : Call ω γ} {f : α → Call ω β} {g : γ → Call ω δ}
    (hx : Alike V A x y) (hf : ∀ a b, V a b → Alike W A (f a) (g b)) :
    Alike W A (x >>= f) (y >>= g) := by
  cases hx with
  | threw hacts => exact .threw hacts
  | @returned a b acts acts' hvalue hacts =>
    rw [returned_bind, returned_bind]
    have h := hf a b hvalue
    generalize f a = x, g b = y at h
    cases h with
    | returned hvalue' hacts' => exact .returned hvalue' (List.rel_append hacts hacts')
    | threw hacts' => exact .threw (List.rel_append hacts hacts')

/-- Both begin with the same call. -/
theorem bind_same (hA : ∀ a, A a a) (x : Call ω α) {f : α → Call ω β} {g : α → Call ω δ}
    (hf : ∀ a, Alike W A (f a) (g a)) : Alike W A (x >>= f) (x >>= g) :=
  bind (same (fun _ => rfl) hA x) fun _ b h => h ▸ hf b

theorem mono {V' : α → γ → Prop} {x : Call ω α} {y : Call ω γ} (h : Alike V A x y)
    (hV : ∀ a b, V a b → V' a b) : Alike V' A x y := by
  cases h with
  | returned hvalue hacts => exact .returned (hV _ _ hvalue) hacts
  | threw hacts => exact .threw hacts

end Alike

end Call

end Pollbook
