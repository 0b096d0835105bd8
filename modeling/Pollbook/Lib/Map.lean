import Mathlib.Logic.Function.Basic

/-!
# Keyed containers read through `find`

A `std::map` or `std::unordered_map` whose iteration order nobody looks at is
the function its `find` computes. The four updates are those of the standard
containers: `operator[]` with an assignment (`set`), `emplace` and
`try_emplace` (`emplace`, which keeps an existing entry), and `erase`.
-/

namespace Pollbook

/-- A keyed container: the value `find` returns for each key. -/
abbrev Map (κ ν : Type) := κ → Option ν

namespace Map

variable {κ ν : Type} [DecidableEq κ]

/-- The container with no entries. -/
def empty : Map κ ν := fun _ => none

/-- `m[k] = v`. -/
def set (m : Map κ ν) (k : κ) (v : ν) : Map κ ν := Function.update m k (some v)

/-- `m.emplace(k, v)`: an entry that is already there stays. -/
def emplace (m : Map κ ν) (k : κ) (v : ν) : Map κ ν :=
  match m k with
  | some _ => m
  | none => set m k v

/-- `m.erase(k)`. -/
def erase (m : Map κ ν) (k : κ) : Map κ ν := Function.update m k none

/-- Assign the entries of a list one after the other; the last one wins. -/
def setAll (m : Map κ ν) (entries : List (κ × ν)) : Map κ ν :=
  entries.foldl (fun m e => set m e.1 e.2) m

omit [DecidableEq κ] in
@[simp] theorem empty_apply (k : κ) : (empty : Map κ ν) k = none := rfl

@[simp] theorem set_self (m : Map κ ν) (k : κ) (v : ν) : set m k v k = some v :=
  Function.update_self ..

theorem set_apply (m : Map κ ν) (k j : κ) (v : ν) :
    set m k v j = if j = k then some v else m j :=
  Function.update_apply ..

@[simp] theorem set_of_ne (m : Map κ ν) {k j : κ} (h : j ≠ k) (v : ν) : set m k v j = m j :=
  Function.update_of_ne h ..

@[simp] theorem erase_self (m : Map κ ν) (k : κ) : erase m k k = none :=
  Function.update_self ..

theorem erase_apply (m : Map κ ν) (k j : κ) : erase m k j = if j = k then none else m j :=
  Function.update_apply ..

@[simp] theorem erase_of_ne (m : Map κ ν) {k j : κ} (h : j ≠ k) : erase m k j = m j :=
  Function.update_of_ne h ..

/-- Erasing an absent key changes nothing. -/
theorem erase_eq_self {m : Map κ ν} {k : κ} (h : m k = none) : erase m k = m := by
  rw [erase, ← h, Function.update_eq_self]

theorem emplace_of_some {m : Map κ ν} {k : κ} {v w : ν} (h : m k = some w) :
    emplace m k v = m := by
  simp only [emplace, h]

theorem emplace_of_none {m : Map κ ν} {k : κ} {v : ν} (h : m k = none) :
    emplace m k v = set m k v := by
  simp only [emplace, h]

/-- `emplace` never changes an entry that is there. -/
theorem emplace_keeps {m : Map κ ν} {j : κ} {w : ν} (h : m j = some w) (k : κ) (v : ν) :
    emplace m k v j = some w := by
  cases hk : m k with
  | some _ => rw [emplace_of_some hk, h]
  | none =>
    rw [emplace_of_none hk]
    have hne : j ≠ k := by
      rintro rfl
      rw [h] at hk
      cases hk
    rw [set_of_ne m hne, h]

theorem emplace_of_ne (m : Map κ ν) {k j : κ} (h : j ≠ k) (v : ν) : emplace m k v j = m j := by
  cases hk : m k with
  | some _ => rw [emplace_of_some hk]
  | none => rw [emplace_of_none hk, set_of_ne m h]

/-! ## One entry -/

/-- One entry is assigned or erased, or nothing happens. -/
def put (m : Map κ ν) (k : κ) : Option (Option ν) → Map κ ν
  | some v => Function.update m k v
  | none => m

theorem put_of_ne (m : Map κ ν) {k j : κ} (h : j ≠ k) (v : Option (Option ν)) :
    put m k v j = m j := by
  cases v with
  | none => rfl
  | some v => exact Function.update_of_ne h ..

theorem put_comm (m : Map κ ν) {k j : κ} (h : k ≠ j) (v w : Option (Option ν)) :
    put (put m k v) j w = put (put m j w) k v := by
  cases v with
  | none => rfl
  | some v =>
    cases w with
    | none => rfl
    | some w => exact Function.update_comm h ..

/-! ## Assigning a list of entries -/

@[simp] theorem setAll_nil (m : Map κ ν) : setAll m [] = m := rfl

theorem setAll_cons (m : Map κ ν) (e : κ × ν) (es : List (κ × ν)) :
    setAll m (e :: es) = setAll (set m e.1 e.2) es := rfl

theorem setAll_append (m : Map κ ν) (es fs : List (κ × ν)) :
    setAll m (es ++ fs) = setAll (setAll m es) fs := by
  simp only [setAll, List.foldl_append]

/-- A key is looked up in the entries last to first, then in the container. -/
theorem setAll_apply (m : Map κ ν) (es : List (κ × ν)) (k : κ) :
    setAll m es k = ((es.reverse.find? (fun e => e.1 = k)).map (·.2)).or (m k) := by
  induction es generalizing m with
  | nil => simp
  | cons e es ih =>
    rw [setAll_cons, ih, List.reverse_cons, List.find?_append]
    cases List.find? (fun e => decide (e.1 = k)) es.reverse with
    | some _ => simp
    | none =>
      by_cases hk : e.1 = k
      · subst hk
        simp
      · simp [hk, set_of_ne m (Ne.symm hk)]

/-- Assigning a list of entries twice is assigning it once. -/
theorem setAll_setAll (m : Map κ ν) (es : List (κ × ν)) :
    setAll (setAll m es) es = setAll m es := by
  funext k
  rw [setAll_apply (setAll m es), setAll_apply m]
  cases Option.map (·.2) (es.reverse.find? (fun e => decide (e.1 = k))) <;> simp

/-! ## The last entry of each key -/

/-- The container in which the last entry of each key has been kept. -/
def lastOf (entries : List (κ × ν)) : Map κ ν := setAll empty entries

@[simp] theorem lastOf_nil : lastOf ([] : List (κ × ν)) = empty := rfl

/-- Entries are assigned over what is there. -/
theorem setAll_eq_lastOf (m : Map κ ν) (es : List (κ × ν)) (k : κ) :
    setAll m es k = (lastOf es k).or (m k) := by
  unfold lastOf
  rw [setAll_apply m, setAll_apply empty, empty_apply, Option.or_none]

theorem lastOf_append (es fs : List (κ × ν)) (k : κ) :
    lastOf (es ++ fs) k = (lastOf fs k).or (lastOf es k) := by
  rw [lastOf, setAll_append, setAll_eq_lastOf]
  rfl

/-- A later entry is not overwritten by earlier ones. -/
theorem lastOf_append_of_some {fs : List (κ × ν)} {k : κ} {v : ν} (h : lastOf fs k = some v)
    (es : List (κ × ν)) : lastOf (es ++ fs) k = some v := by
  rw [lastOf_append, h, Option.some_or]

theorem setAll_of_lastOf {es : List (κ × ν)} {k : κ} {v : ν} (h : lastOf es k = some v)
    (m : Map κ ν) : setAll m es k = some v := by
  rw [setAll_eq_lastOf, h, Option.some_or]

/-- One more entry is assigned. -/
theorem lastOf_concat (es : List (κ × ν)) (k : κ) (v : ν) :
    lastOf (es ++ [(k, v)]) = (lastOf es).set k v := by
  rw [lastOf, setAll_append]
  rfl

/-! ## The first entry of each key -/

/-- The container in which the first entry of each key has been kept. -/
def firstOf (entries : List (κ × ν)) : Map κ ν := fun k =>
  (entries.find? fun e => e.1 = k).map (·.2)

@[simp] theorem firstOf_nil : firstOf ([] : List (κ × ν)) = empty := rfl

theorem firstOf_append (es fs : List (κ × ν)) (k : κ) :
    firstOf (es ++ fs) k = (firstOf es k).or (firstOf fs k) := by
  unfold firstOf
  rw [List.find?_append]
  cases List.find? (fun e => decide (e.1 = k)) es with
  | none => rfl
  | some e => rfl

/-- An entry that is there stays. -/
theorem firstOf_append_of_some {es : List (κ × ν)} {k : κ} {v : ν} (h : firstOf es k = some v)
    (fs : List (κ × ν)) : firstOf (es ++ fs) k = some v := by
  rw [firstOf_append, h, Option.some_or]

theorem mem_of_firstOf {es : List (κ × ν)} {k : κ} {v : ν}
    (h : firstOf es k = some v) : (k, v) ∈ es := by
  obtain ⟨⟨k', v'⟩, hfind, rfl⟩ := Option.map_eq_some_iff.mp h
  have hk : k' = k := by simpa using List.find?_some hfind
  subst hk
  exact List.mem_of_find?_eq_some hfind

theorem exists_firstOf {es : List (κ × ν)} {k : κ} {v : ν} (h : (k, v) ∈ es) :
    ∃ w, firstOf es k = some w := by
  have hsome : (es.find? fun e => e.1 = k).isSome = true :=
    List.find?_isSome.mpr ⟨(k, v), h, by simp⟩
  obtain ⟨e, he⟩ := Option.isSome_iff_exists.mp hsome
  exact ⟨e.2, by rw [firstOf, he, Option.map_some]⟩

/-- One more entry is emplaced. -/
theorem firstOf_concat (es : List (κ × ν)) (k : κ) (v : ν) :
    firstOf (es ++ [(k, v)]) = (firstOf es).emplace k v := by
  funext j
  rw [firstOf_append]
  cases hk : firstOf es k with
  | some w =>
    rw [emplace_of_some hk]
    by_cases hj : j = k
    · rw [hj, hk, Option.some_or]
    · have hnone : firstOf [(k, v)] j = none := by simp [firstOf, Ne.symm hj]
      rw [hnone, Option.or_none]
  | none =>
    rw [emplace_of_none hk, set_apply]
    by_cases hj : j = k
    · rw [if_pos hj, hj, hk, Option.none_or]
      simp [firstOf]
    · have hnone : firstOf [(k, v)] j = none := by simp [firstOf, Ne.symm hj]
      rw [if_neg hj, hnone, Option.or_none]

end Map

end Pollbook
