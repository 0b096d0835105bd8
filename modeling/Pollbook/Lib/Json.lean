import Mathlib.Data.List.Induction
import Mathlib.Data.String.Basic
import Pollbook.Lib.Text

/-!
# JSON values

The part of `nlohmann::json` a program touches when it builds a value field by
field and takes it apart again: the value type, `operator[]` for reading and
for assigning, `contains`, and the implicit conversions, each with the
exception it throws.

Objects are kept as `std::map` keeps them, sorted by key without repetition
(`Plain`); assignment keeps that form, so a value built by assignments is
plain when the values put in are.
-/

namespace Pollbook

/-- A JSON value, with nlohmann's three kinds of number. A float is a finite
double, hence a rational. -/
inductive Json where
  | null
  | boolean (b : Bool)
  | numberUnsigned (n : UInt64)
  | numberInteger (n : Int)
  | numberFloat (q : Rat)
  | string (s : Bytes)
  | array (elements : List Json)
  | object (fields : List (String × Json))

namespace Json

/-- `type_name()` -/
def typeName : Json → String
  | null => "null"
  | boolean _ => "boolean"
  | numberUnsigned _ | numberInteger _ | numberFloat _ => "number"
  | string _ => "string"
  | array _ => "array"
  | object _ => "object"

/-- The white space of JSON text. -/
def isWhite (b : UInt8) : Bool := b == 32 || b == 9 || b == 10 || b == 13

/-! ## Reading -/

/-- `find` on the fields of an object. -/
def find (key : String) : List (String × Json) → Option Json
  | [] => none
  | f :: fs => if key = f.1 then some f.2 else find key fs

/-- `json[key]` on a `const` value. A missing key is a failed assertion, and
undefined behaviour where assertions are compiled out. -/
def index (j : Json) (key : String) : Cpp Json :=
  match j with
  | object fields =>
    match find key fields with
    | some v => .ok v
    | none => .error (.undefined "operator[]: missing key")
  | j => .error (.jsonException ("[json.exception.type_error.305] cannot use operator[] " ++
      "with a string argument with " ++ j.typeName))

/-- `json.contains(key)` -/
def contains (j : Json) (key : String) : Bool :=
  match j with
  | object fields => (find key fields).isSome
  | _ => false

/-- `json.is_object()` -/
def isObject : Json → Bool
  | object _ => true
  | _ => false

/-- The error of a conversion to a type the value does not have. -/
def wrongType (expected : String) (j : Json) : Trap :=
  .jsonException ("[json.exception.type_error.302] type must be " ++ expected ++ ", but is " ++
    j.typeName)

/-- A double to an unsigned integer below `bound`: truncation when the result
fits, undefined otherwise. -/
def truncate (q : Rat) (bound : Nat) : Cpp Nat :=
  let t := q.num.tdiv q.den
  if 0 ≤ t ∧ t < bound then .ok t.toNat else .error (.undefined "float to integer conversion")

/-- Conversion to `std::uint32_t`; this one accepts booleans. -/
def toUInt32 : Json → Cpp UInt32
  | numberUnsigned n => .ok n.toUInt32
  | numberInteger n => .ok (UInt32.ofInt n)
  | numberFloat q => (truncate q (2 ^ 32)).map UInt32.ofNat
  | boolean b => .ok (if b then 1 else 0)
  | j => .error (wrongType "number" j)

/-- Conversion to `std::uint64_t`, nlohmann's own unsigned type; this one does
not accept booleans. -/
def toUInt64 : Json → Cpp UInt64
  | numberUnsigned n => .ok n
  | numberInteger n => .ok (UInt64.ofInt n)
  | numberFloat q => (truncate q (2 ^ 64)).map UInt64.ofNat
  | j => .error (wrongType "number" j)

/-- Conversion to `bool`. -/
def toBool : Json → Cpp Bool
  | boolean b => .ok b
  | j => .error (wrongType "boolean" j)

/-- Conversion to `std::string`. -/
def toBytes : Json → Cpp Bytes
  | string s => .ok s
  | j => .error (wrongType "string" j)

@[simp] theorem toUInt32_unsigned (n : UInt32) : toUInt32 (numberUnsigned n.toUInt64) = .ok n := by
  simp [toUInt32]

@[simp] theorem toUInt64_unsigned (n : UInt64) : toUInt64 (numberUnsigned n) = .ok n := rfl

@[simp] theorem toBool_boolean (b : Bool) : toBool (boolean b) = .ok b := rfl

@[simp] theorem toBytes_string (s : Bytes) : toBytes (string s) = .ok s := rfl

/-! ## Building -/

/-- The order of keys, which are `std::string`s. -/
def keyLess (a b : String) : Bool := bytesLess (bytes a) (bytes b)

theorem keyLess_irrefl (key : String) : keyLess key key = false := bytesLess_irrefl _

theorem keyLess_trans {a b c : String} (hab : keyLess a b = true) (hbc : keyLess b c = true) :
    keyLess a c = true := bytesLess_trans hab hbc

theorem keyLess_total {a b : String} (hne : a ≠ b) (h : keyLess a b = false) :
    keyLess b a = true :=
  (bytesLess_total h).resolve_left fun heq => hne (bytes_injective heq)

/-- Fields as `std::map` keeps them. -/
def Sorted (fields : List (String × Json)) : Prop :=
  fields.Pairwise fun f g => keyLess f.1 g.1 = true

/-- Insert or overwrite a field, keeping the fields sorted by key. -/
def insertField (key : String) (v : Json) : List (String × Json) → List (String × Json)
  | [] => [(key, v)]
  | f :: fs =>
    if key = f.1 then (key, v) :: fs
    else if keyLess key f.1 then (key, v) :: f :: fs
    else f :: insertField key v fs

/-- `json[key] = v`, where `json` is null or an object. -/
def assign (j : Json) (key : String) (v : Json) : Json :=
  match j with
  | null => object [(key, v)]
  | object fields => object (insertField key v fields)
  | j => j

/-- `nlohmann::json json; json[k₁] = v₁; json[k₂] = v₂; …` -/
def build (assignments : List (String × Json)) : Json :=
  assignments.foldl (fun j f => j.assign f.1 f.2) null

theorem find_insertField (key k : String) (v : Json) (fs : List (String × Json)) :
    find k (insertField key v fs) = if k = key then some v else find k fs := by
  induction fs with
  | nil => rfl
  | cons f fs ih =>
    unfold insertField
    split
    · next heq =>
      by_cases h : k = key
      · simp [find, h]
      · simp [find, h, ← heq]
    · next hne =>
      split
      · rfl
      · simp only [find, ih]
        by_cases h : k = f.1
        · simp [h, Ne.symm hne]
        · simp [h]

/-- Null or an object: what assignments can be made to. -/
def Assignable (j : Json) : Prop := j = null ∨ j.isObject = true

theorem assignable_null : Assignable null := .inl rfl

theorem Assignable.assign {j : Json} (h : j.Assignable) (key : String) (v : Json) :
    (j.assign key v).isObject = true := by
  rcases h with rfl | h
  · rfl
  · cases j <;> simp_all [isObject, Json.assign]

/-- Reading back an assigned field. -/
theorem index_assign_self {j : Json} (h : j.Assignable) (key : String) (v : Json) :
    (j.assign key v).index key = .ok v := by
  rcases h with rfl | h
  · simp [Json.assign, index, find]
  · cases j with
    | object fields => simp [Json.assign, index, find_insertField]
    | _ => simp [isObject] at h

/-- An assignment leaves the other fields of an object alone. -/
theorem index_assign_of_ne {j : Json} (h : j.isObject = true) {key k : String} (hne : k ≠ key)
    (v : Json) : (j.assign key v).index k = j.index k := by
  cases j with
  | object fields => simp [Json.assign, index, find_insertField, hne]
  | _ => simp [isObject] at h

theorem build_concat (fs : List (String × Json)) (f : String × Json) :
    build (fs ++ [f]) = (build fs).assign f.1 f.2 := by
  simp only [build, List.foldl_append, List.foldl_cons, List.foldl_nil]

theorem build_assignable (fs : List (String × Json)) : (build fs).Assignable := by
  induction fs using List.reverseRecOn with
  | nil => exact assignable_null
  | append_singleton fs f ih =>
    rw [build_concat]
    exact .inr (ih.assign f.1 f.2)

theorem build_isObject {fs : List (String × Json)} (h : fs ≠ []) : (build fs).isObject = true := by
  induction fs using List.reverseRecOn with
  | nil => exact absurd rfl h
  | append_singleton fs f _ =>
    rw [build_concat]
    exact (build_assignable fs).assign f.1 f.2

/-- Reading a field of a built object: the last assignment to it counts. -/
theorem index_build {fs : List (String × Json)} (h : fs ≠ []) (key : String) :
    (build fs).index key =
      match find key fs.reverse with
      | some v => .ok v
      | none => .error (.undefined "operator[]: missing key") := by
  induction fs using List.reverseRecOn with
  | nil => exact absurd rfl h
  | append_singleton fs f ih =>
    obtain ⟨k, v⟩ := f
    rw [build_concat, List.reverse_append, List.reverse_singleton, List.singleton_append, find]
    by_cases hk : key = k
    · subst hk
      simp [index_assign_self (build_assignable fs)]
    · rw [if_neg hk]
      by_cases hfs : fs = []
      · subst hfs
        simp [build, Json.assign, index, find, hk]
      · rw [index_assign_of_ne (build_isObject hfs) hk, ih hfs]

theorem contains_build {fs : List (String × Json)} (h : fs ≠ []) (key : String) :
    (build fs).contains key = (find key fs.reverse).isSome := by
  have hobj := build_isObject h
  have hidx := index_build h key
  cases hb : build fs with
  | object fields =>
    rw [hb] at hidx
    simp only [index, contains] at hidx ⊢
    cases hl : find key fields <;> cases hr : find key fs.reverse <;> simp_all
  | _ => rw [hb] at hobj; simp [isObject] at hobj

/-! ## Plain values -/

/-- The characters of a key are ASCII. -/
def asciiKey (key : String) : Bool := key.toList.all fun c => c.toNat < 128

/-- The values built by assignments from booleans, unsigned numbers and UTF-8
strings: every object is sorted by key, and the keys are ASCII. -/
inductive Plain : Json → Prop
  | boolean (b : Bool) : Plain (boolean b)
  | numberUnsigned (n : UInt64) : Plain (numberUnsigned n)
  | string {s : Bytes} (h : validUtf8 s = true) : Plain (string s)
  | object {fields : List (String × Json)} (hsorted : Sorted fields)
      (hkeys : ∀ f ∈ fields, asciiKey f.1 = true) (hplain : ∀ f ∈ fields, Plain f.2) :
      Plain (object fields)

theorem mem_insertField {key : String} {v : Json} {fs : List (String × Json)} {f : String × Json}
    (h : f ∈ insertField key v fs) : f = (key, v) ∨ f ∈ fs := by
  induction fs with
  | nil => exact .inl (List.mem_singleton.mp h)
  | cons g gs ih =>
    unfold insertField at h
    split at h
    · rcases List.mem_cons.mp h with h | h
      · exact .inl h
      · exact .inr (List.mem_cons_of_mem g h)
    · split at h
      · exact List.mem_cons.mp h
      · rcases List.mem_cons.mp h with rfl | h
        · exact .inr List.mem_cons_self
        · exact (ih h).imp_right (List.mem_cons_of_mem g)

theorem sorted_insertField (key : String) (v : Json) {fs : List (String × Json)}
    (h : Sorted fs) : Sorted (insertField key v fs) := by
  induction fs with
  | nil => exact List.pairwise_singleton _ _
  | cons f fs ih =>
    obtain ⟨hf, hfs⟩ := List.pairwise_cons.mp h
    unfold insertField
    split
    · next heq =>
      refine List.pairwise_cons.mpr ⟨fun g hg => ?_, hfs⟩
      rw [heq]
      exact hf g hg
    · next hne =>
      split
      · next hlt =>
        refine List.pairwise_cons.mpr ⟨fun g hg => ?_, h⟩
        rcases List.mem_cons.mp hg with rfl | hg
        · exact hlt
        · exact keyLess_trans hlt (hf g hg)
      · next hnlt =>
        have hgt : keyLess f.1 key = true := keyLess_total hne (Bool.not_eq_true _ ▸ hnlt)
        refine List.pairwise_cons.mpr ⟨fun g hg => ?_, ih hfs⟩
        rcases mem_insertField hg with rfl | hg
        · exact hgt
        · exact hf g hg

theorem plain_build_of_mem {fs : List (String × Json)} (h : fs ≠ [])
    (hkeys : ∀ f ∈ fs, asciiKey f.1 = true) (hplain : ∀ f ∈ fs, Plain f.2) : Plain (build fs) := by
  induction fs using List.reverseRecOn with
  | nil => exact absurd rfl h
  | append_singleton fs f ih =>
    rw [build_concat]
    have hkey : asciiKey f.1 = true := hkeys f (by simp)
    have hf : Plain f.2 := hplain f (by simp)
    by_cases hfs : fs = []
    · subst hfs
      refine .object (List.pairwise_singleton _ _) (fun g hg => ?_) fun g hg => ?_
      · rw [List.mem_singleton.mp hg]
        exact hkey
      · rw [List.mem_singleton.mp hg]
        exact hf
    · have hb := ih hfs (fun g hg => hkeys g (List.mem_append_left _ hg))
        fun g hg => hplain g (List.mem_append_left _ hg)
      have hobj := build_isObject hfs
      cases hb' : build fs with
      | object fields =>
        rw [hb'] at hb
        obtain _ | _ | _ | ⟨hsorted, hfieldKeys, hfields⟩ := hb
        refine .object (sorted_insertField _ _ hsorted) (fun g hg => ?_) fun g hg => ?_
        · rcases mem_insertField hg with rfl | hg
          · exact hkey
          · exact hfieldKeys g hg
        · rcases mem_insertField hg with rfl | hg
          · exact hf
          · exact hfields g hg
      | _ => rw [hb'] at hobj; simp [isObject] at hobj

/-- The same for a list that is spelled out. -/
theorem plain_build {fs : List (String × Json)} (h : fs ≠ [])
    (hkeys : (fs.map (·.1)).all asciiKey = true) (hplain : (fs.map (·.2)).Forall Plain) :
    Plain (build fs) := by
  apply plain_build_of_mem h
  · intro f hf
    exact List.all_eq_true.mp hkeys _ (List.mem_map_of_mem hf)
  · intro f hf
    exact List.forall_iff_forall_mem.mp hplain _ (List.mem_map_of_mem hf)

/-! ## Strings that can be written -/

mutual

/-- Every string of the value is UTF-8. -/
def utf8 : Json → Bool
  | string s => validUtf8 s
  | array elements => utf8Elements elements
  | object fields => utf8Fields fields
  | _ => true

/-- `utf8` on the elements of an array. -/
def utf8Elements : List Json → Bool
  | [] => true
  | j :: js => j.utf8 && utf8Elements js

/-- `utf8` on the fields of an object. -/
def utf8Fields : List (String × Json) → Bool
  | [] => true
  | f :: fs => f.2.utf8 && utf8Fields fs

end

theorem utf8Fields_iff (fs : List (String × Json)) :
    utf8Fields fs = true ↔ ∀ f ∈ fs, f.2.utf8 = true := by
  induction fs with
  | nil => simp [utf8Fields]
  | cons f fs ih => simp [utf8Fields, ih]

theorem Plain.utf8 {j : Json} (h : j.Plain) : j.utf8 = true := by
  induction h with
  | boolean | numberUnsigned => rfl
  | string h => exact h
  | object _ _ _ ih => exact (utf8Fields_iff _).mpr ih

/-- What can be written has fields that can be written. -/
theorem utf8_of_index {j : Json} (h : j.utf8 = true) (key : String) (v : Json)
    (hv : j.index key = .ok v) : v.utf8 = true := by
  cases j with
  | object fields =>
    rw [Json.utf8, utf8Fields_iff] at h
    simp only [index] at hv
    split at hv
    · next w hw =>
      rw [← Except.ok.inj hv]
      clear hv
      induction fields with
      | nil => cases hw
      | cons f fs ih =>
        unfold find at hw
        split at hw
        · rw [← Option.some.inj hw]
          exact h f List.mem_cons_self
        · exact ih (fun g hg => h g (List.mem_cons_of_mem f hg)) hw
    · cases hv
  | _ => simp [index] at hv

end Json

end Pollbook
