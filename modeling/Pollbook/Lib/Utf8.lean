import Pollbook.Lib.Text

/-!
# UTF-8

The texts the automaton of `validUtf8` accepts are the bytes of strings: it
passes over the encoding of a character (`validUtf8_encodeChar`), and what it
accepts begins with one (`exists_encodeChar_append`).
-/

namespace Pollbook

variable {b lo hi : UInt8} {s : Bytes} {pending : Nat}

/-- The automaton at the beginning of a character. -/
theorem validUtf8_cons (b : UInt8) (s : Bytes) : validUtf8 (b :: s) =
    if b.toNat < 0x80 then validUtf8 s
    else if b.toNat < 0xC2 then false
    else if b.toNat < 0xE0 then validUtf8From 1 0x80 0xBF s
    else if b.toNat = 0xE0 then validUtf8From 2 0xA0 0xBF s
    else if b.toNat = 0xED then validUtf8From 2 0x80 0x9F s
    else if b.toNat < 0xF0 then validUtf8From 2 0x80 0xBF s
    else if b.toNat = 0xF0 then validUtf8From 3 0x90 0xBF s
    else if b.toNat < 0xF4 then validUtf8From 3 0x80 0xBF s
    else if b.toNat = 0xF4 then validUtf8From 3 0x80 0x8F s
    else false := by
  simp only [validUtf8, validUtf8From, UInt8.lt_iff_toNat_lt, ← UInt8.toNat_inj]
  rfl

theorem validUtf8From_zero (lo hi : UInt8) (s : Bytes) : validUtf8From 0 lo hi s = validUtf8 s := by
  cases s <;> rfl

theorem validUtf8From_continue {n : Nat} (h : lo.toNat ≤ n) (h' : n ≤ hi.toNat) :
    validUtf8From (pending + 1) lo hi (UInt8.ofNat n :: s) =
      validUtf8From pending 0x80 0xBF s := by
  have hn : (UInt8.ofNat n).toNat = n :=
    UInt8.toNat_ofNat_of_lt' (Nat.lt_of_le_of_lt h' hi.toNat_lt)
  have hlo : lo ≤ UInt8.ofNat n := UInt8.le_iff_toNat_le.mpr (hn.symm ▸ h)
  have hhi : UInt8.ofNat n ≤ hi := UInt8.le_iff_toNat_le.mpr (hn.symm ▸ h')
  rw [validUtf8From, decide_eq_true hlo, decide_eq_true hhi]
  rfl

theorem validUtf8From_continued (h : validUtf8From (pending + 1) lo hi s = true) :
    ∃ n t, s = UInt8.ofNat n :: t ∧ lo.toNat ≤ n ∧ n ≤ hi.toNat ∧
      validUtf8From pending 0x80 0xBF t = true := by
  cases s with
  | nil => cases h
  | cons b t =>
    simp only [validUtf8From, Bool.and_eq_true, decide_eq_true_eq, UInt8.le_iff_toNat_le] at h
    exact ⟨b.toNat, t, by rw [UInt8.ofNat_toNat], h.1.1, h.1.2, h.2⟩

/-- A character is passed over. -/
theorem validUtf8_encodeChar (c : Char) (s : Bytes) :
    validUtf8 (String.utf8EncodeChar c ++ s) = validUtf8 s := by
  have hscalar : c.val.toNat < 0xD800 ∨ 0xDFFF < c.val.toNat ∧ c.val.toNat < 0x110000 := c.valid
  have hlead : ∀ m s, m < 256 → validUtf8 (UInt8.ofNat m :: s) = _ := fun m s hm => by
    rw [validUtf8_cons, UInt8.toNat_ofNat_of_lt' hm]
  have h80 : UInt8.toNat 0x80 = 128 := rfl
  have hBF : UInt8.toNat 0xBF = 191 := rfl
  unfold String.utf8EncodeChar
  dsimp only
  generalize c.val.toNat = n at hscalar
  split
  · rw [List.singleton_append, hlead _ _ (by omega), if_pos (by omega)]
  split
  · simp only [List.cons_append, List.nil_append]
    rw [hlead _ _ (by omega), if_neg (by omega), if_neg (by omega), if_pos (by omega),
      validUtf8From_continue (by omega) (by omega), validUtf8From_zero]
  split
  · have hA0 : UInt8.toNat 0xA0 = 160 := rfl
    have h9F : UInt8.toNat 0x9F = 159 := rfl
    simp only [List.cons_append, List.nil_append]
    rw [hlead _ _ (by omega), if_neg (by omega), if_neg (by omega), if_neg (by omega)]
    split
    · rw [validUtf8From_continue (by omega) (by omega),
        validUtf8From_continue (by omega) (by omega), validUtf8From_zero]
    split
    · rw [validUtf8From_continue (by omega) (by omega),
        validUtf8From_continue (by omega) (by omega), validUtf8From_zero]
    rw [if_pos (by omega), validUtf8From_continue (by omega) (by omega),
      validUtf8From_continue (by omega) (by omega), validUtf8From_zero]
  · have h90 : UInt8.toNat 0x90 = 144 := rfl
    have h8F : UInt8.toNat 0x8F = 143 := rfl
    simp only [List.cons_append, List.nil_append]
    rw [hlead _ _ (by omega), if_neg (by omega), if_neg (by omega), if_neg (by omega),
      if_neg (by omega), if_neg (by omega), if_neg (by omega)]
    split
    · rw [validUtf8From_continue (by omega) (by omega),
        validUtf8From_continue (by omega) (by omega),
        validUtf8From_continue (by omega) (by omega), validUtf8From_zero]
    split
    · rw [validUtf8From_continue (by omega) (by omega),
        validUtf8From_continue (by omega) (by omega),
        validUtf8From_continue (by omega) (by omega), validUtf8From_zero]
    rw [if_pos (by omega), validUtf8From_continue (by omega) (by omega),
      validUtf8From_continue (by omega) (by omega),
      validUtf8From_continue (by omega) (by omega), validUtf8From_zero]

/-- The bytes of a string are UTF-8. -/
theorem validUtf8_bytes (s : String) : validUtf8 (bytes s) = true := by
  rw [bytes_eq_flatMap]
  induction s.toList with
  | nil => rfl
  | cons c cs ih => rw [List.flatMap_cons, validUtf8_encodeChar, ih]

/-- Every scalar value is a character's. -/
theorem exists_char {n : Nat} (h : n < 0xD800 ∨ 0xDFFF < n ∧ n < 0x110000) :
    ∃ c : Char, c.val.toNat = n :=
  ⟨⟨UInt32.ofNatLT n (Char.isValidUInt32 n h), Char.isValidChar_of_isValidCharNat n h⟩,
    UInt32.toNat_ofNatLT⟩

theorem exists_encodeChar₂ {a x : Nat} (ha : 0xC2 ≤ a) (ha' : a < 0xE0) (hx : 0x80 ≤ x)
    (hx' : x ≤ 0xBF) : ∃ c, String.utf8EncodeChar c = [UInt8.ofNat a, UInt8.ofNat x] := by
  obtain ⟨c, hc⟩ := exists_char (n := (a - 0xC0) * 64 + (x - 0x80)) (by omega)
  refine ⟨c, ?_⟩
  rw [String.utf8EncodeChar, hc, if_neg (by omega), if_pos (by omega)]
  rw [show ((a - 0xC0) * 64 + (x - 0x80)) / 64 % 0x20 + 0xc0 = a by omega,
    show ((a - 0xC0) * 64 + (x - 0x80)) % 0x40 + 0x80 = x by omega]

theorem exists_encodeChar₃ {a x y : Nat} (ha : 0xE0 ≤ a) (ha' : a < 0xF0) (hx : 0x80 ≤ x)
    (hx' : x ≤ 0xBF) (hlow : a = 0xE0 → 0xA0 ≤ x) (hhigh : a = 0xED → x ≤ 0x9F) (hy : 0x80 ≤ y)
    (hy' : y ≤ 0xBF) :
    ∃ c, String.utf8EncodeChar c = [UInt8.ofNat a, UInt8.ofNat x, UInt8.ofNat y] := by
  obtain ⟨c, hc⟩ := exists_char (n := (a - 0xE0) * 4096 + (x - 0x80) * 64 + (y - 0x80)) (by omega)
  refine ⟨c, ?_⟩
  rw [String.utf8EncodeChar, hc, if_neg (by omega), if_neg (by omega), if_pos (by omega)]
  rw [show ((a - 0xE0) * 4096 + (x - 0x80) * 64 + (y - 0x80)) / 4096 % 0x10 + 0xe0 = a by omega,
    show ((a - 0xE0) * 4096 + (x - 0x80) * 64 + (y - 0x80)) / 64 % 0x40 + 0x80 = x by omega,
    show ((a - 0xE0) * 4096 + (x - 0x80) * 64 + (y - 0x80)) % 0x40 + 0x80 = y by omega]

theorem exists_encodeChar₄ {a x y z : Nat} (ha : 0xF0 ≤ a) (ha' : a ≤ 0xF4) (hx : 0x80 ≤ x)
    (hx' : x ≤ 0xBF) (hlow : a = 0xF0 → 0x90 ≤ x) (hhigh : a = 0xF4 → x ≤ 0x8F) (hy : 0x80 ≤ y)
    (hy' : y ≤ 0xBF) (hz : 0x80 ≤ z) (hz' : z ≤ 0xBF) :
    ∃ c, String.utf8EncodeChar c =
      [UInt8.ofNat a, UInt8.ofNat x, UInt8.ofNat y, UInt8.ofNat z] := by
  let n := (a - 0xF0) * 262144 + (x - 0x80) * 4096 + (y - 0x80) * 64 + (z - 0x80)
  obtain ⟨c, hc⟩ := exists_char (n := n) (by omega)
  refine ⟨c, ?_⟩
  rw [String.utf8EncodeChar, hc, if_neg (by omega), if_neg (by omega), if_neg (by omega),
    show n / 262144 % 0x08 + 0xf0 = a by omega, show n / 4096 % 0x40 + 0x80 = x by omega,
    show n / 64 % 0x40 + 0x80 = y by omega, show n % 0x40 + 0x80 = z by omega]

/-- UTF-8 begins with a character. -/
theorem exists_encodeChar_append {b : UInt8} {s : Bytes} (h : validUtf8 (b :: s) = true) :
    ∃ c t, b :: s = String.utf8EncodeChar c ++ t ∧ validUtf8 t = true := by
  have h80 : UInt8.toNat 0x80 = 128 := rfl
  have hBF : UInt8.toNat 0xBF = 191 := rfl
  have hb : UInt8.ofNat b.toNat = b := UInt8.ofNat_toNat
  have three : ∀ lo hi, validUtf8From 2 lo hi s = true → 0xE0 ≤ b.toNat → b.toNat < 0xF0 →
      0x80 ≤ lo.toNat → hi.toNat ≤ 0xBF → (b.toNat = 0xE0 → 0xA0 ≤ lo.toNat) →
      (b.toNat = 0xED → hi.toNat ≤ 0x9F) →
      ∃ c t, b :: s = String.utf8EncodeChar c ++ t ∧ validUtf8 t = true := by
    intro lo hi h ha ha' hlo hhi hlow hhigh
    obtain ⟨x, t, rfl, hx, hx', h⟩ := validUtf8From_continued h
    obtain ⟨y, t, rfl, hy, hy', h⟩ := validUtf8From_continued h
    obtain ⟨c, hc⟩ := @exists_encodeChar₃ b.toNat x y ha ha' (by omega) (by omega)
      (fun hb => by have := hlow hb; omega) (fun hb => by have := hhigh hb; omega)
      (by omega) (by omega)
    rw [validUtf8From_zero] at h
    exact ⟨c, t, by rw [hc, hb]; rfl, h⟩
  have four : ∀ lo hi, validUtf8From 3 lo hi s = true → 0xF0 ≤ b.toNat → b.toNat ≤ 0xF4 →
      0x80 ≤ lo.toNat → hi.toNat ≤ 0xBF → (b.toNat = 0xF0 → 0x90 ≤ lo.toNat) →
      (b.toNat = 0xF4 → hi.toNat ≤ 0x8F) →
      ∃ c t, b :: s = String.utf8EncodeChar c ++ t ∧ validUtf8 t = true := by
    intro lo hi h ha ha' hlo hhi hlow hhigh
    obtain ⟨x, t, rfl, hx, hx', h⟩ := validUtf8From_continued h
    obtain ⟨y, t, rfl, hy, hy', h⟩ := validUtf8From_continued h
    obtain ⟨z, t, rfl, hz, hz', h⟩ := validUtf8From_continued h
    obtain ⟨c, hc⟩ := @exists_encodeChar₄ b.toNat x y z ha ha' (by omega) (by omega)
      (fun hb => by have := hlow hb; omega) (fun hb => by have := hhigh hb; omega)
      (by omega) (by omega) (by omega) (by omega)
    rw [validUtf8From_zero] at h
    exact ⟨c, t, by rw [hc, hb]; rfl, h⟩
  rw [validUtf8_cons] at h
  split at h
  · obtain ⟨c, hc⟩ := exists_char (n := b.toNat) (by omega)
    refine ⟨c, s, ?_, h⟩
    rw [String.utf8EncodeChar, hc, if_pos (by omega), hb]
    rfl
  split at h
  · cases h
  split at h
  · obtain ⟨x, t, rfl, hx, hx', h⟩ := validUtf8From_continued h
    obtain ⟨c, hc⟩ := @exists_encodeChar₂ b.toNat x (by omega) (by omega) (by omega) (by omega)
    rw [validUtf8From_zero] at h
    exact ⟨c, t, by rw [hc, hb]; rfl, h⟩
  split at h
  · exact three _ _ h (by omega) (by omega) (by decide) (by decide) (fun _ => by decide)
      (by omega)
  split at h
  · exact three _ _ h (by omega) (by omega) (by decide) (by decide) (by omega)
      (fun _ => by decide)
  split at h
  · exact three _ _ h (by omega) (by omega) (by decide) (by decide) (by omega) (by omega)
  split at h
  · exact four _ _ h (by omega) (by omega) (by decide) (by decide) (fun _ => by decide)
      (by omega)
  split at h
  · exact four _ _ h (by omega) (by omega) (by decide) (by decide) (by omega) (by omega)
  split at h
  · exact four _ _ h (by omega) (by omega) (by decide) (by decide) (by omega)
      (fun _ => by decide)
  · cases h

/-- UTF-8 is the bytes of a string. -/
theorem exists_bytes_of_validUtf8 {s : Bytes} (h : validUtf8 s = true) : ∃ t, bytes t = s := by
  have hchars : ∃ cs : List Char, s = cs.flatMap String.utf8EncodeChar := by
    induction hn : s.length using Nat.strong_induction_on generalizing s with
    | _ n ih =>
      cases s with
      | nil => exact ⟨[], rfl⟩
      | cons b s =>
        obtain ⟨c, t, heq, ht⟩ := exists_encodeChar_append h
        have hlength := congrArg List.length heq
        rw [List.length_append, hn] at hlength
        have hpos : 0 < (String.utf8EncodeChar c).length :=
          List.length_pos_iff.mpr String.utf8EncodeChar_ne_nil
        obtain ⟨cs, rfl⟩ := ih t.length (by omega) ht rfl
        exact ⟨c :: cs, heq⟩
  obtain ⟨cs, rfl⟩ := hchars
  exact ⟨String.ofList cs, by rw [bytes_eq_flatMap, String.toList_ofList]⟩

/-- The string whose UTF-8 this is. -/
def fromUtf8 (s : Bytes) : Option String := String.fromUTF8? ⟨s.toArray⟩

theorem fromUtf8_bytes (s : String) : fromUtf8 (bytes s) = some s := by
  have harray : (⟨(bytes s).toArray⟩ : ByteArray) = s.toUTF8 := by
    rw [bytes, Array.toArray_toList]
  unfold fromUtf8 String.fromUTF8?
  rw [harray]
  exact dif_pos s.isValidUTF8

end Pollbook
