import Pollbook.Lib.Text

/-!
# Base64

The encoding of byte strings in 64 printable characters, with padding, and the
two decoders that read it: the `BIO_f_base64` filter of OpenSSL, and Python's
`binascii.a2b_base64`. They differ on texts that are not base64, which neither
refuses altogether.
-/

namespace Pollbook

namespace Base64

/-- `'='` -/
def pad : UInt8 := 61

/-- The character of a six-bit number. -/
def symbol (n : Nat) : UInt8 :=
  if n < 26 then UInt8.ofNat (65 + n)
  else if n < 52 then UInt8.ofNat (71 + n)
  else if n < 62 then UInt8.ofNat (n - 4)
  else if n = 62 then 43
  else 47

/-- The six-bit number of a character. -/
def symbolValue (b : UInt8) : Option Nat :=
  if 65 ≤ b ∧ b ≤ 90 then some (b.toNat - 65)
  else if 97 ≤ b ∧ b ≤ 122 then some (b.toNat - 71)
  else if 48 ≤ b ∧ b ≤ 57 then some (b.toNat + 4)
  else if b = 43 then some 62
  else if b = 47 then some 63
  else none

/-- Three bytes at a time become four characters. -/
def encode : Bytes → Bytes
  | [] => []
  | [a] => [symbol (a.toNat / 4), symbol (a.toNat % 4 * 16), pad, pad]
  | [a, b] =>
    [symbol (a.toNat / 4), symbol (a.toNat % 4 * 16 + b.toNat / 16), symbol (b.toNat % 16 * 4), pad]
  | a :: b :: c :: s =>
    symbol (a.toNat / 4) :: symbol (a.toNat % 4 * 16 + b.toNat / 16) ::
      symbol (b.toNat % 16 * 4 + c.toNat / 64) :: symbol (c.toNat % 64) :: encode s

/-! ## OpenSSL's decoder -/

/-- Blanks that `EVP_DecodeBlock` skips in front: a space or a tab. -/
def leads (b : UInt8) : Bool := b = 32 || b = 9

/-- What it strips at the end: also the ends of lines, and `'-'`. -/
def trails (b : UInt8) : Bool := leads b || b = 10 || b = 13 || b = 45

/-- The end is stripped as long as there are more than three characters; the text
is given from its end. -/
def stripTrailing : Bytes → Bytes
  | [] => []
  | b :: s => if 2 < s.length && trails b then stripTrailing s else b :: s

/-- The number of a character of a block, where `'='` is 0. -/
def blockValue (b : UInt8) : Option Nat := if b = pad then some 0 else symbolValue b

/-- Four characters become three bytes. -/
def quads : Bytes → Option Bytes
  | [] => some []
  | w :: x :: y :: z :: s => do
    let i ← blockValue w
    let j ← blockValue x
    let k ← blockValue y
    let l ← blockValue z
    let rest ← quads s
    pure (UInt8.ofNat (i * 4 + j / 16) :: UInt8.ofNat (j % 16 * 16 + k / 4) ::
      UInt8.ofNat (k % 4 * 64 + l) :: rest)
  | _ => none

/-- `EVP_DecodeBlock` -/
def decodeBlock (block : Bytes) : Option Bytes :=
  quads (stripTrailing (block.dropWhile leads).reverse).reverse

/-- The padding at the end of a block, whose bytes `b64_read` leaves out. -/
def padding (block : Bytes) : Nat :=
  match block.reverse with
  | a :: b :: _ => if a = pad then if b = pad then 2 else 1 else 0
  | _ => 0

/-- `B64_BLOCK_SIZE` -/
def blockSize : Nat := 1024

/-- The loop of `b64_read` without newlines: a block without the characters that
make no four is decoded, and the first one that gives nothing ends it. -/
def readBlocks : Nat → Bytes → Bytes
  | 0, _ => []
  | fuel + 1, s =>
    let chars := s.take blockSize
    let block := chars.take (chars.length / 4 * 4)
    match decodeBlock block with
    | none => []
    | some [] => []
    | some (b :: out) =>
      (b :: out).take ((b :: out).length - padding block) ++ readBlocks fuel (s.drop blockSize)

/-- `Base64::decode`. A text that is not base64 gives the bytes in front of what
is not. -/
def decode (s : Bytes) : Bytes := readBlocks s.length s

/-! ## Python's decoder -/

/-- `binascii.a2b_base64`, after a number of characters of a group of four: what
is left of the last one, and the `'='` since then. Other characters are skipped. -/
def a2b (quadPos leftchar pads : Nat) : Bytes → Option Bytes
  | [] => if quadPos = 0 then some [] else none
  | b :: s =>
    if b = pad then
      if quadPos < 2 then a2b quadPos leftchar pads s
      else if quadPos + pads < 3 then a2b quadPos leftchar (pads + 1) s
      else some []
    else
      match symbolValue b with
      | none => a2b quadPos leftchar pads s
      | some n =>
        match quadPos with
        | 0 => a2b 1 n 0 s
        | 1 => (a2b 2 (n % 16) 0 s).map (UInt8.ofNat (leftchar * 4 + n / 16) :: ·)
        | 2 => (a2b 3 (n % 4) 0 s).map (UInt8.ofNat (leftchar * 16 + n / 4) :: ·)
        | _ => (a2b 0 0 0 s).map (UInt8.ofNat (leftchar * 64 + n) :: ·)

/-! ## The characters of an encoding -/

theorem symbolValue_symbol {n : Nat} (h : n < 64) : symbolValue (symbol n) = some n := by
  have hall : ∀ n < 64, symbolValue (symbol n) = some n := by decide
  exact hall n h

theorem symbol_ne_pad {n : Nat} (h : n < 64) : symbol n ≠ pad := by
  have hall : ∀ n < 64, symbol n ≠ pad := by decide
  exact hall n h

theorem blockValue_symbol {n : Nat} (h : n < 64) : blockValue (symbol n) = some n := by
  rw [blockValue, if_neg (symbol_ne_pad h), symbolValue_symbol h]

/-- A character of an encoding. -/
theorem mem_encode {s : Bytes} {x : UInt8} (h : x ∈ encode s) :
    x = pad ∨ ∃ n < 64, x = symbol n := by
  induction s using encode.induct with
  | case1 => cases h
  | case2 a =>
    have ha := a.toNat_lt
    simp only [encode, List.mem_cons, List.not_mem_nil, or_false] at h
    rcases h with rfl | rfl | rfl | rfl
    · exact .inr ⟨_, by omega, rfl⟩
    · exact .inr ⟨_, by omega, rfl⟩
    · exact .inl rfl
    · exact .inl rfl
  | case3 a b =>
    have ha := a.toNat_lt
    have hb := b.toNat_lt
    simp only [encode, List.mem_cons, List.not_mem_nil, or_false] at h
    rcases h with rfl | rfl | rfl | rfl
    · exact .inr ⟨_, by omega, rfl⟩
    · exact .inr ⟨_, by omega, rfl⟩
    · exact .inr ⟨_, by omega, rfl⟩
    · exact .inl rfl
  | case4 a b c s ih =>
    have ha := a.toNat_lt
    have hb := b.toNat_lt
    have hc := c.toNat_lt
    simp only [encode, List.mem_cons] at h
    rcases h with rfl | rfl | rfl | rfl | h
    · exact .inr ⟨_, by omega, rfl⟩
    · exact .inr ⟨_, by omega, rfl⟩
    · exact .inr ⟨_, by omega, rfl⟩
    · exact .inr ⟨_, by omega, rfl⟩
    · exact ih h

/-- The last character of the encoding's alphabet is `z`. -/
theorem encode_le (s : Bytes) : ∀ x ∈ encode s, x.toNat ≤ 122 := by
  have hall : ∀ n < 64, (symbol n).toNat ≤ 122 := by decide
  intro x hx
  obtain rfl | ⟨n, hn, rfl⟩ := mem_encode hx
  · decide
  · exact hall n hn

/-- The encoding is ASCII. -/
theorem encode_ascii (s : Bytes) : ∀ x ∈ encode s, x.toNat < 128 := fun x hx =>
  Nat.lt_of_le_of_lt (encode_le s x hx) (by decide)

/-- None of them is stripped. -/
theorem not_trails_encode {s : Bytes} {x : UInt8} (h : x ∈ encode s) : trails x = false := by
  have hall : ∀ n < 64, trails (symbol n) = false := by decide
  obtain rfl | ⟨n, hn, rfl⟩ := mem_encode h
  · decide
  · exact hall n hn

/-! ## The bytes of four characters -/

theorem first_byte {a n : Nat} (hn : n < 16) : a / 4 * 4 + (a % 4 * 16 + n) / 16 = a := by omega

theorem second_byte {a b n : Nat} (hb : b < 256) (hn : n < 4) :
    (a % 4 * 16 + b / 16) % 16 * 16 + (b % 16 * 4 + n) / 4 = b := by
  omega

theorem third_byte {b c : Nat} (hc : c < 256) :
    (b % 16 * 4 + c / 64) % 4 * 64 + c % 64 = c := by
  omega

/-! ## OpenSSL's decoder undoes encoding -/

theorem length_encode (s : Bytes) : (encode s).length = (s.length + 2) / 3 * 4 := by
  induction s using encode.induct with
  | case1 => rfl
  | case2 a => simp only [encode, List.length_cons, List.length_nil]
  | case3 a b => simp only [encode, List.length_cons, List.length_nil]
  | case4 a b c s ih =>
    simp only [encode, List.length_cons, ih]
    omega

/-- The encoding of whole groups of three stands in front. -/
theorem encode_append {s : Bytes} (h : s.length % 3 = 0) (t : Bytes) :
    encode (s ++ t) = encode s ++ encode t := by
  induction s using encode.induct with
  | case1 => rfl
  | case2 => cases h
  | case3 => cases h
  | case4 a b c s ih =>
    have hs : s.length % 3 = 0 := by
      simp only [List.length_cons] at h
      omega
    simp only [encode, List.cons_append, ih hs]

/-- The bytes of an encoding, with zeros for its padding. -/
theorem quads_encode (s : Bytes) :
    quads (encode s) = some (s ++ List.replicate ((3 - s.length % 3) % 3) 0) := by
  induction s using encode.induct with
  | case1 => rfl
  | case2 a =>
    have ha := a.toNat_lt
    have hpad : blockValue pad = some 0 := rfl
    simp only [encode, quads, blockValue_symbol (show a.toNat / 4 < 64 by omega),
      blockValue_symbol (show a.toNat % 4 * 16 < 64 by omega), hpad, Option.bind_eq_bind,
      Option.bind_some, Option.pure_def]
    have hfirst : a.toNat / 4 * 4 + a.toNat % 4 * 16 / 16 = a.toNat :=
      first_byte (by decide : 0 < 16)
    have hsecond : a.toNat % 4 * 16 % 16 * 16 + 0 / 4 = 0 := by omega
    rw [hfirst, hsecond, UInt8.ofNat_toNat]
    rfl
  | case3 a b =>
    have ha := a.toNat_lt
    have hb := b.toNat_lt
    have hpad : blockValue pad = some 0 := rfl
    simp only [encode, quads, blockValue_symbol (show a.toNat / 4 < 64 by omega),
      blockValue_symbol (show a.toNat % 4 * 16 + b.toNat / 16 < 64 by omega),
      blockValue_symbol (show b.toNat % 16 * 4 < 64 by omega), hpad, Option.bind_eq_bind,
      Option.bind_some, Option.pure_def]
    have hfirst : a.toNat / 4 * 4 + (a.toNat % 4 * 16 + b.toNat / 16) / 16 = a.toNat :=
      first_byte (by omega)
    have hsecond : (a.toNat % 4 * 16 + b.toNat / 16) % 16 * 16 + b.toNat % 16 * 4 / 4 =
        b.toNat := second_byte hb (by decide : 0 < 4)
    have hthird : b.toNat % 16 * 4 % 4 * 64 + 0 = 0 := by omega
    rw [hfirst, hsecond, hthird, UInt8.ofNat_toNat, UInt8.ofNat_toNat]
    rfl
  | case4 a b c s ih =>
    have ha := a.toNat_lt
    have hb := b.toNat_lt
    have hc := c.toNat_lt
    simp only [encode, quads, ih, blockValue_symbol (show a.toNat / 4 < 64 by omega),
      blockValue_symbol (show a.toNat % 4 * 16 + b.toNat / 16 < 64 by omega),
      blockValue_symbol (show b.toNat % 16 * 4 + c.toNat / 64 < 64 by omega),
      blockValue_symbol (show c.toNat % 64 < 64 by omega), Option.bind_eq_bind, Option.bind_some,
      Option.pure_def]
    have hfirst : a.toNat / 4 * 4 + (a.toNat % 4 * 16 + b.toNat / 16) / 16 = a.toNat :=
      first_byte (by omega)
    have hsecond : (a.toNat % 4 * 16 + b.toNat / 16) % 16 * 16 +
        (b.toNat % 16 * 4 + c.toNat / 64) / 4 = b.toNat := second_byte hb (by omega)
    have hthird : (b.toNat % 16 * 4 + c.toNat / 64) % 4 * 64 + c.toNat % 64 = c.toNat :=
      third_byte hc
    have hlength : (a :: b :: c :: s).length % 3 = s.length % 3 := by
      simp only [List.length_cons]
      omega
    rw [hfirst, hsecond, hthird, hlength, UInt8.ofNat_toNat, UInt8.ofNat_toNat, UInt8.ofNat_toNat]
    rfl

theorem stripTrailing_eq_self {s : Bytes} (h : ∀ x ∈ s, trails x = false) :
    stripTrailing s = s := by
  cases s with
  | nil => rfl
  | cons b s =>
    rw [stripTrailing, h b List.mem_cons_self, Bool.and_false, if_neg Bool.false_ne_true]

theorem decodeBlock_encode (s : Bytes) :
    decodeBlock (encode s) = some (s ++ List.replicate ((3 - s.length % 3) % 3) 0) := by
  have hleads : (encode s).dropWhile leads = encode s := by
    cases hs : encode s with
    | nil => rfl
    | cons x rest =>
      have htrails : trails x = false := not_trails_encode (hs ▸ List.mem_cons_self)
      have hx : leads x = false := by
        cases hx : leads x with
        | false => rfl
        | true => rw [trails, hx] at htrails; cases htrails
      exact List.dropWhile_cons_of_neg (by rw [hx]; exact Bool.false_ne_true)
  have hstrip : stripTrailing (encode s).reverse = (encode s).reverse :=
    stripTrailing_eq_self fun x hx => not_trails_encode (List.mem_reverse.mp hx)
  rw [decodeBlock, hleads, hstrip, List.reverse_reverse, quads_encode]

/-- The padding is that of the last group. -/
theorem padding_append (s : Bytes) {t : Bytes} (h : 2 ≤ t.length) :
    padding (s ++ t) = padding t := by
  unfold padding
  rw [List.reverse_append]
  rw [← List.length_reverse] at h
  cases ht : t.reverse with
  | nil =>
    rw [ht] at h
    cases h
  | cons a rest =>
    cases rest with
    | nil =>
      rw [ht] at h
      exact absurd h (Nat.not_succ_le_self 1)
    | cons b rest => rfl

theorem padding_encode (s : Bytes) : padding (encode s) = (3 - s.length % 3) % 3 := by
  induction s using encode.induct with
  | case1 => rfl
  | case2 a => rfl
  | case3 a b =>
    have hb := b.toNat_lt
    simp only [padding, encode, List.reverse_cons, List.reverse_nil, List.nil_append,
      List.cons_append, if_neg (symbol_ne_pad (show b.toNat % 16 * 4 < 64 by omega))]
    rfl
  | case4 a b c s ih =>
    have hc := c.toNat_lt
    have hlength : (a :: b :: c :: s).length % 3 = s.length % 3 := by
      simp only [List.length_cons]
      omega
    rw [hlength, ← ih]
    cases s with
    | nil =>
      simp only [padding, encode, List.reverse_cons, List.reverse_nil, List.nil_append,
        List.cons_append, if_neg (symbol_ne_pad (show c.toNat % 64 < 64 by omega))]
    | cons d s =>
      have htwo : 2 ≤ (encode (d :: s)).length := by
        rw [length_encode, List.length_cons]
        omega
      exact padding_append [_, _, _, _] htwo

/-- A block holds the encoding of 768 bytes. -/
theorem take_encode (s : Bytes) : (encode s).take blockSize = encode (s.take 768) := by
  by_cases hs : s.length ≤ 768
  · rw [List.take_of_length_le hs, List.take_of_length_le]
    rw [length_encode, blockSize]
    omega
  · have hlength : (s.take 768).length = 768 := by
      rw [List.length_take]
      omega
    conv_lhs => rw [← List.take_append_drop 768 s, encode_append (by rw [hlength])]
    refine List.take_left' ?_
    rw [length_encode, hlength, blockSize]

@[inherit_doc take_encode]
theorem drop_encode (s : Bytes) : (encode s).drop blockSize = encode (s.drop 768) := by
  by_cases hs : s.length ≤ 768
  · rw [List.drop_of_length_le hs, List.drop_of_length_le]
    · rfl
    · rw [length_encode, blockSize]
      omega
  · have hlength : (s.take 768).length = 768 := by
      rw [List.length_take]
      omega
    conv_lhs => rw [← List.take_append_drop 768 s, encode_append (by rw [hlength])]
    refine List.drop_left' ?_
    rw [length_encode, hlength, blockSize]

theorem readBlocks_encode {fuel : Nat} {s : Bytes} (h : (encode s).length ≤ fuel) :
    readBlocks fuel (encode s) = s := by
  induction fuel generalizing s with
  | zero =>
    cases s with
    | nil => rfl
    | cons b s =>
      rw [length_encode, List.length_cons] at h
      omega
  | succ fuel ih =>
    cases s with
    | nil => rfl
    | cons b s =>
      have hblock : (encode ((b :: s).take 768)).take
          ((encode ((b :: s).take 768)).length / 4 * 4) = encode ((b :: s).take 768) := by
        apply List.take_of_length_le
        rw [length_encode]
        omega
      have hrest : (encode ((b :: s).drop 768)).length ≤ fuel := by
        rw [length_encode, List.length_cons] at h
        rw [length_encode, List.length_drop, List.length_cons]
        omega
      unfold readBlocks
      have hchunk {t : Bytes} {n : Nat} : (t ++ List.replicate n 0).take
          ((t ++ List.replicate n 0).length - n) = t := by
        apply List.take_left'
        rw [List.length_append, List.length_replicate, Nat.add_sub_cancel]
      rw [take_encode, drop_encode, ih hrest]
      dsimp only
      rw [hblock, decodeBlock_encode, padding_encode]
      calc ((b :: s).take 768 ++ List.replicate _ 0).take _ ++ (b :: s).drop 768
          = (b :: s).take 768 ++ (b :: s).drop 768 := congrArg (· ++ _) hchunk
        _ = b :: s := List.take_append_drop 768 (b :: s)

/-- Decoding undoes encoding. -/
theorem decode_encode (s : Bytes) : decode (encode s) = s := readBlocks_encode (Nat.le_refl _)

/-! ## Python's decoder undoes encoding -/

section Symbol

variable {leftchar pads n : Nat} (h : n < 64) (s : Bytes)

include h

theorem a2b_first : a2b 0 leftchar pads (symbol n :: s) = a2b 1 n 0 s := by
  rw [a2b, if_neg (symbol_ne_pad h), symbolValue_symbol h]
  rfl

theorem a2b_second : a2b 1 leftchar pads (symbol n :: s) =
    (a2b 2 (n % 16) 0 s).map (UInt8.ofNat (leftchar * 4 + n / 16) :: ·) := by
  rw [a2b, if_neg (symbol_ne_pad h), symbolValue_symbol h]
  rfl

theorem a2b_third : a2b 2 leftchar pads (symbol n :: s) =
    (a2b 3 (n % 4) 0 s).map (UInt8.ofNat (leftchar * 16 + n / 4) :: ·) := by
  rw [a2b, if_neg (symbol_ne_pad h), symbolValue_symbol h]
  rfl

theorem a2b_fourth : a2b 3 leftchar pads (symbol n :: s) =
    (a2b 0 0 0 s).map (UInt8.ofNat (leftchar * 64 + n) :: ·) := by
  rw [a2b, if_neg (symbol_ne_pad h), symbolValue_symbol h]
  rfl

end Symbol

theorem a2b_encode (s : Bytes) : a2b 0 0 0 (encode s) = some s := by
  induction s using encode.induct with
  | case1 => rfl
  | case2 a =>
    have ha := a.toNat_lt
    rw [encode, a2b_first (by omega), a2b_second (by omega)]
    have hfirst : a.toNat / 4 * 4 + a.toNat % 4 * 16 / 16 = a.toNat :=
      first_byte (by decide : 0 < 16)
    rw [hfirst, UInt8.ofNat_toNat]
    rfl
  | case3 a b =>
    have ha := a.toNat_lt
    have hb := b.toNat_lt
    rw [encode, a2b_first (by omega), a2b_second (by omega), a2b_third (by omega)]
    have hfirst : a.toNat / 4 * 4 + (a.toNat % 4 * 16 + b.toNat / 16) / 16 = a.toNat :=
      first_byte (by omega)
    have hsecond : (a.toNat % 4 * 16 + b.toNat / 16) % 16 * 16 + b.toNat % 16 * 4 / 4 =
        b.toNat := second_byte hb (by decide : 0 < 4)
    rw [hfirst, hsecond, UInt8.ofNat_toNat, UInt8.ofNat_toNat]
    rfl
  | case4 a b c s ih =>
    have ha := a.toNat_lt
    have hb := b.toNat_lt
    have hc := c.toNat_lt
    rw [encode, a2b_first (by omega), a2b_second (by omega), a2b_third (by omega),
      a2b_fourth (by omega)]
    have hfirst : a.toNat / 4 * 4 + (a.toNat % 4 * 16 + b.toNat / 16) / 16 = a.toNat :=
      first_byte (by omega)
    have hsecond : (a.toNat % 4 * 16 + b.toNat / 16) % 16 * 16 +
        (b.toNat % 16 * 4 + c.toNat / 64) / 4 = b.toNat := second_byte hb (by omega)
    have hthird : (b.toNat % 16 * 4 + c.toNat / 64) % 4 * 64 + c.toNat % 64 = c.toNat :=
      third_byte hc
    rw [hfirst, hsecond, hthird, UInt8.ofNat_toNat, UInt8.ofNat_toNat, UInt8.ofNat_toNat, ih]
    rfl

end Base64

end Pollbook
