import Mathlib

/-!
# Byte strings and the standard library's text functions

A `std::string` is its bytes. This file has the pieces of the C++ standard
library that turn such strings into other strings and numbers: `getline`,
`stoul`, `to_string`, the stream manipulators behind a hexadecimal dump, and
UTF-8 validity. A call that may not return returns a `Trap` instead of a
value: an exception or undefined behaviour.
-/

namespace Pollbook

/-- A `std::string`, or a `std::vector<std::uint8_t>`. -/
abbrev Bytes := List UInt8

/-- The bytes of a string literal. -/
def bytes (s : String) : Bytes := s.toUTF8.data.toList

theorem bytes_injective {a b : String} (h : bytes a = bytes b) : a = b := by
  simp only [bytes, String.toUTF8_eq_toByteArray] at h
  exact String.toByteArray_inj.mp (ByteArray.ext (Array.toList_inj.mp h))

theorem bytes_eq_flatMap (s : String) : bytes s = s.toList.flatMap String.utf8EncodeChar := by
  rw [bytes, String.toUTF8_eq_toByteArray, ← String.utf8Encode_toList, List.utf8Encode,
    List.toList_data_toByteArray]

/-- The bytes of an ASCII string are its characters. -/
theorem bytes_of_ascii {s : String} (h : ∀ c ∈ s.toList, c.toNat < 128) :
    bytes s = s.toList.map (·.toUInt8) := by
  have hchar : ∀ c ∈ s.toList, String.utf8EncodeChar c = [c.toUInt8] := by
    intro c hc
    have hsize : c.utf8Size = 1 := by
      rw [Char.utf8Size_eq_one_iff, UInt32.le_iff_toNat_le]
      exact Nat.le_of_lt_succ (h c hc)
    rw [String.utf8EncodeChar_eq_singleton hsize, Char.toUInt8_val]
  rw [bytes_eq_flatMap, List.flatMap_congr hchar, ← List.map_eq_flatMap]

/-- `std::string`'s `<`: byte by byte. -/
def bytesLess : Bytes → Bytes → Bool
  | _, [] => false
  | [], _ :: _ => true
  | a :: as, b :: bs => if a.toNat = b.toNat then bytesLess as bs else a.toNat < b.toNat

theorem bytesLess_irrefl (s : Bytes) : bytesLess s s = false := by
  induction s with
  | nil => rfl
  | cons b s ih => rw [bytesLess, if_pos rfl, ih]

theorem bytesLess_trans {s t u : Bytes} (hst : bytesLess s t = true) (htu : bytesLess t u = true) :
    bytesLess s u = true := by
  induction s generalizing t u with
  | nil =>
    cases u with
    | nil => simp [bytesLess] at htu
    | cons c u => rfl
  | cons a s ih =>
    cases t with
    | nil => simp [bytesLess] at hst
    | cons b t =>
      cases u with
      | nil => simp [bytesLess] at htu
      | cons c u =>
        rw [bytesLess] at hst htu ⊢
        split at hst
        · next hab =>
          split at htu
          · next hbc => rw [if_pos (hab.trans hbc), ih hst htu]
          · next hbc => rwa [hab, if_neg hbc]
        · next hab =>
          split at htu
          · next hbc => rwa [← hbc, if_neg hab]
          · have hlt : a.toNat < c.toNat :=
              Nat.lt_trans (of_decide_eq_true hst) (of_decide_eq_true htu)
            rw [if_neg (Nat.ne_of_lt hlt), decide_eq_true hlt]

theorem bytesLess_total {s t : Bytes} (h : bytesLess s t = false) :
    s = t ∨ bytesLess t s = true := by
  induction s generalizing t with
  | nil =>
    cases t with
    | nil => exact .inl rfl
    | cons b t => cases h
  | cons a s ih =>
    cases t with
    | nil => exact .inr rfl
    | cons b t =>
      rw [bytesLess] at h ⊢
      split at h
      · next hab =>
        rw [UInt8.toNat_inj] at hab
        subst hab
        rw [if_pos rfl]
        exact (ih h).imp_left fun hst => by rw [hst]
      · next hab =>
        rw [if_neg (Ne.symm hab)]
        have hle : ¬ a.toNat < b.toNat := of_decide_eq_false h
        exact .inr (decide_eq_true (by omega))

/-! ## Calls that do not return -/

/-- Why a call does not return normally: the class of the exception it throws,
with its `what()`, or undefined behaviour, which no handler catches. -/
inductive Trap where
  /-- `nlohmann::json::parse_error` -/
  | jsonParseError (what : String)
  /-- another `nlohmann::json::exception`: `type_error`, `out_of_range` -/
  | jsonException (what : String)
  /-- `std::invalid_argument` -/
  | invalidArgument (what : String)
  /-- `std::out_of_range` -/
  | outOfRange (what : String)
  /-- `std::length_error` -/
  | lengthError (what : String)
  /-- `std::runtime_error`, and the wrapper's errors derived from it -/
  | runtimeError (what : String)
  /-- `asio::system_error` -/
  | systemError (what : String)
  /-- undefined behaviour, or the failed assertion that stands in front of it -/
  | undefined (what : String)
  deriving DecidableEq, Repr

/-- The exception's `what()`. -/
def Trap.what : Trap → String
  | .jsonParseError w | .jsonException w | .invalidArgument w | .outOfRange w
  | .lengthError w | .runtimeError w | .systemError w | .undefined w => w

/-- `catch(const std::exception&)` catches every exception and no undefined
behaviour. -/
def Trap.caught : Trap → Bool
  | .undefined _ => false
  | _ => true

/-- The result of a call: a value, or why it did not return. -/
abbrev Cpp (α : Type) := Except Trap α

/-! ## Lines and fields -/

/-- `'\n'` -/
def newline : UInt8 := 10

/-- `','` -/
def comma : UInt8 := 44

/-- `std::getline(stream, field, delim)` on the unread part of a stream: it
fails when nothing is left to extract, and otherwise takes the text before the
next delimiter, which it drops. -/
def getline (delim : UInt8) : Bytes → Option (Bytes × Bytes)
  | [] => none
  | b :: s => some ((b :: s).takeWhile (· ≠ delim), ((b :: s).dropWhile (· ≠ delim)).tail)

/-- The lines the loop `while(std::getline(file, line))` sees. -/
def lines : Bytes → List Bytes
  | [] => []
  | b :: s =>
    if b = newline then [] :: lines s
    else match lines s with
      | [] => [[b]]
      | l :: ls => (b :: l) :: ls

/-- The pieces the loop `while(std::getline(stream, piece, delim))` sees. -/
def pieces (delim : UInt8) : Bytes → List Bytes
  | [] => []
  | b :: s =>
    if b = delim then [] :: pieces delim s
    else match pieces delim s with
      | [] => [[b]]
      | l :: ls => (b :: l) :: ls

theorem lines_newline_cons (s : Bytes) : lines (newline :: s) = [] :: lines s := by
  simp [lines]

theorem lines_ne_nil {s : Bytes} (h : s ≠ []) : lines s ≠ [] := by
  cases s with
  | nil => exact absurd rfl h
  | cons b s =>
    unfold lines
    split
    · simp
    · split <;> simp

/-- A byte that ends no line goes in front of the first line. -/
theorem lines_cons {b : UInt8} (hb : b ≠ newline) {s l : Bytes} {ls : List Bytes}
    (h : lines s = l :: ls) : lines (b :: s) = (b :: l) :: ls := by
  rw [lines, if_neg hb, h]

/-- A line and its newline in front of a text is one more line. -/
theorem lines_append_newline {l : Bytes} (h : newline ∉ l) (s : Bytes) :
    lines (l ++ newline :: s) = l :: lines s := by
  induction l with
  | nil => exact lines_newline_cons s
  | cons b l ih =>
    have hb : b ≠ newline := fun hb => h (hb ▸ List.mem_cons_self)
    have hl : newline ∉ l := fun hl => h (List.mem_cons_of_mem b hl)
    rw [List.cons_append, lines, if_neg hb, ih hl]

/-- A text that ends in a newline ends its last line: what is appended starts
a line of its own. -/
theorem lines_append {s : Bytes} (hs : s = [] ∨ s.getLast? = some newline) (t : Bytes) :
    lines (s ++ t) = lines s ++ lines t := by
  induction s with
  | nil => rfl
  | cons b s ih =>
    have hs' : s = [] ∨ s.getLast? = some newline := by
      cases s with
      | nil => exact .inl rfl
      | cons c s => exact .inr (by simpa [List.getLast?_cons_cons] using hs)
    by_cases hb : b = newline
    · subst hb
      rw [List.cons_append, lines_newline_cons, ih hs', lines_newline_cons, List.cons_append]
    · cases s with
      | nil => simp [hb] at hs
      | cons c s =>
        obtain ⟨l, ls, hl⟩ := List.exists_cons_of_ne_nil (lines_ne_nil (List.cons_ne_nil c s))
        have hall : lines (c :: s ++ t) = l :: (ls ++ lines t) := by
          rw [ih hs', hl, List.cons_append]
        rw [List.cons_append, lines_cons hb hall, lines_cons hb hl, List.cons_append]

theorem pieces_append {delim : UInt8} {field : Bytes} (h : delim ∉ field) (s : Bytes) :
    pieces delim (field ++ delim :: s) = field :: pieces delim s := by
  induction field with
  | nil => simp [pieces]
  | cons b field ih =>
    have hb : b ≠ delim := fun heq => h (heq ▸ List.mem_cons_self)
    rw [List.cons_append, pieces, if_neg hb, ih fun hmem => h (List.mem_cons_of_mem _ hmem)]

theorem pieces_end {delim : UInt8} {field : Bytes} (hne : field ≠ []) (h : delim ∉ field) :
    pieces delim field = [field] := by
  induction field with
  | nil => exact absurd rfl hne
  | cons b field ih =>
    have hb : b ≠ delim := fun heq => h (heq ▸ List.mem_cons_self)
    rw [pieces, if_neg hb]
    cases field with
    | nil => rfl
    | cons c field => rw [ih (List.cons_ne_nil _ _) fun hmem => h (List.mem_cons_of_mem _ hmem)]

/-- `getline` reads a field that has its delimiter behind it. -/
theorem getline_append {delim : UInt8} {field : Bytes} (h : delim ∉ field) (rest : Bytes) :
    getline delim (field ++ delim :: rest) = some (field, rest) := by
  have hp : ∀ b ∈ field, decide (b ≠ delim) = true := by
    intro b hb
    exact decide_eq_true fun hbd => h (hbd ▸ hb)
  have htake : (field ++ delim :: rest).takeWhile (· ≠ delim) = field := by
    rw [List.takeWhile_append_of_pos hp]
    simp
  have hdrop : (field ++ delim :: rest).dropWhile (· ≠ delim) = delim :: rest := by
    rw [List.dropWhile_append_of_pos hp]
    simp
  cases hfield : field ++ delim :: rest with
  | nil => simp at hfield
  | cons b s =>
    rw [hfield] at htake hdrop
    simp only [getline, htake, hdrop, List.tail_cons]

/-- `getline` reads the end of a stream that has no delimiter left. -/
theorem getline_end {delim : UInt8} {field : Bytes} (hne : field ≠ []) (h : delim ∉ field) :
    getline delim field = some (field, []) := by
  have hp : ∀ b ∈ field, decide (b ≠ delim) = true := by
    intro b hb
    exact decide_eq_true fun hbd => h (hbd ▸ hb)
  have htake : (field ++ []).takeWhile (· ≠ delim) = field ++ [].takeWhile (· ≠ delim) :=
    List.takeWhile_append_of_pos hp
  have hdrop : (field ++ []).dropWhile (· ≠ delim) = [].dropWhile (· ≠ delim) :=
    List.dropWhile_append_of_pos hp
  rw [List.append_nil] at htake hdrop
  cases field with
  | nil => exact absurd rfl hne
  | cons b s =>
    simp only [getline, htake, hdrop, List.takeWhile_nil, List.append_nil, List.dropWhile_nil,
      List.tail_nil]

/-! ## Numbers -/

/-- `isspace` in the C locale. -/
def isspace (b : UInt8) : Bool := b == 32 || (9 ≤ b && b ≤ 13)

/-- `isdigit` -/
def isdigit (b : UInt8) : Bool := 48 ≤ b && b ≤ 57

/-- The number a string of digits writes. -/
def digitsValue (ds : Bytes) : Nat := ds.foldl (fun n d => 10 * n + (d.toNat - 48)) 0

/-- `strtoul`'s optional sign: whether it is a minus, and what follows it. -/
def sign : Bytes → Bool × Bytes
  | 43 :: s => (false, s)
  | 45 :: s => (true, s)
  | s => (false, s)

/-- `std::stoul` in base 10, for a 64-bit `unsigned long`: white space, an
optional sign, digits, and whatever comes behind them. A minus sign negates
modulo `2^64`. -/
def stoul (s : Bytes) : Cpp UInt64 :=
  let (negative, s) := sign (s.dropWhile isspace)
  let ds := s.takeWhile isdigit
  if ds = [] then .error (.invalidArgument "stoul")
  else if 2 ^ 64 ≤ digitsValue ds then .error (.outOfRange "stoul")
  else .ok (if negative then -UInt64.ofNat (digitsValue ds) else UInt64.ofNat (digitsValue ds))

/-- `std::to_string`, and `<<` on an unsigned number. -/
def decimal (n : Nat) : Bytes := (Nat.toDigits 10 n).map (·.toUInt8)

theorem decimal_ne_nil (n : Nat) : decimal n ≠ [] := by
  simp only [decimal, ne_eq, List.map_eq_nil_iff]
  exact Nat.toDigits_ne_nil

/-- A decimal digit's byte is a digit of the same value. -/
theorem toUInt8_of_isDigit {c : Char} (h : c.isDigit = true) :
    isdigit c.toUInt8 = true ∧ c.toUInt8.toNat = c.toNat := by
  have hc : 48 ≤ c.toNat ∧ c.toNat ≤ 57 := by
    simp only [Char.isDigit, Bool.and_eq_true, decide_eq_true_eq, ge_iff_le,
      UInt32.le_iff_toNat_le] at h
    exact h
  have hval : c.toUInt8.toNat = c.toNat := by
    rw [Char.toUInt8, UInt32.toNat_toUInt8]
    exact Nat.mod_eq_of_lt (by simp only [Char.toNat] at hc; omega)
  refine ⟨?_, hval⟩
  simp only [isdigit, Bool.and_eq_true, decide_eq_true_eq, UInt8.le_iff_toNat_le, hval]
  exact hc

theorem isdigit_of_mem_decimal {n : Nat} {b : UInt8} (h : b ∈ decimal n) : isdigit b = true := by
  obtain ⟨c, hc, rfl⟩ := List.mem_map.mp h
  exact (toUInt8_of_isDigit (Nat.isDigit_of_mem_toDigits (by omega) (by omega) hc)).1

theorem comma_not_mem_decimal (n : Nat) : comma ∉ decimal n := by
  intro hmem
  exact absurd (isdigit_of_mem_decimal hmem) (by decide)

theorem newline_not_mem_decimal (n : Nat) : newline ∉ decimal n := by
  intro hmem
  exact absurd (isdigit_of_mem_decimal hmem) (by decide)

theorem digitsValue_map (cs : List Char) (h : ∀ c ∈ cs, c.isDigit = true) (init : Nat) :
    (cs.map (·.toUInt8)).foldl (fun n d => 10 * n + (d.toNat - 48)) init =
      Nat.ofDigitChars 10 cs init := by
  induction cs generalizing init with
  | nil => rfl
  | cons c cs ih =>
    have hc := (toUInt8_of_isDigit (h c List.mem_cons_self)).2
    rw [List.map_cons, List.foldl_cons, ih (fun d hd => h d (List.mem_cons_of_mem c hd)), hc]
    rfl

/-- The digits `to_string` prints write the number they were printed from. -/
theorem digitsValue_decimal (n : Nat) : digitsValue (decimal n) = n := by
  have hdig : ∀ c ∈ Nat.toDigits 10 n, c.isDigit = true := fun c hc =>
    Nat.isDigit_of_mem_toDigits (by omega) (by omega) hc
  rw [digitsValue, decimal, digitsValue_map _ hdig, Nat.ofDigitChars_ten_toDigits]

theorem not_isspace_of_isdigit {b : UInt8} (h : isdigit b = true) : isspace b = false := by
  simp only [isdigit, Bool.and_eq_true, decide_eq_true_eq, UInt8.le_iff_toNat_le] at h
  simp only [isspace, Bool.or_eq_false_iff, beq_eq_false_iff_ne, ne_eq, Bool.and_eq_false_iff,
    decide_eq_false_iff_not, UInt8.le_iff_toNat_le]
  refine ⟨fun hb => ?_, .inr ?_⟩
  · subst hb
    simp at h
  · simp at h ⊢
    omega

theorem sign_of_isdigit {b : UInt8} (h : isdigit b = true) (s : Bytes) :
    sign (b :: s) = (false, b :: s) := by
  unfold sign
  split
  · next heq =>
    simp only [List.cons.injEq] at heq
    rw [heq.1] at h
    exact absurd h (by decide)
  · next heq =>
    simp only [List.cons.injEq] at heq
    rw [heq.1] at h
    exact absurd h (by decide)
  · rfl

/-- `stoul` reads back what `to_string` printed, when no digit follows. -/
theorem stoul_decimal {n : Nat} (h : n < 2 ^ 64) (rest : Bytes)
    (hrest : ∀ b ∈ rest.head?, isdigit b = false) :
    stoul (decimal n ++ rest) = .ok (UInt64.ofNat n) := by
  have hdig : ∀ b ∈ decimal n, isdigit b = true := fun b hb => isdigit_of_mem_decimal hb
  have hstart : sign ((decimal n ++ rest).dropWhile isspace) = (false, decimal n ++ rest) := by
    cases hd : decimal n with
    | nil => exact absurd hd (decimal_ne_nil n)
    | cons b ds =>
      have hb : isdigit b = true := hdig b (hd ▸ List.mem_cons_self)
      rw [List.cons_append, List.dropWhile_cons_of_neg (by simp [not_isspace_of_isdigit hb])]
      exact sign_of_isdigit hb _
  have htake : (decimal n ++ rest).takeWhile isdigit = decimal n := by
    rw [List.takeWhile_append_of_pos hdig]
    cases rest with
    | nil => simp
    | cons b s => simp [hrest b rfl]
  simp only [stoul, hstart, htake, decimal_ne_nil, digitsValue_decimal, Nat.not_le.mpr h,
    if_false, Bool.false_eq_true]

/-! ## Hexadecimal dumps -/

/-- One lowercase hexadecimal digit. -/
def hexDigit (n : Nat) : UInt8 := if n < 10 then UInt8.ofNat (48 + n) else UInt8.ofNat (87 + n)

/-- `std::hex << std::setw(2) << std::setfill('0')` on each byte. -/
def hex (bs : Bytes) : Bytes :=
  bs.flatMap fun b => [hexDigit (b.toNat / 16), hexDigit (b.toNat % 16)]

theorem length_hex (bs : Bytes) : (hex bs).length = 2 * bs.length := by
  induction bs with
  | nil => rfl
  | cons b bs ih =>
    simp only [hex, List.flatMap_cons, List.length_append, List.length_cons,
      List.length_nil] at ih ⊢
    omega

theorem hexDigit_range {n : Nat} (h : n < 16) :
    48 ≤ (hexDigit n).toNat ∧ (hexDigit n).toNat ≤ 102 := by
  unfold hexDigit
  split <;> simp <;> omega

/-- A dump has digits and the letters `a` to `f` only; in particular neither a
comma nor a newline. -/
theorem hex_range {bs : Bytes} {b : UInt8} (h : b ∈ hex bs) : 48 ≤ b.toNat ∧ b.toNat ≤ 102 := by
  obtain ⟨c, _, hc⟩ := List.mem_flatMap.mp h
  have hlt : c.toNat < 256 := c.toNat_lt
  simp only [List.mem_cons, List.not_mem_nil, or_false] at hc
  rcases hc with rfl | rfl
  · exact hexDigit_range (by omega)
  · exact hexDigit_range (by omega)

/-- The lowercase hexadecimal digits. -/
def isLowerHex (b : UInt8) : Bool := isdigit b || (97 ≤ b && b ≤ 102)

theorem isLowerHex_hexDigit : ∀ n < 16, isLowerHex (hexDigit n) = true := by decide

theorem hexDigit_injective : ∀ m < 16, ∀ n < 16, hexDigit m = hexDigit n → m = n := by decide

theorem isLowerHex_of_mem_hex {bs : Bytes} {b : UInt8} (h : b ∈ hex bs) :
    isLowerHex b = true := by
  obtain ⟨c, _, hc⟩ := List.mem_flatMap.mp h
  have hlt : c.toNat < 256 := c.toNat_lt
  simp only [List.mem_cons, List.not_mem_nil, or_false] at hc
  rcases hc with rfl | rfl
  · exact isLowerHex_hexDigit _ (by omega)
  · exact isLowerHex_hexDigit _ (by omega)

/-- Different bytes have different dumps. -/
theorem hex_injective {as bs : Bytes} (h : hex as = hex bs) : as = bs := by
  induction as generalizing bs with
  | nil =>
    cases bs with
    | nil => rfl
    | cons b bs => cases h
  | cons a as ih =>
    cases bs with
    | nil => cases h
    | cons b bs =>
      simp only [hex, List.flatMap_cons, List.cons_append, List.nil_append, List.cons.injEq] at h
      obtain ⟨hhigh, hlow, hrest⟩ := h
      have ha := a.toNat_lt
      have hb := b.toNat_lt
      have hdiv := hexDigit_injective _ (by omega) _ (by omega) hhigh
      have hmod := hexDigit_injective _ (by omega) _ (by omega) hlow
      rw [show a = b from UInt8.toNat_inj.mp (by omega), ih hrest]

/-! ## UTF-8 -/

/-- UTF-8 validity by the usual automaton: `pending` continuation bytes are
due, the first of them between `lo` and `hi`. -/
def validUtf8From : Nat → UInt8 → UInt8 → Bytes → Bool
  | 0, _, _, [] => true
  | _ + 1, _, _, [] => false
  | pending + 1, lo, hi, b :: s => lo ≤ b && b ≤ hi && validUtf8From pending 0x80 0xBF s
  | 0, _, _, b :: s =>
    if b < 0x80 then validUtf8From 0 0 0 s
    else if b < 0xC2 then false
    else if b < 0xE0 then validUtf8From 1 0x80 0xBF s
    else if b = 0xE0 then validUtf8From 2 0xA0 0xBF s
    else if b = 0xED then validUtf8From 2 0x80 0x9F s
    else if b < 0xF0 then validUtf8From 2 0x80 0xBF s
    else if b = 0xF0 then validUtf8From 3 0x90 0xBF s
    else if b < 0xF4 then validUtf8From 3 0x80 0xBF s
    else if b = 0xF4 then validUtf8From 3 0x80 0x8F s
    else false

/-- The bytes are well-formed UTF-8. -/
def validUtf8 (s : Bytes) : Bool := validUtf8From 0 0 0 s

/-- ASCII text is UTF-8. -/
theorem validUtf8_of_ascii {s : Bytes} (h : ∀ b ∈ s, b.toNat < 128) : validUtf8 s = true := by
  unfold validUtf8
  induction s with
  | nil => rfl
  | cons b s ih =>
    have hb : b < 0x80 := by
      simpa [UInt8.lt_iff_toNat_lt] using h b List.mem_cons_self
    rw [validUtf8From, if_pos hb]
    exact ih fun c hc => h c (List.mem_cons_of_mem b hc)

/-- ASCII text completes nothing and spoils nothing. -/
theorem validUtf8_append {a : Bytes} (h : ∀ b ∈ a, b.toNat < 128) (s : Bytes) :
    validUtf8 (s ++ a) = validUtf8 s := by
  have hfrom : ∀ (s : Bytes) (pending : Nat) (lo hi : UInt8), pending = 0 ∨ 0x80 ≤ lo →
      validUtf8From pending lo hi (s ++ a) = validUtf8From pending lo hi s := by
    intro s
    induction s with
    | nil =>
      intro pending lo hi hlo
      cases pending with
      | zero =>
        have hvalid := validUtf8_of_ascii h
        cases a with
        | nil => rfl
        | cons b a => exact hvalid
      | succ pending =>
        cases a with
        | nil => rfl
        | cons b a =>
          have hb := h b List.mem_cons_self
          have hlo : (0x80 : UInt8) ≤ lo := hlo.resolve_left (Nat.succ_ne_zero pending)
          have hnot : ¬ lo ≤ b := by
            rw [UInt8.le_iff_toNat_le] at hlo ⊢
            have h80 : (0x80 : UInt8).toNat = 128 := rfl
            omega
          simp [validUtf8From, hnot]
    | cons b s ih =>
      intro pending lo hi _
      cases pending with
      | zero =>
        simp only [List.cons_append, validUtf8From]
        rw [ih 0 0 0 (.inl rfl), ih 1 0x80 0xBF (.inr (by decide)),
          ih 2 0xA0 0xBF (.inr (by decide)), ih 2 0x80 0x9F (.inr (by decide)),
          ih 2 0x80 0xBF (.inr (by decide)), ih 3 0x90 0xBF (.inr (by decide)),
          ih 3 0x80 0xBF (.inr (by decide)), ih 3 0x80 0x8F (.inr (by decide))]
      | succ pending =>
        simp only [List.cons_append, validUtf8From]
        rw [ih pending 0x80 0xBF (.inr (by decide))]
  exact hfrom s 0 0 0 (.inl rfl)

/-- A text is whole lines, and the beginning of one more. -/
theorem exists_lines_append (s : Bytes) :
    ∃ w p, s = w ++ p ∧ (w = [] ∨ w.getLast? = some newline) ∧ newline ∉ p := by
  induction s using List.reverseRecOn with
  | nil => exact ⟨[], [], rfl, .inl rfl, List.not_mem_nil⟩
  | append_singleton s b ih =>
    obtain ⟨w, p, rfl, hw, hp⟩ := ih
    by_cases hb : b = newline
    · subst hb
      exact ⟨w ++ p ++ [newline], [], by simp, .inr (by simp), List.not_mem_nil⟩
    · refine ⟨w, p ++ [b], by simp, hw, fun hmem => ?_⟩
      rcases List.mem_append.mp hmem with hmem | hmem
      · exact hp hmem
      · exact hb (List.mem_singleton.mp hmem).symm

end Pollbook
