import Pollbook.Lib.Json

/-!
# JSON text

A writer and a reader of JSON text in the manner of `nlohmann::json`: the
writer is `dump()` without indentation, the reader accepts white space and
escapes. Numbers with a fraction or an exponent, keys that are not ASCII and
escaped surrogate pairs are left out: the writer does not write them and the
reader rejects them.

`parse_render` is the round trip, for plain values.
-/

namespace Pollbook

namespace JsonText

/-! ## Writing -/

/-- A byte inside a string. -/
def escape (b : UInt8) : Bytes :=
  if b.toNat = 34 then [92, 34]
  else if b.toNat = 92 then [92, 92]
  else if 32 ≤ b.toNat then [b]
  else if b.toNat = 8 then [92, 98]
  else if b.toNat = 9 then [92, 116]
  else if b.toNat = 10 then [92, 110]
  else if b.toNat = 12 then [92, 102]
  else if b.toNat = 13 then [92, 114]
  else [92, 117, 48, 48, hexDigit (b.toNat / 16), hexDigit (b.toNat % 16)]

/-- A string with its quotes. -/
def quote (s : Bytes) : Bytes := 34 :: (s.flatMap escape ++ [34])

mutual

/-- `dump()` -/
def render : Json → Bytes
  | .null => [110, 117, 108, 108]
  | .boolean true => [116, 114, 117, 101]
  | .boolean false => [102, 97, 108, 115, 101]
  | .numberUnsigned n => decimal n.toNat
  | .numberInteger n => if n < 0 then 45 :: decimal n.natAbs else decimal n.natAbs
  | .numberFloat _ => [110, 117, 108, 108]
  | .string s => quote s
  | .array js => 91 :: (renderElements js ++ [93])
  | .object fs => 123 :: (renderFields fs ++ [125])

/-- The elements of an array, with commas between them. -/
def renderElements : List Json → Bytes
  | [] => []
  | [j] => render j
  | j :: js => render j ++ 44 :: renderElements js

/-- The fields of an object, with commas between them. -/
def renderFields : List (String × Json) → Bytes
  | [] => []
  | [f] => quote (bytes f.1) ++ 58 :: render f.2
  | f :: fs => quote (bytes f.1) ++ 58 :: (render f.2 ++ 44 :: renderFields fs)

end

/-! ## Reading -/

/-- Skip white space. -/
def skip (s : Bytes) : Bytes := s.dropWhile Json.isWhite

/-- The byte a one-letter escape stands for. -/
def simpleEscape (c : UInt8) : Option UInt8 :=
  if c = 34 then some 34
  else if c = 92 then some 92
  else if c = 47 then some 47
  else if c = 98 then some 8
  else if c = 102 then some 12
  else if c = 110 then some 10
  else if c = 114 then some 13
  else if c = 116 then some 9
  else none

/-- The value of a hexadecimal digit. -/
def hexValue (b : UInt8) : Option Nat :=
  if 48 ≤ b ∧ b ≤ 57 then some (b.toNat - 48)
  else if 97 ≤ b ∧ b ≤ 102 then some (b.toNat - 87)
  else if 65 ≤ b ∧ b ≤ 70 then some (b.toNat - 55)
  else none

/-- The UTF-8 bytes of the code point of a four-digit escape. -/
def codePoint (d₁ d₂ d₃ d₄ : UInt8) : Option Bytes := do
  let n := (((← hexValue d₁) * 16 + (← hexValue d₂)) * 16 + (← hexValue d₃)) * 16 + (← hexValue d₄)
  if n < 128 then pure [UInt8.ofNat n]
  else if 0xD800 ≤ n ∧ n ≤ 0xDFFF then none
  else pure (String.utf8EncodeChar (Char.ofNat n))

/-- Put bytes in front of a string that was read. -/
def prepend (bs : Bytes) (r : Option (Bytes × Bytes)) : Option (Bytes × Bytes) :=
  r.map fun r => (bs ++ r.1, r.2)

/-- The rest of a string and what follows its closing quote. -/
def stringBody : Bytes → Option (Bytes × Bytes)
  | [] => none
  | b :: s =>
    if b.toNat = 34 then some ([], s)
    else if b.toNat = 92 then
      match s with
      | [] => none
      | c :: s =>
        if c.toNat = 117 then
          match s with
          | d₁ :: d₂ :: d₃ :: d₄ :: s =>
            match codePoint d₁ d₂ d₃ d₄ with
            | some bs => prepend bs (stringBody s)
            | none => none
          | _ => none
        else
          match simpleEscape c with
          | some b => prepend [b] (stringBody s)
          | none => none
    else if b.toNat < 32 then none
    else prepend [b] (stringBody s)
termination_by structural s => s

/-- The key a string is. -/
def toKey (s : Bytes) : Option String :=
  if s.all (· < 128) then some (String.ofList (s.map fun b => Char.ofNat b.toNat)) else none

/-- The digits of a number without leading zeros, and what follows. -/
def digits (s : Bytes) : Option (Nat × Bytes) :=
  let ds := s.takeWhile isdigit
  let n := digitsValue ds
  if ds = decimal n then some (n, s.dropWhile isdigit) else none

/-- A number from its first byte on. -/
def number (s : Bytes) : Option (Json × Bytes) :=
  match s with
  | 45 :: s => do
    let (n, s) ← digits s
    if n ≤ 2 ^ 63 then pure (.numberInteger (-n), s) else none
  | s => do
    let (n, s) ← digits s
    if n < 2 ^ 64 then pure (.numberUnsigned (UInt64.ofNat n), s) else none

mutual

/-- A value and what follows it. -/
def value : Nat → Bytes → Option (Json × Bytes)
  | 0, _ => none
  | fuel + 1, s =>
    match skip s with
    | 34 :: s => (stringBody s).map fun r => (.string r.1, r.2)
    | 123 :: s =>
      match skip s with
      | 125 :: s => some (.object [], s)
      | s => (fields fuel [] s).map fun r => (.object r.1, r.2)
    | 91 :: s =>
      match skip s with
      | 93 :: s => some (.array [], s)
      | s => (elements fuel s).map fun r => (.array r.1, r.2)
    | 110 :: 117 :: 108 :: 108 :: s => some (.null, s)
    | 116 :: 114 :: 117 :: 101 :: s => some (.boolean true, s)
    | 102 :: 97 :: 108 :: 115 :: 101 :: s => some (.boolean false, s)
    | s => number s

/-- The elements of an array through its closing bracket. -/
def elements : Nat → Bytes → Option (List Json × Bytes)
  | 0, _ => none
  | fuel + 1, s => do
    let (j, s) ← value fuel s
    match skip s with
    | 44 :: s => (elements fuel s).map fun r => (j :: r.1, r.2)
    | 93 :: s => some ([j], s)
    | _ => none

/-- The fields of an object through its closing brace, entered one after the
other. -/
def fields : Nat → List (String × Json) → Bytes → Option (List (String × Json) × Bytes)
  | 0, _, _ => none
  | fuel + 1, fs, s =>
    match skip s with
    | 34 :: s => do
      let (keyText, s) ← stringBody s
      let key ← toKey keyText
      match skip s with
      | 58 :: s => do
        let (j, s) ← value fuel s
        match skip s with
        | 44 :: s => fields fuel (Json.insertField key j fs) s
        | 125 :: s => some (Json.insertField key j fs, s)
        | _ => none
      | _ => none
    | _ => none

end

/-- `parse`: one value, with white space around it, all of it UTF-8. -/
def parse (s : Bytes) : Cpp Json :=
  match value (s.length + 1) s with
  | some (j, rest) =>
    if rest.all Json.isWhite && j.utf8 then .ok j
    else .error (.jsonParseError "[json.exception.parse_error.101] parse error")
  | none => .error (.jsonParseError "[json.exception.parse_error.101] parse error")

/-! ## Reading back a string -/

theorem codePoint_control {n : Nat} (h : n < 32) :
    codePoint 48 48 (hexDigit (n / 16)) (hexDigit (n % 16)) = some [UInt8.ofNat n] := by
  have hall : ∀ n < 32, codePoint 48 48 (hexDigit (n / 16)) (hexDigit (n % 16)) =
      some [UInt8.ofNat n] := by decide
  exact hall n h

theorem stringBody_escape (b : UInt8) (t : Bytes) :
    stringBody (escape b ++ t) = prepend [b] (stringBody t) := by
  have hb : ∀ n : Nat, b.toNat = n → b = UInt8.ofNat n := fun n h => by rw [← h, UInt8.ofNat_toNat]
  unfold escape
  split
  · next h => rw [hb _ h, stringBody.eq_def]; rfl
  split
  · next h => rw [hb _ h, stringBody.eq_def]; rfl
  split
  · next hquote hslash hplain =>
    rw [List.singleton_append, stringBody.eq_def]
    simp only [if_neg hquote, if_neg hslash,
      if_neg (Nat.not_lt.mpr hplain)]
  split
  · next h => rw [hb _ h, stringBody.eq_def]; rfl
  split
  · next h => rw [hb _ h, stringBody.eq_def]; rfl
  split
  · next h => rw [hb _ h, stringBody.eq_def]; rfl
  split
  · next h => rw [hb _ h, stringBody.eq_def]; rfl
  split
  · next h => rw [hb _ h, stringBody.eq_def]; rfl
  · next hcontrol _ _ _ _ _ =>
    simp only [List.cons_append, List.nil_append]
    have hcode := codePoint_control (Nat.not_le.mp hcontrol)
    rw [UInt8.ofNat_toNat] at hcode
    rw [stringBody.eq_def]
    change (match codePoint 48 48 _ _ with
      | some bs => prepend bs (stringBody t)
      | none => none) = _
    rw [hcode]

theorem stringBody_quote (s rest : Bytes) :
    stringBody (s.flatMap escape ++ 34 :: rest) = some (s, rest) := by
  induction s with
  | nil =>
    rw [stringBody.eq_def]
    rfl
  | cons b s ih =>
    rw [List.flatMap_cons, List.append_assoc, stringBody_escape, ih]
    rfl

theorem toKey_bytes {key : String} (h : Json.asciiKey key = true) :
    toKey (bytes key) = some key := by
  have hascii : ∀ c ∈ key.toList, c.toNat < 128 := fun c hc => by
    simpa using List.all_eq_true.mp h c hc
  have hval : ∀ c ∈ key.toList, c.toUInt8.toNat = c.toNat := by
    intro c hc
    rw [Char.toUInt8, UInt32.toNat_toUInt8]
    exact Nat.mod_eq_of_lt (Nat.lt_trans (hascii c hc) (by decide))
  rw [bytes_of_ascii hascii]
  have hall : (key.toList.map (·.toUInt8)).all (· < 128) = true := by
    rw [List.all_eq_true]
    intro b hb
    obtain ⟨c, hc, rfl⟩ := List.mem_map.mp hb
    simp only [decide_eq_true_eq, UInt8.lt_iff_toNat_lt, hval c hc]
    exact hascii c hc
  have hback : (key.toList.map (·.toUInt8)).map (fun b => Char.ofNat b.toNat) = key.toList := by
    rw [List.map_map]
    refine (List.map_congr_left fun c hc => ?_).trans (List.map_id _)
    rw [Function.comp_apply, hval c hc, Char.ofNat_toNat, id]
  rw [toKey, if_pos hall, hback, String.ofList_toList]

theorem digits_decimal (n : Nat) {rest : Bytes} (hrest : ∀ b ∈ rest.head?, isdigit b = false) :
    digits (decimal n ++ rest) = some (n, rest) := by
  have hdig : ∀ b ∈ decimal n, isdigit b = true := fun b hb => isdigit_of_mem_decimal hb
  have htake : (decimal n ++ rest).takeWhile isdigit = decimal n := by
    rw [List.takeWhile_append_of_pos hdig]
    cases rest with
    | nil => simp
    | cons b s => simp [hrest b rfl]
  have hdrop : (decimal n ++ rest).dropWhile isdigit = rest := by
    rw [List.dropWhile_append_of_pos hdig]
    cases rest with
    | nil => rfl
    | cons b s => simp [hrest b rfl]
  simp only [digits, htake, hdrop, digitsValue_decimal, if_true]

/-! ## Reading back a value -/

theorem skip_cons {b : UInt8} (h : Json.isWhite b = false) (s : Bytes) :
    skip (b :: s) = b :: s := by
  rw [skip, List.dropWhile_cons_of_neg (by simp [h])]

theorem number_digit {b : UInt8} (h : isdigit b = true) {s rest : Bytes} {n : UInt64}
    (hs : b :: s = decimal n.toNat ++ rest) (hrest : ∀ b ∈ rest.head?, isdigit b = false) :
    number (b :: s) = some (.numberUnsigned n, rest) := by
  unfold number
  split
  · next heq =>
    simp only [List.cons.injEq] at heq
    rw [heq.1] at h
    exact absurd h (by decide)
  · rw [hs, digits_decimal _ hrest]
    simp [n.toNat_lt]

theorem value_digit {b : UInt8} (h : isdigit b = true) (s : Bytes) (fuel : Nat) :
    value (fuel + 1) (b :: s) = number (b :: s) := by
  have hne : ∀ c : UInt8, isdigit c = false → b ≠ c := by
    rintro c hc rfl
    rw [h] at hc
    cases hc
  have hwhite : Json.isWhite b = false := by
    simp only [Json.isWhite, Bool.or_eq_false_iff, beq_eq_false_iff_ne]
    exact ⟨⟨⟨hne 32 rfl, hne 9 rfl⟩, hne 10 rfl⟩, hne 13 rfl⟩
  rw [value, skip_cons hwhite]
  split
  · next heq => exact absurd (List.cons.inj heq).1 (hne 34 rfl)
  · next heq => exact absurd (List.cons.inj heq).1 (hne 123 rfl)
  · next heq => exact absurd (List.cons.inj heq).1 (hne 91 rfl)
  · next heq => exact absurd (List.cons.inj heq).1 (hne 110 rfl)
  · next heq => exact absurd (List.cons.inj heq).1 (hne 116 rfl)
  · next heq => exact absurd (List.cons.inj heq).1 (hne 102 rfl)
  · rfl

/-- Fields with commas between them, each a quoted key, a colon and the text of
its value. -/
def joinFields (ts : List (String × Bytes)) : Bytes :=
  List.intercalate [44] (ts.map fun t => quote (bytes t.1) ++ 58 :: t.2)

theorem joinFields_cons (t : String × Bytes) (ts : List (String × Bytes)) (rest : Bytes) :
    joinFields (t :: ts) ++ rest =
      34 :: ((bytes t.1).flatMap escape ++ 34 :: 58 :: (t.2 ++
        (if ts = [] then rest else 44 :: (joinFields ts ++ rest)))) := by
  cases ts with
  | nil => simp [joinFields, quote, List.intercalate]
  | cons u us => simp [joinFields, quote, List.intercalate]

theorem renderFields_eq (fs : List (String × Json)) :
    renderFields fs = joinFields (fs.map fun f => (f.1, render f.2)) := by
  induction fs with
  | nil => rfl
  | cons f fs ih =>
    cases fs with
    | nil => simp [renderFields, joinFields, List.intercalate]
    | cons g gs =>
      rw [renderFields, ih]
      · simp [joinFields, List.intercalate]
      · exact List.cons_ne_nil g gs

theorem insertField_append {fs : List (String × Json)} {key : String} {j : Json}
    (h : ∀ f ∈ fs, Json.keyLess f.1 key = true) : Json.insertField key j fs = fs ++ [(key, j)] := by
  induction fs with
  | nil => rfl
  | cons f fs ih =>
    have hf := h f List.mem_cons_self
    have hne : key ≠ f.1 := by
      rintro rfl
      rw [Json.keyLess_irrefl] at hf
      cases hf
    have hnlt : ¬ Json.keyLess key f.1 = true := by
      intro hlt
      have hself := Json.keyLess_trans hlt hf
      rw [Json.keyLess_irrefl] at hself
      cases hself
    rw [Json.insertField, if_neg hne, if_neg hnlt, ih fun g hg => h g (List.mem_cons_of_mem f hg),
      List.cons_append]

/-- The fields after more of them are entered. -/
def enter (before fs : List (String × Json)) : List (String × Json) :=
  fs.foldl (fun acc f => Json.insertField f.1 f.2 acc) before

/-- Entering sorted fields is appending them. -/
theorem enter_of_sorted {before fs : List (String × Json)} (h : Json.Sorted (before ++ fs)) :
    enter before fs = before ++ fs := by
  induction fs generalizing before with
  | nil => rw [List.append_nil]; rfl
  | cons f fs ih =>
    have hinsert : Json.insertField f.1 f.2 before = before ++ [f] :=
      insertField_append fun g hg => (List.pairwise_append.mp h).2.2 g hg f List.mem_cons_self
    have hrest := ih (show Json.Sorted (before ++ [f] ++ fs) by simpa using h)
    rw [enter, List.foldl_cons, hinsert]
    rw [enter, List.append_assoc] at hrest
    exact hrest

/-- The reader gets the value from the text and leaves what follows. -/
def Reads (text : Bytes) (j : Json) : Prop :=
  ∀ (fuel : Nat) (rest : Bytes), text.length ≤ fuel →
    (∀ b ∈ rest.head?, isdigit b = false) → value fuel (text ++ rest) = some (j, rest)

theorem fields_joinFields {ts : List (String × Bytes × Json)} (hne : ts ≠ [])
    (hkeys : ∀ t ∈ ts, Json.asciiKey t.1 = true) (hreads : ∀ t ∈ ts, Reads t.2.1 t.2.2)
    (rest : Bytes) (fuel : Nat) (before : List (String × Json))
    (hfuel : (joinFields (ts.map fun t => (t.1, t.2.1))).length ≤ fuel) :
    fields fuel before (joinFields (ts.map fun t => (t.1, t.2.1)) ++ 125 :: rest) =
      some (enter before (ts.map fun t => (t.1, t.2.2)), rest) := by
  induction ts generalizing fuel before with
  | nil => exact absurd rfl hne
  | cons t ts ih =>
    obtain ⟨key, text, j⟩ := t
    simp only [List.map_cons] at hfuel ⊢
    have hlength := congrArg List.length
      (joinFields_cons (key, text) (ts.map fun t => (t.1, t.2.1)) [])
    rw [joinFields_cons]
    have hkey : toKey (bytes key) = some key := toKey_bytes (hkeys _ List.mem_cons_self)
    have hj : Reads text j := hreads _ List.mem_cons_self
    cases fuel with
    | zero => simp at hlength; omega
    | succ fuel =>
      rw [fields, skip_cons rfl]
      simp only [stringBody_quote, bind, Option.bind, hkey, skip_cons (b := 58) rfl]
      by_cases hts : ts = []
      · subst hts
        simp only [List.map_nil, if_true] at hfuel hlength ⊢
        rw [hj fuel (125 :: rest) (by simp at hlength; omega) (by simp; rfl)]
        simp only [skip_cons (b := 125) rfl]
        rfl
      · have hmap : ts.map (fun t => (t.1, t.2.1)) ≠ [] := by simpa using hts
        simp only [if_neg hmap] at hlength ⊢
        rw [hj fuel _ (by simp at hlength; omega) (by simp; rfl)]
        simp only [skip_cons (b := 44) rfl]
        rw [ih hts (fun t ht => hkeys t (List.mem_cons_of_mem _ ht))
          (fun t ht => hreads t (List.mem_cons_of_mem _ ht)) fuel _
          (by simp at hlength; omega)]
        rfl

theorem reads_string (s : Bytes) : Reads (quote s) (.string s) := by
  rintro (_ | fuel) rest hfuel -
  · simp [quote] at hfuel
  · simp only [quote, List.cons_append, List.append_assoc, List.nil_append, value,
      skip_cons (b := 34) rfl, stringBody_quote, Option.map_some]

theorem reads_boolean (b : Bool) : Reads (render (.boolean b)) (.boolean b) := by
  rintro (_ | fuel) rest hfuel -
  · cases b <;> simp [render] at hfuel
  · cases b <;> rfl

theorem reads_decimal (n : UInt64) : Reads (decimal n.toNat) (.numberUnsigned n) := by
  rintro (_ | fuel) rest hfuel hrest
  · simp [decimal_ne_nil] at hfuel
  · obtain ⟨b, ds, hd⟩ := List.exists_cons_of_ne_nil (decimal_ne_nil n.toNat)
    have hb : isdigit b = true := isdigit_of_mem_decimal (hd ▸ List.mem_cons_self)
    rw [hd, List.cons_append, value_digit hb]
    exact number_digit hb (by rw [hd, List.cons_append]) hrest

/-- An object is read when its values are. -/
theorem reads_object {ts : List (String × Bytes × Json)}
    (hkeys : ∀ t ∈ ts, Json.asciiKey t.1 = true) (hreads : ∀ t ∈ ts, Reads t.2.1 t.2.2) :
    Reads (123 :: (joinFields (ts.map fun t => (t.1, t.2.1)) ++ [125]))
      (.object (enter [] (ts.map fun t => (t.1, t.2.2)))) := by
  rintro (_ | fuel) rest hfuel -
  · simp at hfuel
  · cases ts with
    | nil => rfl
    | cons t ts =>
      have hread := fields_joinFields (List.cons_ne_nil t ts) hkeys hreads rest fuel []
        (by simp at hfuel ⊢; omega)
      rw [List.cons_append, List.append_assoc, List.singleton_append, value, skip_cons rfl]
      rw [List.map_cons] at hread ⊢
      rw [joinFields_cons] at hread ⊢
      simp only [skip_cons (b := 34) rfl]
      change (fields fuel [] (34 :: _)).map _ = _
      rw [hread]
      rfl

theorem reads_render {j : Json} (h : j.Plain) : Reads (render j) j := by
  induction h with
  | boolean b => exact reads_boolean b
  | numberUnsigned n => exact reads_decimal n
  | @string s _ => exact reads_string s
  | @object fs hsorted hkeys _ ih =>
    have hread := @reads_object (fs.map fun f => (f.1, render f.2, f.2)) (fun t ht => by
        obtain ⟨f, hf, rfl⟩ := List.mem_map.mp ht
        exact hkeys f hf) (fun t ht => by
        obtain ⟨f, hf, rfl⟩ := List.mem_map.mp ht
        exact ih f hf)
    rw [List.map_map, List.map_map] at hread
    have hfields : enter [] fs = fs := enter_of_sorted hsorted
    have hid : fs.map ((fun t : String × Bytes × Json => (t.1, t.2.2)) ∘
        fun f => (f.1, render f.2, f.2)) = fs := List.map_id fs
    rw [hid, hfields] at hread
    rw [render, renderFields_eq]
    exact hread

theorem parse_of_reads {text : Bytes} {j : Json} (h : Reads text j) (hutf8 : j.utf8 = true)
    {white : Bytes} (hwhite : ∀ b ∈ white, Json.isWhite b = true) :
    parse (text ++ white) = .ok j := by
  have hdigit : ∀ b ∈ white.head?, isdigit b = false := by
    intro b hb
    have hw := hwhite b (List.mem_of_mem_head? hb)
    simp only [Json.isWhite, Bool.or_eq_true, beq_iff_eq] at hw
    obtain ((rfl | rfl) | rfl) | rfl := hw <;> rfl
  have hread := h ((text ++ white).length + 1) white
    (by rw [List.length_append]; omega) hdigit
  have hall : white.all Json.isWhite = true := List.all_eq_true.mpr hwhite
  simp only [parse, hread, hall, hutf8, Bool.and_self, if_true]

/-- The round trip, with white space behind the text. -/
theorem parse_render {j : Json} (h : j.Plain) (white : Bytes)
    (hwhite : ∀ b ∈ white, Json.isWhite b = true) : parse (render j ++ white) = .ok j :=
  parse_of_reads (reads_render h) h.utf8 hwhite

/-! ## The shape of the text -/

end JsonText

end Pollbook
