import Pollbook.Lib.JsonText
import Pollbook.Lib.Utf8

/-!
# Python's `json`

`dumps` with `separators=(",", ":")`, its result encoded, and `loads`, on values
without floats. Sorted and with `ensure_ascii=False` it is the text `dump()`
writes (`dumps_sorted`); with the default, which escapes, it is the same text
just when every character comes before DEL (`dumps_escaped_iff`).
-/

namespace Pollbook

namespace PyJson

/-- What `loads` returns. A `dict` is its items in the order they were put in. -/
inductive Value where
  | none
  | bool (b : Bool)
  | int (n : Int)
  | str (s : String)
  | list (elements : List Value)
  | dict (items : List (String × Value))

/-! ## Writing -/

/-- `\uXXXX` -/
def unicodeEscape (n : Nat) : Bytes :=
  [92, 117, hexDigit (n / 4096 % 16), hexDigit (n / 256 % 16), hexDigit (n / 16 % 16),
    hexDigit (n % 16)]

/-- A character inside a string. With `ensure_ascii` everything from DEL on is
escaped, as one or two UTF-16 code units. -/
def escapeChar (ensureAscii : Bool) (c : Char) : Bytes :=
  let n := c.toNat
  if n = 34 then [92, 34]
  else if n = 92 then [92, 92]
  else if n = 8 then [92, 98]
  else if n = 9 then [92, 116]
  else if n = 10 then [92, 110]
  else if n = 12 then [92, 102]
  else if n = 13 then [92, 114]
  else if n < 32 then unicodeEscape n
  else if n < 127 || !ensureAscii then String.utf8EncodeChar c
  else if n < 0x10000 then unicodeEscape n
  else unicodeEscape (0xD800 + (n - 0x10000) / 1024) ++
    unicodeEscape (0xDC00 + (n - 0x10000) % 1024)

/-- A string with its quotes. -/
def quote (ensureAscii : Bool) (s : String) : Bytes :=
  34 :: (s.toList.flatMap (escapeChar ensureAscii) ++ [34])

/-- `sorted(dct.items())` -/
def sortItems {α : Type} (items : List (String × α)) : List (String × α) :=
  items.insertionSort fun f g => f.1 ≤ g.1

/-- The items of a dictionary as they are written. -/
def joinItems (ensureAscii sortKeys : Bool) (items : List (String × Bytes)) : Bytes :=
  List.intercalate [44] ((if sortKeys then sortItems items else items).map fun f =>
    quote ensureAscii f.1 ++ 58 :: f.2)

mutual

/-- `json.dumps(value, sort_keys=…, separators=(",", ":"), ensure_ascii=…).encode()` -/
def dumps (ensureAscii sortKeys : Bool) : Value → Bytes
  | .none => [110, 117, 108, 108]
  | .bool true => [116, 114, 117, 101]
  | .bool false => [102, 97, 108, 115, 101]
  | .int n => if n < 0 then 45 :: decimal n.natAbs else decimal n.natAbs
  | .str s => quote ensureAscii s
  | .list elements => 91 :: (List.intercalate [44] (dumpsElements ensureAscii sortKeys elements)
      ++ [93])
  | .dict items => 123 :: (joinItems ensureAscii sortKeys (dumpsItems ensureAscii sortKeys items)
      ++ [125])

/-- The texts of the elements of a list. -/
def dumpsElements (ensureAscii sortKeys : Bool) : List Value → List Bytes
  | [] => []
  | v :: vs => dumps ensureAscii sortKeys v :: dumpsElements ensureAscii sortKeys vs

/-- The texts of the values of a dictionary. -/
def dumpsItems (ensureAscii sortKeys : Bool) : List (String × Value) → List (String × Bytes)
  | [] => []
  | f :: fs => (f.1, dumps ensureAscii sortKeys f.2) :: dumpsItems ensureAscii sortKeys fs

end

/-! ## Reading -/

mutual

/-- The Python value of a JSON value. -/
def ofJson : Json → Option Value
  | .null => some .none
  | .boolean b => some (.bool b)
  | .numberUnsigned n => some (.int n.toNat)
  | .numberInteger n => some (.int n)
  | .numberFloat _ => none
  | .string s => (fromUtf8 s).map .str
  | .array js => (ofElements js).map .list
  | .object fs => (ofFields fs).map .dict

/-- The elements of an array. -/
def ofElements : List Json → Option (List Value)
  | [] => some []
  | j :: js =>
    match ofJson j, ofElements js with
    | some v, some vs => some (v :: vs)
    | _, _ => none

/-- The fields of an object. -/
def ofFields : List (String × Json) → Option (List (String × Value))
  | [] => some []
  | f :: fs =>
    match ofJson f.2, ofFields fs with
    | some v, some vs => some ((f.1, v) :: vs)
    | _, _ => none

end

/-- `json.loads(text.decode())`, on a text whose keys are sorted; `none` is an
exception. -/
def loads (text : Bytes) : Option Value :=
  match JsonText.parse text with
  | .ok j => ofJson j
  | .error _ => none

/-- `value[key]` -/
def Value.get (v : Value) (key : String) : Option Value :=
  match v with
  | .dict items => items.lookup key
  | _ => none

/-! ## The JSON value -/

mutual

/-- What nlohmann's parser makes of the text. -/
def Value.toJson : Value → Json
  | .none => .null
  | .bool b => .boolean b
  | .int n => if n < 0 then .numberInteger n else .numberUnsigned (UInt64.ofNat n.natAbs)
  | .str s => .string (bytes s)
  | .list elements => .array (elementsJson elements)
  | .dict items => .object (JsonText.enter [] (itemsJson items))

/-- The elements of a list. -/
def elementsJson : List Value → List Json
  | [] => []
  | v :: vs => v.toJson :: elementsJson vs

/-- The items of a dictionary. -/
def itemsJson : List (String × Value) → List (String × Json)
  | [] => []
  | f :: fs => (f.1, f.2.toJson) :: itemsJson fs

end

theorem itemsJson_eq (items : List (String × Value)) :
    itemsJson items = items.map fun f => (f.1, f.2.toJson) := by
  induction items with
  | nil => rfl
  | cons f fs ih => rw [itemsJson, ih, List.map_cons]

theorem dumpsItems_eq (ensureAscii sortKeys : Bool) (items : List (String × Value)) :
    dumpsItems ensureAscii sortKeys items =
      items.map fun f => (f.1, dumps ensureAscii sortKeys f.2) := by
  induction items with
  | nil => rfl
  | cons f fs ih => rw [dumpsItems, ih, List.map_cons]

/-- The values a program sends: dictionaries with distinct ASCII keys of
booleans, strings and numbers that fit into 64 bits. -/
inductive Simple : Value → Prop
  | bool (b : Bool) : Simple (.bool b)
  | int {n : Nat} (h : n < 2 ^ 64) : Simple (.int n)
  | str (s : String) : Simple (.str s)
  | dict {items : List (String × Value)} (hdistinct : (items.map (·.1)).Nodup)
      (hkeys : ∀ f ∈ items, Json.asciiKey f.1 = true) (hsimple : ∀ f ∈ items, Simple f.2) :
      Simple (.dict items)

/-! ## Characters -/

theorem le_toNat_of_mem_encodeChar {c : Char} (h : 128 ≤ c.toNat) {b : UInt8}
    (hb : b ∈ String.utf8EncodeChar c) : 128 ≤ b.toNat := by
  change 128 ≤ c.val.toNat at h
  have hscalar : c.val.toNat < 0xD800 ∨ 0xDFFF < c.val.toNat ∧ c.val.toNat < 0x110000 := c.valid
  unfold String.utf8EncodeChar at hb
  dsimp only at hb
  generalize c.val.toNat = n at h hb hscalar
  have hofNat : ∀ m, 128 ≤ m → m < 256 → 128 ≤ (UInt8.ofNat m).toNat := fun m hm hm' => by
    rwa [UInt8.toNat_ofNat_of_lt' hm']
  rw [if_neg (by omega)] at hb
  split at hb
  · simp only [List.mem_cons, List.not_mem_nil, or_false] at hb
    rcases hb with rfl | rfl
    · exact hofNat _ (by omega) (by omega)
    · exact hofNat _ (by omega) (by omega)
  split at hb
  · simp only [List.mem_cons, List.not_mem_nil, or_false] at hb
    rcases hb with rfl | rfl | rfl
    · exact hofNat _ (by omega) (by omega)
    · exact hofNat _ (by omega) (by omega)
    · exact hofNat _ (by omega) (by omega)
  · simp only [List.mem_cons, List.not_mem_nil, or_false] at hb
    rcases hb with rfl | rfl | rfl | rfl
    · exact hofNat _ (by omega) (by omega)
    · exact hofNat _ (by omega) (by omega)
    · exact hofNat _ (by omega) (by omega)
    · exact hofNat _ (by omega) (by omega)

/-- From DEL on, `ensure_ascii` makes the difference. -/
theorem escapeChar_of_le {c : Char} (h : 127 ≤ c.toNat) :
    escapeChar false c = String.utf8EncodeChar c ∧
      escapeChar true c = if c.toNat < 0x10000 then unicodeEscape c.toNat
        else unicodeEscape (0xD800 + (c.toNat - 0x10000) / 1024) ++
          unicodeEscape (0xDC00 + (c.toNat - 0x10000) % 1024) := by
  unfold escapeChar
  simp only [if_neg (show ¬ c.toNat = 34 by omega), if_neg (show ¬ c.toNat = 92 by omega),
    if_neg (show ¬ c.toNat = 8 by omega), if_neg (show ¬ c.toNat = 9 by omega),
    if_neg (show ¬ c.toNat = 10 by omega), if_neg (show ¬ c.toNat = 12 by omega),
    if_neg (show ¬ c.toNat = 13 by omega), if_neg (show ¬ c.toNat < 32 by omega)]
  constructor
  · rw [if_pos (by simp)]
  · rw [if_neg (by simpa using h)]

theorem escapeChar_of_lt {c : Char} (h : c.toNat < 127) :
    escapeChar true c = escapeChar false c := by
  unfold escapeChar
  simp only [decide_eq_true h, Bool.true_or]

theorem length_escapeChar {c : Char} (h : 127 ≤ c.toNat) :
    (escapeChar false c).length < (escapeChar true c).length := by
  obtain ⟨hplain, hescaped⟩ := escapeChar_of_le h
  rw [hplain, hescaped, String.length_utf8EncodeChar]
  split
  · next hsmall =>
    have hsize : c.utf8Size ≤ 4 := Char.utf8Size_le_four c
    change c.utf8Size < 6
    omega
  · have hsize : c.utf8Size ≤ 4 := Char.utf8Size_le_four c
    change c.utf8Size < 12
    omega

theorem escapeChar_unescaped (c : Char) :
    escapeChar false c = (String.utf8EncodeChar c).flatMap JsonText.escape := by
  by_cases h : c.toNat < 128
  · have hall : ∀ n < 128, escapeChar false (Char.ofNat n) =
        (String.utf8EncodeChar (Char.ofNat n)).flatMap JsonText.escape := by decide +kernel
    have hc := hall c.toNat h
    rwa [Char.ofNat_toNat] at hc
  · have hescape : ∀ b ∈ String.utf8EncodeChar c, JsonText.escape b = [b] := by
      intro b hb
      have hge := le_toNat_of_mem_encodeChar (Nat.not_lt.mp h) hb
      rw [JsonText.escape, if_neg (by omega), if_neg (by omega), if_pos (by omega)]
    rw [List.flatMap_congr hescape, List.flatMap_singleton']
    exact (escapeChar_of_le (by omega)).1

/-! ## Unescaped text -/

/-- Python writes strings as nlohmann does. -/
theorem quote_unescaped (s : String) : quote false s = JsonText.quote (bytes s) := by
  rw [quote, JsonText.quote, bytes_eq_flatMap, List.flatMap_assoc]
  rw [List.flatMap_congr fun c _ => escapeChar_unescaped c]

theorem joinItems_unsorted (items : List (String × Bytes)) :
    joinItems false false items = JsonText.joinFields items := by
  unfold joinItems JsonText.joinFields
  rw [List.map_congr_left fun f _ => by rw [quote_unescaped]]
  rfl

theorem bytesLess_iff_lt {cs ds : List Char} (hcs : ∀ c ∈ cs, c.toNat < 128)
    (hds : ∀ d ∈ ds, d.toNat < 128) :
    bytesLess (cs.map (·.toUInt8)) (ds.map (·.toUInt8)) = true ↔ cs < ds := by
  induction cs generalizing ds with
  | nil =>
    cases ds with
    | nil => simp [bytesLess]
    | cons d ds => simp [bytesLess]
  | cons c cs ih =>
    cases ds with
    | nil => simp [bytesLess]
    | cons d ds =>
      have hval : ∀ e : Char, e.toNat < 128 → e.toUInt8.toNat = e.toNat := fun e he => by
        rw [Char.toUInt8, UInt32.toNat_toUInt8]
        exact Nat.mod_eq_of_lt (Nat.lt_trans he (by decide))
      have hrest := ih (fun e he => hcs e (List.mem_cons_of_mem c he))
        fun e he => hds e (List.mem_cons_of_mem d he)
      rw [List.map_cons, List.map_cons, bytesLess, hval c (hcs c List.mem_cons_self),
        hval d (hds d List.mem_cons_self), List.cons_lt_cons_iff]
      split
      · next heq =>
        have hcd : c = d := Char.toNat_inj.mp heq
        rw [hrest, hcd]
        simp
      · next hne =>
        have hcd : c ≠ d := fun h => hne (congrArg Char.toNat h)
        rw [decide_eq_true_iff]
        simp [hcd, Char.lt_def, UInt32.lt_iff_toNat_lt]

/-- The orders of the two languages agree on ASCII keys. -/
theorem keyLess_iff_lt {a b : String} (ha : Json.asciiKey a = true) (hb : Json.asciiKey b = true) :
    Json.keyLess a b = true ↔ a < b := by
  have hascii : ∀ {s : String}, Json.asciiKey s = true → ∀ c ∈ s.toList, c.toNat < 128 :=
    fun h c hc => by simpa using List.all_eq_true.mp h c hc
  rw [Json.keyLess, bytes_of_ascii (hascii ha), bytes_of_ascii (hascii hb),
    bytesLess_iff_lt (hascii ha) (hascii hb), String.lt_iff]

/-! ## Sorted items -/

theorem insertField_perm {key : String} {v : Json} {fs : List (String × Json)}
    (h : key ∉ fs.map (·.1)) : (Json.insertField key v fs).Perm ((key, v) :: fs) := by
  induction fs with
  | nil => exact List.Perm.refl _
  | cons f fs ih =>
    rw [List.map_cons, List.mem_cons, not_or] at h
    unfold Json.insertField
    rw [if_neg h.1]
    split
    · exact List.Perm.refl _
    · exact ((ih h.2).cons f).trans (List.Perm.swap _ _ _)

theorem enter_perm {before fs : List (String × Json)}
    (h : ((before ++ fs).map (·.1)).Nodup) : (JsonText.enter before fs).Perm (before ++ fs) := by
  induction fs generalizing before with
  | nil => rw [List.append_nil]; exact List.Perm.refl _
  | cons f fs ih =>
    have hf : f.1 ∉ before.map (·.1) := by
      rw [List.map_append, List.map_cons, List.nodup_append] at h
      exact fun hmem => h.2.2 _ hmem _ List.mem_cons_self rfl
    have hstep : (Json.insertField f.1 f.2 before).Perm (f :: before) := insertField_perm hf
    have hperm : (Json.insertField f.1 f.2 before ++ fs).Perm (before ++ f :: fs) :=
      (hstep.append_right fs).trans List.perm_middle.symm
    exact (ih ((hperm.map _).nodup_iff.mpr h)).trans hperm

theorem enter_sorted {before : List (String × Json)} (fs : List (String × Json))
    (h : Json.Sorted before) : Json.Sorted (JsonText.enter before fs) := by
  induction fs generalizing before with
  | nil => exact h
  | cons f fs ih => exact ih (Json.sorted_insertField _ _ h)

/-- Sorting the items is what entering them one after the other comes to. -/
theorem sortItems_eq_enter {fs : List (String × Json)} (hdistinct : (fs.map (·.1)).Nodup)
    (hkeys : ∀ f ∈ fs, Json.asciiKey f.1 = true) : sortItems fs = JsonText.enter [] fs := by
  have hperm : (JsonText.enter [] fs).Perm fs := enter_perm hdistinct
  have hsorted : (JsonText.enter [] fs).Pairwise fun f g => f.1 ≤ g.1 := by
    refine List.Pairwise.imp_of_mem ?_ (enter_sorted fs List.Pairwise.nil)
    intro f g hf hg hless
    exact le_of_lt ((keyLess_iff_lt (hkeys f (hperm.mem_iff.mp hf))
      (hkeys g (hperm.mem_iff.mp hg))).mp hless)
  refine List.Perm.eq_of_pairwise ?_ (List.pairwise_insertionSort _ fs) hsorted
    ((List.perm_insertionSort _ fs).trans hperm.symm)
  intro f g hf hg hle hge
  have hf : f ∈ fs := (List.mem_insertionSort _).mp hf
  exact List.inj_on_of_nodup_map hdistinct hf (hperm.mem_iff.mp hg) (le_antisymm hle hge)

theorem sortItems_map {α β : Type} (g : α → β) (fs : List (String × α)) :
    sortItems (fs.map fun f => (f.1, g f.2)) = (sortItems fs).map fun f => (f.1, g f.2) :=
  (List.map_insertionSort (fun f g : String × α => f.1 ≤ g.1)
    (fun f g : String × β => f.1 ≤ g.1) (fun f => (f.1, g f.2)) fs fun _ _ _ _ => Iff.rfl).symm

/-- **Sorted text.** Sorted and unescaped, Python writes what `dump()` writes. -/
theorem dumps_sorted {v : Value} (h : Simple v) :
    dumps false true v = JsonText.render v.toJson := by
  induction h with
  | bool b => cases b <;> rfl
  | @int n h =>
    have hnonneg : ¬ (n : Int) < 0 := Int.not_lt.mpr (Int.natCast_nonneg n)
    rw [dumps, Value.toJson, if_neg hnonneg, if_neg hnonneg, Int.natAbs_natCast, JsonText.render,
      UInt64.toNat_ofNat_of_lt' h]
  | str s => rw [dumps, quote_unescaped, Value.toJson, JsonText.render]
  | @dict items hdistinct hkeys _ ih =>
    have htexts : dumpsItems false true items =
        (itemsJson items).map fun f => (f.1, JsonText.render f.2) := by
      rw [dumpsItems_eq, itemsJson_eq, List.map_map]
      exact List.map_congr_left fun f hf => by rw [ih f hf]; rfl
    have hfields : sortItems (itemsJson items) = JsonText.enter [] (itemsJson items) := by
      apply sortItems_eq_enter
      · rwa [itemsJson_eq, List.map_map]
      · intro f hf
        rw [itemsJson_eq] at hf
        obtain ⟨g, hg, rfl⟩ := List.mem_map.mp hf
        exact hkeys g hg
    have hjoin : joinItems false true (dumpsItems false true items) =
        JsonText.renderFields (JsonText.enter [] (itemsJson items)) := by
      rw [JsonText.renderFields_eq, ← joinItems_unsorted, htexts, ← hfields]
      unfold joinItems
      rw [if_pos rfl, sortItems_map]
      rfl
    rw [dumps, hjoin, Value.toJson, JsonText.render]

/-! ## Escaped text -/

/-- Every character comes before DEL. -/
def printable (s : String) : Bool := s.toList.all fun c => c.toNat < 127

mutual

/-- Every character of every string comes before DEL. -/
def Value.printable : Value → Bool
  | .str s => PyJson.printable s
  | .list elements => printableElements elements
  | .dict items => printableItems items
  | _ => true

/-- `printable` on the elements of a list. -/
def printableElements : List Value → Bool
  | [] => true
  | v :: vs => v.printable && printableElements vs

/-- `printable` on the items of a dictionary. -/
def printableItems : List (String × Value) → Bool
  | [] => true
  | f :: fs => PyJson.printable f.1 && f.2.printable && printableItems fs

end

theorem quote_printable {s : String} (h : printable s = true) : quote true s = quote false s := by
  unfold quote
  rw [List.flatMap_congr fun c hc =>
    escapeChar_of_lt (by simpa using List.all_eq_true.mp h c hc)]

/-- A longer text for a string that is not printable, and never a shorter one. -/
theorem length_quote (s : String) : (quote false s).length ≤ (quote true s).length ∧
    (printable s = false → (quote false s).length < (quote true s).length) := by
  have hchars : ∀ cs : List Char,
      (cs.flatMap (escapeChar false)).length ≤ (cs.flatMap (escapeChar true)).length ∧
      ((cs.all fun c => c.toNat < 127) = false →
        (cs.flatMap (escapeChar false)).length < (cs.flatMap (escapeChar true)).length) := by
    intro cs
    induction cs with
    | nil => exact ⟨Nat.le_refl _, fun h => by cases h⟩
    | cons c cs ih =>
      simp only [List.flatMap_cons, List.length_append, List.all_cons, Bool.and_eq_false_iff,
        decide_eq_false_iff_not]
      by_cases hc : c.toNat < 127
      · rw [escapeChar_of_lt hc]
        exact ⟨Nat.add_le_add_left ih.1 _, fun h =>
          Nat.add_lt_add_left (ih.2 (h.resolve_left (not_not_intro hc))) _⟩
      · have hlt := length_escapeChar (Nat.not_lt.mp hc)
        have hle := ih.1
        exact ⟨by omega, fun _ => by omega⟩
  obtain ⟨hle, hlt⟩ := hchars s.toList
  simp only [quote, List.length_cons, List.length_append, List.length_nil]
  exact ⟨by omega, fun h => by have := hlt h; omega⟩

theorem printableItems_iff (items : List (String × Value)) :
    printableItems items = true ↔
      ∀ f ∈ items, printable f.1 = true ∧ f.2.printable = true := by
  induction items with
  | nil => simp [printableItems]
  | cons f fs ih => simp [printableItems, ih]

theorem sortItems_perm {α : Type} (items : List (String × α)) : (sortItems items).Perm items :=
  List.perm_insertionSort _ items

theorem length_intercalate (sep : UInt8) (parts : List Bytes) :
    (List.intercalate [sep] parts).length = (parts.map List.length).sum + (parts.length - 1) := by
  induction parts with
  | nil => rfl
  | cons p ps ih =>
    cases ps with
    | nil => simp [List.intercalate]
    | cons q qs =>
      simp only [List.intercalate, List.intersperse_cons_cons, List.flatten_cons,
        List.length_append, List.map_cons, List.sum_cons, List.length_cons, List.length_nil] at ih ⊢
      omega

theorem length_joinItems (ensureAscii sortKeys : Bool) (items : List (String × Bytes)) :
    (joinItems ensureAscii sortKeys items).length =
      (items.map fun f => (quote ensureAscii f.1).length + 1 + f.2.length).sum +
        (items.length - 1) := by
  have hperm : (if sortKeys then sortItems items else items).Perm items := by
    split
    · exact sortItems_perm items
    · exact List.Perm.refl _
  rw [joinItems, length_intercalate, List.length_map, hperm.length_eq, List.map_map]
  rw [(hperm.map _).sum_eq]
  congr 2
  refine List.map_congr_left fun f _ => ?_
  simp only [Function.comp_apply, List.length_append, List.length_cons]
  omega

theorem joinItems_printable {sortKeys : Bool} {items : List (String × Bytes)}
    (h : ∀ f ∈ items, printable f.1 = true) :
    joinItems true sortKeys items = joinItems false sortKeys items := by
  unfold joinItems
  have hmem : ∀ f ∈ (if sortKeys then sortItems items else items), f ∈ items := by
    split
    · exact fun f hf => (sortItems_perm items).mem_iff.mp hf
    · exact fun f hf => hf
  rw [List.map_congr_left fun f hf => by rw [quote_printable (h f (hmem f hf))]]

/-- What holds of the texts of a value with escapes and without. -/
structure Escapes (sortKeys : Bool) (v : Value) : Prop where
  same : v.printable = true → dumps true sortKeys v = dumps false sortKeys v
  le : (dumps false sortKeys v).length ≤ (dumps true sortKeys v).length
  lt : v.printable = false → (dumps false sortKeys v).length < (dumps true sortKeys v).length

theorem escapes_dict {sortKeys : Bool} {items : List (String × Value)}
    (h : ∀ f ∈ items, Escapes sortKeys f.2) : Escapes sortKeys (.dict items) := by
  have hlength : ∀ e, (dumps e sortKeys (.dict items)).length =
      (items.map fun f => (quote e f.1).length + 1 + (dumps e sortKeys f.2).length).sum +
        (items.length - 1) + 2 := by
    intro e
    rw [dumps, List.length_cons, List.length_append, length_joinItems, dumpsItems_eq,
      List.map_map, List.length_map]
    rfl
  have hsum : (items.map fun f =>
        (quote false f.1).length + 1 + (dumps false sortKeys f.2).length).sum ≤
      (items.map fun f => (quote true f.1).length + 1 + (dumps true sortKeys f.2).length).sum ∧
      (printableItems items = false →
        (items.map fun f =>
          (quote false f.1).length + 1 + (dumps false sortKeys f.2).length).sum <
        (items.map fun f =>
          (quote true f.1).length + 1 + (dumps true sortKeys f.2).length).sum) := by
    clear hlength
    induction items with
    | nil => exact ⟨Nat.le_refl _, fun h => by cases h⟩
    | cons f fs ih =>
      obtain ⟨hle, hlt⟩ := ih fun g hg => h g (List.mem_cons_of_mem f hg)
      have hvalue := h f List.mem_cons_self
      have hkey := length_quote f.1
      have hvalueLe := hvalue.le
      simp only [List.map_cons, List.sum_cons, printableItems, Bool.and_eq_false_iff]
      refine ⟨by omega, ?_⟩
      rintro ((hprintable | hprintable) | hprintable)
      · have := hkey.2 hprintable
        omega
      · have := hvalue.lt hprintable
        omega
      · have := hlt hprintable
        omega
  refine ⟨fun hprintable => ?_, ?_, fun hprintable => ?_⟩
  · rw [Value.printable, printableItems_iff] at hprintable
    have htexts : dumpsItems true sortKeys items = dumpsItems false sortKeys items := by
      rw [dumpsItems_eq, dumpsItems_eq]
      exact List.map_congr_left fun f hf => by rw [(h f hf).same (hprintable f hf).2]
    rw [dumps, dumps, htexts, joinItems_printable]
    intro f hf
    rw [dumpsItems_eq] at hf
    obtain ⟨g, hg, rfl⟩ := List.mem_map.mp hf
    exact (hprintable g hg).1
  · rw [hlength, hlength]
    have := hsum.1
    omega
  · rw [hlength, hlength]
    have := hsum.2 hprintable
    omega

theorem escapes {sortKeys : Bool} {v : Value} (h : Simple v) : Escapes sortKeys v := by
  induction h with
  | bool b => exact ⟨fun _ => by cases b <;> rfl, by cases b <;> rfl, fun h => by cases h⟩
  | int => exact ⟨fun _ => rfl, Nat.le_refl _, fun h => by cases h⟩
  | str s => exact ⟨quote_printable, (length_quote s).1, (length_quote s).2⟩
  | dict _ _ _ ih => exact escapes_dict ih

/-- **Escaped text.** It is the unescaped text just when no character is
escaped. -/
theorem dumps_escaped_iff {sortKeys : Bool} {v : Value} (h : Simple v) :
    dumps true sortKeys v = dumps false sortKeys v ↔ v.printable = true := by
  refine ⟨fun heq => ?_, (escapes h).same⟩
  by_contra hnot
  have hlt := (@escapes sortKeys v h).lt (Bool.not_eq_true _ ▸ hnot)
  rw [heq] at hlt
  exact Nat.lt_irrefl _ hlt

/-! ## Printable JSON -/

mutual

/-- Every character of every string comes before DEL. -/
def printableJson : Json → Bool
  | .string s => s.all fun b => b.toNat < 127
  | .array elements => printableJsons elements
  | .object fields => printableFields fields
  | _ => true

/-- `printableJson` on the elements of an array. -/
def printableJsons : List Json → Bool
  | [] => true
  | j :: js => printableJson j && printableJsons js

/-- `printableJson` on the fields of an object. -/
def printableFields : List (String × Json) → Bool
  | [] => true
  | f :: fs => printable f.1 && printableJson f.2 && printableFields fs

end

theorem printableFields_iff (fs : List (String × Json)) :
    printableFields fs = true ↔ ∀ f ∈ fs, printable f.1 = true ∧ printableJson f.2 = true := by
  induction fs with
  | nil => simp [printableFields]
  | cons f fs ih => simp [printableFields, ih]

theorem printableFields_perm {fs gs : List (String × Json)} (h : fs.Perm gs) :
    printableFields fs = printableFields gs := by
  rw [Bool.eq_iff_iff, printableFields_iff, printableFields_iff]
  exact ⟨fun hall f hf => hall f (h.mem_iff.mpr hf), fun hall f hf => hall f (h.mem_iff.mp hf)⟩

theorem all_bytes_eq_printable (s : String) :
    ((bytes s).all fun b => b.toNat < 127) = printable s := by
  have hchar : ∀ c : Char, ((String.utf8EncodeChar c).all fun b => b.toNat < 127) =
      decide (c.toNat < 127) := by
    intro c
    by_cases h : c.toNat < 128
    · have hall : ∀ n < 128, ((String.utf8EncodeChar (Char.ofNat n)).all fun b => b.toNat < 127) =
          decide ((Char.ofNat n).toNat < 127) := by decide +kernel
      have hc := hall c.toNat h
      rwa [Char.ofNat_toNat] at hc
    · obtain ⟨b, bs, hencode⟩ := List.exists_cons_of_ne_nil (@String.utf8EncodeChar_ne_nil c)
      have hb := le_toNat_of_mem_encodeChar (Nat.not_lt.mp h)
        (show b ∈ String.utf8EncodeChar c by rw [hencode]; exact List.mem_cons_self)
      rw [hencode, List.all_cons, decide_eq_false (by omega), decide_eq_false (by omega)]
      rfl
  rw [bytes_eq_flatMap, printable, List.all_flatMap]
  congr 1
  exact funext hchar

theorem build_eq_enter {fs : List (String × Json)} (hne : fs ≠ []) :
    Json.build fs = .object (JsonText.enter [] fs) := by
  have hbuild : ∀ (fs gs : List (String × Json)),
      fs.foldl (fun j f => Json.assign j f.1 f.2) (.object gs) =
        .object (JsonText.enter gs fs) := by
    intro fs
    induction fs with
    | nil => exact fun _ => rfl
    | cons f fs ih => exact fun gs => ih _
  obtain ⟨f, fs, rfl⟩ := List.exists_cons_of_ne_nil hne
  exact hbuild _ _

/-- A dictionary of a program becomes the object its items build. -/
theorem toJson_dict {items : List (String × Value)} (hne : items ≠ []) :
    (Value.dict items).toJson = Json.build (items.map fun f => (f.1, f.2.toJson)) := by
  rw [Value.toJson, itemsJson_eq, build_eq_enter (by simpa using hne)]

/-- The order of assignments to distinct keys does not matter. -/
theorem build_perm {fs gs : List (String × Json)} (hperm : fs.Perm gs)
    (hdistinct : (fs.map (·.1)).Nodup) (hkeys : ∀ f ∈ fs, Json.asciiKey f.1 = true) :
    Json.build fs = Json.build gs := by
  by_cases hne : fs = []
  · subst hne
    rw [List.nil_perm.mp hperm]
  have hne' : gs ≠ [] := by
    rintro rfl
    exact hne (List.perm_nil.mp hperm)
  have hdistinct' := (hperm.map (·.1)).nodup_iff.mp hdistinct
  have hkeys' : ∀ f ∈ gs, Json.asciiKey f.1 = true := fun f hf => hkeys f (hperm.mem_iff.mpr hf)
  rw [build_eq_enter hne, build_eq_enter hne', ← sortItems_eq_enter hdistinct hkeys,
    ← sortItems_eq_enter hdistinct' hkeys']
  have hsorted : sortItems fs = sortItems gs := by
    refine List.Perm.eq_of_pairwise ?_ (List.pairwise_insertionSort _ fs)
      (List.pairwise_insertionSort _ gs)
      ((sortItems_perm fs).trans (hperm.trans (sortItems_perm gs).symm))
    intro f g hf hg hle hge
    have hf : f ∈ fs := (List.mem_insertionSort _).mp hf
    have hg : g ∈ fs := hperm.mem_iff.mpr ((List.mem_insertionSort _).mp hg)
    exact List.inj_on_of_nodup_map hdistinct hf hg (le_antisymm hle hge)
  rw [hsorted]

theorem printableJson_build {fs : List (String × Json)} (hne : fs ≠ [])
    (hdistinct : (fs.map (·.1)).Nodup) (hkeys : (fs.map (·.1)).all printable = true) :
    printableJson (Json.build fs) = (fs.map (·.2)).all printableJson := by
  have hperm : (JsonText.enter [] fs).Perm fs := enter_perm hdistinct
  rw [build_eq_enter hne, printableJson, printableFields_perm hperm, Bool.eq_iff_iff,
    printableFields_iff, List.all_eq_true, List.forall_mem_map]
  refine forall₂_congr fun f hf => and_iff_right ?_
  exact List.all_eq_true.mp hkeys _ (List.mem_map_of_mem hf)

theorem enter_itemsJson_perm {items : List (String × Value)}
    (hdistinct : (items.map (·.1)).Nodup) :
    (JsonText.enter [] (itemsJson items)).Perm (itemsJson items) := by
  refine enter_perm ?_
  rwa [List.nil_append, itemsJson_eq, List.map_map]

theorem printableJson_toJson {v : Value} (h : Simple v) :
    printableJson v.toJson = v.printable := by
  induction h with
  | bool b => rfl
  | @int n h =>
    rw [Value.toJson, if_neg (Int.not_lt.mpr (Int.natCast_nonneg n))]
    rfl
  | str s => exact all_bytes_eq_printable s
  | @dict items hdistinct _ _ ih =>
    rw [Value.toJson, printableJson, printableFields_perm (enter_itemsJson_perm hdistinct),
      Value.printable, Bool.eq_iff_iff, printableFields_iff, printableItems_iff, itemsJson_eq]
    rw [List.forall_mem_map]
    exact forall₂_congr fun f hf => by rw [ih f hf]

/-- **Signed text.** With the default escapes, Python writes what `dump()`
writes just when every character comes before DEL. -/
theorem dumps_escaped_eq_render_iff {v : Value} (h : Simple v) :
    dumps true true v = JsonText.render v.toJson ↔ printableJson v.toJson = true := by
  rw [← dumps_sorted h, dumps_escaped_iff h, printableJson_toJson h]

/-! ## Text that is read -/

theorem plain_toJson {v : Value} (h : Simple v) : v.toJson.Plain := by
  induction h with
  | bool b => exact .boolean b
  | @int n h =>
    rw [Value.toJson, if_neg (Int.not_lt.mpr (Int.natCast_nonneg n))]
    exact .numberUnsigned _
  | str s => exact .string (validUtf8_bytes s)
  | @dict items hdistinct hkeys _ ih =>
    have hmem : ∀ f ∈ JsonText.enter [] (itemsJson items),
        ∃ g ∈ items, f = (g.1, g.2.toJson) := by
      intro f hf
      have hf := (enter_itemsJson_perm hdistinct).mem_iff.mp hf
      rw [itemsJson_eq] at hf
      obtain ⟨g, hg, rfl⟩ := List.mem_map.mp hf
      exact ⟨g, hg, rfl⟩
    refine .object (enter_sorted _ List.Pairwise.nil) (fun f hf => ?_) fun f hf => ?_
    · obtain ⟨g, hg, rfl⟩ := hmem f hf
      exact hkeys g hg
    · obtain ⟨g, hg, rfl⟩ := hmem f hf
      exact ih g hg

theorem reads_dumps {v : Value} (h : Simple v) :
    JsonText.Reads (dumps false false v) v.toJson := by
  induction h with
  | bool b =>
    cases b
    · exact JsonText.reads_boolean false
    · exact JsonText.reads_boolean true
  | @int n h =>
    have hnonneg : ¬ (n : Int) < 0 := Int.not_lt.mpr (Int.natCast_nonneg n)
    have hread := JsonText.reads_decimal (UInt64.ofNat n)
    rw [UInt64.toNat_ofNat_of_lt' h] at hread
    rw [dumps, Value.toJson, if_neg hnonneg, if_neg hnonneg, Int.natAbs_natCast]
    exact hread
  | str s =>
    rw [dumps, quote_unescaped]
    exact JsonText.reads_string _
  | @dict items hdistinct hkeys _ ih =>
    have hread := @JsonText.reads_object
      (items.map fun f => (f.1, dumps false false f.2, f.2.toJson)) (fun t ht => by
        obtain ⟨f, hf, rfl⟩ := List.mem_map.mp ht
        exact hkeys f hf) (fun t ht => by
        obtain ⟨f, hf, rfl⟩ := List.mem_map.mp ht
        exact ih f hf)
    rw [List.map_map, List.map_map] at hread
    rw [dumps, joinItems_unsorted, dumpsItems_eq, Value.toJson, itemsJson_eq]
    exact hread

/-- **Sent text.** Unescaped text is read as the value it was written from. -/
theorem parse_dumps {v : Value} (h : Simple v) (white : Bytes)
    (hwhite : ∀ b ∈ white, Json.isWhite b = true) :
    JsonText.parse (dumps false false v ++ white) = .ok v.toJson :=
  JsonText.parse_of_reads (reads_dumps h) (plain_toJson h).utf8 hwhite

/-- **Received text.** Python reads what `dump()` has written. -/
theorem ofJson_of_plain {j : Json} (h : j.Plain) :
    ∃ v, ofJson j = some v ∧ Simple v ∧ v.toJson = j := by
  induction h with
  | boolean b => exact ⟨.bool b, rfl, .bool b, rfl⟩
  | numberUnsigned n =>
    refine ⟨.int n.toNat, rfl, .int n.toNat_lt, ?_⟩
    rw [Value.toJson, if_neg (Int.not_lt.mpr (Int.natCast_nonneg _)), Int.natAbs_natCast,
      UInt64.ofNat_toNat]
  | @string s h =>
    obtain ⟨t, rfl⟩ := exists_bytes_of_validUtf8 h
    exact ⟨.str t, by rw [ofJson, fromUtf8_bytes]; rfl, .str t, rfl⟩
  | @object fs hsorted hkeys hplain ih =>
    have hitems : ∃ items, ofFields fs = some items ∧ itemsJson items = fs ∧
        ∀ f ∈ items, Simple f.2 := by
      clear hsorted hkeys hplain
      induction fs with
      | nil => exact ⟨[], rfl, rfl, by simp⟩
      | cons f fs ihs =>
        obtain ⟨v, hv, hsimple, hjson⟩ := ih f List.mem_cons_self
        obtain ⟨items, hitems, hfields, hall⟩ := ihs fun g hg => ih g (List.mem_cons_of_mem f hg)
        refine ⟨(f.1, v) :: items, ?_, ?_, List.forall_mem_cons.mpr ⟨hsimple, hall⟩⟩
        · rw [ofFields, hv, hitems]
        · rw [itemsJson, hjson, hfields]
    obtain ⟨items, hitems, hfields, hall⟩ := hitems
    have hnames : items.map (·.1) = fs.map (·.1) := by
      rw [← hfields, itemsJson_eq, List.map_map]
      rfl
    refine ⟨.dict items, by rw [ofJson, hitems]; rfl, .dict ?_ ?_ hall, ?_⟩
    · rw [hnames, List.Nodup, List.pairwise_map]
      refine List.Pairwise.imp ?_ hsorted
      intro f g hless heq
      rw [heq, Json.keyLess_irrefl] at hless
      cases hless
    · intro f hf
      have hmem : f.1 ∈ fs.map (·.1) := hnames ▸ List.mem_map_of_mem hf
      obtain ⟨g, hg, hname⟩ := List.mem_map.mp hmem
      exact hname ▸ hkeys g hg
    · have henter := @JsonText.enter_of_sorted [] fs hsorted
      rw [Value.toJson, hfields, henter, List.nil_append]

theorem loads_render {j : Json} (h : j.Plain) :
    ∃ v, loads (JsonText.render j) = some v ∧ Simple v ∧ v.toJson = j := by
  have hparse := JsonText.parse_render h [] (by simp)
  rw [List.append_nil] at hparse
  unfold loads
  rw [hparse]
  exact ofJson_of_plain h

theorem mem_of_find {key : String} {fs : List (String × Json)} {j : Json}
    (h : Json.find key fs = some j) : (key, j) ∈ fs := by
  induction fs with
  | nil => cases h
  | cons f fs ih =>
    rw [Json.find] at h
    split at h
    · next heq =>
      obtain rfl := Option.some.inj h
      rw [heq]
      exact List.mem_cons_self
    · exact List.mem_cons_of_mem f (ih h)

/-- A key is looked up as in the JSON value. -/
theorem get_of_index {v : Value} (h : Simple v) {key : String} {j : Json}
    (hindex : v.toJson.index key = .ok j) :
    ∃ w, v.get key = some w ∧ Simple w ∧ w.toJson = j := by
  cases h with
  | bool b => cases hindex
  | int h =>
    rw [Value.toJson, if_neg (Int.not_lt.mpr (Int.natCast_nonneg _))] at hindex
    cases hindex
  | str s => cases hindex
  | @dict items hdistinct _ hsimple =>
    rw [Value.toJson, Json.index] at hindex
    split at hindex
    · next w hfind =>
      obtain rfl := Except.ok.inj hindex
      have hmem := (enter_itemsJson_perm hdistinct).mem_iff.mp (mem_of_find hfind)
      rw [itemsJson_eq] at hmem
      obtain ⟨f, hf, heq⟩ := List.mem_map.mp hmem
      obtain ⟨rfl, rfl⟩ := Prod.mk.inj heq
      refine ⟨f.2, ?_, hsimple f hf, rfl⟩
      obtain ⟨before, after, rfl⟩ := List.append_of_mem hf
      rw [Value.get, List.lookup_eq_some_iff]
      refine ⟨before, after, rfl, fun g hg => ?_⟩
      rw [List.map_append, List.map_cons, List.nodup_append] at hdistinct
      simpa using Ne.symm (hdistinct.2.2 _ (List.mem_map_of_mem hg) _ List.mem_cons_self)
    · cases hindex

end PyJson

end Pollbook
