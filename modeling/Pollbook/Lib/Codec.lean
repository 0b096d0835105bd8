import Pollbook.Lib.Json

/-!
# The text codecs

JSON text and base64 come from libraries. They enter as four functions
(`Codec`); what is relied on is a separate predicate (`Codec.Lawful`), so a
result says by its hypotheses whether it depends on them.
-/

namespace Pollbook

/-- The JSON and base64 functions of the libraries. -/
structure Codec where
  /-- `nlohmann::json::parse` -/
  parse : Bytes → Cpp Json
  /-- the text `dump()` returns, when it returns -/
  render : Json → Bytes
  /-- `Base64::encode` -/
  encode : Bytes → Bytes
  /-- `Base64::decode` -/
  decode : Bytes → Cpp Bytes

namespace Codec

/-- `json.dump()`: a string that is not UTF-8 makes it throw. -/
def dump (c : Codec) (j : Json) : Cpp Bytes :=
  if j.utf8 then .ok (c.render j)
  else .error (.jsonException "[json.exception.type_error.316] invalid UTF-8 byte")

/-- What is relied on: parsing a written value gives it back, also with white
space behind it; decoding undoes encoding; encoded text is ASCII. -/
structure Lawful (c : Codec) : Prop where
  parse_render : ∀ {j : Json}, j.Plain → ∀ (white : Bytes), (∀ b ∈ white, Json.isWhite b = true) →
    c.parse (c.render j ++ white) = .ok j
  decode_encode : ∀ b : Bytes, c.decode (c.encode b) = .ok b
  encode_ascii : ∀ (b : Bytes), ∀ x ∈ c.encode b, x.toNat < 128

theorem dump_of_utf8 (c : Codec) {j : Json} (h : j.utf8 = true) : c.dump j = .ok (c.render j) := by
  rw [dump, if_pos h]

theorem dump_eq_ok {c : Codec} {j : Json} {text : Bytes} (h : c.dump j = .ok text) :
    j.utf8 = true ∧ text = c.render j := by
  unfold dump at h
  split at h
  · next hutf8 => exact ⟨hutf8, (Except.ok.inj h).symm⟩
  · cases h

/-- Writing plain values is injective. -/
theorem Lawful.render_injective {c : Codec} (hc : c.Lawful) {j k : Json} (hj : j.Plain)
    (hk : k.Plain) (h : c.render j = c.render k) : j = k := by
  have hpj := hc.parse_render hj [] (by simp)
  have hpk := hc.parse_render hk [] (by simp)
  rw [h, hpk] at hpj
  exact (Except.ok.inj hpj).symm

theorem Lawful.plain_encode {c : Codec} (hc : c.Lawful) (b : Bytes) :
    (Json.string (c.encode b)).Plain :=
  .string (validUtf8_of_ascii (hc.encode_ascii b))

end Codec

end Pollbook
