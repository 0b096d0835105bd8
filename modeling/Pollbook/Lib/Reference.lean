import Pollbook.Lib.Base64
import Pollbook.Lib.Codec
import Pollbook.Lib.JsonText

/-!
# Text codecs that exist

The codecs of `JsonText` and `Base64` together, which have everything
`Codec.Lawful` asks for. A codec is `Standard` when it does the same on the texts
that are well formed; on others it may do what it likes.
-/

namespace Pollbook

/-- JSON text and base64. -/
def Codec.reference : Codec where
  parse := JsonText.parse
  render := JsonText.render
  encode := Base64.encode
  decode text := .ok (Base64.decode text)

theorem Codec.reference_lawful : Codec.reference.Lawful where
  parse_render h white hwhite := JsonText.parse_render h white hwhite
  decode_encode b := congrArg Except.ok (Base64.decode_encode b)
  encode_ascii := Base64.encode_ascii

/-- The texts of this codec are the usual ones: plain values are written as
`JsonText` writes them, what `JsonText` reads is read like that, and bytes are
encoded as `Base64` encodes them, and decoded again. -/
structure Codec.Standard (c : Codec) : Prop where
  render : ∀ {j : Json}, j.Plain → c.render j = JsonText.render j
  parse : ∀ {text : Bytes} {j : Json}, JsonText.parse text = .ok j → j.Plain → c.parse text = .ok j
  encode : ∀ b : Bytes, c.encode b = Base64.encode b
  decode : ∀ b : Bytes, c.decode (Base64.encode b) = .ok b

theorem Codec.reference_standard : Codec.reference.Standard where
  render _ := rfl
  parse h _ := h
  encode _ := rfl
  decode := Codec.reference_lawful.decode_encode

namespace Codec.Standard

variable {c : Codec} (hc : c.Standard)

include hc

theorem lawful : c.Lawful where
  parse_render h white hwhite := by
    rw [hc.render h]
    exact hc.parse (JsonText.parse_render h white hwhite) h
  decode_encode b := by rw [hc.encode, hc.decode]
  encode_ascii b x hx := Base64.encode_ascii b x (hc.encode b ▸ hx)

theorem dump {j : Json} (hj : j.Plain) : c.dump j = .ok (JsonText.render j) := by
  rw [c.dump_of_utf8 hj.utf8, hc.render hj]

end Codec.Standard

end Pollbook
