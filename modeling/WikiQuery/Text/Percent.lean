/- Percent coding. A coder takes a set of ASCII characters and a text, and writes the bytes of the
   text one after another. Query values are written with every character of the set escaped that
   is no letter, no digit and none of `-`, `_`, `.` and `~`. -/
set_option autoImplicit false

namespace WikiQuery.Text

abbrev AsciiSet := UInt8 → Bool

namespace AsciiSet

def nonAlphanumeric : AsciiSet := fun b => b < 128 && !(Char.ofNat b.toNat).isAlphanum

def remove (set : AsciiSet) (c : Char) : AsciiSet := fun b => set b && b != c.toUInt8

def queryValue : AsciiSet :=
  (((nonAlphanumeric.remove '-').remove '_').remove '.').remove '~'

end AsciiSet

abbrev PercentCoder := AsciiSet → String → String

def upperHex (n : Nat) : Char :=
  if n < 10 then Char.ofNat (48 + n) else Char.ofNat (55 + n)

def percentByte (escaped : AsciiSet) (b : UInt8) : List Char :=
  if b < 128 && !escaped b then [Char.ofNat b.toNat]
  else ['%', upperHex (b.toNat / 16), upperHex (b.toNat % 16)]

def utf8 (cs : List Char) : List UInt8 := cs.flatMap String.utf8EncodeChar

def percentEncode : PercentCoder := fun escaped s =>
  String.ofList ((utf8 s.toList).flatMap (percentByte escaped))

end WikiQuery.Text
