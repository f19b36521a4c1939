import SocketDemux.Bytes
/-!
# SocketDemux.Text.Hex

**Bytes in hexadecimal**: two lowercase digits for each byte, the high one first.
`ofHex?_toHex`: what is written reads back.
-/

namespace SocketDemux.Text

/-- The digit of a value below sixteen. -/
def hexDigit (value : Nat) : Char := Nat.digitChar value

/-- The value of a lowercase digit. -/
def hexValue? (c : Char) : Option Nat :=
  if '0' ≤ c && c ≤ '9' then some (c.toNat - '0'.toNat)
  else if 'a' ≤ c && c ≤ 'f' then some (c.toNat - 'a'.toNat + 10)
  else none

/-- The two digits of a byte. -/
def byteDigits (byte : UInt8) : List Char :=
  [hexDigit (byte.toNat / 16), hexDigit (byte.toNat % 16)]

/-- The bytes that a list of digits stands for. -/
def ofHexChars? : List Char → Option Bytes
  | [] => some []
  | [_] => none
  | high :: low :: rest => do
      let h ← hexValue? high
      let l ← hexValue? low
      let more ← ofHexChars? rest
      some (UInt8.ofNat (h * 16 + l) :: more)

/-- Bytes in hexadecimal. -/
def toHex (bytes : Bytes) : String := String.ofList (bytes.flatMap byteDigits)

/-- The bytes that a text in hexadecimal stands for. -/
def ofHex? (text : String) : Option Bytes := ofHexChars? text.toList

theorem hexValue?_hexDigit : ∀ value < 16, hexValue? (hexDigit value) = some value := by decide

theorem ofHex?_toHex (bytes : Bytes) : ofHex? (toHex bytes) = some bytes := by
  simp only [ofHex?, toHex, String.toList_ofList]
  induction bytes with
  | nil => rfl
  | cons byte rest ih =>
    have bound := byte.toNat_lt
    have high : hexValue? (hexDigit (byte.toNat / 16)) = some (byte.toNat / 16) :=
      hexValue?_hexDigit _ (by omega)
    have low : hexValue? (hexDigit (byte.toNat % 16)) = some (byte.toNat % 16) :=
      hexValue?_hexDigit _ (by omega)
    have whole : byte.toNat / 16 * 16 + byte.toNat % 16 = byte.toNat := by omega
    simp only [List.flatMap_cons, byteDigits, List.cons_append, List.nil_append, ofHexChars?, high,
      low, ih, Option.bind_eq_bind, Option.bind_some, whole, UInt8.ofNat_toNat]

end SocketDemux.Text
