import SocketDemux.Bytes
/-!
# SocketDemux.Text.Utf8

**Reading bytes as text without ever failing.**

`decodeLossy` reads UTF-8. Where the bytes are not UTF-8, the longest run that
still could have been the start of a character is replaced by one replacement
character (U+FFFD), and decoding goes on right behind it. So a truncated
four-byte character gives one replacement character, and two stray bytes give
two.
-/

namespace SocketDemux.Text

/-- What stands for bytes that are no text. -/
def replacement : Char := '\ufffd'

/-- Is `b` a continuation byte? -/
def isContinuation (b : UInt8) : Bool := 0x80 ≤ b && b ≤ 0xbf

/-- The payload of a continuation byte. -/
def continuationBits (b : UInt8) : Nat := b.toNat % 0x40

/-- May `second` follow the first byte `lead` of a three-byte character? Excludes
overlong forms and surrogates. -/
def followsLead3 (lead second : UInt8) : Bool :=
  if lead = 0xe0 then 0xa0 ≤ second && second ≤ 0xbf
  else if lead = 0xed then 0x80 ≤ second && second ≤ 0x9f
  else isContinuation second

/-- May `second` follow the first byte `lead` of a four-byte character? Excludes
overlong forms and code points above U+10FFFF. -/
def followsLead4 (lead second : UInt8) : Bool :=
  if lead = 0xf0 then 0x90 ≤ second && second ≤ 0xbf
  else if lead = 0xf4 then 0x80 ≤ second && second ≤ 0x8f
  else isContinuation second

/-- The character that `lead` starts, and how many bytes of `rest` belong to it. -/
def decodeOne (lead : UInt8) (rest : Bytes) : Char × Nat :=
  if lead < 0x80 then (Char.ofNat lead.toNat, 0)
  else if 0xc2 ≤ lead && lead ≤ 0xdf then
    match rest with
    | b :: _ =>
        if isContinuation b then
          (Char.ofNat (lead.toNat % 0x20 * 0x40 + continuationBits b), 1)
        else (replacement, 0)
    | [] => (replacement, 0)
  else if 0xe0 ≤ lead && lead ≤ 0xef then
    match rest with
    | b :: more =>
        if followsLead3 lead b then
          match more with
          | c :: _ =>
              if isContinuation c then
                (Char.ofNat (lead.toNat % 0x10 * 0x1000 + continuationBits b * 0x40 +
                  continuationBits c), 2)
              else (replacement, 1)
          | [] => (replacement, 1)
        else (replacement, 0)
    | [] => (replacement, 0)
  else if 0xf0 ≤ lead && lead ≤ 0xf4 then
    match rest with
    | b :: more =>
        if followsLead4 lead b then
          match more with
          | c :: further =>
              if isContinuation c then
                match further with
                | d :: _ =>
                    if isContinuation d then
                      (Char.ofNat (lead.toNat % 0x08 * 0x40000 + continuationBits b * 0x1000 +
                        continuationBits c * 0x40 + continuationBits d), 3)
                    else (replacement, 2)
                | [] => (replacement, 2)
              else (replacement, 1)
          | [] => (replacement, 1)
        else (replacement, 0)
    | [] => (replacement, 0)
  else (replacement, 0)

/-- The characters that `bytes` encode. -/
def decodeChars (bytes : Bytes) : List Char :=
  match bytes with
  | [] => []
  | lead :: rest =>
      let (c, used) := decodeOne lead rest
      c :: decodeChars (rest.drop used)
termination_by bytes.length
decreasing_by
  rw [List.length_drop, List.length_cons]
  omega

/-- `bytes` as text; what is not UTF-8 becomes replacement characters. -/
def decodeLossy (bytes : Bytes) : String :=
  String.ofList (decodeChars bytes)

end SocketDemux.Text
