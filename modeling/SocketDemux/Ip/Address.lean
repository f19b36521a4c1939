import SocketDemux.Ip.Version
/-!
# SocketDemux.Ip.Address

**Internet addresses** and their text.

* `IpAddress.text` — the canonical text. An IPv4 address is four decimal octets.
  An IPv6 address is eight hexadecimal groups without leading zeros, where the
  longest run of at least two zero groups (the leftmost of equal ones) is written
  `::`; an IPv4-mapped address ends in the dotted form of the address it maps.
* `IpAddress.parse?` — reads any text of an address: octets without leading zeros;
  groups of one to four digits in either case; at most one `::`, which stands for
  at least one group; and a dotted IPv4 address in the place of the last two
  groups, but not in front of `::`.
* `SocketAddress` — an address and a port. An IPv6 address stands between brackets,
  together with its scope if that is not zero.
-/

namespace SocketDemux

/-- An internet address. -/
inductive IpAddress
  /-- Four octets. -/
  | v4 (a b c d : Nat)
  /-- Eight groups of 16 bits, the first one first. -/
  | v6 (groups : List Nat)
  deriving Repr, DecidableEq

namespace IpAddress

/-- The protocol version of an address. -/
def version : IpAddress → IpVersion
  | v4 _ _ _ _ => .v4
  | v6 _ => .v6

/-- The address that stands for every address of the host. -/
def unspecified : IpVersion → IpAddress
  | .v4 => v4 0 0 0 0
  | .v6 => v6 [0, 0, 0, 0, 0, 0, 0, 0]

/-- The host's own address on the loopback interface. -/
def loopback : IpAddress := v4 127 0 0 1

/-- Is this the address of a group of receivers? -/
def isMulticast : IpAddress → Bool
  | v4 a _ _ _ => 224 ≤ a && a ≤ 239
  | v6 groups => groups.head?.any (0xff00 ≤ ·)

/-- Does it stand for every address of the host? -/
def isUnspecified (address : IpAddress) : Bool :=
  address = unspecified address.version

/-! ### Printing -/

/-- Four octets in dotted form. -/
def dotted (a b c d : Nat) : String :=
  ".".intercalate ([a, b, c, d].map toString)

/-- Groups in hexadecimal, with colons between them. -/
def colonHex (groups : List Nat) : String :=
  ":".intercalate (groups.map fun g => String.ofList (Nat.toDigits 16 g))

/-- How many zero groups `groups` starts with. -/
def leadingZeros (groups : List Nat) : Nat :=
  (groups.takeWhile (· = 0)).length

/-- Start and length of the longest run of zero groups, the leftmost of equal
ones; `start` is the index of the first group of the list. -/
def longestZeroRun (start : Nat) : List Nat → Nat × Nat
  | [] => (start, 0)
  | g :: rest =>
      let here := leadingZeros (g :: rest)
      let later := longestZeroRun (start + 1) rest
      if later.2 ≤ here then (start, here) else later

/-- The canonical text of eight groups. -/
def v6Text (groups : List Nat) : String :=
  match groups with
  | [0, 0, 0, 0, 0, 0xffff, high, low] =>
      "::ffff:" ++ dotted (high / 256) (high % 256) (low / 256) (low % 256)
  | _ =>
      let (start, length) := longestZeroRun 0 groups
      if 1 < length then
        colonHex (groups.take start) ++ "::" ++ colonHex (groups.drop (start + length))
      else colonHex groups

/-- The canonical text of an address. -/
def text : IpAddress → String
  | v4 a b c d => dotted a b c d
  | v6 groups => v6Text groups

/-! ### Reading -/

/-- The value of a digit in the given base. -/
def digitValue? (base : Nat) (c : Char) : Option Nat :=
  let value? :=
    if '0' ≤ c && c ≤ '9' then some (c.toNat - '0'.toNat)
    else if 'a' ≤ c && c ≤ 'f' then some (c.toNat - 'a'.toNat + 10)
    else if 'A' ≤ c && c ≤ 'F' then some (c.toNat - 'A'.toNat + 10)
    else none
  value?.filter (· < base)

/-- The number that a non-empty list of digits stands for. -/
def number? (base : Nat) (digits : List Char) : Option Nat :=
  if digits.isEmpty then none
  else digits.foldlM (fun acc c => (digitValue? base c).map (acc * base + ·)) 0

/-- A decimal octet: at most 255, without leading zeros. -/
def octet? (digits : List Char) : Option Nat :=
  if digits.length ≤ 3 && (digits.length = 1 || digits.head? ≠ some '0') then
    (number? 10 digits).filter (· < 256)
  else none

/-- A hexadecimal group of one to four digits. -/
def group? (digits : List Char) : Option Nat :=
  if digits.length ≤ 4 then number? 16 digits else none

/-- The parts of `text` between occurrences of `separator`. -/
def splitAt (separator : Char) : List Char → List (List Char)
  | [] => [[]]
  | c :: rest =>
      match splitAt separator rest with
      | part :: parts => if c = separator then [] :: part :: parts else (c :: part) :: parts
      | [] => [[c]]

/-- An address of four dotted octets. -/
def parseV4? (text : List Char) : Option (List Nat) := do
  let octets ← (splitAt '.' text).mapM octet?
  if octets.length = 4 then some octets else none

/-- One part of a colon separated text: a group, or, at the end and where it is
allowed, a dotted address that fills two. -/
def part? (dottedEnd : Bool) (text : List Char) : Option (List Nat) :=
  match group? text with
  | some g => some [g]
  | none =>
      if dottedEnd then
        match parseV4? text with
        | some [a, b, c, d] => some [a * 256 + b, c * 256 + d]
        | _ => none
      else none

/-- The groups of a list of parts; only the last one may be dotted. -/
def parts? (dottedEnd : Bool) : List (List Char) → Option (List Nat)
  | [] => some []
  | [last] => part? dottedEnd last
  | first :: rest => do
      let groups ← part? false first
      let more ← parts? dottedEnd rest
      some (groups ++ more)

/-- The groups between two ends of a text; an empty text has none. -/
def groups? (dottedEnd : Bool) (text : List Char) : Option (List Nat) :=
  if text.isEmpty then some [] else parts? dottedEnd (splitAt ':' text)

/-- The text in front of the first `::` and the text behind it. -/
def splitGap? : List Char → Option (List Char × List Char)
  | ':' :: ':' :: rest => some ([], rest)
  | [] => none
  | c :: rest => (splitGap? rest).map fun (front, back) => (c :: front, back)

/-- The eight groups that a text stands for. -/
def parseV6? (text : List Char) : Option (List Nat) :=
  match splitGap? text with
  | none => (parts? true (splitAt ':' text)).filter (·.length = 8)
  | some (front, back) => do
      let head ← groups? false front
      let tail ← groups? true back
      if head.length + tail.length ≤ 7 then
        some (head ++ List.replicate (8 - head.length - tail.length) 0 ++ tail)
      else none

/-- The address that a text stands for. -/
def parseChars? (text : List Char) : Option IpAddress :=
  match parseV4? text with
  | some [a, b, c, d] => some (v4 a b c d)
  | _ => (parseV6? text).map v6

/-- The address that a text stands for. -/
def parse? (text : String) : Option IpAddress := parseChars? text.toList

end IpAddress

/-- An address, a port, and the scope of a link-local address. -/
structure SocketAddress where
  ip : IpAddress
  port : Nat
  scope : Nat := 0
  deriving Repr, DecidableEq

namespace SocketAddress

/-- The protocol version of an address. -/
def version (address : SocketAddress) : IpVersion := address.ip.version

/-- The "any" address of a protocol version, with a port. -/
def unspecified (version : IpVersion) (port : Nat) : SocketAddress :=
  ⟨IpAddress.unspecified version, port, 0⟩

/-- The text of an address with its port. -/
def text (address : SocketAddress) : String :=
  match address.ip with
  | .v4 a b c d => IpAddress.dotted a b c d ++ ":" ++ toString address.port
  | .v6 groups =>
      let scope := if address.scope = 0 then "" else "%" ++ toString address.scope
      "[" ++ IpAddress.v6Text groups ++ scope ++ "]:" ++ toString address.port

/-- A decimal number below `bound`. -/
def boundedNumber? (bound : Nat) (digits : List Char) : Option Nat :=
  (IpAddress.number? 10 digits).filter (· < bound)

/-- The text up to the first `mark`, and the text behind it. -/
def cutAt? (mark : Char) : List Char → Option (List Char × List Char)
  | [] => none
  | c :: rest =>
      if c = mark then some ([], rest)
      else (cutAt? mark rest).map fun (front, back) => (c :: front, back)

/-- The address inside the brackets, with its scope. -/
def bracketed? (text : List Char) : Option (List Nat × Nat) :=
  match cutAt? '%' text with
  | none => (IpAddress.parseV6? text).map (·, 0)
  | some (address, scope) => do
      let groups ← IpAddress.parseV6? address
      let scope ← boundedNumber? UInt32.size scope
      some (groups, scope)

/-- The address and port that a text stands for. -/
def parseChars? : List Char → Option SocketAddress
  | '[' :: rest => do
      let (inside, behind) ← cutAt? ']' rest
      let (groups, scope) ← bracketed? inside
      match behind with
      | ':' :: digits =>
          let port ← boundedNumber? UInt16.size digits
          some ⟨.v6 groups, port, scope⟩
      | _ => none
  | text => do
      let (address, digits) ← cutAt? ':' text
      let port ← boundedNumber? UInt16.size digits
      match IpAddress.parseV4? address with
      | some [a, b, c, d] => some ⟨.v4 a b c d, port, 0⟩
      | _ => none

/-- The address and port that a text stands for. -/
def parse? (text : String) : Option SocketAddress := parseChars? text.toList

end SocketAddress

end SocketDemux
