import SocketDemux.Demux.Condition
/-!
# SocketDemux.Demux.Framing

Ready-made **framing rules**, as conditions: records behind a delimiter, of a fixed
or announced length, between two marks, commands, runs to skip, and fixed sequences
of decisions.
-/

namespace SocketDemux

/-- A decision that is fixed beforehand, or relative to the length of the data. -/
inductive Choice
  | pending
  | cut (count : Nat)
  | discard (count : Nat)
  /-- The decision that a signed count stands for. -/
  | count (count : Int)
  /-- Cuts so many bytes more than there are; none if that is below zero. -/
  | cutRelative (offset : Int)
  /-- Discards so many bytes more than there are; none if that is below zero. -/
  | discardRelative (offset : Int)
  | panic (message : String)
  deriving Repr, DecidableEq

/-- What a choice decides about the data. -/
def Choice.verdict (choice : Choice) (data : Bytes) : Except String Decision :=
  match choice with
  | .pending => .ok .pending
  | .cut n => .ok (.cut n)
  | .discard n => .ok (.discard n)
  | .count n => .ok (Decision.ofCount n)
  | .cutRelative offset => .ok (.cut (data.length + offset).toNat)
  | .discardRelative offset => .ok (.discard (data.length + offset).toNat)
  | .panic message => .error message

/-- A framing rule. -/
inductive Framing
  /-- Records that end with a delimiter. -/
  | delimited (byte : UInt8)
  /-- Records of so many bytes. -/
  | fixed (size : Nat)
  /-- Records from one mark up to, but not including, another; what stands in front
  of the first mark is dropped. -/
  | between (first last : UInt8)
  /-- Records from one mark to another, if the data starts with one. -/
  | command (first last : UInt8)
  /-- Records whose first byte is the number of bytes that follow it. -/
  | counted
  /-- Drops the run of one byte at the front. -/
  | skip (byte : UInt8)
  /-- Panics at the sight of one byte. -/
  | refuse (byte : UInt8)
  /-- Decides the same every time. -/
  | always (choice : Choice)
  /-- One decision after the other, and none after the last. -/
  | sequence (choices : List Choice)
  deriving Repr, DecidableEq

namespace Framing

/-- Records between two marks. -/
def betweenDecision (first last : UInt8) (data : Bytes) : Decision :=
  match data.findIdx? (· = first) with
  | none => .discard data.length
  | some 0 =>
      match data.findIdx? (· = last) with
      | some position => .cut position
      | none => .pending
  | some position => .discard position

/-- Records that start with one mark and end with another. -/
def commandDecision (first last : UInt8) (data : Bytes) : Decision :=
  if data.head? = some first then
    match data.findIdx? (· = last) with
    | some position => .cut (position + 1)
    | none => .pending
  else .pending

/-- Records whose first byte is the number of bytes that follow it. -/
def countedDecision (data : Bytes) : Decision :=
  match data with
  | [] => .pending
  | length :: rest =>
      if length.toNat ≤ rest.length then .cut (length.toNat + 1) else .pending

/-- What a rule decides about the data. -/
def verdict (rule : Framing) (data : Bytes) : Except String Decision :=
  match rule with
  | delimited byte => .ok ((Delimiter.mk byte).decision data)
  | fixed size => .ok (if size ≤ data.length then .cut size else .pending)
  | between first last => .ok (betweenDecision first last data)
  | command first last => .ok (commandDecision first last data)
  | counted => .ok (countedDecision data)
  | skip byte => .ok (.discard (data.takeWhile (· = byte)).length)
  | refuse byte =>
      if byte ∈ data then .error ("unexpected byte " ++ toString byte.toNat) else .ok .pending
  | always choice => choice.verdict data
  | sequence [] => .ok .pending
  | sequence (choice :: _) => choice.verdict data

/-- The rule for the next question. -/
def next : Framing → Framing
  | sequence choices => sequence choices.tail
  | rule => rule

instance : Condition Framing where
  evaluate rule data := (rule.verdict data, rule.next)

end Framing

end SocketDemux
