import SocketDemux.Network.Basic
/-!
# SocketDemux.Network.Directory

A **directory**: a network in which listeners and the ends of connections go by names.

A name stands for one thing at a time. Whoever gives a name away a second time closes
what had it before, and closing by name forgets the name.
-/

namespace SocketDemux

/-- What a name stands for. -/
inductive Named
  | listener (number : Nat)
  | endpoint (connection : Nat) (side : Side)
  deriving Repr, DecidableEq

/-- A network and the names of what is in it. -/
structure Directory where
  network : Network
  names : List (String × Named) := []

namespace Directory

/-- What a name stands for. -/
def lookup (d : Directory) (name : String) : Option Named := d.names.lookup name

/-- The listener of that name. -/
def listener? (d : Directory) (name : String) : Option (Nat × Binding) :=
  match d.lookup name with
  | some (.listener number) => (d.network.binding? number).map (number, ·)
  | _ => none

/-- The connection whose end goes by that name. -/
def endpoint? (d : Directory) (name : String) : Option (Nat × Side × Link) :=
  match d.lookup name with
  | some (.endpoint connection side) =>
      (d.network.connections[connection]?).map (connection, side, ·)
  | _ => none

/-- Closes what a name stands for, and forgets the name. -/
def close (d : Directory) (name : String) : Directory :=
  let names := d.names.filter (·.1 ≠ name)
  match d.lookup name with
  | none => d
  | some (.listener number) => ⟨d.network.setBinding number none, names⟩
  | some (.endpoint connection side) => ⟨d.network.modifyLink connection (·.close side), names⟩

/-- Gives a name to something; what had the name before is closed. -/
def assign (d : Directory) (name : String) (thing : Named) : Directory :=
  let d := d.close name
  { d with names := (name, thing) :: d.names }

/-- The name of one end of a connection, if it has one. -/
def nameOf? (d : Directory) (connection : Nat) (side : Side) : Option String :=
  (d.names.find? (·.2 = .endpoint connection side)).map (·.1)

/-- Is there a secure session at that end of a connection? -/
def isSecure (d : Directory) (connection : Nat) (side : Side) : Bool :=
  (d.network.connections[connection]?).any fun link => (link.get side).secure

/-- Replaces a connection. -/
def setLink (d : Directory) (connection : Nat) (link : Link) : Directory :=
  { d with network := d.network.modifyLink connection fun _ => link }

/-- A name stands for what it was given to. -/
theorem lookup_assign (d : Directory) (name : String) (thing : Named) :
    (d.assign name thing).lookup name = some thing := by
  simp [assign, lookup]

end Directory

end SocketDemux
