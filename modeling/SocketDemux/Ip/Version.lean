/-!
# SocketDemux.Ip.Version

The two **versions of the internet protocol**. Their names are `IPv4` and `IPv6`,
in exactly this spelling; any other text is refused, and the refusal repeats it.
-/

namespace SocketDemux

/-- A version of the internet protocol. -/
inductive IpVersion
  | v4
  | v6
  deriving Repr, DecidableEq

namespace IpVersion

/-- The name of a version. -/
def text : IpVersion → String
  | v4 => "IPv4"
  | v6 => "IPv6"

/-- A version in diagnostic text. -/
def debugText : IpVersion → String
  | v4 => "V4"
  | v6 => "V6"

/-- A text that names no version. -/
structure ParseError where
  /-- The refused text. -/
  given : String
  deriving Repr, DecidableEq

/-- Why the text was refused. -/
def ParseError.text (e : ParseError) : String :=
  "only supported IP versions are IPv4 and IPv6, not [" ++ e.given ++ "]"

/-- The version of that name. -/
def parse (text : String) : Except ParseError IpVersion :=
  if text = "IPv4" then .ok .v4
  else if text = "IPv6" then .ok .v6
  else .error ⟨text⟩

theorem parse_text (v : IpVersion) : parse v.text = .ok v := by
  cases v <;> rfl

end IpVersion

end SocketDemux
