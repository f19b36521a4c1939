import SocketDemux.Endpoint.Basic
import SocketDemux.Host
/-!
# SocketDemux.Endpoint.Loopback

Endpoints whose secure session rides on a **connection over the loopback interface**.
Before the session is asked for anything, the connection has to be opened; where the
interface cannot be reached, there is no endpoint. The one who accepts is told the bare
error of the one who dials; the one who connects, that connecting has failed.
-/

namespace SocketDemux

namespace Endpoint

/-- An endpoint over an established session. -/
def overSession (options : EndpointOptions) : Endpoint :=
  { secure := true, addressed := true, options := options }

/-- The accepting end of a connection that somebody opens over the loopback
interface. -/
def acceptLoopback (host : Host) (options : EndpointOptions) : Except IoError Endpoint :=
  match host.dial with
  | .ok () => .ok (overSession options)
  | .error e => .error e

/-- The connecting end of such a connection. -/
def connectLoopback (host : Host) (options : EndpointOptions) : Except SocketError Endpoint :=
  match host.dial with
  | .ok () => .ok (overSession options)
  | .error e => .error (.failed .connect e)

end Endpoint

end SocketDemux
