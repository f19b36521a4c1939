import SocketDemux.Demux.Framing
import SocketDemux.Demux.Interleaving
import SocketDemux.Endpoint.Loopback
import SocketDemux.Endpoint.Stream
import SocketDemux.Datagram
import SocketDemux.Network.Directory
import SocketDemux.Text.Hex
import SocketDemux.Proofs.Buffer.Calls
import SocketDemux.Proofs.Buffer.Delimited
import SocketDemux.Proofs.Buffer.Queue
import SocketDemux.Proofs.Demux.Chunking
import SocketDemux.Proofs.Demux.Leftovers
import SocketDemux.Proofs.Demux.Finality
import SocketDemux.Proofs.Demux.Records
import SocketDemux.Proofs.Demux.Capacity
import SocketDemux.Proofs.Demux.Draining
import SocketDemux.Proofs.Demux.Wakeups
import SocketDemux.Proofs.Demux.Handles
import SocketDemux.Proofs.Demux.Dispatch
import SocketDemux.Proofs.Demux.Lifecycle
import SocketDemux.Proofs.Demux.Stopping
import SocketDemux.Proofs.Endpoint.Wire
import SocketDemux.Proofs.Endpoint.Reading
import SocketDemux.Proofs.Listener.Accepting
import SocketDemux.Proofs.Cancellation.Shared
import SocketDemux.Proofs.Cancellation.Endpoint
import SocketDemux.Proofs.Cancellation.Stream
import SocketDemux.Proofs.Cancellation.Listener
import SocketDemux.Proofs.Cancellation.Datagram
import SocketDemux.Proofs.Cancellation.Obedience
import SocketDemux.Proofs.Datagram.Exchange
import SocketDemux.Proofs.Buffer.Counted
import SocketDemux.Proofs.Endpoint.Attempts
import SocketDemux.Proofs.Endpoint.Harvest
import SocketDemux.Proofs.Endpoint.Pulls
import SocketDemux.Proofs.Endpoint.Reports
import SocketDemux.Proofs.Error.Meaning
