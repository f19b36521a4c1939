import SocketDemux.Error.OsCode
import SocketDemux.Text.Quoted
/-!
# SocketDemux.Error.Basic

The two error types of the library, and the ways between them.

* `IoError` — what the operating system, or a byte stream interface on top of it,
  reports: a raw code, a bare kind, a kind with a text, or a kind around another
  error, which is a whole `SocketError` or one from elsewhere. Of an error from
  elsewhere only its two texts are known, for people and for logs.
* `SocketError` — what an operation of this library reports: either `failed`, an
  input/output error together with the operation that met it, or one of the
  library's own failures (timeouts, cancellation, contract violations).

Each has a `kind`, a `text` for people and a `debugText` for logs. A `SocketError`
can be **copied** (`SocketError.copy`): the terminal failure of a demultiplexer is
handed out to every reader, but the error inside it has no copy of its own, so
the copy keeps the raw code if there is one, and kind and text otherwise.
`SocketError.toIo` embeds it into the stream interface's error type.
-/

namespace SocketDemux

/-- The operation that met an input/output error. -/
inductive Operation
  | socketCreate
  | setOption
  | bind
  | listen
  | accept
  | connect
  | pair
  | read
  | write
  /-- Waiting until the socket is ready. -/
  | poll
  | handshake
  | joinMulticast
  deriving Repr, DecidableEq

namespace Operation

/-- Every operation, in order. -/
def all : List Operation :=
  [socketCreate, setOption, bind, listen, accept, connect, pair, read, write, poll, handshake,
   joinMulticast]

/-- The name of the failure of this operation. -/
def label : Operation → String
  | socketCreate => "SocketCreate"
  | setOption => "SetOption"
  | bind => "Bind"
  | listen => "Listen"
  | accept => "Accept"
  | connect => "Connect"
  | pair => "Pair"
  | read => "Read"
  | write => "Write"
  | poll => "Poll"
  | handshake => "Handshake"
  | joinMulticast => "JoinMulticast"

/-- What went wrong, in words. -/
def phrase : Operation → String
  | socketCreate => "failed to create the socket"
  | setOption => "failed to set a socket option"
  | bind => "failed to bind the socket"
  | listen => "failed to listen on the socket"
  | accept => "failed to accept a connection"
  | connect => "failed to connect"
  | pair => "failed to create a socket pair"
  | read => "the read operation has failed"
  | write => "the write operation has failed"
  | poll => "waiting for socket readiness has failed"
  | handshake => "the secure handshake has failed"
  | joinMulticast => "failed to join the multicast group"

end Operation

mutual

/-- An input/output error. -/
inductive IoError
  /-- A raw code of the operating system. -/
  | os (code : OsCode)
  /-- Nothing but a kind. -/
  | plain (kind : ErrorKind)
  /-- A kind with one of the texts that are fixed in advance. -/
  | constant (kind : ErrorKind) (text : String)
  /-- A kind and a text of its own. -/
  | message (kind : ErrorKind) (text : String)
  /-- A kind around a failure of this library. -/
  | carrying (kind : ErrorKind) (inner : SocketError)
  /-- A kind around an error from elsewhere. -/
  | foreign (kind : ErrorKind) (text debugText : String)

/-- A failure of one of the library's operations. -/
inductive SocketError
  /-- Input/output failed underneath `op`. -/
  | failed (op : Operation) (cause : IoError)
  /-- The time budget of the operation is used up. -/
  | readTimeout
  /-- The peer closed the connection. -/
  | closed
  /-- All write attempts are used up; `written` bytes went out. -/
  | partialWrite (written : Nat)
  /-- Cancellation was requested; every later operation fails the same way. -/
  | terminationRequested
  /-- A condition claimed more bytes than were buffered. -/
  | invalidCondition (requested buffered : Nat)
  /-- The buffer is full and nothing in it matches. -/
  | bufferExhausted (capacity : Nat)
  /-- More bytes were asked for than are buffered. -/
  | outOfRange (requested buffered : Nat)
  /-- More bytes were asked for than the buffer can ever hold. -/
  | requestTooLarge (requested capacity : Nat)
  /-- No fragment is queued at the moment. -/
  | noData
  /-- Conditions are registered, and the worker is started, before the start only. -/
  | alreadyStarted
  /-- No condition goes by that handle. -/
  | invalidHandle
  /-- A condition has panicked, and the worker is gone. -/
  | workerPanicked
  /-- The datagram is larger than the receive buffer. -/
  | receiveBufferTooSmall (capacity : Nat)

end

deriving instance Repr, DecidableEq for IoError, SocketError

instance : Inhabited IoError := ⟨.plain .other⟩
instance : Inhabited SocketError := ⟨.closed⟩

/-! ### Kind -/

mutual

/-- The kind of an input/output error. -/
def IoError.kind : IoError → ErrorKind
  | .os code => code.kind
  | .plain kind => kind
  | .constant kind _ => kind
  | .message kind _ => kind
  | .carrying kind _ => kind
  | .foreign kind _ _ => kind

/-- The kind of a failure: that of the input/output error underneath, if there is
one. -/
def SocketError.kind : SocketError → ErrorKind
  | .failed _ cause => cause.kind
  | .readTimeout => .timedOut
  | .closed => .unexpectedEof
  | .partialWrite _ => .writeZero
  | .terminationRequested => .other
  | .invalidCondition _ _ => .invalidInput
  | .bufferExhausted _ => .outOfMemory
  | .outOfRange _ _ => .invalidInput
  | .requestTooLarge _ _ => .invalidInput
  | .noData => .wouldBlock
  | .alreadyStarted => .invalidInput
  | .invalidHandle => .invalidInput
  | .workerPanicked => .other
  | .receiveBufferTooSmall _ => .outOfMemory

end

/-! ### Text -/

mutual

/-- The text of an input/output error. -/
def IoError.text : IoError → String
  | .os code => code.text ++ " (os error " ++ toString code ++ ")"
  | .plain kind => kind.description
  | .constant _ text => text
  | .message _ text => text
  | .carrying _ inner => inner.text
  | .foreign _ text _ => text

/-- The text of a failure. -/
def SocketError.text : SocketError → String
  | .failed op cause => op.phrase ++ ": " ++ cause.text
  | .readTimeout => "the socket operation timed out"
  | .closed => "the connection was closed by the peer"
  | .partialWrite written =>
      "the write operation is incomplete, only " ++ toString written ++ " bytes were written"
  | .terminationRequested => "the socket operation was cancelled"
  | .invalidCondition requested buffered =>
      "condition consumed " ++ toString requested ++ " bytes, but only " ++ toString buffered ++
        " bytes are buffered"
  | .bufferExhausted capacity =>
      "the buffer of " ++ toString capacity ++ " bytes is exhausted without a match"
  | .outOfRange requested buffered =>
      "requested " ++ toString requested ++ " bytes, but only " ++ toString buffered ++
        " bytes are buffered"
  | .requestTooLarge requested capacity =>
      "requested " ++ toString requested ++ " bytes, which exceeds the buffer capacity of " ++
        toString capacity ++ " bytes"
  | .noData => "no data is available yet"
  | .alreadyStarted => "the demultiplexer has already been started"
  | .invalidHandle => "the condition handle does not belong to this demultiplexer"
  | .workerPanicked => "the demultiplexer worker has panicked"
  | .receiveBufferTooSmall capacity =>
      "the datagram does not fit into the receive buffer of " ++ toString capacity ++ " bytes"

end

/-! ### Diagnostic text -/

/-- A constructor with named fields, the way diagnostic text shows one:
the name, then the fields between braces. -/
def record (name : String) (fields : List (String × String)) : String :=
  name ++ " \x7b " ++ ", ".intercalate (fields.map fun (field, value) => field ++ ": " ++ value) ++
    " \x7d"

/-- The name of a failure's cause. -/
def SocketError.label : SocketError → String
  | .failed op _ => op.label
  | .readTimeout => "ReadTimeout"
  | .closed => "Closed"
  | .partialWrite _ => "PartialWrite"
  | .terminationRequested => "TerminationRequested"
  | .invalidCondition _ _ => "InvalidCondition"
  | .bufferExhausted _ => "BufferExhausted"
  | .outOfRange _ _ => "OutOfRange"
  | .requestTooLarge _ _ => "RequestTooLarge"
  | .noData => "NoData"
  | .alreadyStarted => "AlreadyStarted"
  | .invalidHandle => "InvalidHandle"
  | .workerPanicked => "WorkerPanicked"
  | .receiveBufferTooSmall _ => "ReceiveBufferTooSmall"

mutual

/-- The diagnostic text of an input/output error: its shape and every field. -/
def IoError.debugText : IoError → String
  | .os code =>
      record "Os" [("code", toString code), ("kind", code.kind.name),
        ("message", Text.quote code.text)]
  | .plain kind => "Kind(" ++ kind.name ++ ")"
  | .constant kind text =>
      record "Error" [("kind", kind.name), ("message", Text.quote text)]
  | .message kind text =>
      record "Custom" [("kind", kind.name), ("error", Text.quote text)]
  | .carrying kind inner =>
      record "Custom" [("kind", kind.name), ("error", inner.debugText)]
  | .foreign kind _ debugText =>
      record "Custom" [("kind", kind.name), ("error", debugText)]

/-- The diagnostic text of a failure: its name and every field. -/
def SocketError.debugText : SocketError → String
  | .failed op cause => op.label ++ "(" ++ cause.debugText ++ ")"
  | .partialWrite written => record "PartialWrite" [("written", toString written)]
  | .invalidCondition requested buffered =>
      record "InvalidCondition"
        [("requested", toString requested), ("buffered", toString buffered)]
  | .bufferExhausted capacity => record "BufferExhausted" [("capacity", toString capacity)]
  | .outOfRange requested buffered =>
      record "OutOfRange" [("requested", toString requested), ("buffered", toString buffered)]
  | .requestTooLarge requested capacity =>
      record "RequestTooLarge"
        [("requested", toString requested), ("capacity", toString capacity)]
  | .receiveBufferTooSmall capacity =>
      record "ReceiveBufferTooSmall" [("capacity", toString capacity)]
  | .readTimeout => "ReadTimeout"
  | .closed => "Closed"
  | .terminationRequested => "TerminationRequested"
  | .noData => "NoData"
  | .alreadyStarted => "AlreadyStarted"
  | .invalidHandle => "InvalidHandle"
  | .workerPanicked => "WorkerPanicked"

end

/-! ### Questions about an error -/

namespace IoError

/-- The raw code, if the operating system reported the error. -/
def osCode? : IoError → Option OsCode
  | .os code => some code
  | _ => none

/-- The failure of this library that the error carries, if any. -/
def inner? : IoError → Option SocketError
  | .carrying _ inner => some inner
  | _ => none

/-- A signal cut the call short: it is repeated at once. -/
def isInterrupted (e : IoError) : Bool := e.kind = .interrupted

/-- Nothing could be done without waiting. -/
def isWouldBlock (e : IoError) : Bool := e.kind = .wouldBlock

@[simp] theorem kind_os (code : OsCode) : (IoError.os code).kind = code.kind := by
  simp [kind]

@[simp] theorem kind_plain (k : ErrorKind) : (IoError.plain k).kind = k := by
  simp [kind]

@[simp] theorem kind_constant (k : ErrorKind) (text : String) :
    (IoError.constant k text).kind = k := by
  simp [kind]

@[simp] theorem kind_message (k : ErrorKind) (text : String) :
    (IoError.message k text).kind = k := by
  simp [kind]

@[simp] theorem kind_carrying (k : ErrorKind) (inner : SocketError) :
    (IoError.carrying k inner).kind = k := by
  simp [kind]

@[simp] theorem kind_foreign (k : ErrorKind) (text debugText : String) :
    (IoError.foreign k text debugText).kind = k := by
  simp [kind]

end IoError

namespace SocketError

/-- Is this the failure of a cancelled operation? -/
def isCancelled : SocketError → Bool
  | .terminationRequested => true
  | _ => false

/-- Is this the failure of an operation whose time ran out? -/
def isTimeout : SocketError → Bool
  | .readTimeout => true
  | _ => false

/-- The input/output error underneath, if there is one. -/
def cause? : SocketError → Option IoError
  | .failed _ cause => some cause
  | _ => none

end SocketError

/-! ### Copies and conversion -/

/-- A second error that says the same: the raw code if there is one, else kind and
text. -/
def IoError.copy (e : IoError) : IoError :=
  match e.osCode? with
  | some code => .os code
  | none => .message e.kind e.text

/-- A second failure that says the same. The library's own failures are plain
data; an input/output error underneath is copied by `IoError.copy`. -/
def SocketError.copy : SocketError → SocketError
  | .failed op cause => .failed op cause.copy
  | e => e

/-- The failure as an input/output error: the error underneath if there is one,
else one that carries the failure itself, under its kind. -/
def SocketError.toIo : SocketError → IoError
  | .failed _ cause => cause
  | e => .carrying e.kind e

/-- The kind of an embedded failure is the kind of the failure. -/
theorem SocketError.kind_toIo (failure : SocketError) : failure.toIo.kind = failure.kind := by
  cases failure <;> simp [toIo, kind]

end SocketDemux
