import SocketDemux.Error.Kind
/-!
# SocketDemux.Error.OsCode

The **operating system's error codes**: kind and text of each are functions of the
code alone. The table starts at 0, which stands for success, and leaves out two codes
that are aliases of others. A code outside the table is uncategorized and its text only
repeats the number.
-/

namespace SocketDemux

/-- A raw error code of the operating system. -/
abbrev OsCode := Int

namespace OsCode

/-- Kind and text of the known codes. -/
def entry? : OsCode → Option (ErrorKind × String)
  | 0 => some (.uncategorized, "Success")
  | 1 => some (.permissionDenied, "Operation not permitted")
  | 2 => some (.notFound, "No such file or directory")
  | 3 => some (.uncategorized, "No such process")
  | 4 => some (.interrupted, "Interrupted system call")
  | 5 => some (.uncategorized, "Input/output error")
  | 6 => some (.uncategorized, "No such device or address")
  | 7 => some (.argumentListTooLong, "Argument list too long")
  | 8 => some (.uncategorized, "Exec format error")
  | 9 => some (.uncategorized, "Bad file descriptor")
  | 10 => some (.uncategorized, "No child processes")
  | 11 => some (.wouldBlock, "Resource temporarily unavailable")
  | 12 => some (.outOfMemory, "Cannot allocate memory")
  | 13 => some (.permissionDenied, "Permission denied")
  | 14 => some (.uncategorized, "Bad address")
  | 15 => some (.uncategorized, "Block device required")
  | 16 => some (.resourceBusy, "Device or resource busy")
  | 17 => some (.alreadyExists, "File exists")
  | 18 => some (.crossesDevices, "Invalid cross-device link")
  | 19 => some (.uncategorized, "No such device")
  | 20 => some (.notADirectory, "Not a directory")
  | 21 => some (.isADirectory, "Is a directory")
  | 22 => some (.invalidInput, "Invalid argument")
  | 23 => some (.tooManyOpenFiles, "Too many open files in system")
  | 24 => some (.tooManyOpenFiles, "Too many open files")
  | 25 => some (.uncategorized, "Inappropriate ioctl for device")
  | 26 => some (.executableFileBusy, "Text file busy")
  | 27 => some (.fileTooLarge, "File too large")
  | 28 => some (.storageFull, "No space left on device")
  | 29 => some (.notSeekable, "Illegal seek")
  | 30 => some (.readOnlyFilesystem, "Read-only file system")
  | 31 => some (.tooManyLinks, "Too many links")
  | 32 => some (.brokenPipe, "Broken pipe")
  | 33 => some (.uncategorized, "Numerical argument out of domain")
  | 34 => some (.uncategorized, "Numerical result out of range")
  | 35 => some (.deadlock, "Resource deadlock avoided")
  | 36 => some (.invalidFilename, "File name too long")
  | 37 => some (.uncategorized, "No locks available")
  | 38 => some (.unsupported, "Function not implemented")
  | 39 => some (.directoryNotEmpty, "Directory not empty")
  | 40 => some (.filesystemLoop, "Too many levels of symbolic links")
  | 42 => some (.uncategorized, "No message of desired type")
  | 43 => some (.uncategorized, "Identifier removed")
  | 44 => some (.uncategorized, "Channel number out of range")
  | 45 => some (.uncategorized, "Level 2 not synchronized")
  | 46 => some (.uncategorized, "Level 3 halted")
  | 47 => some (.uncategorized, "Level 3 reset")
  | 48 => some (.uncategorized, "Link number out of range")
  | 49 => some (.uncategorized, "Protocol driver not attached")
  | 50 => some (.uncategorized, "No CSI structure available")
  | 51 => some (.uncategorized, "Level 2 halted")
  | 52 => some (.uncategorized, "Invalid exchange")
  | 53 => some (.uncategorized, "Invalid request descriptor")
  | 54 => some (.uncategorized, "Exchange full")
  | 55 => some (.uncategorized, "No anode")
  | 56 => some (.uncategorized, "Invalid request code")
  | 57 => some (.uncategorized, "Invalid slot")
  | 59 => some (.uncategorized, "Bad font file format")
  | 60 => some (.uncategorized, "Device not a stream")
  | 61 => some (.uncategorized, "No data available")
  | 62 => some (.uncategorized, "Timer expired")
  | 63 => some (.uncategorized, "Out of streams resources")
  | 64 => some (.uncategorized, "Machine is not on the network")
  | 65 => some (.uncategorized, "Package not installed")
  | 66 => some (.uncategorized, "Object is remote")
  | 67 => some (.uncategorized, "Link has been severed")
  | 68 => some (.uncategorized, "Advertise error")
  | 69 => some (.uncategorized, "Srmount error")
  | 70 => some (.uncategorized, "Communication error on send")
  | 71 => some (.uncategorized, "Protocol error")
  | 72 => some (.uncategorized, "Multihop attempted")
  | 73 => some (.uncategorized, "RFS specific error")
  | 74 => some (.uncategorized, "Bad message")
  | 75 => some (.uncategorized, "Value too large for defined data type")
  | 76 => some (.uncategorized, "Name not unique on network")
  | 77 => some (.uncategorized, "File descriptor in bad state")
  | 78 => some (.uncategorized, "Remote address changed")
  | 79 => some (.uncategorized, "Can not access a needed shared library")
  | 80 => some (.uncategorized, "Accessing a corrupted shared library")
  | 81 => some (.uncategorized, ".lib section in a.out corrupted")
  | 82 => some (.uncategorized, "Attempting to link in too many shared libraries")
  | 83 => some (.uncategorized, "Cannot exec a shared library directly")
  | 84 => some (.uncategorized, "Invalid or incomplete multibyte or wide character")
  | 85 => some (.uncategorized, "Interrupted system call should be restarted")
  | 86 => some (.uncategorized, "Streams pipe error")
  | 87 => some (.uncategorized, "Too many users")
  | 88 => some (.uncategorized, "Socket operation on non-socket")
  | 89 => some (.uncategorized, "Destination address required")
  | 90 => some (.uncategorized, "Message too long")
  | 91 => some (.uncategorized, "Protocol wrong type for socket")
  | 92 => some (.uncategorized, "Protocol not available")
  | 93 => some (.uncategorized, "Protocol not supported")
  | 94 => some (.uncategorized, "Socket type not supported")
  | 95 => some (.unsupported, "Operation not supported")
  | 96 => some (.uncategorized, "Protocol family not supported")
  | 97 => some (.uncategorized, "Address family not supported by protocol")
  | 98 => some (.addrInUse, "Address already in use")
  | 99 => some (.addrNotAvailable, "Cannot assign requested address")
  | 100 => some (.networkDown, "Network is down")
  | 101 => some (.networkUnreachable, "Network is unreachable")
  | 102 => some (.uncategorized, "Network dropped connection on reset")
  | 103 => some (.connectionAborted, "Software caused connection abort")
  | 104 => some (.connectionReset, "Connection reset by peer")
  | 105 => some (.uncategorized, "No buffer space available")
  | 106 => some (.uncategorized, "Transport endpoint is already connected")
  | 107 => some (.notConnected, "Transport endpoint is not connected")
  | 108 => some (.uncategorized, "Cannot send after transport endpoint shutdown")
  | 109 => some (.uncategorized, "Too many references: cannot splice")
  | 110 => some (.timedOut, "Connection timed out")
  | 111 => some (.connectionRefused, "Connection refused")
  | 112 => some (.uncategorized, "Host is down")
  | 113 => some (.hostUnreachable, "No route to host")
  | 114 => some (.uncategorized, "Operation already in progress")
  | 115 => some (.inProgress, "Operation now in progress")
  | 116 => some (.staleNetworkFileHandle, "Stale file handle")
  | 117 => some (.uncategorized, "Structure needs cleaning")
  | 118 => some (.uncategorized, "Not a XENIX named type file")
  | 119 => some (.uncategorized, "No XENIX semaphores available")
  | 120 => some (.uncategorized, "Is a named type file")
  | 121 => some (.uncategorized, "Remote I/O error")
  | 122 => some (.quotaExceeded, "Disk quota exceeded")
  | 123 => some (.uncategorized, "No medium found")
  | 124 => some (.uncategorized, "Wrong medium type")
  | 125 => some (.uncategorized, "Operation canceled")
  | 126 => some (.uncategorized, "Required key not available")
  | 127 => some (.uncategorized, "Key has expired")
  | 128 => some (.uncategorized, "Key has been revoked")
  | 129 => some (.uncategorized, "Key was rejected by service")
  | 130 => some (.uncategorized, "Owner died")
  | 131 => some (.uncategorized, "State not recoverable")
  | 132 => some (.uncategorized, "Operation not possible due to RF-kill")
  | 133 => some (.uncategorized, "Memory page has hardware error")
  | _ => none

/-- The kind of failure a code reports. -/
def kind (code : OsCode) : ErrorKind :=
  match entry? code with
  | some (kind, _) => kind
  | none => .uncategorized

/-- The operating system's text for a code. -/
def text (code : OsCode) : String :=
  match entry? code with
  | some (_, text) => text
  | none => "Unknown error " ++ toString code

/-- A pipe whose other end is gone. -/
def brokenPipe : OsCode := 32

/-- A datagram that is too long to be sent. -/
def messageTooLong : OsCode := 90

/-- An address that somebody else holds. -/
def addrInUse : OsCode := 98

/-- No route leads to the address. -/
def networkUnreachable : OsCode := 101

/-- The peer is gone, and bytes for it are lost. -/
def connectionReset : OsCode := 104

/-- Nobody listens at the address. -/
def connectionRefused : OsCode := 111

end OsCode

end SocketDemux
