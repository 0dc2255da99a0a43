/-
# Errors of the operating system

The text and the kind that belong to each error number of the system, and the names and
descriptions of the kinds.
-/

namespace LeaseKeeper

/-- The kinds of input and output errors. -/
inductive IoKind
  | addrInUse
  | addrNotAvailable
  | alreadyExists
  | argumentListTooLong
  | brokenPipe
  | connectionAborted
  | connectionRefused
  | connectionReset
  | crossesDevices
  | deadlock
  | directoryNotEmpty
  | executableFileBusy
  | fileTooLarge
  | filesystemLoop
  | hostUnreachable
  | inProgress
  | inputOutputError
  | interrupted
  | invalidData
  | invalidFilename
  | invalidInput
  | isADirectory
  | networkDown
  | networkUnreachable
  | notADirectory
  | notConnected
  | notFound
  | notSeekable
  | other
  | outOfMemory
  | permissionDenied
  | quotaExceeded
  | readOnlyFilesystem
  | resourceBusy
  | staleNetworkFileHandle
  | storageFull
  | timedOut
  | tooManyLinks
  | tooManyOpenFiles
  | uncategorized
  | unexpectedEof
  | unsupported
  | wouldBlock
  | writeZero
deriving DecidableEq, Repr

namespace IoKind

/-- Every kind. -/
def all : List IoKind :=
  [.addrInUse, .addrNotAvailable, .alreadyExists, .argumentListTooLong, .brokenPipe,
   .connectionAborted, .connectionRefused, .connectionReset, .crossesDevices, .deadlock,
   .directoryNotEmpty, .executableFileBusy, .fileTooLarge, .filesystemLoop, .hostUnreachable,
   .inProgress, .inputOutputError, .interrupted, .invalidData, .invalidFilename, .invalidInput,
   .isADirectory, .networkDown, .networkUnreachable, .notADirectory, .notConnected, .notFound,
   .notSeekable, .other, .outOfMemory, .permissionDenied, .quotaExceeded, .readOnlyFilesystem,
   .resourceBusy, .staleNetworkFileHandle, .storageFull, .timedOut, .tooManyLinks,
   .tooManyOpenFiles, .uncategorized, .unexpectedEof, .unsupported, .wouldBlock, .writeZero]

/-- The name of a kind. -/
def name : IoKind → String
  | .addrInUse => "AddrInUse"
  | .addrNotAvailable => "AddrNotAvailable"
  | .alreadyExists => "AlreadyExists"
  | .argumentListTooLong => "ArgumentListTooLong"
  | .brokenPipe => "BrokenPipe"
  | .connectionAborted => "ConnectionAborted"
  | .connectionRefused => "ConnectionRefused"
  | .connectionReset => "ConnectionReset"
  | .crossesDevices => "CrossesDevices"
  | .deadlock => "Deadlock"
  | .directoryNotEmpty => "DirectoryNotEmpty"
  | .executableFileBusy => "ExecutableFileBusy"
  | .fileTooLarge => "FileTooLarge"
  | .filesystemLoop => "FilesystemLoop"
  | .hostUnreachable => "HostUnreachable"
  | .inProgress => "InProgress"
  | .inputOutputError => "InputOutputError"
  | .interrupted => "Interrupted"
  | .invalidData => "InvalidData"
  | .invalidFilename => "InvalidFilename"
  | .invalidInput => "InvalidInput"
  | .isADirectory => "IsADirectory"
  | .networkDown => "NetworkDown"
  | .networkUnreachable => "NetworkUnreachable"
  | .notADirectory => "NotADirectory"
  | .notConnected => "NotConnected"
  | .notFound => "NotFound"
  | .notSeekable => "NotSeekable"
  | .other => "Other"
  | .outOfMemory => "OutOfMemory"
  | .permissionDenied => "PermissionDenied"
  | .quotaExceeded => "QuotaExceeded"
  | .readOnlyFilesystem => "ReadOnlyFilesystem"
  | .resourceBusy => "ResourceBusy"
  | .staleNetworkFileHandle => "StaleNetworkFileHandle"
  | .storageFull => "StorageFull"
  | .timedOut => "TimedOut"
  | .tooManyLinks => "TooManyLinks"
  | .tooManyOpenFiles => "TooManyOpenFiles"
  | .uncategorized => "Uncategorized"
  | .unexpectedEof => "UnexpectedEof"
  | .unsupported => "Unsupported"
  | .wouldBlock => "WouldBlock"
  | .writeZero => "WriteZero"

/-- What a kind means, in words. -/
def description : IoKind → String
  | .addrInUse => "address in use"
  | .addrNotAvailable => "address not available"
  | .alreadyExists => "entity already exists"
  | .argumentListTooLong => "argument list too long"
  | .brokenPipe => "broken pipe"
  | .connectionAborted => "connection aborted"
  | .connectionRefused => "connection refused"
  | .connectionReset => "connection reset"
  | .crossesDevices => "cross-device link or rename"
  | .deadlock => "deadlock"
  | .directoryNotEmpty => "directory not empty"
  | .executableFileBusy => "executable file busy"
  | .fileTooLarge => "file too large"
  | .filesystemLoop => "filesystem loop or indirection limit (e.g. symlink loop)"
  | .hostUnreachable => "host unreachable"
  | .inProgress => "in progress"
  | .inputOutputError => "input/output error"
  | .interrupted => "operation interrupted"
  | .invalidData => "invalid data"
  | .invalidFilename => "invalid filename"
  | .invalidInput => "invalid input parameter"
  | .isADirectory => "is a directory"
  | .networkDown => "network down"
  | .networkUnreachable => "network unreachable"
  | .notADirectory => "not a directory"
  | .notConnected => "not connected"
  | .notFound => "entity not found"
  | .notSeekable => "seek on unseekable file"
  | .other => "other error"
  | .outOfMemory => "out of memory"
  | .permissionDenied => "permission denied"
  | .quotaExceeded => "quota exceeded"
  | .readOnlyFilesystem => "read-only filesystem or storage medium"
  | .resourceBusy => "resource busy"
  | .staleNetworkFileHandle => "stale network file handle"
  | .storageFull => "no storage space"
  | .timedOut => "timed out"
  | .tooManyLinks => "too many links"
  | .tooManyOpenFiles => "too many open files"
  | .uncategorized => "uncategorized error"
  | .unexpectedEof => "unexpected end of file"
  | .unsupported => "unsupported"
  | .wouldBlock => "operation would block"
  | .writeZero => "write zero"

/-- The kind with a given name. -/
def ofName? (s : String) : Option IoKind := all.find? (·.name == s)

end IoKind

/-- The texts of the error numbers from zero on; a number without a text of its own is
`none`. -/
def osTexts : List (Option String) :=
  [some "Success",
   some "Operation not permitted",
   some "No such file or directory",
   some "No such process",
   some "Interrupted system call",
   some "Input/output error",
   some "No such device or address",
   some "Argument list too long",
   some "Exec format error",
   some "Bad file descriptor",
   some "No child processes",
   some "Resource temporarily unavailable",
   some "Cannot allocate memory",
   some "Permission denied",
   some "Bad address",
   some "Block device required",
   some "Device or resource busy",
   some "File exists",
   some "Invalid cross-device link",
   some "No such device",
   some "Not a directory",
   some "Is a directory",
   some "Invalid argument",
   some "Too many open files in system",
   some "Too many open files",
   some "Inappropriate ioctl for device",
   some "Text file busy",
   some "File too large",
   some "No space left on device",
   some "Illegal seek",
   some "Read-only file system",
   some "Too many links",
   some "Broken pipe",
   some "Numerical argument out of domain",
   some "Numerical result out of range",
   some "Resource deadlock avoided",
   some "File name too long",
   some "No locks available",
   some "Function not implemented",
   some "Directory not empty",
   some "Too many levels of symbolic links",
   none,
   some "No message of desired type",
   some "Identifier removed",
   some "Channel number out of range",
   some "Level 2 not synchronized",
   some "Level 3 halted",
   some "Level 3 reset",
   some "Link number out of range",
   some "Protocol driver not attached",
   some "No CSI structure available",
   some "Level 2 halted",
   some "Invalid exchange",
   some "Invalid request descriptor",
   some "Exchange full",
   some "No anode",
   some "Invalid request code",
   some "Invalid slot",
   none,
   some "Bad font file format",
   some "Device not a stream",
   some "No data available",
   some "Timer expired",
   some "Out of streams resources",
   some "Machine is not on the network",
   some "Package not installed",
   some "Object is remote",
   some "Link has been severed",
   some "Advertise error",
   some "Srmount error",
   some "Communication error on send",
   some "Protocol error",
   some "Multihop attempted",
   some "RFS specific error",
   some "Bad message",
   some "Value too large for defined data type",
   some "Name not unique on network",
   some "File descriptor in bad state",
   some "Remote address changed",
   some "Can not access a needed shared library",
   some "Accessing a corrupted shared library",
   some ".lib section in a.out corrupted",
   some "Attempting to link in too many shared libraries",
   some "Cannot exec a shared library directly",
   some "Invalid or incomplete multibyte or wide character",
   some "Interrupted system call should be restarted",
   some "Streams pipe error",
   some "Too many users",
   some "Socket operation on non-socket",
   some "Destination address required",
   some "Message too long",
   some "Protocol wrong type for socket",
   some "Protocol not available",
   some "Protocol not supported",
   some "Socket type not supported",
   some "Operation not supported",
   some "Protocol family not supported",
   some "Address family not supported by protocol",
   some "Address already in use",
   some "Cannot assign requested address",
   some "Network is down",
   some "Network is unreachable",
   some "Network dropped connection on reset",
   some "Software caused connection abort",
   some "Connection reset by peer",
   some "No buffer space available",
   some "Transport endpoint is already connected",
   some "Transport endpoint is not connected",
   some "Cannot send after transport endpoint shutdown",
   some "Too many references: cannot splice",
   some "Connection timed out",
   some "Connection refused",
   some "Host is down",
   some "No route to host",
   some "Operation already in progress",
   some "Operation now in progress",
   some "Stale file handle",
   some "Structure needs cleaning",
   some "Not a XENIX named type file",
   some "No XENIX semaphores available",
   some "Is a named type file",
   some "Remote I/O error",
   some "Disk quota exceeded",
   some "No medium found",
   some "Wrong medium type",
   some "Operation canceled",
   some "Required key not available",
   some "Key has expired",
   some "Key has been revoked",
   some "Key was rejected by service",
   some "Owner died",
   some "State not recoverable",
   some "Operation not possible due to RF-kill",
   some "Memory page has hardware error"]

/-- The kind of an error number. -/
def osKind : Int → IoKind
  | 1 => .permissionDenied
  | 2 => .notFound
  | 4 => .interrupted
  | 5 => .inputOutputError
  | 7 => .argumentListTooLong
  | 11 => .wouldBlock
  | 12 => .outOfMemory
  | 13 => .permissionDenied
  | 16 => .resourceBusy
  | 17 => .alreadyExists
  | 18 => .crossesDevices
  | 20 => .notADirectory
  | 21 => .isADirectory
  | 22 => .invalidInput
  | 23 => .tooManyOpenFiles
  | 24 => .tooManyOpenFiles
  | 26 => .executableFileBusy
  | 27 => .fileTooLarge
  | 28 => .storageFull
  | 29 => .notSeekable
  | 30 => .readOnlyFilesystem
  | 31 => .tooManyLinks
  | 32 => .brokenPipe
  | 35 => .deadlock
  | 36 => .invalidFilename
  | 38 => .unsupported
  | 39 => .directoryNotEmpty
  | 40 => .filesystemLoop
  | 95 => .unsupported
  | 98 => .addrInUse
  | 99 => .addrNotAvailable
  | 100 => .networkDown
  | 101 => .networkUnreachable
  | 103 => .connectionAborted
  | 104 => .connectionReset
  | 107 => .notConnected
  | 110 => .timedOut
  | 111 => .connectionRefused
  | 113 => .hostUnreachable
  | 115 => .inProgress
  | 116 => .staleNetworkFileHandle
  | 122 => .quotaExceeded
  | _ => .uncategorized

/-- The text of an error number. -/
def osText (code : Int) : String :=
  match code with
  | .ofNat n => (osTexts[n]?.join).getD ("Unknown error " ++ toString code)
  | .negSucc _ => "Unknown error " ++ toString code

end LeaseKeeper
