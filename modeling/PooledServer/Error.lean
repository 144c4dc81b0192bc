/-!
# Errors

    What can go wrong, one type per layer, each error named by its cause.  The wording of every error
    is in the function `message` of its type.  An error of a lower layer is carried upwards whole, so
    its cause stays readable from the top.
-/

namespace PooledServer

/-! ## Input and output -/

/-- The text of a numbered system error. -/
def systemErrorText : Int → String
  | 0 => "Success"
  | 1 => "Operation not permitted"
  | 2 => "No such file or directory"
  | 3 => "No such process"
  | 4 => "Interrupted system call"
  | 5 => "Input/output error"
  | 6 => "No such device or address"
  | 7 => "Argument list too long"
  | 8 => "Exec format error"
  | 9 => "Bad file descriptor"
  | 10 => "No child processes"
  | 11 => "Resource temporarily unavailable"
  | 12 => "Cannot allocate memory"
  | 13 => "Permission denied"
  | 14 => "Bad address"
  | 15 => "Block device required"
  | 16 => "Device or resource busy"
  | 17 => "File exists"
  | 18 => "Invalid cross-device link"
  | 19 => "No such device"
  | 20 => "Not a directory"
  | 21 => "Is a directory"
  | 22 => "Invalid argument"
  | 23 => "Too many open files in system"
  | 24 => "Too many open files"
  | 25 => "Inappropriate ioctl for device"
  | 26 => "Text file busy"
  | 27 => "File too large"
  | 28 => "No space left on device"
  | 29 => "Illegal seek"
  | 30 => "Read-only file system"
  | 31 => "Too many links"
  | 32 => "Broken pipe"
  | 33 => "Numerical argument out of domain"
  | 34 => "Numerical result out of range"
  | 35 => "Resource deadlock avoided"
  | 36 => "File name too long"
  | 37 => "No locks available"
  | 38 => "Function not implemented"
  | 39 => "Directory not empty"
  | 40 => "Too many levels of symbolic links"
  | 42 => "No message of desired type"
  | 43 => "Identifier removed"
  | 44 => "Channel number out of range"
  | 45 => "Level 2 not synchronized"
  | 46 => "Level 3 halted"
  | 47 => "Level 3 reset"
  | 48 => "Link number out of range"
  | 49 => "Protocol driver not attached"
  | 50 => "No CSI structure available"
  | 51 => "Level 2 halted"
  | 52 => "Invalid exchange"
  | 53 => "Invalid request descriptor"
  | 54 => "Exchange full"
  | 55 => "No anode"
  | 56 => "Invalid request code"
  | 57 => "Invalid slot"
  | 59 => "Bad font file format"
  | 60 => "Device not a stream"
  | 61 => "No data available"
  | 62 => "Timer expired"
  | 63 => "Out of streams resources"
  | 64 => "Machine is not on the network"
  | 65 => "Package not installed"
  | 66 => "Object is remote"
  | 67 => "Link has been severed"
  | 68 => "Advertise error"
  | 69 => "Srmount error"
  | 70 => "Communication error on send"
  | 71 => "Protocol error"
  | 72 => "Multihop attempted"
  | 73 => "RFS specific error"
  | 74 => "Bad message"
  | 75 => "Value too large for defined data type"
  | 76 => "Name not unique on network"
  | 77 => "File descriptor in bad state"
  | 78 => "Remote address changed"
  | 79 => "Can not access a needed shared library"
  | 80 => "Accessing a corrupted shared library"
  | 81 => ".lib section in a.out corrupted"
  | 82 => "Attempting to link in too many shared libraries"
  | 83 => "Cannot exec a shared library directly"
  | 84 => "Invalid or incomplete multibyte or wide character"
  | 85 => "Interrupted system call should be restarted"
  | 86 => "Streams pipe error"
  | 87 => "Too many users"
  | 88 => "Socket operation on non-socket"
  | 89 => "Destination address required"
  | 90 => "Message too long"
  | 91 => "Protocol wrong type for socket"
  | 92 => "Protocol not available"
  | 93 => "Protocol not supported"
  | 94 => "Socket type not supported"
  | 95 => "Operation not supported"
  | 96 => "Protocol family not supported"
  | 97 => "Address family not supported by protocol"
  | 98 => "Address already in use"
  | 99 => "Cannot assign requested address"
  | 100 => "Network is down"
  | 101 => "Network is unreachable"
  | 102 => "Network dropped connection on reset"
  | 103 => "Software caused connection abort"
  | 104 => "Connection reset by peer"
  | 105 => "No buffer space available"
  | 106 => "Transport endpoint is already connected"
  | 107 => "Transport endpoint is not connected"
  | 108 => "Cannot send after transport endpoint shutdown"
  | 109 => "Too many references: cannot splice"
  | 110 => "Connection timed out"
  | 111 => "Connection refused"
  | 112 => "Host is down"
  | 113 => "No route to host"
  | 114 => "Operation already in progress"
  | 115 => "Operation now in progress"
  | 116 => "Stale file handle"
  | 117 => "Structure needs cleaning"
  | 118 => "Not a XENIX named type file"
  | 119 => "No XENIX semaphores available"
  | 120 => "Is a named type file"
  | 121 => "Remote I/O error"
  | 122 => "Disk quota exceeded"
  | 123 => "No medium found"
  | 124 => "Wrong medium type"
  | 125 => "Operation canceled"
  | 126 => "Required key not available"
  | 127 => "Key has expired"
  | 128 => "Key has been revoked"
  | 129 => "Key was rejected by service"
  | 130 => "Owner died"
  | 131 => "State not recoverable"
  | 132 => "Operation not possible due to RF-kill"
  | 133 => "Memory page has hardware error"
  | n => s!"Unknown error {n}"

/-- Kinds of input and output errors that do not come from the system. -/
inductive IoErrorKind where
  | notConnected
  | invalidInput
  | invalidData
  | unexpectedEof
  | addrInUse
  deriving DecidableEq, Repr

/-- The name of the kind. -/
def IoErrorKind.name : IoErrorKind → String
  | notConnected => "NotConnected"
  | invalidInput => "InvalidInput"
  | invalidData => "InvalidData"
  | unexpectedEof => "UnexpectedEof"
  | addrInUse => "AddrInUse"

/-- An error of reading, writing or of a system call. -/
inductive IoError where
  /-- The system refused, with this error number. -/
  | system (errno : Int)
  /-- The connection or its data is at fault. -/
  | stated (kind : IoErrorKind) (text : String)
  deriving DecidableEq, Repr

namespace IoError

def kind : IoError → String
  | system errno => s!"Os{errno}"
  | stated kind _ => kind.name

def message : IoError → String
  | system errno => s!"{systemErrorText errno} (os error {errno})"
  | stated _ text => text

end IoError

/-! ## Threads, pool, server -/

/-- A threading primitive could not be created or started. -/
inductive SyncError where
  | mutexInit (name : String) (errno : Int)
  | conditionInit (name : String) (errno : Int)
  | spawnFailed (name reason : String)
  | alreadyStarted
  deriving DecidableEq, Repr

namespace SyncError

def kind : SyncError → String
  | mutexInit .. => "MutexInit"
  | conditionInit .. => "CondvarInit"
  | spawnFailed .. => "SpawnFailed"
  | alreadyStarted => "AlreadyStarted"

def message : SyncError → String
  | mutexInit name errno => s!"mutex '{name}' init failed: errno {errno}"
  | conditionInit name errno => s!"condition variable '{name}' init failed: errno {errno}"
  | spawnFailed name reason => s!"failed to spawn thread '{name}': {reason}"
  | alreadyStarted => "thread already started"

end SyncError

/-- A thread pool refused an operation. -/
inductive PoolError where
  | queueShutDown
  | unsupported (operation : String)
  | invalidArgument (text : String)
  | sync (cause : SyncError)
  deriving DecidableEq, Repr

namespace PoolError

def kind : PoolError → String
  | queueShutDown => "QueueShutDown"
  | unsupported _ => "Unsupported"
  | invalidArgument _ => "InvalidArgument"
  | sync cause => "Sync." ++ cause.kind

def message : PoolError → String
  | queueShutDown => "work queue shut down"
  | unsupported operation => s!"unsupported operation: {operation}"
  | invalidArgument text => s!"invalid argument: {text}"
  | sync cause => "sync error: " ++ cause.message

/-- The texts of the errors that this one carries, outermost first. -/
def sources : PoolError → List String
  | sync cause => [cause.message]
  | _ => []

end PoolError

/-- A configuration that the server cannot load or start with. -/
inductive ConfigError where
  | noHandler
  | portNotPositive
  | maxConnectionsNotPositive
  | eventCapacityNotPositive
  | fileNotFound (path : String)
  | unreadable (detail : String)
  deriving DecidableEq, Repr

def ConfigError.message : ConfigError → String
  | noHandler => "no request handler configured"
  | portNotPositive => "port must be positive"
  | maxConnectionsNotPositive => "max_connections must be positive"
  | eventCapacityNotPositive => "event_capacity must be positive"
  | fileNotFound path => path ++ ": configuration file \"" ++ path ++ "\" not found"
  | unreadable detail => detail

/-- The server could not start or stopped. -/
inductive ServerError where
  | config (cause : ConfigError)
  | io (cause : IoError)
  | pool (cause : PoolError)
  | kernelEventsUnavailable
  | notInitialized
  deriving DecidableEq, Repr

namespace ServerError

def kind : ServerError → String
  | config _ => "Config"
  | io cause => "Io." ++ cause.kind
  | pool cause => "Pool." ++ cause.kind
  | kernelEventsUnavailable => "KernelEventsUnavailable"
  | notInitialized => "NotInitialized"

def message : ServerError → String
  | config cause => "configuration error: " ++ cause.message
  | io cause => "I/O error: " ++ cause.message
  | pool cause => "thread pool error: " ++ cause.message
  | kernelEventsUnavailable => "kernel events not available on this platform"
  | notInitialized => "server not initialized"

/-- The texts of the errors that this one carries, outermost first. -/
def sources : ServerError → List String
  | io cause => [cause.message]
  | pool cause => cause.message :: cause.sources
  | _ => []

/-- A threading error as the server reports it. -/
def ofSync (e : SyncError) : ServerError :=
  .pool (.sync e)

end ServerError

end PooledServer
