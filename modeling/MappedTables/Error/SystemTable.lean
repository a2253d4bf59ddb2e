namespace MappedTables

/-!
The operating system's table of refusals.

The system numbers its refusals from one to 133; two of the numbers have no
refusal.  Each refusal has a symbolic name and two wordings, which differ for a
few of them only: the one of the system's own message table, used for faults of
files, and a description used for faults of the platform.
-/

/-- A refusal of the operating system as its table lists it. -/
structure SystemEntry where
  number : Nat
  symbol : String
  text : String
  /-- The description used in platform failures. -/
  description : String
  deriving DecidableEq, Repr

namespace SystemEntry

/-- A refusal with one wording for both uses. -/
def alike (number : Nat) (symbol text : String) : SystemEntry :=
  ⟨number, symbol, text, text⟩

/-- A refusal with two wordings. -/
def apart (number : Nat) (symbol text description : String) : SystemEntry :=
  ⟨number, symbol, text, description⟩

/-- All refusals, in the order of their numbers. -/
def table : List SystemEntry :=
  [ alike 1 "EPERM" "Operation not permitted",
    alike 2 "ENOENT" "No such file or directory",
    alike 3 "ESRCH" "No such process",
    alike 4 "EINTR" "Interrupted system call",
    apart 5 "EIO" "Input/output error" "I/O error",
    alike 6 "ENXIO" "No such device or address",
    alike 7 "E2BIG" "Argument list too long",
    alike 8 "ENOEXEC" "Exec format error",
    apart 9 "EBADF" "Bad file descriptor" "Bad file number",
    alike 10 "ECHILD" "No child processes",
    apart 11 "EAGAIN" "Resource temporarily unavailable" "Try again",
    apart 12 "ENOMEM" "Cannot allocate memory" "Out of memory",
    alike 13 "EACCES" "Permission denied",
    alike 14 "EFAULT" "Bad address",
    alike 15 "ENOTBLK" "Block device required",
    alike 16 "EBUSY" "Device or resource busy",
    alike 17 "EEXIST" "File exists",
    apart 18 "EXDEV" "Invalid cross-device link" "Cross-device link",
    alike 19 "ENODEV" "No such device",
    alike 20 "ENOTDIR" "Not a directory",
    alike 21 "EISDIR" "Is a directory",
    alike 22 "EINVAL" "Invalid argument",
    apart 23 "ENFILE" "Too many open files in system" "File table overflow",
    alike 24 "EMFILE" "Too many open files",
    apart 25 "ENOTTY" "Inappropriate ioctl for device" "Not a typewriter",
    alike 26 "ETXTBSY" "Text file busy",
    alike 27 "EFBIG" "File too large",
    alike 28 "ENOSPC" "No space left on device",
    alike 29 "ESPIPE" "Illegal seek",
    alike 30 "EROFS" "Read-only file system",
    alike 31 "EMLINK" "Too many links",
    alike 32 "EPIPE" "Broken pipe",
    apart 33 "EDOM" "Numerical argument out of domain" "Math argument out of domain of func",
    apart 34 "ERANGE" "Numerical result out of range" "Math result not representable",
    apart 35 "EDEADLK" "Resource deadlock avoided" "Resource deadlock would occur",
    alike 36 "ENAMETOOLONG" "File name too long",
    apart 37 "ENOLCK" "No locks available" "No record locks available",
    alike 38 "ENOSYS" "Function not implemented",
    alike 39 "ENOTEMPTY" "Directory not empty",
    apart 40 "ELOOP" "Too many levels of symbolic links" "Too many symbolic links encountered",
    alike 42 "ENOMSG" "No message of desired type",
    alike 43 "EIDRM" "Identifier removed",
    alike 44 "ECHRNG" "Channel number out of range",
    alike 45 "EL2NSYNC" "Level 2 not synchronized",
    alike 46 "EL3HLT" "Level 3 halted",
    alike 47 "EL3RST" "Level 3 reset",
    alike 48 "ELNRNG" "Link number out of range",
    alike 49 "EUNATCH" "Protocol driver not attached",
    alike 50 "ENOCSI" "No CSI structure available",
    alike 51 "EL2HLT" "Level 2 halted",
    alike 52 "EBADE" "Invalid exchange",
    alike 53 "EBADR" "Invalid request descriptor",
    alike 54 "EXFULL" "Exchange full",
    alike 55 "ENOANO" "No anode",
    alike 56 "EBADRQC" "Invalid request code",
    alike 57 "EBADSLT" "Invalid slot",
    alike 59 "EBFONT" "Bad font file format",
    alike 60 "ENOSTR" "Device not a stream",
    alike 61 "ENODATA" "No data available",
    alike 62 "ETIME" "Timer expired",
    alike 63 "ENOSR" "Out of streams resources",
    alike 64 "ENONET" "Machine is not on the network",
    alike 65 "ENOPKG" "Package not installed",
    alike 66 "EREMOTE" "Object is remote",
    alike 67 "ENOLINK" "Link has been severed",
    alike 68 "EADV" "Advertise error",
    alike 69 "ESRMNT" "Srmount error",
    alike 70 "ECOMM" "Communication error on send",
    alike 71 "EPROTO" "Protocol error",
    alike 72 "EMULTIHOP" "Multihop attempted",
    alike 73 "EDOTDOT" "RFS specific error",
    apart 74 "EBADMSG" "Bad message" "Not a data message",
    alike 75 "EOVERFLOW" "Value too large for defined data type",
    alike 76 "ENOTUNIQ" "Name not unique on network",
    alike 77 "EBADFD" "File descriptor in bad state",
    alike 78 "EREMCHG" "Remote address changed",
    alike 79 "ELIBACC" "Can not access a needed shared library",
    alike 80 "ELIBBAD" "Accessing a corrupted shared library",
    alike 81 "ELIBSCN" ".lib section in a.out corrupted",
    alike 82 "ELIBMAX" "Attempting to link in too many shared libraries",
    alike 83 "ELIBEXEC" "Cannot exec a shared library directly",
    apart 84 "EILSEQ" "Invalid or incomplete multibyte or wide character" "Illegal byte sequence",
    alike 85 "ERESTART" "Interrupted system call should be restarted",
    alike 86 "ESTRPIPE" "Streams pipe error",
    alike 87 "EUSERS" "Too many users",
    alike 88 "ENOTSOCK" "Socket operation on non-socket",
    alike 89 "EDESTADDRREQ" "Destination address required",
    alike 90 "EMSGSIZE" "Message too long",
    alike 91 "EPROTOTYPE" "Protocol wrong type for socket",
    alike 92 "ENOPROTOOPT" "Protocol not available",
    alike 93 "EPROTONOSUPPORT" "Protocol not supported",
    alike 94 "ESOCKTNOSUPPORT" "Socket type not supported",
    apart 95 "EOPNOTSUPP" "Operation not supported"
      "Operation not supported on transport endpoint",
    alike 96 "EPFNOSUPPORT" "Protocol family not supported",
    alike 97 "EAFNOSUPPORT" "Address family not supported by protocol",
    alike 98 "EADDRINUSE" "Address already in use",
    alike 99 "EADDRNOTAVAIL" "Cannot assign requested address",
    alike 100 "ENETDOWN" "Network is down",
    alike 101 "ENETUNREACH" "Network is unreachable",
    apart 102 "ENETRESET" "Network dropped connection on reset"
      "Network dropped connection because of reset",
    alike 103 "ECONNABORTED" "Software caused connection abort",
    alike 104 "ECONNRESET" "Connection reset by peer",
    alike 105 "ENOBUFS" "No buffer space available",
    alike 106 "EISCONN" "Transport endpoint is already connected",
    alike 107 "ENOTCONN" "Transport endpoint is not connected",
    alike 108 "ESHUTDOWN" "Cannot send after transport endpoint shutdown",
    alike 109 "ETOOMANYREFS" "Too many references: cannot splice",
    alike 110 "ETIMEDOUT" "Connection timed out",
    alike 111 "ECONNREFUSED" "Connection refused",
    alike 112 "EHOSTDOWN" "Host is down",
    alike 113 "EHOSTUNREACH" "No route to host",
    alike 114 "EALREADY" "Operation already in progress",
    alike 115 "EINPROGRESS" "Operation now in progress",
    alike 116 "ESTALE" "Stale file handle",
    alike 117 "EUCLEAN" "Structure needs cleaning",
    alike 118 "ENOTNAM" "Not a XENIX named type file",
    alike 119 "ENAVAIL" "No XENIX semaphores available",
    alike 120 "EISNAM" "Is a named type file",
    alike 121 "EREMOTEIO" "Remote I/O error",
    apart 122 "EDQUOT" "Disk quota exceeded" "Quota exceeded",
    alike 123 "ENOMEDIUM" "No medium found",
    alike 124 "EMEDIUMTYPE" "Wrong medium type",
    alike 125 "ECANCELED" "Operation canceled",
    alike 126 "ENOKEY" "Required key not available",
    alike 127 "EKEYEXPIRED" "Key has expired",
    alike 128 "EKEYREVOKED" "Key has been revoked",
    alike 129 "EKEYREJECTED" "Key was rejected by service",
    alike 130 "EOWNERDEAD" "Owner died",
    alike 131 "ENOTRECOVERABLE" "State not recoverable",
    alike 132 "ERFKILL" "Operation not possible due to RF-kill",
    alike 133 "EHWPOISON" "Memory page has hardware error" ]

def ofNumber? (number : Int) : Option SystemEntry :=
  table.find? fun entry => (entry.number : Int) = number

/-- The refusal that is found has the number that was looked for. -/
theorem number_of_ofNumber? {number : Int} {entry : SystemEntry}
    (found : ofNumber? number = some entry) : (entry.number : Int) = number := by
  have holds := List.find?_some found
  exact of_decide_eq_true holds

example : table.map (·.number) =
    (List.range 134).filter fun number => number ∉ [0, 41, 58] := by
  decide

end SystemEntry
end MappedTables
