import EventFeed.Json.Printer

/-!
# EventFeed.System.OsError

Errors of the operating system, by number, and input and output errors in
general.  The texts are those of the C library.
-/

namespace EventFeed

/-- The texts of the error numbers from zero on; empty for a number that is
not in use. -/
def osErrorTexts : List String := [
  "Success",
  "Operation not permitted",
  "No such file or directory",
  "No such process",
  "Interrupted system call",
  "Input/output error",
  "No such device or address",
  "Argument list too long",
  "Exec format error",
  "Bad file descriptor",
  "No child processes",
  "Resource temporarily unavailable",
  "Cannot allocate memory",
  "Permission denied",
  "Bad address",
  "Block device required",
  "Device or resource busy",
  "File exists",
  "Invalid cross-device link",
  "No such device",
  "Not a directory",
  "Is a directory",
  "Invalid argument",
  "Too many open files in system",
  "Too many open files",
  "Inappropriate ioctl for device",
  "Text file busy",
  "File too large",
  "No space left on device",
  "Illegal seek",
  "Read-only file system",
  "Too many links",
  "Broken pipe",
  "Numerical argument out of domain",
  "Numerical result out of range",
  "Resource deadlock avoided",
  "File name too long",
  "No locks available",
  "Function not implemented",
  "Directory not empty",
  "Too many levels of symbolic links",
  "",
  "No message of desired type",
  "Identifier removed",
  "Channel number out of range",
  "Level 2 not synchronized",
  "Level 3 halted",
  "Level 3 reset",
  "Link number out of range",
  "Protocol driver not attached",
  "No CSI structure available",
  "Level 2 halted",
  "Invalid exchange",
  "Invalid request descriptor",
  "Exchange full",
  "No anode",
  "Invalid request code",
  "Invalid slot",
  "",
  "Bad font file format",
  "Device not a stream",
  "No data available",
  "Timer expired",
  "Out of streams resources",
  "Machine is not on the network",
  "Package not installed",
  "Object is remote",
  "Link has been severed",
  "Advertise error",
  "Srmount error",
  "Communication error on send",
  "Protocol error",
  "Multihop attempted",
  "RFS specific error",
  "Bad message",
  "Value too large for defined data type",
  "Name not unique on network",
  "File descriptor in bad state",
  "Remote address changed",
  "Can not access a needed shared library",
  "Accessing a corrupted shared library",
  ".lib section in a.out corrupted",
  "Attempting to link in too many shared libraries",
  "Cannot exec a shared library directly",
  "Invalid or incomplete multibyte or wide character",
  "Interrupted system call should be restarted",
  "Streams pipe error",
  "Too many users",
  "Socket operation on non-socket",
  "Destination address required",
  "Message too long",
  "Protocol wrong type for socket",
  "Protocol not available",
  "Protocol not supported",
  "Socket type not supported",
  "Operation not supported",
  "Protocol family not supported",
  "Address family not supported by protocol",
  "Address already in use",
  "Cannot assign requested address",
  "Network is down",
  "Network is unreachable",
  "Network dropped connection on reset",
  "Software caused connection abort",
  "Connection reset by peer",
  "No buffer space available",
  "Transport endpoint is already connected",
  "Transport endpoint is not connected",
  "Cannot send after transport endpoint shutdown",
  "Too many references: cannot splice",
  "Connection timed out",
  "Connection refused",
  "Host is down",
  "No route to host",
  "Operation already in progress",
  "Operation now in progress",
  "Stale file handle",
  "Structure needs cleaning",
  "Not a XENIX named type file",
  "No XENIX semaphores available",
  "Is a named type file",
  "Remote I/O error",
  "Disk quota exceeded",
  "No medium found",
  "Wrong medium type",
  "Operation canceled",
  "Required key not available",
  "Key has expired",
  "Key has been revoked",
  "Key was rejected by service",
  "Owner died",
  "State not recoverable",
  "Operation not possible due to RF-kill",
  "Memory page has hardware error"]

/-- An input or output error: one of the operating system, or one that some
other layer words. -/
inductive IoError where
  | os (number : Int)
  | other (text : String)
deriving Repr, DecidableEq

namespace IoError

/-- What the C library says about an error number. -/
def osText (number : Int) : String :=
  let unknown := "Unknown error " ++ String.ofList (intChars number)
  if number < 0 then unknown
  else
    match osErrorTexts[number.toNat]? with
    | some text => if text = "" then unknown else text
    | none => unknown

/-- The error in words; an error of the operating system shows its
number. -/
def message : IoError → String
  | .os number => osText number ++ " (os error " ++ String.ofList (intChars number) ++ ")"
  | .other text => text

/-! ## The numbers the library deals with -/

/-- A file, or a directory on the way to it, does not exist. -/
def notFound : IoError := .os 2

/-- What the path leads to is in use by the system itself. -/
def busy : IoError := .os 16

/-- A file stands where a directory is needed. -/
def notDirectory : IoError := .os 20

/-- A directory stands where a file is needed. -/
def isDirectory : IoError := .os 21

/-- A name is longer than the file system allows. -/
def nameTooLong : IoError := .os 36

/-- Another program listens on the address. -/
def addressInUse : IoError := .os 98

/-- No route leads to the address. -/
def networkUnreachable : IoError := .os 101

/-- A name may hold any byte but zero. -/
def zeroByte : IoError := .other "file name contained an unexpected NUL byte"

example : notFound.message = "No such file or directory (os error 2)" := by decide +kernel

example : nameTooLong.message = "File name too long (os error 36)" := by decide +kernel

end IoError

end EventFeed
