/-!
The ways in which the operating system refuses a request, and the words it has
for them.
-/

namespace ChangelogSql.Files

/-- Why a request to the operating system was refused. Text with a NUL byte in it is refused
before the system is asked. -/
inductive Fault where
  | system (number : Int)
  | nulInPath
  | nulInArgument
  deriving DecidableEq

namespace Fault

def notPermitted : Fault := .system 1

def notFound : Fault := .system 2

def noSuchProcess : Fault := .system 3

def interrupted : Fault := .system 4

def inputOutput : Fault := .system 5

def noSuchDevice : Fault := .system 6

def tooManyArguments : Fault := .system 7

def badExecutable : Fault := .system 8

def badDescriptor : Fault := .system 9

def noChild : Fault := .system 10

def noMemory : Fault := .system 12

def permissionDenied : Fault := .system 13

def busy : Fault := .system 16

def alreadyExists : Fault := .system 17

def notDirectory : Fault := .system 20

def isDirectory : Fault := .system 21

def invalid : Fault := .system 22

def noSpace : Fault := .system 28

def illegalSeek : Fault := .system 29

def brokenPipe : Fault := .system 32

def nameTooLong : Fault := .system 36

def notEmpty : Fault := .system 39

def tooManyLinks : Fault := .system 40

/-- The system's texts for error numbers, from zero on; two of the numbers mean nothing. -/
def descriptions : List String :=
  ["Success", "Operation not permitted", "No such file or directory", "No such process",
    "Interrupted system call", "Input/output error", "No such device or address",
    "Argument list too long", "Exec format error", "Bad file descriptor", "No child processes",
    "Resource temporarily unavailable", "Cannot allocate memory", "Permission denied",
    "Bad address", "Block device required", "Device or resource busy", "File exists",
    "Invalid cross-device link", "No such device", "Not a directory", "Is a directory",
    "Invalid argument", "Too many open files in system", "Too many open files",
    "Inappropriate ioctl for device", "Text file busy", "File too large",
    "No space left on device", "Illegal seek", "Read-only file system", "Too many links",
    "Broken pipe", "Numerical argument out of domain", "Numerical result out of range",
    "Resource deadlock avoided", "File name too long", "No locks available",
    "Function not implemented", "Directory not empty", "Too many levels of symbolic links", "",
    "No message of desired type", "Identifier removed", "Channel number out of range",
    "Level 2 not synchronized", "Level 3 halted", "Level 3 reset", "Link number out of range",
    "Protocol driver not attached", "No CSI structure available", "Level 2 halted",
    "Invalid exchange", "Invalid request descriptor", "Exchange full", "No anode",
    "Invalid request code", "Invalid slot", "", "Bad font file format", "Device not a stream",
    "No data available", "Timer expired", "Out of streams resources",
    "Machine is not on the network", "Package not installed", "Object is remote",
    "Link has been severed", "Advertise error", "Srmount error", "Communication error on send",
    "Protocol error", "Multihop attempted", "RFS specific error", "Bad message",
    "Value too large for defined data type", "Name not unique on network",
    "File descriptor in bad state", "Remote address changed",
    "Can not access a needed shared library", "Accessing a corrupted shared library",
    ".lib section in a.out corrupted", "Attempting to link in too many shared libraries",
    "Cannot exec a shared library directly", "Invalid or incomplete multibyte or wide character",
    "Interrupted system call should be restarted", "Streams pipe error", "Too many users",
    "Socket operation on non-socket", "Destination address required", "Message too long",
    "Protocol wrong type for socket", "Protocol not available", "Protocol not supported",
    "Socket type not supported", "Operation not supported", "Protocol family not supported",
    "Address family not supported by protocol", "Address already in use",
    "Cannot assign requested address", "Network is down", "Network is unreachable",
    "Network dropped connection on reset", "Software caused connection abort",
    "Connection reset by peer", "No buffer space available",
    "Transport endpoint is already connected", "Transport endpoint is not connected",
    "Cannot send after transport endpoint shutdown", "Too many references: cannot splice",
    "Connection timed out", "Connection refused", "Host is down", "No route to host",
    "Operation already in progress", "Operation now in progress", "Stale file handle",
    "Structure needs cleaning", "Not a XENIX named type file", "No XENIX semaphores available",
    "Is a named type file", "Remote I/O error", "Disk quota exceeded", "No medium found",
    "Wrong medium type", "Operation canceled", "Required key not available", "Key has expired",
    "Key has been revoked", "Key was rejected by service", "Owner died", "State not recoverable",
    "Operation not possible due to RF-kill", "Memory page has hardware error"]

/-- The system's text for an error number. -/
def describe (number : Int) : String :=
  match number with
  | .ofNat place =>
    match descriptions[place]? with
    | none | some "" => "Unknown error " ++ toString number
    | some description => description
  | .negSucc _ => "Unknown error " ++ toString number

/-- A refusal as programs tell it, in the system's words alone. -/
def reason : Fault → String
  | .system number => describe number
  | .nulInPath => "file name contained an unexpected NUL byte"
  | .nulInArgument => "nul byte found in provided data"

/-- A refusal as it is reported. -/
def message : Fault → String
  | .system number => describe number ++ " (os error " ++ toString number ++ ")"
  | other => other.reason

end Fault

end ChangelogSql.Files
