/-
This file lists the error numbers of the system and their texts.
-/

namespace ShellSmoke

/-- An error number of the system. -/
structure Errno where
  number : Int
deriving DecidableEq, Repr, Inhabited

namespace Errno

/-! ### The numbers that the modelled system raises -/

/-- Operation not permitted. -/
def notPermitted : Errno := ⟨1⟩

/-- No such file or directory. -/
def noEntry : Errno := ⟨2⟩

/-- No such process. -/
def noProcess : Errno := ⟨3⟩

/-- Interrupted system call. -/
def interrupted : Errno := ⟨4⟩

/-- No such device or address. -/
def noDevice : Errno := ⟨6⟩

/-- Argument list too long. -/
def argumentsTooLong : Errno := ⟨7⟩

/-- Exec format error. -/
def execFormat : Errno := ⟨8⟩

/-- Bad file descriptor. -/
def badDescriptor : Errno := ⟨9⟩

/-- No child processes. -/
def noChild : Errno := ⟨10⟩

/-- Resource temporarily unavailable. -/
def tryAgain : Errno := ⟨11⟩

/-- Permission denied. -/
def accessDenied : Errno := ⟨13⟩

/-- File exists. -/
def alreadyThere : Errno := ⟨17⟩

/-- Not a directory. -/
def notDirectory : Errno := ⟨20⟩

/-- Is a directory. -/
def isDirectory : Errno := ⟨21⟩

/-- Invalid argument. -/
def invalid : Errno := ⟨22⟩

/-- Too many open files. -/
def tooManyFiles : Errno := ⟨24⟩

/-- Text file busy. -/
def fileBusy : Errno := ⟨26⟩

/-- File too large. -/
def fileTooLarge : Errno := ⟨27⟩

/-- No space left on device. -/
def noSpace : Errno := ⟨28⟩

/-- Broken pipe. -/
def brokenPipe : Errno := ⟨32⟩

/-- File name too long. -/
def nameTooLong : Errno := ⟨36⟩

/-- Too many levels of symbolic links. -/
def tooManyLinks : Errno := ⟨40⟩

/-! ### Texts -/

/-- The texts of the numbers from 0 on. -/
def texts : Array String := #[
  "Success", "Operation not permitted", "No such file or directory", "No such process",
  "Interrupted system call", "Input/output error", "No such device or address",
  "Argument list too long", "Exec format error", "Bad file descriptor", "No child processes",
  "Resource temporarily unavailable", "Cannot allocate memory", "Permission denied",
  "Bad address", "Block device required", "Device or resource busy", "File exists",
  "Invalid cross-device link", "No such device", "Not a directory", "Is a directory",
  "Invalid argument", "Too many open files in system", "Too many open files",
  "Inappropriate ioctl for device", "Text file busy", "File too large",
  "No space left on device", "Illegal seek", "Read-only file system", "Too many links",
  "Broken pipe", "Numerical argument out of domain", "Numerical result out of range",
  "Resource deadlock avoided", "File name too long", "No locks available",
  "Function not implemented", "Directory not empty", "Too many levels of symbolic links",
  "Unknown error 41", "No message of desired type", "Identifier removed",
  "Channel number out of range", "Level 2 not synchronized", "Level 3 halted", "Level 3 reset",
  "Link number out of range", "Protocol driver not attached", "No CSI structure available",
  "Level 2 halted", "Invalid exchange", "Invalid request descriptor", "Exchange full",
  "No anode", "Invalid request code", "Invalid slot", "Unknown error 58", "Bad font file format",
  "Device not a stream", "No data available", "Timer expired", "Out of streams resources",
  "Machine is not on the network", "Package not installed", "Object is remote",
  "Link has been severed", "Advertise error", "Srmount error", "Communication error on send",
  "Protocol error", "Multihop attempted", "RFS specific error", "Bad message",
  "Value too large for defined data type", "Name not unique on network",
  "File descriptor in bad state", "Remote address changed",
  "Can not access a needed shared library", "Accessing a corrupted shared library",
  ".lib section in a.out corrupted", "Attempting to link in too many shared libraries",
  "Cannot exec a shared library directly", "Invalid or incomplete multibyte or wide character",
  "Interrupted system call should be restarted", "Streams pipe error", "Too many users",
  "Socket operation on non-socket", "Destination address required", "Message too long",
  "Protocol wrong type for socket", "Protocol not available", "Protocol not supported",
  "Socket type not supported", "Operation not supported", "Protocol family not supported",
  "Address family not supported by protocol", "Address already in use",
  "Cannot assign requested address", "Network is down", "Network is unreachable",
  "Network dropped connection on reset", "Software caused connection abort",
  "Connection reset by peer", "No buffer space available",
  "Transport endpoint is already connected", "Transport endpoint is not connected",
  "Cannot send after transport endpoint shutdown", "Too many references: cannot splice",
  "Connection timed out", "Connection refused", "Host is down", "No route to host",
  "Operation already in progress", "Operation now in progress", "Stale file handle",
  "Structure needs cleaning", "Not a XENIX named type file", "No XENIX semaphores available",
  "Is a named type file", "Remote I/O error", "Disk quota exceeded", "No medium found",
  "Wrong medium type", "Operation canceled", "Required key not available", "Key has expired",
  "Key has been revoked", "Key was rejected by service", "Owner died", "State not recoverable",
  "Operation not possible due to RF-kill", "Memory page has hardware error"]

/-- The text of an error number; a number the system does not know is named as unknown. -/
def text (errno : Errno) : String :=
  let unknown := "Unknown error " ++ toString errno.number
  if errno.number < 0 then unknown else (texts[errno.number.toNat]?).getD unknown

end Errno

end ShellSmoke
