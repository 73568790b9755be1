/-!
# Errors of the operating system

The error numbers that the socket calls can meet, with their names and texts, and what an
input/output error says of itself: an error number with its text, or a text of its own.
-/

namespace TwinServers

/-- An error number that has a name. -/
inductive Errno
  | notPermitted
  | interrupted
  | badDescriptor
  | noMemory
  | accessDenied
  | invalidArgument
  | tooManyFilesInSystem
  | tooManyFiles
  | noSpace
  | protocolError
  | protocolUnavailable
  | protocolUnsupported
  | operationUnsupported
  | familyUnsupported
  | addressInUse
  | addressUnavailable
  | networkDown
  | networkUnreachable
  | connectionAborted
  | noBuffers
  | timedOut
  | connectionRefused
  | hostUnreachable
  deriving DecidableEq, Repr

namespace Errno

/-- The named errors, by number. -/
def all : List Errno :=
  [notPermitted, interrupted, badDescriptor, noMemory, accessDenied, invalidArgument,
    tooManyFilesInSystem, tooManyFiles, noSpace, protocolError, protocolUnavailable,
    protocolUnsupported, operationUnsupported, familyUnsupported, addressInUse,
    addressUnavailable, networkDown, networkUnreachable, connectionAborted, noBuffers, timedOut,
    connectionRefused, hostUnreachable]

/-- The number. -/
def code : Errno → Int
  | notPermitted => 1
  | interrupted => 4
  | badDescriptor => 9
  | noMemory => 12
  | accessDenied => 13
  | invalidArgument => 22
  | tooManyFilesInSystem => 23
  | tooManyFiles => 24
  | noSpace => 28
  | protocolError => 71
  | protocolUnavailable => 92
  | protocolUnsupported => 93
  | operationUnsupported => 95
  | familyUnsupported => 97
  | addressInUse => 98
  | addressUnavailable => 99
  | networkDown => 100
  | networkUnreachable => 101
  | connectionAborted => 103
  | noBuffers => 105
  | timedOut => 110
  | connectionRefused => 111
  | hostUnreachable => 113

/-- The name. -/
def name : Errno → String
  | notPermitted => "EPERM"
  | interrupted => "EINTR"
  | badDescriptor => "EBADF"
  | noMemory => "ENOMEM"
  | accessDenied => "EACCES"
  | invalidArgument => "EINVAL"
  | tooManyFilesInSystem => "ENFILE"
  | tooManyFiles => "EMFILE"
  | noSpace => "ENOSPC"
  | protocolError => "EPROTO"
  | protocolUnavailable => "ENOPROTOOPT"
  | protocolUnsupported => "EPROTONOSUPPORT"
  | operationUnsupported => "EOPNOTSUPP"
  | familyUnsupported => "EAFNOSUPPORT"
  | addressInUse => "EADDRINUSE"
  | addressUnavailable => "EADDRNOTAVAIL"
  | networkDown => "ENETDOWN"
  | networkUnreachable => "ENETUNREACH"
  | connectionAborted => "ECONNABORTED"
  | noBuffers => "ENOBUFS"
  | timedOut => "ETIMEDOUT"
  | connectionRefused => "ECONNREFUSED"
  | hostUnreachable => "EHOSTUNREACH"

/-- The text. -/
def text : Errno → String
  | notPermitted => "Operation not permitted"
  | interrupted => "Interrupted system call"
  | badDescriptor => "Bad file descriptor"
  | noMemory => "Cannot allocate memory"
  | accessDenied => "Permission denied"
  | invalidArgument => "Invalid argument"
  | tooManyFilesInSystem => "Too many open files in system"
  | tooManyFiles => "Too many open files"
  | noSpace => "No space left on device"
  | protocolError => "Protocol error"
  | protocolUnavailable => "Protocol not available"
  | protocolUnsupported => "Protocol not supported"
  | operationUnsupported => "Operation not supported"
  | familyUnsupported => "Address family not supported by protocol"
  | addressInUse => "Address already in use"
  | addressUnavailable => "Cannot assign requested address"
  | networkDown => "Network is down"
  | networkUnreachable => "Network is unreachable"
  | connectionAborted => "Software caused connection abort"
  | noBuffers => "No buffer space available"
  | timedOut => "Connection timed out"
  | connectionRefused => "Connection refused"
  | hostUnreachable => "No route to host"

/-- The named error with the given number. -/
def ofCode? (n : Int) : Option Errno := all.find? (·.code == n)

/-- The error with the given name. -/
def ofName? (s : String) : Option Errno := all.find? (·.name == s)

end Errno

/-- What went wrong in an operation on a socket. -/
inductive IoError
  /-- An error number of the operating system, named or not. -/
  | os (code : Int)
  /-- An error that shows just this text. -/
  | custom (text : String)
  deriving DecidableEq, Repr

namespace IoError

/-- The error with a named number. -/
def ofErrno (e : Errno) : IoError := .os e.code

/-- The text of an error. -/
def text : IoError → String
  | .os n =>
    match Errno.ofCode? n with
    | some e => e.text ++ " (os error " ++ toString n ++ ")"
    | none => "Unknown error " ++ toString n ++ " (os error " ++ toString n ++ ")"
  | .custom s => s

end IoError

end TwinServers
