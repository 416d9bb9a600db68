/-!
# Kinds of failure

What went wrong, apart from how a system numbers and words it.
-/

namespace WholeFile

/-- Kinds of failure, across systems. -/
inductive ErrorKind where
  | notFound | permissionDenied | alreadyExists | wouldBlock | notADirectory | isADirectory
  | readOnlyFilesystem | filesystemLoop | staleNetworkFileHandle | invalidInput | invalidData
  | timedOut | writeZero | storageFull | notSeekable | quotaExceeded | fileTooLarge | resourceBusy
  | executableFileBusy | crossesDevices | tooManyLinks | invalidFilename | argumentListTooLong
  | interrupted | unsupported | unexpectedEof | outOfMemory | brokenPipe | inputOutputError
  | tooManyOpenFiles | directoryNotEmpty | deadlock | inProgress | addressInUse
  | addressNotAvailable | connectionAborted | connectionRefused | connectionReset | notConnected
  | hostUnreachable | networkDown | networkUnreachable | other | uncategorized
deriving DecidableEq, Repr

def ErrorKind.name : ErrorKind → String
  | notFound => "NotFound"
  | permissionDenied => "PermissionDenied"
  | alreadyExists => "AlreadyExists"
  | wouldBlock => "WouldBlock"
  | notADirectory => "NotADirectory"
  | isADirectory => "IsADirectory"
  | readOnlyFilesystem => "ReadOnlyFilesystem"
  | filesystemLoop => "FilesystemLoop"
  | staleNetworkFileHandle => "StaleNetworkFileHandle"
  | invalidInput => "InvalidInput"
  | invalidData => "InvalidData"
  | timedOut => "TimedOut"
  | writeZero => "WriteZero"
  | storageFull => "StorageFull"
  | notSeekable => "NotSeekable"
  | quotaExceeded => "QuotaExceeded"
  | fileTooLarge => "FileTooLarge"
  | resourceBusy => "ResourceBusy"
  | executableFileBusy => "ExecutableFileBusy"
  | crossesDevices => "CrossesDevices"
  | tooManyLinks => "TooManyLinks"
  | invalidFilename => "InvalidFilename"
  | argumentListTooLong => "ArgumentListTooLong"
  | interrupted => "Interrupted"
  | unsupported => "Unsupported"
  | unexpectedEof => "UnexpectedEof"
  | outOfMemory => "OutOfMemory"
  | brokenPipe => "BrokenPipe"
  | inputOutputError => "InputOutputError"
  | tooManyOpenFiles => "TooManyOpenFiles"
  | directoryNotEmpty => "DirectoryNotEmpty"
  | deadlock => "Deadlock"
  | inProgress => "InProgress"
  | addressInUse => "AddrInUse"
  | addressNotAvailable => "AddrNotAvailable"
  | connectionAborted => "ConnectionAborted"
  | connectionRefused => "ConnectionRefused"
  | connectionReset => "ConnectionReset"
  | notConnected => "NotConnected"
  | hostUnreachable => "HostUnreachable"
  | networkDown => "NetworkDown"
  | networkUnreachable => "NetworkUnreachable"
  | other => "Other"
  | uncategorized => "Uncategorized"

/-- The text of a failure of which only the kind is known. -/
def ErrorKind.description : ErrorKind → String
  | notFound => "entity not found"
  | permissionDenied => "permission denied"
  | alreadyExists => "entity already exists"
  | wouldBlock => "operation would block"
  | notADirectory => "not a directory"
  | isADirectory => "is a directory"
  | readOnlyFilesystem => "read-only filesystem or storage medium"
  | filesystemLoop => "filesystem loop or indirection limit (e.g. symlink loop)"
  | staleNetworkFileHandle => "stale network file handle"
  | invalidInput => "invalid input parameter"
  | invalidData => "invalid data"
  | timedOut => "timed out"
  | writeZero => "write zero"
  | storageFull => "no storage space"
  | notSeekable => "seek on unseekable file"
  | quotaExceeded => "quota exceeded"
  | fileTooLarge => "file too large"
  | resourceBusy => "resource busy"
  | executableFileBusy => "executable file busy"
  | crossesDevices => "cross-device link or rename"
  | tooManyLinks => "too many links"
  | invalidFilename => "invalid filename"
  | argumentListTooLong => "argument list too long"
  | interrupted => "operation interrupted"
  | unsupported => "unsupported"
  | unexpectedEof => "unexpected end of file"
  | outOfMemory => "out of memory"
  | brokenPipe => "broken pipe"
  | inputOutputError => "input/output error"
  | tooManyOpenFiles => "too many open files"
  | directoryNotEmpty => "directory not empty"
  | deadlock => "deadlock"
  | inProgress => "in progress"
  | addressInUse => "address in use"
  | addressNotAvailable => "address not available"
  | connectionAborted => "connection aborted"
  | connectionRefused => "connection refused"
  | connectionReset => "connection reset"
  | notConnected => "not connected"
  | hostUnreachable => "host unreachable"
  | networkDown => "network down"
  | networkUnreachable => "network unreachable"
  | other => "other error"
  | uncategorized => "uncategorized error"

namespace ErrorKind

/-- Every kind. -/
def all : List ErrorKind := [
  notFound, permissionDenied, alreadyExists, wouldBlock, notADirectory, isADirectory,
  readOnlyFilesystem, filesystemLoop, staleNetworkFileHandle, invalidInput, invalidData, timedOut,
  writeZero, storageFull, notSeekable, quotaExceeded, fileTooLarge, resourceBusy,
  executableFileBusy, crossesDevices, tooManyLinks, invalidFilename, argumentListTooLong,
  interrupted, unsupported, unexpectedEof, outOfMemory, brokenPipe, inputOutputError,
  tooManyOpenFiles, directoryNotEmpty, deadlock, inProgress, addressInUse, addressNotAvailable,
  connectionAborted, connectionRefused, connectionReset, notConnected, hostUnreachable,
  networkDown, networkUnreachable, other, uncategorized]

/-- The kind of that name. -/
def ofName? (name : String) : Option ErrorKind := all.find? (·.name = name)

theorem ofName?_name (k : ErrorKind) : ofName? k.name = some k := by
  cases k <;> decide +kernel

end ErrorKind

end WholeFile
