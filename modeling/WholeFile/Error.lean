import WholeFile.Errno
import WholeFile.Storage
import WholeFile.Text.Quoted

/-!
# Errors

Why an operation on a buffer or a file failed, and the text of each cause. An abort is not an
error: it ends an operation whose caller, or whose kernel, broke a promise.
-/

namespace WholeFile

/-! ## Input and output -/

/-- A failure of input or output. -/
inductive IoError where
  /-- A system call failed. -/
  | os (errno : Errno)
  /-- Only the kind is known. -/
  | plain (kind : ErrorKind)
  /-- A failure found by this library, with a text of its own. -/
  | custom (kind : ErrorKind) (text : String)
deriving DecidableEq, Repr

namespace IoError

def kind : IoError → ErrorKind
  | os errno => errno.kind
  | plain kind => kind
  | custom kind _ => kind

def errno? : IoError → Option Errno
  | os errno => some errno
  | _ => none

def message : IoError → String
  | os errno => s!"{errno.text} (os error {errno.code})"
  | plain kind => kind.description
  | custom _ text => text

/-- The failure with all its parts. -/
def describe : IoError → String
  | os errno =>
    s!"Os \x7b code: {errno.code}, kind: {errno.kind.name}, message: {Text.quoted errno.text} \x7d"
  | plain kind => s!"Kind({kind.name})"
  | custom kind text => s!"Custom \x7b kind: {kind.name}, error: {Text.quoted text} \x7d"

/-- The failure is an interruption by a signal, and the same call may be made again. -/
def isInterrupted (e : IoError) : Bool := e.kind = .interrupted

def nulInPath : IoError := .custom .invalidInput "path contains an interior nul byte"

def ringLacksTransfers : IoError := .custom .unsupported "io_uring lacks read/write opcodes"

def ringPoisoned : IoError := .custom .other "io_uring driver is poisoned"

def ringFull : IoError := .custom .other "io_uring submission queue is full"

end IoError

/-! ## Errors of operations -/

inductive Error where
  /-- Memory for a buffer was not granted. -/
  | alloc (cause : AllocError)
  /-- The reported length of a file fits in no memory. -/
  | fileTooLarge (size : Nat)
  /-- A write made no progress before every byte was written. -/
  | shortWrite (expected written : Nat)
  /-- A handle names no live buffer. -/
  | invalidHandle
  | io (cause : IoError)
deriving DecidableEq, Repr

namespace Error

def message : Error → String
  | alloc cause => s!"buffer allocation failed: {cause.message}"
  | fileTooLarge size => s!"file of {size} bytes does not fit in memory"
  | shortWrite expected written => s!"short write: wrote {written} of {expected} bytes"
  | invalidHandle => "invalid buffer handle"
  | io cause => cause.message

/-- The text of the cause behind the error, where it is a cause of its own. -/
def source? : Error → Option String
  | alloc cause => some cause.message
  | _ => none

/-- The error with all its parts. The cause of a refused allocation has no fixed form. -/
def describe? : Error → Option String
  | alloc _ => none
  | fileTooLarge size => some s!"FileTooLarge({size})"
  | shortWrite expected written =>
    some s!"ShortWrite \x7b expected: {expected}, written: {written} \x7d"
  | invalidHandle => some "InvalidHandle"
  | io cause => some s!"Io({cause.describe})"

end Error

/-! ## Aborts -/

/-- A broken promise. -/
inductive Abort where
  /-- A bound of a range does not fit in 64 bits. -/
  | boundOverflow
  /-- A range ends past the payload. -/
  | endPastTotal
  /-- A range begins past the bytes that have a value. -/
  | beginPastInitialized
  /-- A range begins past its end. -/
  | beginPastEnd
  /-- A stretch of bytes was taken that is not there. -/
  | outOfBounds
  /-- A list of bytes was to grow past what one allocation can have. -/
  | capacityOverflow
deriving DecidableEq, Repr

/-- The text of an abort that has one. -/
def Abort.message? : Abort → Option String
  | boundOverflow => some "out of range"
  | endPastTotal => some "slice end out of range"
  | beginPastInitialized => some "slice begin out of range"
  | beginPastEnd => some "slice begin past end"
  | outOfBounds | capacityOverflow => none

/-- How an operation that gives no value ends. -/
inductive Failure where
  | error (cause : Error)
  | abort (cause : Abort)
deriving DecidableEq, Repr

end WholeFile
