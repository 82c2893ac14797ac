/-!
Errors of the operating system: a kind, and a text that says what happened.
-/

namespace Swarm

inductive SystemErrorKind where
  | notFound
  | permissionDenied
  | connectionRefused
  | connectionReset
  | connectionAborted
  | notConnected
  | addressInUse
  | addressNotAvailable
  | brokenPipe
  | alreadyExists
  | wouldBlock
  | notADirectory
  | isADirectory
  | invalidInput
  | invalidData
  | timedOut
  | writeZero
  | storageFull
  | interrupted
  | unsupported
  | unexpectedEnd
  | outOfMemory
  | other
deriving DecidableEq

def SystemErrorKind.all : List SystemErrorKind :=
  [notFound, permissionDenied, connectionRefused, connectionReset, connectionAborted, notConnected,
    addressInUse, addressNotAvailable, brokenPipe, alreadyExists, wouldBlock, notADirectory,
    isADirectory, invalidInput, invalidData, timedOut, writeZero, storageFull, interrupted,
    unsupported, unexpectedEnd, outOfMemory, other]

theorem SystemErrorKind.mem_all (kind : SystemErrorKind) : kind ∈ all := by
  cases kind <;> decide

def SystemErrorKind.words : SystemErrorKind → String
  | notFound => "entity not found"
  | permissionDenied => "permission denied"
  | connectionRefused => "connection refused"
  | connectionReset => "connection reset"
  | connectionAborted => "connection aborted"
  | notConnected => "not connected"
  | addressInUse => "address in use"
  | addressNotAvailable => "address not available"
  | brokenPipe => "broken pipe"
  | alreadyExists => "entity already exists"
  | wouldBlock => "operation would block"
  | notADirectory => "not a directory"
  | isADirectory => "is a directory"
  | invalidInput => "invalid input parameter"
  | invalidData => "invalid data"
  | timedOut => "timed out"
  | writeZero => "write zero"
  | storageFull => "no storage space"
  | interrupted => "operation interrupted"
  | unsupported => "unsupported"
  | unexpectedEnd => "unexpected end of file"
  | outOfMemory => "out of memory"
  | other => "other error"

structure SystemError where
  kind : SystemErrorKind
  text : String
deriving DecidableEq

def SystemError.earlyEnd : SystemError := ⟨.unexpectedEnd, "early eof"⟩

end Swarm
