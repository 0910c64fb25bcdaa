/-
The kinds of errors of reading and writing.
-/
namespace PacketLog

/-- The kinds of errors of reading and writing.  An error that has none of the kinds before is of
kind `other` if it was made by a program, and `uncategorized` if it comes from the system. -/
inductive IoKind where
  | notFound
  | permissionDenied
  | connectionRefused
  | connectionReset
  | connectionAborted
  | hostUnreachable
  | networkUnreachable
  | networkDown
  | notConnected
  | addressInUse
  | addressNotAvailable
  | brokenPipe
  | alreadyExists
  | wouldBlock
  | inProgress
  | notADirectory
  | isADirectory
  | directoryNotEmpty
  | readOnlyFilesystem
  | filesystemLoop
  | staleHandle
  | storageFull
  | quotaExceeded
  | fileTooLarge
  | notSeekable
  | resourceBusy
  | executableBusy
  | deadlock
  | crossesDevices
  | tooManyLinks
  | invalidInput
  | invalidData
  | invalidFilename
  | argumentListTooLong
  | timedOut
  | writeZero
  | interrupted
  | unsupported
  | unexpectedEnd
  | outOfMemory
  | other
  | uncategorized
  deriving DecidableEq, Repr

end PacketLog
