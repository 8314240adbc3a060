/-! # Failures of filesystem calls -/

namespace Scaffold

/-- What went wrong with a filesystem call. -/
inductive IoErrorKind
  | notFound
  | permissionDenied
  | alreadyExists
  | notADirectory
  | isADirectory
  | directoryNotEmpty
  | readOnlyFilesystem
  | filesystemLoop
  | storageFull
  | quotaExceeded
  | fileTooLarge
  | resourceBusy
  | deadlock
  | crossesDevices
  | tooManyLinks
  | invalidFilename
  | argumentListTooLong
  | invalidInput
  | invalidData
  | timedOut
  | writeZero
  | wouldBlock
  | interrupted
  | unsupported
  | brokenPipe
  | unexpectedEof
  | outOfMemory
  | uncategorized
  | other
  deriving DecidableEq, Repr, Inhabited

/-- A failed filesystem call: its kind and the text shown for it. -/
structure IoError where
  kind : IoErrorKind
  message : String
  deriving DecidableEq, Repr, Inhabited

end Scaffold
