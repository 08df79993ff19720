namespace WorkerVitals.File

/-- Why a file that is there could not be read as text. -/
inductive ReadFailure where
  | isDirectory
  | notDirectory
  | nameTooLong
  | notUnicode
  | nulInName
  | other (reason : String)
  deriving DecidableEq, Repr

def ReadFailure.message : ReadFailure → String
  | .isDirectory => "Is a directory (os error 21)"
  | .notDirectory => "Not a directory (os error 20)"
  | .nameTooLong => "File name too long (os error 36)"
  | .notUnicode => "stream did not contain valid UTF-8"
  | .nulInName => "file name contained an unexpected NUL byte"
  | .other reason => reason

/-- The outcome of reading a file: its text, no such file, or a failure. -/
inductive Content where
  | text (characters : String)
  | missing
  | failed (failure : ReadFailure)
  deriving DecidableEq, Repr

end WorkerVitals.File
