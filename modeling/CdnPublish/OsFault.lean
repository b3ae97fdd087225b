/-!
# Refusals of the operating system

The reasons for which a file system refuses an operation, with the wording of the system.
-/

namespace CdnPublish

/-- Why an operation on a file failed. -/
inductive OsFault where
  | notFound
  | inputOutput
  | noDevice
  | permissionDenied
  | notDirectory
  | isDirectory
  | nameTooLong
  | tooManyLinks
  | nulInPath
  | notText
  deriving DecidableEq, Repr

/-- The wording of a refusal; most carry the number by which the system knows them. -/
def OsFault.message : OsFault → String
  | .notFound => "No such file or directory (os error 2)"
  | .inputOutput => "Input/output error (os error 5)"
  | .noDevice => "No such device or address (os error 6)"
  | .permissionDenied => "Permission denied (os error 13)"
  | .notDirectory => "Not a directory (os error 20)"
  | .isDirectory => "Is a directory (os error 21)"
  | .nameTooLong => "File name too long (os error 36)"
  | .tooManyLinks => "Too many levels of symbolic links (os error 40)"
  | .nulInPath => "file name contained an unexpected NUL byte"
  | .notText => "stream did not contain valid UTF-8"

end CdnPublish
