/-! Reasons why a path cannot be read or written. -/

set_option autoImplicit false

namespace BrokenLinks

inductive AccessError where
  | notFound
  | permissionDenied
  | notADirectory
  | isADirectory
  | nameTooLong
  | tooManyLinks
  | zeroByte
  -- The file was read, but is not UTF-8.
  | notText
  deriving DecidableEq, Repr

namespace AccessError

def message : AccessError → String
  | .notFound => "No such file or directory (os error 2)"
  | .permissionDenied => "Permission denied (os error 13)"
  | .notADirectory => "Not a directory (os error 20)"
  | .isADirectory => "Is a directory (os error 21)"
  | .nameTooLong => "File name too long (os error 36)"
  | .tooManyLinks => "Too many levels of symbolic links (os error 40)"
  | .zeroByte => "file name contained an unexpected NUL byte"
  | .notText => "stream did not contain valid UTF-8"

end AccessError

end BrokenLinks
