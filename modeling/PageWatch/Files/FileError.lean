/-!
# Why a file operation fails
-/

set_option autoImplicit false

namespace PageWatch

inductive FileError where
  | missing
  | occupied
  | notFolder
  | isFolder
  | longName
  | badName
  | badText
  | other (text : String)
  deriving Repr, DecidableEq

def FileError.message : FileError → String
  | missing => "No such file or directory (os error 2)"
  | occupied => "File exists (os error 17)"
  | notFolder => "Not a directory (os error 20)"
  | isFolder => "Is a directory (os error 21)"
  | longName => "File name too long (os error 36)"
  | badName => "file name contained an unexpected NUL byte"
  | badText => "stream did not contain valid UTF-8"
  | other text => text

end PageWatch
