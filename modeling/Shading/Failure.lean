import Shading.ClassFile.FormatError
import Shading.PathPattern
import Shading.Zip.Fault

set_option autoImplicit false

namespace Shading

inductive FileFault where
  | notFound
  | permissionDenied
  | alreadyExists
  | notADirectory
  | isADirectory
  | busy
  | nameTooLong
  | tooManyLinks
  | unusableName
  | notText
  | badChecksum
  | corruptStream
  | loop (link ancestor : Text)
  | visiting (path : Text) (fault : FileFault)
deriving DecidableEq, Repr

def FileFault.message : FileFault → Text
  | notFound => "No such file or directory (os error 2)".toList
  | permissionDenied => "Permission denied (os error 13)".toList
  | alreadyExists => "File exists (os error 17)".toList
  | notADirectory => "Not a directory (os error 20)".toList
  | isADirectory => "Is a directory (os error 21)".toList
  | busy => "Device or resource busy (os error 16)".toList
  | nameTooLong => "File name too long (os error 36)".toList
  | tooManyLinks => "Too many levels of symbolic links (os error 40)".toList
  | unusableName => "file name contained an unexpected NUL byte".toList
  | notText => "stream did not contain valid UTF-8".toList
  | badChecksum => "Invalid checksum".toList
  | corruptStream => "corrupt deflate stream".toList
  | loop link ancestor =>
      "File system loop found: ".toList ++ link ++ " points to an ancestor ".toList ++ ancestor
  | visiting path fault =>
      "IO error for operation on ".toList ++ path ++ ": ".toList ++ fault.message

def FileFault.causes : FileFault → List Text
  | visiting _ fault => [fault.message]
  | _ => []

inductive Failure where
  | unreadable (path : Text) (fault : FileFault)
  | unwritable (path : Text) (fault : FileFault)
  | content (fault : FileFault)
  | archive (fault : Zip.Fault)
  | classFile (path : Text) (fault : FormatError)
  | entry (name input : Text) (cause : Failure)
  | pattern (p : IllFormedPattern)
  | settings (path : Text)
  | noInput (path : Text)
deriving DecidableEq, Repr

namespace Failure

-- The failure with the place it belongs to, unless it has one already.
def inEntry (name input : Text) : Failure → Failure
  | entry name input cause => entry name input cause
  | other => entry name input other

def message : Failure → Text
  | unreadable path fault => "cannot read ".toList ++ path ++ ": ".toList ++ fault.message
  | unwritable path fault => "cannot write ".toList ++ path ++ ": ".toList ++ fault.message
  | content fault => "IO error: ".toList ++ fault.message
  | archive fault => "ZIP error: ".toList ++ fault.message
  | classFile path fault =>
      "error while remapping class file ".toList ++ path ++ ": ".toList ++ fault.message
  | entry name input cause =>
      "could not add ".toList ++ name ++ " from ".toList ++ input ++ ": ".toList ++ cause.message
  | pattern p => "invalid pattern ".toList ++ p.source ++ ": regex parse error".toList
  | settings path => "invalid ".toList ++ path ++ ": TOML parse error".toList
  | noInput path => "input not found: ".toList ++ path

def causes : Failure → List Text
  | unreadable _ fault | unwritable _ fault =>
      fault.message :: fault.causes
  | content fault => fault.message :: fault.causes
  | archive fault => [fault.message]
  | classFile _ fault => [fault.message]
  | entry _ _ cause => cause.message :: cause.causes
  | pattern _ | settings _ | noInput _ => []

end Failure

end Shading
