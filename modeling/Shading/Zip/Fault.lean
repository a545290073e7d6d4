import Shading.Text

set_option autoImplicit false

namespace Shading.Zip

inductive Fault where
  | malformed
  | encrypted
  | unknownMethod
  | duplicateName
deriving DecidableEq, Repr

def Fault.message : Fault → Text
  | malformed | duplicateName => "invalid Zip archive".toList
  | encrypted => "unsupported Zip archive: Password required to decrypt file".toList
  | unknownMethod => "unsupported Zip archive: Compression method not supported".toList

end Shading.Zip
