import Shading.Text

set_option autoImplicit false

namespace Shading

inductive Expectation where
  | utf8
  | decodableUtf8
  | classConstant
  | wideInsidePool
deriving DecidableEq, Repr

inductive Counted where
  | constantPool
  | utf8Constant
  | interfaces
  | members
  | attributes
  | attributeBody
  | exceptionTable
  | localVariableTable
  | annotations
  | annotationElements
  | annotationArray
  | parameterAnnotations
  | typeAnnotations
  | recordComponents
deriving DecidableEq, Repr

inductive AttributeFault where
  | leftover (name : Text)
  | elementTag (tag : UInt8) (offset : Nat)
  | annotationTarget (target : UInt8) (offset : Nat)
deriving DecidableEq, Repr

inductive FormatError where
  | truncated (offset : Nat)
  | badMagic (magic : UInt32)
  | unknownConstant (tag : UInt8) (index : Nat)
  | badConstant (index : Nat) (expected : Expectation)
  | badSignature (source : Text)
  | trailingBytes (count : Nat)
  | badAttribute (fault : AttributeFault)
  | poolOverflow
  | tooLong (what : Counted) (count : Nat)
deriving DecidableEq, Repr

def Expectation.describe : Expectation → Text
  | utf8 => "UTF-8 constant".toList
  | decodableUtf8 => "modified UTF-8 string".toList
  | classConstant => "class constant".toList
  | wideInsidePool => "8-byte constant inside the pool".toList

def Counted.describe : Counted → Text
  | constantPool => "constant pool".toList
  | utf8Constant => "UTF-8 constant".toList
  | interfaces => "interfaces".toList
  | members => "members".toList
  | attributes => "attributes".toList
  | attributeBody => "attribute".toList
  | exceptionTable => "exception table".toList
  | localVariableTable => "local variable table".toList
  | annotations => "annotations".toList
  | annotationElements => "annotation elements".toList
  | annotationArray => "annotation array".toList
  | parameterAnnotations => "parameter annotations".toList
  | typeAnnotations => "type annotations".toList
  | recordComponents => "record components".toList

def quotedByte (b : UInt8) : Text :=
  let n := b.toNat
  let body : Text :=
    if n = 0 then ['\\', '0']
    else if n = 9 then ['\\', 't']
    else if n = 10 then ['\\', 'n']
    else if n = 13 then ['\\', 'r']
    else if n = 39 then ['\\', '\'']
    else if n = 92 then ['\\', '\\']
    else if n < 32 || (127 ≤ n && n ≤ 160) || n = 173 then
      ['\\', 'u', '\x7b'] ++ Text.hexadecimal 1 n ++ ['\x7d']
    else [Char.ofNat n]
  '\'' :: body ++ ['\'']

def AttributeFault.describe : AttributeFault → Text
  | leftover name => name
  | elementTag tag offset =>
      "element value tag ".toList ++ quotedByte tag ++ " at offset ".toList ++ Text.ofNat offset
  | annotationTarget target offset =>
      "type annotation target 0x".toList ++ Text.hexadecimal 2 target.toNat ++
        " at offset ".toList ++ Text.ofNat offset

def FormatError.message : FormatError → Text
  | truncated offset => "unexpected end of class data at offset ".toList ++ Text.ofNat offset
  | badMagic magic => "bad magic number 0x".toList ++ Text.hexadecimal 8 magic.toNat
  | unknownConstant tag index =>
      "unknown constant pool tag ".toList ++ Text.ofNat tag.toNat ++ " at index ".toList ++
        Text.ofNat index
  | badConstant index expected =>
      "constant pool index ".toList ++ Text.ofNat index ++ " is not a ".toList ++ expected.describe
  | badSignature source => "malformed type descriptor or signature: ".toList ++ source
  | trailingBytes count => Text.ofNat count ++ " trailing bytes after class data".toList
  | badAttribute fault => "attribute ".toList ++ fault.describe ++ " is malformed".toList
  | poolOverflow => "constant pool would exceed 65535 entries".toList
  | tooLong what count =>
      what.describe ++ " too long to encode (".toList ++ Text.ofNat count ++ " bytes)".toList

end Shading
