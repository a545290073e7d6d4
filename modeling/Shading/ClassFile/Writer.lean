import Shading.ClassFile.FormatError

set_option autoImplicit false

namespace Shading

namespace Bytes

def ofU16 (n : UInt16) : Bytes := [(n >>> 8).toUInt8, n.toUInt8]

def ofU32 (n : UInt32) : Bytes :=
  [(n >>> 24).toUInt8, (n >>> 16).toUInt8, (n >>> 8).toUInt8, n.toUInt8]

def ofU64 (n : UInt64) : Bytes := ofU32 (n >>> 32).toUInt32 ++ ofU32 n.toUInt32

end Bytes

namespace Writer

def count (limit : Nat) (field : Nat → Bytes) (what : Counted) (n : Nat) : Except FormatError Bytes :=
  if n < limit then .ok (field n) else .error (.tooLong what n)

def count8 : Counted → Nat → Except FormatError Bytes := count 0x100 fun n => [n.toUInt8]

def count16 : Counted → Nat → Except FormatError Bytes := count 0x10000 fun n => Bytes.ofU16 n.toUInt16

def count32 : Counted → Nat → Except FormatError Bytes := count 0x100000000 fun n => Bytes.ofU32 n.toUInt32

def eachOnto {α : Type} (item : α → Except FormatError Bytes) (done : List Bytes) :
    List α → Except FormatError Bytes
  | [] => .ok done.reverse.flatten
  | a :: rest =>
      match item a with
      | .ok bytes => eachOnto item (bytes :: done) rest
      | .error e => .error e

def each {α : Type} (item : α → Except FormatError Bytes) (items : List α) :
    Except FormatError Bytes :=
  eachOnto item [] items

end Writer

end Shading
