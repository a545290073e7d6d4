import Shading.ClassFile.ModifiedUtf8
import Shading.ClassFile.Reader
import Shading.ClassFile.Writer

set_option autoImplicit false

namespace Shading

inductive Constant where
  -- Slot 0, or the slot after a long or double.
  | unusable
  | utf8 (payload : Bytes)
  | integer (bits : UInt32)
  | float (bits : UInt32)
  | long (bits : UInt64)
  | double (bits : UInt64)
  | classRef (name : UInt16)
  | string (value : UInt16)
  | fieldRef (owner member : UInt16)
  | methodRef (owner member : UInt16)
  | interfaceMethodRef (owner member : UInt16)
  | nameAndType (name descriptor : UInt16)
  | methodHandle (kind : UInt8) (reference : UInt16)
  | methodType (descriptor : UInt16)
  | dynamic (bootstrap member : UInt16)
  | invokeDynamic (bootstrap member : UInt16)
  | module (name : UInt16)
  | package (name : UInt16)
deriving DecidableEq, Repr, Inhabited

namespace Constant

def isWide : Constant → Bool
  | long _ | double _ => true
  | _ => false

def read (index : Nat) : Reader Constant := do
  let tag ← Reader.u8
  match tag with
  | 1 => do
      let length ← Reader.u16
      return utf8 (← Reader.bytes length.toNat)
  | 3 => return integer (← Reader.u32)
  | 4 => return float (← Reader.u32)
  | 5 => return long (← Reader.u64)
  | 6 => return double (← Reader.u64)
  | 7 => return classRef (← Reader.u16)
  | 8 => return string (← Reader.u16)
  | 9 => return fieldRef (← Reader.u16) (← Reader.u16)
  | 10 => return methodRef (← Reader.u16) (← Reader.u16)
  | 11 => return interfaceMethodRef (← Reader.u16) (← Reader.u16)
  | 12 => return nameAndType (← Reader.u16) (← Reader.u16)
  | 15 => return methodHandle (← Reader.u8) (← Reader.u16)
  | 16 => return methodType (← Reader.u16)
  | 17 => return dynamic (← Reader.u16) (← Reader.u16)
  | 18 => return invokeDynamic (← Reader.u16) (← Reader.u16)
  | 19 => return module (← Reader.u16)
  | 20 => return package (← Reader.u16)
  | tag => Reader.fail (.unknownConstant tag index)

def write : Constant → Except FormatError Bytes
  | unusable => .ok []
  | utf8 payload => do
      return 1 :: (← Writer.count16 .utf8Constant payload.length) ++ payload
  | integer bits => .ok (3 :: Bytes.ofU32 bits)
  | float bits => .ok (4 :: Bytes.ofU32 bits)
  | long bits => .ok (5 :: Bytes.ofU64 bits)
  | double bits => .ok (6 :: Bytes.ofU64 bits)
  | classRef name => .ok (7 :: Bytes.ofU16 name)
  | string value => .ok (8 :: Bytes.ofU16 value)
  | fieldRef owner member => .ok (9 :: Bytes.ofU16 owner ++ Bytes.ofU16 member)
  | methodRef owner member => .ok (10 :: Bytes.ofU16 owner ++ Bytes.ofU16 member)
  | interfaceMethodRef owner member =>
      .ok (11 :: Bytes.ofU16 owner ++ Bytes.ofU16 member)
  | nameAndType name descriptor => .ok (12 :: Bytes.ofU16 name ++ Bytes.ofU16 descriptor)
  | methodHandle kind reference => .ok (15 :: kind :: Bytes.ofU16 reference)
  | methodType descriptor => .ok (16 :: Bytes.ofU16 descriptor)
  | dynamic bootstrap member => .ok (17 :: Bytes.ofU16 bootstrap ++ Bytes.ofU16 member)
  | invokeDynamic bootstrap member =>
      .ok (18 :: Bytes.ofU16 bootstrap ++ Bytes.ofU16 member)
  | module name => .ok (19 :: Bytes.ofU16 name)
  | package name => .ok (20 :: Bytes.ofU16 name)

end Constant

structure Pool where
  slots : Array Constant
deriving DecidableEq, Repr

namespace Pool

-- Reads constants until `count` slots are filled. `fuel` is the number of slots that are missing at
-- most.
def readSlots (count fuel : Nat) (slots : Array Constant) : Reader (Array Constant) := fun c =>
  match fuel with
  | 0 => .ok (slots, c)
  | fuel + 1 =>
      if slots.size < count then
        match Constant.read slots.size c with
        | .error e => .error e
        | .ok (constant, c) =>
            if constant.isWide then
              if slots.size + 1 < count then
                readSlots count fuel ((slots.push constant).push .unusable) c
              else .error (.badConstant slots.size .wideInsidePool)
            else readSlots count fuel (slots.push constant) c
      else .ok (slots, c)

def read : Reader Pool := do
  let count ← Reader.u16
  return ⟨← readSlots count.toNat count.toNat #[.unusable]⟩

def write (pool : Pool) : Except FormatError Bytes := do
  return (← Writer.count16 .constantPool pool.slots.size) ++
    (← Writer.each Constant.write pool.slots.toList)

def size (pool : Pool) : Nat := pool.slots.size

def isEmpty (pool : Pool) : Bool := pool.slots.size ≤ 1

def get? (pool : Pool) (index : UInt16) : Option Constant := pool.slots[index.toNat]?

def payload (pool : Pool) (index : UInt16) : Except FormatError Bytes :=
  match pool.get? index with
  | some (.utf8 payload) => .ok payload
  | _ => .error (.badConstant index.toNat .utf8)

def text (pool : Pool) (index : UInt16) : Except FormatError Text := do
  match ModifiedUtf8.decode? (← pool.payload index) with
  | some s => .ok s
  | none => .error (.badConstant index.toNat .decodableUtf8)

def className (pool : Pool) (index : UInt16) : Except FormatError Text :=
  match pool.get? index with
  | some (.classRef name) => pool.text name
  | _ => .error (.badConstant index.toNat .classConstant)

def setText (pool : Pool) (index : UInt16) (s : Text) : Except FormatError Pool := do
  let encoded ← ModifiedUtf8.encode s
  match pool.get? index with
  | some (.utf8 _) => .ok ⟨pool.slots.setIfInBounds index.toNat (.utf8 encoded)⟩
  | _ => .error (.badConstant index.toNat .utf8)

-- Appends a UTF-8 constant and tells its index. The last index is never given out.
def pushText (pool : Pool) (s : Text) : Except FormatError (UInt16 × Pool) := do
  if pool.slots.size < 0xFFFF then
    return (pool.slots.size.toUInt16, ⟨pool.slots.push (.utf8 (← ModifiedUtf8.encode s))⟩)
  else throw .poolOverflow

end Pool

end Shading
