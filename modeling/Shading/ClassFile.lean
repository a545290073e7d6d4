import Shading.ClassFile.Attribute

set_option autoImplicit false

namespace Shading

structure Member where
  access : UInt16
  name : UInt16
  descriptor : UInt16
  attributes : List Attribute

structure ClassFile where
  minor : UInt16
  major : UInt16
  pool : Pool
  access : UInt16
  thisClass : UInt16
  superClass : UInt16
  interfaces : List UInt16
  fields : List Member
  methods : List Member
  attributes : List Attribute

namespace Member

def read (attributes : Reader (List Attribute)) : Reader Member := do
  return ⟨← Reader.u16, ← Reader.u16, ← Reader.u16, ← attributes⟩

def write (m : Member) : Except FormatError Bytes := do
  return Bytes.ofU16 m.access ++ Bytes.ofU16 m.name ++ Bytes.ofU16 m.descriptor ++
    (← Attribute.writeAll m.attributes)

def writeAll (members : List Member) : Except FormatError Bytes := do
  return (← Writer.count16 .members members.length) ++ (← Writer.each write members)

end Member

namespace ClassFile

def magic : UInt32 := 0xCAFEBABE

def read : Reader ClassFile := do
  let number ← Reader.u32
  if number ≠ magic then Reader.fail (.badMagic number)
  let minor ← Reader.u16
  let major ← Reader.u16
  let pool ← Pool.read
  let access ← Reader.u16
  let thisClass ← Reader.u16
  let superClass ← Reader.u16
  let interfaces ← Reader.counted Reader.u16
  let left ← fun c => .ok (c.rest.length, c)
  let attributes := Reader.attributes pool (left + 1)
  let fields ← Reader.counted (Member.read attributes)
  let methods ← Reader.counted (Member.read attributes)
  return ⟨minor, major, pool, access, thisClass, superClass, interfaces, fields, methods,
    ← attributes⟩

/-- Parses a class file; nothing may follow it. -/
def parse (data : Bytes) : Except FormatError ClassFile := do
  let (c, after) ← Reader.run read data
  if after.rest.isEmpty then return c else throw (.trailingBytes after.rest.length)

def toBytes (c : ClassFile) : Except FormatError Bytes := do
  return Bytes.ofU32 magic ++ Bytes.ofU16 c.minor ++ Bytes.ofU16 c.major ++ (← c.pool.write) ++
    Bytes.ofU16 c.access ++ Bytes.ofU16 c.thisClass ++ Bytes.ofU16 c.superClass ++
    (← Writer.count16 .interfaces c.interfaces.length) ++ c.interfaces.flatMap Bytes.ofU16 ++
    (← Member.writeAll c.fields) ++ (← Member.writeAll c.methods) ++
    (← Attribute.writeAll c.attributes)

def name (c : ClassFile) : Except FormatError Text := c.pool.className c.thisClass

-- The internal name of the super class. The root of the hierarchy and module descriptors have none.
def superName (c : ClassFile) : Except FormatError (Option Text) :=
  if c.superClass = 0 then .ok none else (c.pool.className c.superClass).map some

def interfaceNames (c : ClassFile) : Except FormatError (List Text) :=
  c.interfaces.mapM c.pool.className

end ClassFile

end Shading
