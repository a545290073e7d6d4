import Shading.ClassFile.Pool

/- A reader runs on the body of an attribute alone, so offsets in errors count from the start of the body.
   The recursive readers take as fuel the number of bytes that are left at most: every level of nesting
   reads a byte before it recurses, and a reader without fuel has no bytes either, so that it fails as if
   it had tried. -/

set_option autoImplicit false

namespace Shading

inductive ElementValue where
  -- A primitive or string constant; `tag` is one of `BCDFIJSZs`.
  | const (tag : UInt8) (index : UInt16)
  | enumConst (type name : UInt16)
  | classInfo (descriptor : UInt16)
  | nested (type : UInt16) (elements : List (UInt16 × ElementValue))
  | array (values : List ElementValue)
deriving Repr, Inhabited

structure AnnotationEntry where
  type : UInt16
  elements : List (UInt16 × ElementValue)
deriving Repr

structure TypeAnnotationEntry where
  target : Bytes
  entry : AnnotationEntry
deriving Repr

structure LocalVariable where
  start : UInt16
  length : UInt16
  name : UInt16
  type : UInt16
  slot : UInt16
deriving DecidableEq, Repr

structure Handler where
  -- Its eight bytes, which refer to class constants only.
  bytes : Bytes
deriving DecidableEq, Repr

mutual
inductive AttributeBody where
  | code (maxStack maxLocals : UInt16) (instructions : Bytes) (handlers : List Handler)
      (attributes : List Attribute)
  | signature (index : UInt16)
  | localVariables (entries : List LocalVariable)
  | localVariableTypes (entries : List LocalVariable)
  | annotations (annotations : List AnnotationEntry)
  | parameterAnnotations (parameters : List (List AnnotationEntry))
  | typeAnnotations (annotations : List TypeAnnotationEntry)
  | annotationDefault (value : ElementValue)
  | record (components : List RecordComponent)
  | raw (data : Bytes)

inductive Attribute where
  | mk (name : UInt16) (body : AttributeBody)

inductive RecordComponent where
  | mk (name descriptor : UInt16) (attributes : List Attribute)
end

inductive AttributeKind where
  | code
  | signature
  | localVariables
  | localVariableTypes
  | annotations
  | parameterAnnotations
  | typeAnnotations
  | annotationDefault
  | record
  | raw
deriving DecidableEq, Repr

def AttributeKind.names : List (Text × AttributeKind) := [
  ("Code".toList, .code), ("Signature".toList, .signature),
  ("LocalVariableTable".toList, .localVariables),
  ("LocalVariableTypeTable".toList, .localVariableTypes),
  ("RuntimeVisibleAnnotations".toList, .annotations),
  ("RuntimeInvisibleAnnotations".toList, .annotations),
  ("RuntimeVisibleParameterAnnotations".toList, .parameterAnnotations),
  ("RuntimeInvisibleParameterAnnotations".toList, .parameterAnnotations),
  ("RuntimeVisibleTypeAnnotations".toList, .typeAnnotations),
  ("RuntimeInvisibleTypeAnnotations".toList, .typeAnnotations),
  ("AnnotationDefault".toList, .annotationDefault), ("Record".toList, .record)]

def AttributeKind.ofName (name : Text) : AttributeKind := (names.lookup name).getD .raw

def AttributeBody.kind : AttributeBody → AttributeKind
  | code .. => .code
  | signature _ => .signature
  | localVariables _ => .localVariables
  | localVariableTypes _ => .localVariableTypes
  | annotations _ => .annotations
  | parameterAnnotations _ => .parameterAnnotations
  | typeAnnotations _ => .typeAnnotations
  | annotationDefault _ => .annotationDefault
  | record _ => .record
  | raw _ => .raw

def Attribute.name : Attribute → UInt16
  | mk name _ => name

def Attribute.body : Attribute → AttributeBody
  | mk _ body => body

def ElementValue.constTags : Bytes := "BCDFIJSZs".toList.map fun c => c.toNat.toUInt8

namespace Reader

def truncated {α : Type} : Reader α := fun c => .error (.truncated c.offset)

def counted {α : Type} (item : Reader α) : Reader (List α) := do
  let count ← u16
  times count.toNat item

def elements (value : Reader ElementValue) : Reader (List (UInt16 × ElementValue)) :=
  counted do return (← u16, ← value)

def elementValue (fuel : Nat) : Reader ElementValue :=
  match fuel with
  | 0 => truncated
  | fuel + 1 => do
      let place ← offset
      let tag ← u8
      if tag ∈ ElementValue.constTags then return .const tag (← u16)
      else if tag = 0x65 then return .enumConst (← u16) (← u16)
      else if tag = 0x63 then return .classInfo (← u16)
      else if tag = 0x40 then return .nested (← u16) (← elements (elementValue fuel))
      else if tag = 0x5B then return .array (← counted (elementValue fuel))
      else fail (.badAttribute (.elementTag tag place))

def annotationEntry (fuel : Nat) : Reader AnnotationEntry := do
  return ⟨← u16, ← elements (elementValue fuel)⟩

def annotationRanges : Reader Bytes := do
  let count ← u16
  return Bytes.ofU16 count ++ (← bytes (count.toNat * 6))

-- The target of a type annotation, with its type path. The target type decides how long it is.
def annotationTarget : Reader Bytes := do
  let place ← offset
  let type ← u8
  let info ←
    if type ∈ [0x00, 0x01, 0x16] then bytes 1
    else if type ∈ [0x10, 0x11, 0x12, 0x17, 0x42, 0x43, 0x44, 0x45, 0x46] then bytes 2
    else if type ∈ [0x47, 0x48, 0x49, 0x4A, 0x4B] then bytes 3
    else if type ∈ [0x13, 0x14, 0x15] then bytes 0
    else if type ∈ [0x40, 0x41] then annotationRanges
    else fail (.badAttribute (.annotationTarget type place))
  let steps ← u8
  return type :: info ++ steps :: (← bytes (steps.toNat * 2))

def typeAnnotationEntry (fuel : Nat) : Reader TypeAnnotationEntry := do
  return ⟨← annotationTarget, ← annotationEntry fuel⟩

def localVariable : Reader LocalVariable := do
  return ⟨← u16, ← u16, ← u16, ← u16, ← u16⟩

def code (attributes : Reader (List Attribute)) : Reader AttributeBody := do
  let maxStack ← u16
  let maxLocals ← u16
  let length ← u32
  let instructions ← bytes length.toNat
  let handlers ← counted do return ⟨← bytes 8⟩
  return .code maxStack maxLocals instructions handlers (← attributes)

def recordComponent (attributes : Reader (List Attribute)) : Reader RecordComponent := do
  return .mk (← u16) (← u16) (← attributes)

def attributeBody (attributes : Reader (List Attribute)) (fuel : Nat) :
    AttributeKind → Reader AttributeBody
  | .code => code attributes
  | .signature => do return .signature (← u16)
  | .localVariables => do return .localVariables (← counted localVariable)
  | .localVariableTypes => do return .localVariableTypes (← counted localVariable)
  | .annotations => do return .annotations (← counted (annotationEntry fuel))
  | .parameterAnnotations => do
      let count ← u8
      return .parameterAnnotations (← times count.toNat (counted (annotationEntry fuel)))
  | .typeAnnotations => do return .typeAnnotations (← counted (typeAnnotationEntry fuel))
  | .annotationDefault => do return .annotationDefault (← elementValue fuel)
  | .record => do return .record (← counted (recordComponent attributes))
  | .raw => do
      let data ← fun c => .ok (c.rest, ⟨[], c.offset + c.rest.length⟩)
      return .raw data

def wholeBody (attributes : Reader (List Attribute)) (fuel : Nat) (name : Text) (data : Bytes) :
    Except FormatError AttributeBody := do
  let (body, c) ← run (attributeBody attributes fuel (.ofName name)) data
  if c.rest.isEmpty then return body else throw (.badAttribute (.leftover name))

-- A list of attributes. A name that cannot be read makes the attribute an unknown one.
def attributes (pool : Pool) (fuel : Nat) : Reader (List Attribute) :=
  match fuel with
  | 0 => truncated
  | fuel + 1 => counted do
      let name ← u16
      let length ← u32
      let data ← bytes length.toNat
      let text := (pool.text name).toOption.getD []
      match wholeBody (attributes pool fuel) fuel text data with
      | .ok body => return .mk name body
      | .error e => fail e

end Reader

mutual
def ElementValue.write : ElementValue → Except FormatError Bytes
  | .const tag index => .ok (tag :: Bytes.ofU16 index)
  | .enumConst type name => .ok (0x65 :: Bytes.ofU16 type ++ Bytes.ofU16 name)
  | .classInfo descriptor => .ok (0x63 :: Bytes.ofU16 descriptor)
  | .nested type elements => do
      return 0x40 :: Bytes.ofU16 type ++
        (← Writer.count16 .annotationElements elements.length) ++ (← writeElements elements)
  | .array values => do
      return 0x5B :: (← Writer.count16 .annotationArray values.length) ++ (← writeValues values)
termination_by structural value => value

def ElementValue.writeValues : List ElementValue → Except FormatError Bytes
  | [] => .ok []
  | value :: rest => do return (← value.write) ++ (← writeValues rest)
termination_by structural values => values

def ElementValue.writeElements : List (UInt16 × ElementValue) → Except FormatError Bytes
  | [] => .ok []
  | (name, value) :: rest => do
      return Bytes.ofU16 name ++ (← value.write) ++ (← writeElements rest)
termination_by structural elements => elements
end

def AnnotationEntry.write (a : AnnotationEntry) : Except FormatError Bytes := do
  return Bytes.ofU16 a.type ++ (← Writer.count16 .annotationElements a.elements.length) ++
    (← ElementValue.writeElements a.elements)

def AnnotationEntry.writeAll (annotations : List AnnotationEntry) : Except FormatError Bytes := do
  return (← Writer.count16 .annotations annotations.length) ++
    (← Writer.each AnnotationEntry.write annotations)

def TypeAnnotationEntry.write (a : TypeAnnotationEntry) : Except FormatError Bytes := do
  return a.target ++ (← a.entry.write)

def LocalVariable.write (v : LocalVariable) : Bytes :=
  Bytes.ofU16 v.start ++ Bytes.ofU16 v.length ++ Bytes.ofU16 v.name ++ Bytes.ofU16 v.type ++
    Bytes.ofU16 v.slot

def LocalVariable.writeAll (entries : List LocalVariable) : Except FormatError Bytes := do
  return (← Writer.count16 .localVariableTable entries.length) ++
    entries.flatMap LocalVariable.write

mutual
-- The bytes of a body. The length of code is written modulo 2^32; a body with that much code does
-- not fit an attribute anyway.
def AttributeBody.write : AttributeBody → Except FormatError Bytes
  | .code maxStack maxLocals instructions handlers attributes => do
      return Bytes.ofU16 maxStack ++ Bytes.ofU16 maxLocals ++
        Bytes.ofU32 instructions.length.toUInt32 ++ instructions ++
        (← Writer.count16 .exceptionTable handlers.length) ++
        handlers.flatMap Handler.bytes ++
        (← Writer.count16 .attributes attributes.length) ++ (← Attribute.writeEach attributes)
  | .signature index => .ok (Bytes.ofU16 index)
  | .localVariables entries => LocalVariable.writeAll entries
  | .localVariableTypes entries => LocalVariable.writeAll entries
  | .annotations items => AnnotationEntry.writeAll items
  | .parameterAnnotations parameters => do
      return (← Writer.count8 .parameterAnnotations parameters.length) ++
        (← Writer.each AnnotationEntry.writeAll parameters)
  | .typeAnnotations items => do
      return (← Writer.count16 .typeAnnotations items.length) ++
        (← Writer.each TypeAnnotationEntry.write items)
  | .annotationDefault value => value.write
  | .record components => do
      return (← Writer.count16 .recordComponents components.length) ++
        (← RecordComponent.writeEach components)
  | .raw data => .ok data
termination_by structural body => body

def Attribute.write : Attribute → Except FormatError Bytes
  | .mk name body => do
      let bytes ← body.write
      return Bytes.ofU16 name ++ (← Writer.count32 .attributeBody bytes.length) ++ bytes
termination_by structural a => a

def Attribute.writeEach : List Attribute → Except FormatError Bytes
  | [] => .ok []
  | a :: rest => do return (← a.write) ++ (← Attribute.writeEach rest)
termination_by structural attributes => attributes

def RecordComponent.write : RecordComponent → Except FormatError Bytes
  | .mk name descriptor attributes => do
      return Bytes.ofU16 name ++ Bytes.ofU16 descriptor ++
        (← Writer.count16 .attributes attributes.length) ++ (← Attribute.writeEach attributes)
termination_by structural component => component

def RecordComponent.writeEach : List RecordComponent → Except FormatError Bytes
  | [] => .ok []
  | component :: rest => do return (← component.write) ++ (← RecordComponent.writeEach rest)
termination_by structural components => components
end

def Attribute.writeAll (attributes : List Attribute) : Except FormatError Bytes := do
  return (← Writer.count16 .attributes attributes.length) ++ (← Attribute.writeEach attributes)

end Shading
