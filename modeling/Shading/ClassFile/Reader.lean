import Shading.ClassFile.FormatError

set_option autoImplicit false

namespace Shading

structure Cursor where
  rest : Bytes
  offset : Nat

abbrev Reader (α : Type) := StateT Cursor (Except FormatError) α

namespace Cursor

def start (data : Bytes) : Cursor := ⟨data, 0⟩

def bytes (count : Nat) (c : Cursor) : Except FormatError (Bytes × Cursor) :=
  let (taken, rest) := c.rest.splitAt count
  if taken.length = count then .ok (taken, ⟨rest, c.offset + count⟩) else .error (.truncated c.offset)

def u8 (c : Cursor) : Except FormatError (UInt8 × Cursor) :=
  match c.rest with
  | a :: rest => .ok (a, ⟨rest, c.offset + 1⟩)
  | _ => .error (.truncated c.offset)

def u16 (c : Cursor) : Except FormatError (UInt16 × Cursor) :=
  match c.rest with
  | a :: b :: rest => .ok (a.toUInt16 <<< 8 ||| b.toUInt16, ⟨rest, c.offset + 2⟩)
  | _ => .error (.truncated c.offset)

def u32 (c : Cursor) : Except FormatError (UInt32 × Cursor) :=
  match c.rest with
  | a :: b :: d :: e :: rest =>
      .ok (a.toUInt32 <<< 24 ||| b.toUInt32 <<< 16 ||| d.toUInt32 <<< 8 ||| e.toUInt32,
        ⟨rest, c.offset + 4⟩)
  | _ => .error (.truncated c.offset)

end Cursor

namespace Reader

def bytes (count : Nat) : Reader Bytes := fun c => c.bytes count

def u8 : Reader UInt8 := fun c => c.u8

def u16 : Reader UInt16 := fun c => c.u16

def u32 : Reader UInt32 := fun c => c.u32

def u64 : Reader UInt64 := do
  let high ← u32
  let low ← u32
  return high.toUInt64 <<< 32 ||| low.toUInt64

def offset : Reader Nat := fun c => .ok (c.offset, c)

def fail {α : Type} (e : FormatError) : Reader α := fun _ => .error e

def timesOnto {α : Type} (item : Reader α) (done : List α) (count : Nat) : Reader (List α) :=
  fun c =>
    match count with
    | 0 => .ok (done, c)
    | n + 1 =>
        match item c with
        | .ok (a, c) => timesOnto item (a :: done) n c
        | .error e => .error e

def times {α : Type} (count : Nat) (item : Reader α) : Reader (List α) := fun c =>
  (timesOnto item [] count c).map fun (items, c) => (items.reverse, c)

def run {α : Type} (item : Reader α) (data : Bytes) : Except FormatError (α × Cursor) :=
  item (Cursor.start data)

end Reader

end Shading
