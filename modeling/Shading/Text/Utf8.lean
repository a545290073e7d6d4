import Shading.Text

set_option autoImplicit false

namespace Shading.Text.Utf8

structure Decoder where
  done : Text := []
  owed : Nat := 0
  value : Nat := 0
  low : UInt8 := 0x80
  high : UInt8 := 0xBF

def replacement : Char := '\uFFFD'

namespace Decoder

def openWith (d : Decoder) (b : UInt8) : Decoder :=
  let opened (owed value : Nat) (low high : UInt8) : Decoder := ⟨d.done, owed, value, low, high⟩
  if b < 0x80 then ⟨Char.ofNat b.toNat :: d.done, 0, 0, 0x80, 0xBF⟩
  else if 0xC2 ≤ b && b ≤ 0xDF then opened 1 (b.toNat % 0x20) 0x80 0xBF
  else if b = 0xE0 then opened 2 0 0xA0 0xBF
  else if b = 0xED then opened 2 0xD 0x80 0x9F
  else if 0xE1 ≤ b && b ≤ 0xEF then opened 2 (b.toNat % 0x10) 0x80 0xBF
  else if b = 0xF0 then opened 3 0 0x90 0xBF
  else if b = 0xF4 then opened 3 4 0x80 0x8F
  else if 0xF1 ≤ b && b ≤ 0xF3 then opened 3 (b.toNat % 8) 0x80 0xBF
  else ⟨replacement :: d.done, 0, 0, 0x80, 0xBF⟩

-- The next byte. One that the current character does not take ends it and begins another.
def step (d : Decoder) (b : UInt8) : Decoder :=
  if d.owed = 0 then d.openWith b
  else if d.low ≤ b && b ≤ d.high then
    let value := d.value * 0x40 + b.toNat % 0x40
    if d.owed = 1 then ⟨Char.ofNat value :: d.done, 0, 0, 0x80, 0xBF⟩
    else ⟨d.done, d.owed - 1, value, 0x80, 0xBF⟩
  else openWith { d with done := replacement :: d.done, owed := 0 } b

def finish (d : Decoder) : Text :=
  (if d.owed = 0 then d.done else replacement :: d.done).reverse

end Decoder

def decodeLossy (bytes : Bytes) : Text := (bytes.foldl Decoder.step {}).finish

def decode? (bytes : Bytes) : Option Text :=
  (ByteArray.utf8Decode? ⟨bytes.toArray⟩).map Array.toList

end Shading.Text.Utf8
