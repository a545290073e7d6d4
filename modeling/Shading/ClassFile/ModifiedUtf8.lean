import Shading.ClassFile.FormatError
import Shading.Text.Utf8

/- The encoding differs from UTF-8 in two points: the character NUL takes two bytes, and a supplementary
   character is written as its two UTF-16 surrogates of three bytes each. Reading is more lenient than
   writing: plain UTF-8 is accepted as it is, and continuation bytes are not checked. -/

set_option autoImplicit false

namespace Shading.ModifiedUtf8

def codeUnits (c : Char) : List Nat :=
  let n := c.toNat
  if n < 0x10000 then [n] else [0xD800 + (n - 0x10000) / 0x400, 0xDC00 + (n - 0x10000) % 0x400]

def encodeUnit (n : Nat) : Bytes :=
  if n = 0 then [0xC0, 0x80]
  else if n < 0x80 then [n.toUInt8]
  else if n < 0x800 then [(0xC0 + n / 0x40).toUInt8, (0x80 + n % 0x40).toUInt8]
  else [(0xE0 + n / 0x1000).toUInt8, (0x80 + n / 0x40 % 0x40).toUInt8, (0x80 + n % 0x40).toUInt8]

def encodeAll (s : Text) : Bytes := s.flatMap fun c => (codeUnits c).flatMap encodeUnit

def encode (s : Text) : Except FormatError Bytes :=
  let bytes := encodeAll s
  if bytes.length < 0x10000 then .ok bytes else .error (.tooLong .utf8Constant bytes.length)

def unitsOnto (done : List Nat) : Bytes → Option (List Nat)
  | [] => some done.reverse
  | a :: rest =>
      if a < 0x80 then unitsOnto (a.toNat :: done) rest
      else if 0xC0 ≤ a && a < 0xE0 then
        match rest with
        | b :: rest => unitsOnto ((a.toNat % 0x20 * 0x40 + b.toNat % 0x40) :: done) rest
        | [] => none
      else if 0xE0 ≤ a && a < 0xF0 then
        match rest with
        | b :: d :: rest =>
            unitsOnto
              ((a.toNat % 0x10 * 0x1000 + b.toNat % 0x40 * 0x40 + d.toNat % 0x40) :: done) rest
        | _ => none
      else none

-- The characters that code units stand for, those before them given last first. A surrogate without
-- its partner stands for none.
def charactersOnto (done : Text) : List Nat → Option Text
  | [] => some done.reverse
  | n :: rest =>
      if n < 0xD800 || 0xE000 ≤ n then charactersOnto (Char.ofNat n :: done) rest
      else if n < 0xDC00 then
        match rest with
        | m :: rest =>
            if 0xDC00 ≤ m && m < 0xE000 then
              charactersOnto
                (Char.ofNat (0x10000 + (n - 0xD800) * 0x400 + (m - 0xDC00)) :: done) rest
            else none
        | [] => none
      else none

def decode? (bytes : Bytes) : Option Text :=
  match Text.Utf8.decode? bytes with
  | some s => some s
  | none => (unitsOnto [] bytes).bind (charactersOnto [])

end Shading.ModifiedUtf8
