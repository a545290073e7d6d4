import Shading.Regex.Basic
import Shading.Text

set_option autoImplicit false

namespace Shading

namespace Glob

inductive Part where
  | literal (c : Char)
  | anyByte
  | anyBytes
  -- `**/` at the start of the glob.
  | segmentsBefore
  -- `/**/`
  | segmentsBetween
  -- `/**` at the end of the glob.
  | segmentsBehind
deriving DecidableEq, Repr

-- The parts before a `**` for whole segments, the last one first, become those up to its end. The
-- slash before the `**` belongs to it, and one `**` after another adds nothing.
def addSegments (part : Part) : List Part → List Part
  | [] => [.segmentsBefore]
  | .segmentsBefore :: rest => .segmentsBefore :: rest
  | _ :: rest => part :: rest

-- Reads a glob. `previous` is the character before the rest, `parts` has what was read, the last part
-- first.
def readParts? (previous : Option Char) (parts : List Part) : Text → Option (List Part)
  | [] => some parts.reverse
  | ['*', '*'] =>
      if parts = [] || previous = some '/' then some (addSegments .segmentsBehind parts).reverse
      else some (.anyBytes :: .anyBytes :: parts).reverse
  | '*' :: '*' :: '/' :: rest =>
      if parts = [] || previous = some '/' then
        readParts? (some '/') (addSegments .segmentsBetween parts) rest
      else readParts? (some '/') (.literal '/' :: .anyBytes :: .anyBytes :: parts) rest
  | '*' :: '*' :: rest => readParts? (some '*') (.anyBytes :: .anyBytes :: parts) rest
  | '*' :: rest => readParts? (some '*') (.anyBytes :: parts) rest
  | '?' :: rest => readParts? (some '?') (.anyByte :: parts) rest
  | ['\\'] => none
  | '\\' :: c :: rest => readParts? (some c) (.literal c :: parts) rest
  | c :: rest =>
      if ['[', '{', '}'].contains c then none else readParts? (some c) (.literal c :: parts) rest

def byteChar (b : UInt8) : Char := Char.ofNat b.toNat

def octets (s : Text) : List Char := s.utf8.map byteChar

def slash : Regex := .chars (.single '/')

def notSlash : Regex := .chars (.compl (.single '/'))

def anything : Regex := .star (.chars .all)

def Part.regex : Part → Regex
  | literal c => (octets [c]).foldr (fun b r => .cat (.chars (.single b)) r) .empty
  | anyByte => notSlash
  | anyBytes => .star notSlash
  | segmentsBefore => .alt .empty (.cat anything slash)
  | segmentsBetween => .alt slash (.cat slash (.cat anything slash))
  | segmentsBehind => .cat slash anything

def regex (parts : List Part) : Regex :=
  if parts = [.segmentsBefore] then .whole [anything] else .whole (parts.map Part.regex)

def compile? (glob : Text) : Option Regex := (readParts? none [] glob).map regex

end Glob

end Shading
