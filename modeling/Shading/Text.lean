set_option autoImplicit false

namespace Shading

abbrev Text := List Char

abbrev Bytes := List UInt8

namespace Text

def utf8 (s : Text) : Bytes := s.flatMap String.utf8EncodeChar

def utf8Size (s : Text) : Nat := s.foldl (fun n c => n + c.utf8Size) 0

def startsWith (start s : Text) : Bool := start.isPrefixOf s

def endsWith (ending s : Text) : Bool := ending.isSuffixOf s

def dropStart? (start s : Text) : Option Text := start.isPrefixOf? s

def dropEnd? (ending s : Text) : Option Text := ending.isSuffixOf? s

-- The first occurrence of `pattern` becomes `replacement`. The empty pattern occurs at the front.
def replaceFirst (pattern replacement : Text) : Text → Text
  | [] => if pattern = [] then replacement else []
  | c :: rest =>
      match dropStart? pattern (c :: rest) with
      | some tail => replacement ++ tail
      | none => c :: replaceFirst pattern replacement rest

def exchange (old new : Char) (s : Text) : Text := s.map fun c => if c = old then new else c

def slashed (s : Text) : Text := exchange '.' '/' s

def dotted (s : Text) : Text := exchange '/' '.' s

def split (separator : Char) (s : Text) : List Text := List.splitOn separator s

def segments (path : Text) : List Text := (split '/' path).filter fun part => !part.isEmpty

def join (separator : Text) (parts : List Text) : Text := List.intercalate separator parts

def cutAt? (mark : Char) (s : Text) : Option (Text × Text) :=
  match s.span (· != mark) with
  | (_, []) => none
  | (before, _ :: after) => some (before, after)

def cutAtLast? (mark : Char) (s : Text) : Option (Text × Text) :=
  (cutAt? mark s.reverse).map fun (after, before) => (before.reverse, after.reverse)

def lastSegment (path : Text) : Text := (path.reverse.takeWhile (· != '/')).reverse

def isBlank (c : Char) : Bool :=
  let n := c.toNat
  (9 ≤ n && n ≤ 13) || n == 0x20 || n == 0x85 || n == 0xA0 || n == 0x1680 ||
    (0x2000 ≤ n && n ≤ 0x200A) || n == 0x2028 || n == 0x2029 || n == 0x202F || n == 0x205F ||
    n == 0x3000

def trimStart (s : Text) : Text := s.dropWhile isBlank

def trimEnd (s : Text) : Text := (s.reverse.dropWhile isBlank).reverse

def trim (s : Text) : Text := trimEnd (trimStart s)

-- A line that a newline ends loses a carriage return before it; the last one keeps it.
def closeLines : List Text → List Text
  | [] => []
  | [last] => if last.isEmpty then [] else [last]
  | line :: rest => (dropEnd? ['\r'] line).getD line :: closeLines rest

def lines (s : Text) : List Text := closeLines (split '\n' s)

def ofNat (n : Nat) : Text := Nat.toDigits 10 n

def hexadecimal (width n : Nat) : Text :=
  let digits := Nat.toDigits 16 n
  List.replicate (width - digits.length) '0' ++ digits

-- Strictly earlier in the order of code points, which is the order of the UTF-8 forms.
def before (a b : Text) : Bool :=
  match a, b with
  | _, [] => false
  | [], _ :: _ => true
  | x :: xs, y :: ys => if x = y then before xs ys else decide (x.toNat < y.toNat)

end Text

end Shading
