import Shading.Toml.Scanner
import Shading.Toml.Value

set_option autoImplicit false

namespace Shading.Toml

open Scanner

def isBlank (c : Char) : Bool := c == ' ' || c == '\t'

def isPlain (c : Char) : Bool := c == '\t' || (0x20 ≤ c.toNat && c.toNat ≠ 0x7F)

def isBasic (c : Char) : Bool := isPlain c && c ≠ '"' && c ≠ '\\'

def isLiteral (c : Char) : Bool := isPlain c && c ≠ '\''

def isHexDigit (c : Char) : Bool :=
  c.isDigit || ('a' ≤ c && c ≤ 'f') || ('A' ≤ c && c ≤ 'F')

def digitValue (c : Char) : Nat :=
  if c.isDigit then c.toNat - 48 else if 'a' ≤ c then c.toNat - 87 else c.toNat - 55

def digitsValue (base : Nat) (digits : Text) : Nat :=
  digits.foldl (fun n c => base * n + digitValue c) 0

def blanks : Scanner Text := run isBlank

def newline : Scanner Unit := text ['\n'] <|> text ['\r', '\n']

def codePoint (count : Nat) : Scanner Char := do
  let digits ← guarded (fun d => d.length == count) fun s =>
    let digits := (s.take count).takeWhile isHexDigit
    some (digits, s.drop digits.length)
  let n := digitsValue 16 digits
  given (if h : n.isValidChar then some (Char.ofNatAux n h) else none)

def escape : Scanner Char := do
  text ['\\']
  match ← char fun _ => true with
  | 'b' => return '\x08'
  | 'f' => return '\x0c'
  | 'n' => return '\n'
  | 'r' => return '\r'
  | 't' => return '\t'
  | '"' => return '"'
  | '\\' => return '\\'
  | 'u' => codePoint 4
  | 'U' => codePoint 8
  | _ => failure

def basicText : Scanner Text := do
  text ['"']
  let s ← many (char isBasic <|> escape)
  text ['"']
  return s

def literalText : Scanner Text := do
  text ['\'']
  let s ← run isLiteral
  text ['\'']
  return s

def innerQuotes (quote : Char) : Scanner Text
  | a :: b :: c :: rest =>
      if a ≠ quote then none
      else if b ≠ quote then some ([a], b :: c :: rest)
      else if c ≠ quote then some ([a, b], c :: rest)
      else none
  | [a, b] => if a = quote ∧ b ≠ quote then some ([a], [b]) else none
  | _ => none

-- The three quotes at the end of a text over several lines, with up to two before them that belong
-- to the text.
def closingQuotes (quote : Char) : Scanner Text := fun s =>
  let quotes := min 5 (s.takeWhile (· == quote)).length
  if quotes < 3 then none else some (List.replicate (quotes - 3) quote, s.drop quotes)

-- A text over several lines whose pieces are given. A line end right after the opening quotes does
-- not count.
def multiline (quote : Char) (piece : Scanner Text) : Scanner Text := do
  text [quote, quote, quote]
  let _ ← optional newline
  let pieces ← many (piece <|> (do newline; return ['\n']) <|> innerQuotes quote)
  return pieces.flatten ++ (← closingQuotes quote)

-- A backslash at the end of a line, which hides blanks and line ends after it.
def hiddenBreak : Scanner Text := do
  text ['\\']
  let _ ← blanks
  newline
  let _ ← many ((do let _ ← char isBlank) <|> newline)
  return []

def multilineBasicText : Scanner Text :=
  multiline '"' ((do return [← char isBasic]) <|> hiddenBreak <|> (do return [← escape]))

def multilineLiteralText : Scanner Text := multiline '\'' do return [← char isLiteral]

def quotedText : Scanner Text :=
  multilineBasicText <|> basicText <|> multilineLiteralText <|> literalText

-- Digits with single underscores between them; the underscores do not count.
def digits (isDigit : Char → Bool) : Scanner Text := do
  let first ← char isDigit
  return first :: (← many do let _ ← optional (text ['_']); char isDigit)

def sign : Scanner Bool := do
  return (← optional (char fun c => c == '+' || c == '-')) == some '-'

-- The digits of a decimal number. It begins with a zero only if that is all.
def decimal : Scanner Text := do
  match ← optional (text ['0']) with
  | some _ => return ['0']
  | none => digits Char.isDigit

def integerLimit : Nat := 0x8000000000000000

def based (opening : Text) (base : Nat) (isDigit : Char → Bool) : Scanner Int := do
  text opening
  let n := digitsValue base (← digits isDigit)
  if n < integerLimit then return n else failure

def integer : Scanner Int :=
  based ['0', 'x'] 16 isHexDigit <|>
  based ['0', 'o'] 8 (fun c => '0' ≤ c && c ≤ '7') <|>
  based ['0', 'b'] 2 (fun c => c == '0' || c == '1') <|> do
    let negative ← sign
    let n := digitsValue 10 (← decimal)
    if negative then if n ≤ integerLimit then return -n else failure
    else if n < integerLimit then return n else failure

-- Is `n · 10 ^ exponent` less than the least number that rounds to infinity in double precision?
-- The number of digits decides unless it is close to the bound.
def isRepresentable (n : Nat) (exponent : Int) : Bool :=
  let magnitude := (Text.ofNat n).length + exponent
  if n = 0 || magnitude < 300 then true
  else if magnitude > 320 then false
  else n * Nat.pow 10 exponent.toNat <
    (Nat.pow 2 1024 - Nat.pow 2 970) * Nat.pow 10 (-exponent).toNat

def exponent : Scanner Int := do
  let _ ← char fun c => c == 'e' || c == 'E'
  let negative ← sign
  let n := digitsValue 10 (← digits Char.isDigit)
  return if negative then -n else n

def fraction : Scanner Unit := do
  let negative ← sign
  let whole ← decimal
  let places ← optional do text ['.']; digits Char.isDigit
  let power ← if places.isSome then optional exponent else (do return some (← exponent))
  let places := places.getD []
  if negative || isRepresentable (digitsValue 10 (whole ++ places)) (power.getD 0 - places.length)
  then return () else failure

def special : Scanner Unit := do
  let _ ← sign
  text "inf".toList <|> text "nan".toList

def fixed (count least most : Nat) : Scanner Nat := do
  let digits ← guarded (fun d => d.length == count) fun s =>
    let digits := (s.take count).takeWhile Char.isDigit
    some (digits, s.drop digits.length)
  let n := digitsValue 10 digits
  if least ≤ n ∧ n ≤ most then return n else failure

def daysIn (year month : Nat) : Nat :=
  if month = 2 then if year % 4 = 0 ∧ (year % 100 ≠ 0 ∨ year % 400 = 0) then 29 else 28
  else if month = 4 ∨ month = 6 ∨ month = 9 ∨ month = 11 then 30
  else 31

def date : Scanner Unit := do
  let year ← fixed 4 0 9999
  text ['-']
  let month ← fixed 2 1 12
  text ['-']
  let _ ← fixed 2 1 (daysIn year month)

-- A time of day; the last minute may have a leap second.
def time : Scanner Unit := do
  let _ ← fixed 2 0 23
  text [':']
  let _ ← fixed 2 0 59
  text [':']
  let _ ← fixed 2 0 60
  let _ ← optional do text ['.']; guarded (fun d => !d.isEmpty) (run Char.isDigit)

def zone : Scanner Unit :=
  (do let _ ← char fun c => c == 'Z' || c == 'z') <|> do
    let _ ← char fun c => c == '+' || c == '-'
    let _ ← fixed 2 0 23
    text [':']
    let _ ← fixed 2 0 59

def dateTime : Scanner Unit :=
  (do
    date
    let _ ← optional do
      let _ ← char fun c => c == 'T' || c == 't' || c == ' '
      time
      optional zone) <|>
  time

def scalar : Scanner Value :=
  (do return .string (← quotedText)) <|>
  (do text "true".toList; return .boolean true) <|>
  (do text "false".toList; return .boolean false) <|>
  (do return .dateTime (← written dateTime)) <|>
  (do return .float (← written fraction)) <|>
  (do return .float (← written special)) <|>
  (do return .integer (← integer))

end Shading.Toml
