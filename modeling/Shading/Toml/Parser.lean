import Shading.Toml.Scalar
import Shading.Toml.Sections

set_option autoImplicit false

namespace Shading.Toml

open Scanner

def nestLimit : Nat := 79

def comment : Scanner Unit := do
  text ['#']
  let _ ← run isPlain

def gap : Scanner Unit := do
  let _ ← many ((do let _ ← char isBlank) <|> newline <|> comment)

def lineEnd : Scanner Unit := newline <|> atEnd

def trailing : Scanner Unit := do
  let _ ← blanks
  let _ ← optional comment
  lineEnd

def isBare (c : Char) : Bool :=
  c.isDigit || ('a' ≤ c && c ≤ 'z') || ('A' ≤ c && c ≤ 'Z') || c == '_' || c == '-'

def name : Scanner Text := basicText <|> literalText <|> guarded (fun s => !s.isEmpty) (run isBare)

def key : Scanner (List Text × Text) := do
  let names ← separated (text ['.']) do
    let _ ← blanks
    let s ← name
    let _ ← blanks
    return s
  if names.length ≤ nestLimit then given (names.getLast?.map fun last => (names.dropLast, last))
  else failure

def pair (value : Scanner Value) : Scanner Pair := do
  let (path, name) ← key
  text ['=']
  let _ ← blanks
  return ⟨path, name, ← value⟩

-- An array. Its last item may be followed by a comma.
def array (value : Scanner Value) : Scanner Value := do
  text ['[']
  let items ← separated (text [',']) do
    gap
    let v ← value
    gap
    return v
  if !items.isEmpty then let _ ← optional (text [','])
  gap
  text [']']
  return .array items

def inlineTable (value : Scanner Value) : Scanner Value := do
  text ['\x7b']
  let pairs ← separated (text [',']) do
    let p ← pair value
    let _ ← blanks
    return p
  let _ ← blanks
  text ['\x7d']
  return .table (Node.entryValues (← given (Entries.addPairs [] pairs)))

def value : Nat → Scanner Value
  | 0 => scalar
  | depth + 1 => array (value depth) <|> inlineTable (value depth) <|> scalar

def line : Scanner (Option Pair) := do
  let _ ← blanks
  (do newline; return none) <|>
    (do comment; lineEnd; return none) <|>
    (do let p ← pair (value nestLimit); trailing; return some p)

def pairs : Scanner (List Pair) := do return (← many line).filterMap id

def heading : Scanner Heading :=
  (do
    text ['[', '[']
    let (path, name) ← key
    text [']', ']']
    return .element path name) <|>
  (do
    text ['[']
    let (path, name) ← key
    text [']']
    return .table path name)

def documentSection : Scanner Section := do
  let _ ← blanks
  let heading ← heading
  trailing
  return ⟨heading, ← pairs⟩

-- A whole document. A byte order mark at its beginning does not count.
def document : Scanner (List Pair × List Section) := do
  let _ ← optional (text ['\uFEFF'])
  let top ← pairs
  let sections ← many documentSection
  let _ ← blanks
  atEnd
  return (top, sections)

def parse? (s : Text) : Option (List (Text × Value)) := do
  let ((top, sections), _) ← document s
  return Node.entryValues (← Entries.ofDocument top sections)

end Shading.Toml
