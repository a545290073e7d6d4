import Shading.Text

set_option autoImplicit false

namespace Shading.Toml

abbrev Scanner (α : Type) := StateT Text Option α

namespace Scanner

def char (test : Char → Bool) : Scanner Char
  | [] => none
  | c :: rest => if test c then some (c, rest) else none

def text (t : Text) : Scanner Unit := fun s => (Text.dropStart? t s).map fun rest => ((), rest)

def run (test : Char → Bool) : Scanner Text := fun s => some (s.span test)

def atEnd : Scanner Unit
  | [] => some ((), [])
  | _ :: _ => none

-- Takes items as long as there are any, and puts them, last first, before `done`. An item that
-- takes nothing is the last one.
def manyOnto {α : Type} (item : Scanner α) (done : List α) (s : Text) : List α × Text :=
  match item s with
  | none => (done, s)
  | some (a, rest) =>
      if rest.length < s.length then manyOnto item (a :: done) rest else (a :: done, rest)
termination_by s.length

def many {α : Type} (item : Scanner α) : Scanner (List α) := fun s =>
  let (items, rest) := manyOnto item [] s
  some (items.reverse, rest)

-- Takes items with a separator between neighbours. A separator without an item after it stays.
def separated {α : Type} (separator : Scanner Unit) (item : Scanner α) : Scanner (List α) := do
  match ← optional item with
  | none => return []
  | some first => return first :: (← many do separator; item)

def written {α : Type} (item : Scanner α) : Scanner Text := fun s =>
  (item s).map fun (_, rest) => (s.take (s.length - rest.length), rest)

def guarded {α : Type} (test : α → Bool) (item : Scanner α) : Scanner α := do
  let a ← item
  if test a then return a else failure

def given {α : Type} (a : Option α) : Scanner α := fun s => a.map fun a => (a, s)

end Scanner

end Shading.Toml
