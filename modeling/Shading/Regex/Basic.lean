import Shading.Regex.CharSet

/- An expression is read as a transformer of sets of positions: from the positions where a match may begin
   to the positions where it may end. Position sets are numbers whose binary digit i says that position i
   is in the set, so the cost does not depend on how many ways there are to match. An expression occurs in
   a text if some position is left when it starts everywhere. -/

set_option autoImplicit false

namespace Shading

inductive Look where
  | textStart
  | textEnd
  | lineStart
  | lineEnd
  -- The start of a line that `\r`, `\n` or both together end.
  | lineStartAnyEnding
  -- The end of a line that `\r`, `\n` or both together end.
  | lineEndAnyEnding
  | wordBoundary (ascii : Bool)
  | notWordBoundary (ascii : Bool)
  | wordStart (ascii : Bool)
  | wordEnd (ascii : Bool)
  | noWordBefore (ascii : Bool)
  | noWordAfter (ascii : Bool)
deriving DecidableEq, Repr

inductive Regex where
  | empty
  | chars (set : CharSet)
  | look (condition : Look)
  | cat (first second : Regex)
  | alt (first second : Regex)
  | star (body : Regex)
  | times (count : Nat) (body : Regex)
  | upTo (count : Nat) (body : Regex)
deriving DecidableEq, Repr

namespace Look

def isWord (ascii : Bool) (c : Char) : Bool :=
  if ascii then c.isAlphanum || c == '_' else Unicode.isWordCharacter c

def holds (condition : Look) (before after : Option Char) : Bool :=
  match condition with
  | textStart => before.isNone
  | textEnd => after.isNone
  | lineStart => before.isNone || before == some '\n'
  | lineEnd => after.isNone || after == some '\n'
  | lineStartAnyEnding =>
      before.isNone || before == some '\n' || (before == some '\r' && after != some '\n')
  | lineEndAnyEnding =>
      after.isNone || after == some '\r' || (after == some '\n' && before != some '\r')
  | wordBoundary ascii => before.any (isWord ascii) != after.any (isWord ascii)
  | notWordBoundary ascii => before.any (isWord ascii) == after.any (isWord ascii)
  | wordStart ascii => !before.any (isWord ascii) && after.any (isWord ascii)
  | wordEnd ascii => before.any (isWord ascii) && !after.any (isWord ascii)
  | noWordBefore ascii => !before.any (isWord ascii)
  | noWordAfter ascii => !after.any (isWord ascii)

end Look

namespace Regex

def repeated (least : Nat) (most : Option Nat) (r : Regex) : Regex :=
  match least, most with
  | 0, none => .star r
  | 1, none => .cat r (.star r)
  | n, none => .cat (.times n r) (.star r)
  | 0, some 1 => .alt .empty r
  | 0, some m => .upTo m r
  | n, some m => if m = n then .times n r else .cat (.times n r) (.upTo (m - n) r)

def whole (parts : List Regex) : Regex :=
  .cat (.look .textStart) (parts.foldr .cat (.look .textEnd))

-- A number under construction, from its highest binary digit on. The lowest digits are kept apart, so
-- that most steps are on small numbers.
structure Digits where
  count : Nat := 0
  low : Nat := 0
  high : Nat := 0

namespace Digits

def value (d : Digits) : Nat := d.low + (d.high <<< d.count)

def push (d : Digits) (digit : Nat) : Digits :=
  if d.count < 32 then ⟨d.count + 1, 2 * d.low + digit, d.high⟩ else ⟨1, digit, d.value⟩

end Digits

def positionsOf (set : CharSet) (text : List Char) : Nat :=
  (text.foldr (fun c (d : Digits) => d.push (if set.mem c then 1 else 0)) {}).value

def positionsWhere (condition : Look) : Option Char → List Char → Nat
  | before, [] => if condition.holds before none then 1 else 0
  | before, c :: rest =>
      2 * positionsWhere condition (some c) rest + (if condition.holds before (some c) then 1 else 0)

-- Takes `step` so many times, or until it leads nowhere else.
def iterate (step : Nat → Nat) (rounds starts : Nat) : Nat :=
  match rounds with
  | 0 => starts
  | n + 1 =>
      let reached := step starts
      if reached = starts then starts else iterate step n reached

-- Adds what `step` reaches, `rounds` times or until nothing is added.
def saturate (step : Nat → Nat) (rounds starts : Nat) : Nat :=
  match rounds with
  | 0 => starts
  | n + 1 =>
      let more := starts ||| step starts
      if more = starts then starts else saturate step n more

-- The positions in `text` where a match that begins at one of `starts` may end. The members of a class
-- that is repeated are looked up once.
def ends (text : List Char) : Regex → Nat → Nat
  | empty, starts => starts
  | chars set, starts => (starts &&& positionsOf set text) <<< 1
  | look condition, starts => starts &&& positionsWhere condition none text
  | cat first second, starts =>
      let middle := ends text first starts
      if middle = 0 then 0 else ends text second middle
  | alt first second, starts => ends text first starts ||| ends text second starts
  | star (chars set), starts =>
      let members := positionsOf set text
      saturate (fun starts => (starts &&& members) <<< 1) (text.length + 1) starts
  | star body, starts => saturate (ends text body) (text.length + 1) starts
  | times count body, starts => iterate (ends text body) count starts
  | upTo count body, starts => saturate (ends text body) count starts

def allPositions (text : List Char) : Nat := (1 <<< (text.length + 1)) - 1

def occursIn (r : Regex) (text : List Char) : Bool :=
  ends text r (allPositions text) != 0

end Regex

end Shading
