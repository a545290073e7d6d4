import Shading.Unicode.Alphabetic
import Shading.Unicode.CaseFolding

set_option autoImplicit false

namespace Shading

inductive CharSet where
  | ranges (spans : List (Nat × Nat))
  | categories (members : List Unicode.Category)
  | alphabetic
  | blank
  | word
  | union (a b : CharSet)
  | inter (a b : CharSet)
  | compl (a : CharSet)
  | folded (a : CharSet)
  | foldedAscii (a : CharSet)
deriving DecidableEq, Repr

namespace CharSet

def blanks : List (Nat × Nat) :=
  [(0x9, 0xD), (0x20, 0x20), (0x85, 0x85), (0xA0, 0xA0), (0x1680, 0x1680), (0x2000, 0x200A),
    (0x2028, 0x2029), (0x202F, 0x202F), (0x205F, 0x205F), (0x3000, 0x3000)]

def swapAsciiCase (c : Char) : Char := if c.isUpper then c.toLower else c.toUpper

def mem : CharSet → Char → Bool
  | ranges spans, c => Unicode.inRanges spans c.toNat
  | categories members, c => members.contains (Unicode.category c)
  | alphabetic, c => Unicode.isAlphabetic c
  | blank, c => Unicode.inRanges blanks c.toNat
  | word, c => Unicode.isWordCharacter c
  | union a b, c => mem a c || mem b c
  | inter a b, c => mem a c && mem b c
  | compl a, c => !mem a c
  | folded a, c => mem a c || (Unicode.caseVariants c.toNat).any fun n => mem a (Char.ofNat n)
  | foldedAscii a, c => mem a c || mem a (swapAsciiCase c)

def empty : CharSet := ranges []

def all : CharSet := compl empty

def single (c : Char) : CharSet := ranges [(c.toNat, c.toNat)]

def span (first last : Char) : CharSet := ranges [(first.toNat, last.toNat)]

def diff (a b : CharSet) : CharSet := inter a (compl b)

def symmDiff (a b : CharSet) : CharSet := union (diff a b) (diff b a)

-- Can it be read off the set's form that all its members are ASCII characters?
def isAscii : CharSet → Bool
  | ranges spans => spans.all fun (_, last) => last < 128
  | union a b => isAscii a && isAscii b
  | inter a b => isAscii a || isAscii b
  | foldedAscii a => isAscii a
  | _ => false

end CharSet

end Shading
