import Shading.Regex.Basic
import Shading.Regex.Property
import Shading.Text

/- The grammar has no look-around and no back-references. Every function works on the text that is left.
   The fuel bounds the nesting of recursive calls by the length of that text: a call that recurses has
   consumed a character before. -/

set_option autoImplicit false

namespace Shading.Regex

structure Flags where
  -- `i`: letters match in both cases.
  caseless : Bool := false
  -- `m`: `^` and `$` match at lines.
  multiLine : Bool := false
  -- `s`: the dot matches a newline too.
  dotAll : Bool := false
  -- `R`: a carriage return ends a line as well.
  anyEnding : Bool := false
  -- `x`: blanks and comments are ignored.
  verbose : Bool := false
  -- `u`: classes hold all characters and not ASCII alone.
  unicode : Bool := true
  -- What a name between the braces of `\p{…}` stands for.
  properties : Text → Option (Bool × CharSet) := CharSet.ofName?

structure Scan where
  rest : Text
  flags : Flags
  names : List Text

-- Groups, repetitions, concatenations and alternations may nest this deep.
def nestLimit : Nat := 250

def dropBlanks (comment : Bool) : Text → Text
  | [] => []
  | c :: rest =>
      if comment then dropBlanks (c != '\n') rest
      else if Text.isBlank c then dropBlanks false rest
      else if c == '#' then dropBlanks true rest
      else c :: rest

def Flags.skip (flags : Flags) (s : Text) : Text := if flags.verbose then dropBlanks false s else s

def takeDigits (flags : Flags) (digits : Text) (fuel : Nat) (s : Text) : Text × Text :=
  match fuel, s with
  | fuel + 1, c :: rest =>
      if c.isDigit then takeDigits flags (c :: digits) fuel (flags.skip rest)
      else (digits.reverse, s)
  | _, _ => (digits.reverse, s)

def decimalValue (digits : Text) : Nat :=
  digits.foldl (fun n c => 10 * n + (c.toNat - 48)) 0

def takeCount? (flags : Flags) (s : Text) : Option (Nat × Text) :=
  let (digits, rest) := takeDigits flags [] s.length (s.dropWhile Text.isBlank)
  let value := decimalValue digits
  if digits.isEmpty || value ≥ 0x100000000 then none
  else some (value, rest.dropWhile Text.isBlank)

-- Skips the mark of a lazy repetition; which match is preferred does not matter here.
def skipLazyMark (s : Text) : Text :=
  match s with
  | '?' :: rest => rest
  | other => other

def takeBounds? (flags : Flags) (s : Text) : Option (Nat × Option Nat × Text) := do
  let (least, rest) ← takeCount? flags (flags.skip s)
  match rest with
  | '}' :: rest => some (least, some least, skipLazyMark (flags.skip rest))
  | ',' :: rest =>
      match flags.skip rest with
      | [] => none
      | '}' :: rest => some (least, none, skipLazyMark (flags.skip rest))
      | rest =>
          let (most, rest) ← takeCount? flags rest
          match rest with
          | '}' :: rest =>
              if least ≤ most then some (least, some most, skipLazyMark (flags.skip rest)) else none
          | _ => none
  | _ => none

inductive Atom where
  | literal (c : Char)
  | byte
  | class (set : CharSet)
  | look (condition : Look)

def hexDigit? (c : Char) : Option Nat :=
  if c.isDigit then some (c.toNat - 48)
  else if 'a' ≤ c && c ≤ 'f' then some (c.toNat - 87)
  else if 'A' ≤ c && c ≤ 'F' then some (c.toNat - 55)
  else none

def charOf? (n : Nat) : Option Char := if h : n.isValidChar then some (Char.ofNatAux n h) else none

def takeHexDigits? (flags : Flags) (value count : Nat) (s : Text) : Option (Nat × Text) :=
  match count, s with
  | 0, s => some (value, s)
  | n + 1, c :: rest => do
      let digit ← hexDigit? c
      takeHexDigits? flags (16 * value + digit) n (flags.skip rest)
  | _ + 1, [] => none

def takeHexBrace? (flags : Flags) (value? : Option Nat) (fuel : Nat) (s : Text) :
    Option (Nat × Text) :=
  match fuel, s with
  | _, '}' :: rest => value?.map fun value => (value, flags.skip rest)
  | fuel + 1, c :: rest => do
      let digit ← hexDigit? c
      takeHexBrace? flags (some (16 * value?.getD 0 + digit)) fuel (flags.skip rest)
  | _, _ => none

def takeHex? (flags : Flags) (kind : Char) (s : Text) : Option (Atom × Text) := do
  match flags.skip s with
  | [] => none
  | '{' :: rest =>
      let (value, rest) ← takeHexBrace? flags none rest.length (flags.skip rest)
      let c ← charOf? value
      some (.literal c, rest)
  | digits =>
      let count := if kind = 'x' then 2 else if kind = 'u' then 4 else 8
      let (value, rest) ← takeHexDigits? flags 0 count digits
      let c ← charOf? value
      if kind = 'x' && !flags.unicode && value ≥ 128 then some (.byte, rest)
      else some (.literal c, rest)

def Flags.fold (flags : Flags) (set : CharSet) : CharSet :=
  if !flags.caseless then set else if flags.unicode then .folded set else .foldedAscii set

def negateIf (negated : Bool) (set : CharSet) : CharSet := if negated then .compl set else set

def takeBracedName? (allowed : Char → Bool) (flags : Flags) (name : Text) (fuel : Nat) (s : Text) :
    Option (Text × Text) :=
  match fuel, s with
  | _, '}' :: rest => some (name.reverse, rest)
  | fuel + 1, c :: rest =>
      if allowed c then takeBracedName? allowed flags (c :: name) fuel (flags.skip rest) else none
  | _, _ => none

def propertyClass? (flags : Flags) (negated : Bool) (name : Text) : Option CharSet :=
  (flags.properties name).map fun (outside, set) => negateIf (negated != outside) (flags.fold set)

def takeUnicodeClass? (flags : Flags) (negated : Bool) (s : Text) : Option (Atom × Text) := do
  if !flags.unicode then none
  match flags.skip s with
  | [] | '\\' :: _ => none
  | '{' :: rest =>
      let (name, rest) ← takeBracedName? (fun _ => true) flags [] rest.length (flags.skip rest)
      let set ← propertyClass? flags negated name
      some (.class set, rest)
  | c :: rest =>
      let set ← propertyClass? flags negated [c]
      some (.class set, flags.skip rest)

def perlClass? (flags : Flags) (letter : Char) : Option CharSet :=
  let set : Option CharSet :=
    match letter.toLower with
    | 'd' => some (if flags.unicode then .categories [.nd] else .span '0' '9')
    | 's' => some (if flags.unicode then .blank else .ranges [(9, 13), (32, 32)])
    | 'w' =>
        some (if flags.unicode then .word
          else .ranges [(48, 57), (65, 90), (95, 95), (97, 122)])
    | _ => none
  if letter.isUpper then
    if flags.unicode then set.map .compl else none
  else set

def isBoundaryLetter (c : Char) : Bool := c.isAlpha || c == '-'

-- A word boundary after `\b`. Braces with a letter in them name a special boundary; other braces
-- are a repetition count and stay.
def takeBoundary? (flags : Flags) (s : Text) : Option (Atom × Text) :=
  let ascii := !flags.unicode
  match s with
  | '{' :: rest =>
      match flags.skip rest with
      | [] => none
      | c :: _ =>
          if isBoundaryLetter c then do
            let (name, rest) ← takeBracedName? isBoundaryLetter flags [] rest.length (flags.skip rest)
            let condition ←
              if name = "start".toList then some (.wordStart ascii)
              else if name = "end".toList then some (.wordEnd ascii)
              else if name = "start-half".toList then some (.noWordBefore ascii)
              else if name = "end-half".toList then some (.noWordAfter ascii)
              else none
            some (.look condition, rest)
          else some (.look (.wordBoundary ascii), s)
  | _ => some (.look (.wordBoundary ascii), s)

def takeEscape? (flags : Flags) (s : Text) : Option (Atom × Text) :=
  match s with
  | [] => none
  | c :: rest =>
      if c.isDigit then none
      else if c = 'x' || c = 'u' || c = 'U' then takeHex? flags c rest
      else if c = 'p' || c = 'P' then takeUnicodeClass? flags (c = 'P') rest
      else if "dswDSW".toList.contains c then (perlClass? flags c).map fun set => (.class set, rest)
      else
        match c with
        | 'a' => some (.literal '\x07', rest)
        | 'f' => some (.literal '\x0c', rest)
        | 't' => some (.literal '\t', rest)
        | 'n' => some (.literal '\n', rest)
        | 'r' => some (.literal '\r', rest)
        | 'v' => some (.literal '\x0b', rest)
        | 'A' => some (.look .textStart, rest)
        | 'z' => some (.look .textEnd, rest)
        | 'b' => takeBoundary? flags rest
        | 'B' => some (.look (.notWordBoundary (!flags.unicode)), rest)
        | '<' => some (.look (.wordStart (!flags.unicode)), rest)
        | '>' => some (.look (.wordEnd (!flags.unicode)), rest)
        | _ => if c.toNat < 128 && !c.isAlpha then some (.literal c, rest) else none

def posixClasses : List (String × List (Nat × Nat)) := [
  ("alnum", [(48, 57), (65, 90), (97, 122)]), ("alpha", [(65, 90), (97, 122)]),
  ("ascii", [(0, 127)]), ("blank", [(9, 9), (32, 32)]), ("cntrl", [(0, 31), (127, 127)]),
  ("digit", [(48, 57)]), ("graph", [(33, 126)]), ("lower", [(97, 122)]), ("print", [(32, 126)]),
  ("punct", [(33, 47), (58, 64), (91, 96), (123, 126)]), ("space", [(9, 13), (32, 32)]),
  ("upper", [(65, 90)]), ("word", [(48, 57), (65, 90), (95, 95), (97, 122)]),
  ("xdigit", [(48, 57), (65, 70), (97, 102)])]

def takePosixClass? (flags : Flags) (s : Text) : Option (CharSet × Text) := do
  match s with
  | ':' :: rest =>
      let (negated, rest) :=
        match rest with
        | '^' :: rest => (true, rest)
        | rest => (false, rest)
      let (name, rest) := rest.span (· != ':')
      match rest with
      | ':' :: ']' :: rest =>
          let (_, spans) ← posixClasses.find? fun entry => entry.1.toList == name
          some (negateIf negated (flags.fold (.ranges spans)), rest)
      | _ => none
  | _ => none

inductive SetOperator where
  | intersection
  | difference
  | symmetricDifference

abbrev Pending := Option (SetOperator × CharSet)

def Pending.apply (flags : Flags) (pending : Pending) (right : CharSet) : CharSet :=
  match pending with
  | none => right
  | some (operator, left) =>
      let left := flags.fold left
      let right := flags.fold right
      match operator with
      | .intersection => .inter left right
      | .difference => .diff left right
      | .symmetricDifference => .symmDiff left right

def takeHyphens (flags : Flags) (items : CharSet) (found : Bool) (fuel : Nat) (s : Text) :
    CharSet × Bool × Text :=
  match fuel, s with
  | fuel + 1, '-' :: rest =>
      takeHyphens flags (.union items (.single '-')) true fuel (flags.skip rest)
  | _, s => (items, found, s)

def openClass (flags : Flags) (s : Text) : Bool × CharSet × Text :=
  let (negated, s) :=
    match flags.skip s with
    | '^' :: rest => (true, flags.skip rest)
    | other => (false, other)
  let (items, found, s) := takeHyphens flags .empty false s.length s
  match s with
  | ']' :: rest => if found then (negated, items, s) else (negated, .single ']', flags.skip rest)
  | _ => (negated, items, s)

def takeClassAtom? (flags : Flags) (s : Text) : Option (Atom × Text) :=
  match s with
  | [] => none
  | '\\' :: rest => takeEscape? flags rest
  | c :: rest => some (.literal c, rest)

def Atom.set? (flags : Flags) : Atom → Option CharSet
  | .literal c => if flags.unicode || c.toNat < 128 then some (.single c) else none
  | .class set => some set
  | _ => none

def Atom.literal? (flags : Flags) : Atom → Option Char
  | .literal c => if flags.unicode || c.toNat < 128 then some c else none
  | _ => none

def takeClassItem? (flags : Flags) (s : Text) : Option (CharSet × Text) := do
  let (first, rest) ← takeClassAtom? flags s
  match flags.skip rest with
  | [] => none
  | '-' :: afterHyphen =>
      match flags.skip afterHyphen with
      | [] => none
      | ']' :: _ | '-' :: _ => (first.set? flags).map fun set => (set, flags.skip rest)
      | next =>
          let low ← first.literal? flags
          let (second, rest) ← takeClassAtom? flags next
          let high ← second.literal? flags
          if low ≤ high then some (.span low high, rest) else none
  | rest => (first.set? flags).map fun set => (set, rest)

def takeClass? (flags : Flags) (negated : Bool) (pending : Pending) (items : CharSet) (fuel : Nat)
    (s : Text) : Option (CharSet × Text) :=
  match fuel with
  | 0 => none
  | fuel + 1 =>
      let operator (kind : SetOperator) (rest : Text) :=
        takeClass? flags negated (some (kind, pending.apply flags items)) .empty fuel rest
      match flags.skip s with
      | [] => none
      | ']' :: rest =>
          some (negateIf negated (flags.fold (pending.apply flags items)), rest)
      | '[' :: rest =>
          match takePosixClass? flags rest with
          | some (set, rest) => takeClass? flags negated pending (.union items set) fuel rest
          | none => do
              let (innerNegated, start, rest) := openClass flags rest
              let (set, rest) ← takeClass? flags innerNegated none start fuel rest
              takeClass? flags negated pending (.union items set) fuel rest
      | '&' :: '&' :: rest => operator .intersection rest
      | '-' :: '-' :: rest => operator .difference rest
      | '~' :: '~' :: rest => operator .symmetricDifference rest
      | rest => do
          let (set, rest) ← takeClassItem? flags rest
          takeClass? flags negated pending (.union items set) fuel rest

def takeBracket? (flags : Flags) (s : Text) : Option (CharSet × Text) := do
  let (negated, start, rest) := openClass flags s
  let (set, rest) ← takeClass? flags negated none start (s.length + 1) rest
  if flags.unicode || set.isAscii then some (set, rest) else none

inductive Opening where
  | directive (flags : Flags)
  | group (flags : Flags) (names : List Text)

def Flags.set? (flags : Flags) (letter : Char) (value : Bool) : Option Flags :=
  match letter with
  | 'i' => some { flags with caseless := value }
  | 'm' => some { flags with multiLine := value }
  | 's' => some { flags with dotAll := value }
  | 'R' => some { flags with anyEnding := value }
  | 'x' => some { flags with verbose := value }
  | 'u' => some { flags with unicode := value }
  | 'U' => some flags
  | _ => none

-- Flag letters up to a colon or a parenthesis. `seen` holds the letters so far; a letter occurs
-- once, and so does the hyphen, which is not the last character.
def takeFlags? (flags : Flags) (seen : Text) : Text → Option (Flags × Text)
  | [] => none
  | c :: rest =>
      if c = ':' || c = ')' then
        if seen.head? = some '-' then none else some (flags, c :: rest)
      else if seen.contains c then none
      else if c = '-' then takeFlags? flags (c :: seen) rest
      else
        match flags.set? c (!seen.contains '-') with
        | some flags => takeFlags? flags (c :: seen) rest
        | none => none

def isNameCharacter (first : Bool) (c : Char) : Bool :=
  if first then c == '_' || Unicode.isAlphabetic c
  else c == '_' || c == '.' || c == '[' || c == ']' || Unicode.isAlphanumeric c

def takeGroupName? (s : Text) : Option (Text × Text) :=
  let (name, rest) := s.span (· != '>')
  match name, rest with
  | c :: more, '>' :: rest =>
      if isNameCharacter true c && more.all (isNameCharacter false) then some (name, rest) else none
  | _, _ => none

def takeOpening? (scan : Scan) : Option (Opening × Text) := do
  let named (rest : Text) : Option (Opening × Text) := do
    let (name, rest) ← takeGroupName? rest
    if scan.names.contains name then none
    else some (.group scan.flags (name :: scan.names), rest)
  match scan.flags.skip scan.rest with
  | '?' :: '=' :: _ | '?' :: '!' :: _ | '?' :: '<' :: '=' :: _ | '?' :: '<' :: '!' :: _ => none
  | '?' :: 'P' :: '<' :: rest => named rest
  | '?' :: '<' :: rest => named rest
  | '?' :: rest =>
      let (flags, after) ← takeFlags? scan.flags [] rest
      match after with
      | ')' :: after => if rest.head? = some ')' then none else some (.directive flags, after)
      | _ :: after => some (.group flags scan.names, after)
      | [] => none
  | rest => some (.group scan.flags scan.names, rest)

-- A member of a concatenation: an expression with the depth of its nesting, or flags, which match
-- the empty text and cannot be repeated.
structure Member where
  regex : Regex
  depth : Nat
  directive : Bool := false

def joined (join : Regex → Regex → Regex) (members : List Member) : Member :=
  match members with
  | [] => ⟨.empty, 0, false⟩
  | [m] => ⟨m.regex, m.depth, false⟩
  | ms =>
      ⟨ms.dropLast.foldr (fun m r => join m.regex r) ((ms.getLast?.map (·.regex)).getD .empty),
        (ms.map (·.depth)).foldl max 0 + 1, false⟩

def concatenate : List Member → Member := joined .cat

def alternate : List Member → Member := joined .alt

def Atom.regex? (flags : Flags) : Atom → Option Regex
  | .literal c => some (.chars (flags.fold (.single c)))
  | .byte => none
  | .class set => some (.chars set)
  | .look condition => some (.look condition)

def dot? (flags : Flags) : Option Regex :=
  if !flags.unicode then none
  else if flags.dotAll then some (.chars .all)
  else if flags.anyEnding then some (.chars (.compl (.ranges [(10, 10), (13, 13)])))
  else some (.chars (.compl (.single '\n')))

def startAnchor (flags : Flags) : Look :=
  if !flags.multiLine then .textStart
  else if flags.anyEnding then .lineStartAnyEnding else .lineStart

def endAnchor (flags : Flags) : Look :=
  if !flags.multiLine then .textEnd
  else if flags.anyEnding then .lineEndAnyEnding else .lineEnd

def repeatLast? (least : Nat) (most : Option Nat) (members : List Member) : Option (List Member) :=
  match members with
  | [] => none
  | last :: before =>
      if last.directive then none
      else some (⟨repeated least most last.regex, last.depth + 1, false⟩ :: before)

-- Parses alternatives up to the end of the group (`nested`) or of the text. `branches` and
-- `members` hold what precedes in this group, latest first. Leaves the text after the group and the
-- group names seen.
def takeAlternatives? (nested : Bool) (branches members : List Member) (fuel : Nat) (scan : Scan) :
    Option (Member × Scan) :=
  match fuel with
  | 0 => none
  | fuel + 1 =>
      let flags := scan.flags
      let finish : Member := alternate (concatenate members.reverse :: branches).reverse
      let push (r : Regex) (depth : Nat) (rest : Text) :=
        takeAlternatives? nested branches (⟨r, depth, false⟩ :: members) fuel { scan with rest }
      let again (least : Nat) (most : Option Nat) (rest : Text) := do
        let members ← repeatLast? least most members
        takeAlternatives? nested branches members fuel { scan with rest }
      match flags.skip scan.rest with
      | [] => if nested then none else some (finish, { scan with rest := [] })
      | ')' :: rest => if nested then some (finish, { scan with rest }) else none
      | '|' :: rest =>
          takeAlternatives? nested (concatenate members.reverse :: branches) [] fuel
            { scan with rest }
      | '(' :: rest => do
          let (opening, rest) ← takeOpening? { scan with rest }
          match opening with
          | .directive flags =>
              takeAlternatives? nested branches (⟨.empty, 0, true⟩ :: members) fuel
                { scan with rest, flags }
          | .group inner names =>
              let (body, after) ← takeAlternatives? true [] [] fuel ⟨rest, inner, names⟩
              takeAlternatives? nested branches (⟨body.regex, body.depth + 1, false⟩ :: members)
                fuel { after with flags }
      | '[' :: rest => do
          let (set, rest) ← takeBracket? flags rest
          push (.chars set) 1 rest
      | '?' :: rest => again 0 (some 1) (skipLazyMark rest)
      | '*' :: rest => again 0 none (skipLazyMark rest)
      | '+' :: rest => again 1 none (skipLazyMark rest)
      | '{' :: rest => do
          let (least, most, rest) ← takeBounds? flags rest
          again least most rest
      | '.' :: rest => do push (← dot? flags) 0 rest
      | '^' :: rest => push (.look (startAnchor flags)) 0 rest
      | '$' :: rest => push (.look (endAnchor flags)) 0 rest
      | '\\' :: rest => do
          let (atom, rest) ← takeEscape? flags rest
          push (← atom.regex? flags) 0 rest
      | c :: rest => do push (← Atom.regex? flags (.literal c)) 0 rest

/-- Reads a regular expression; `none` when the text is not one. -/
def read? (properties : Text → Option (Bool × CharSet)) (s : Text) : Option Regex := do
  let (body, _) ← takeAlternatives? false [] [] (s.length + 1) ⟨s, { properties }, []⟩
  if body.depth > nestLimit then none else some body.regex

/-- What expressions are compiled with: the properties that have a name, and whether a program for the
expression is small enough. -/
structure Engine where
  properties : Text → Option (Bool × CharSet)
  hasRoom : Text → Bool

def Engine.compile? (engine : Engine) (s : Text) : Option Regex :=
  if engine.hasRoom s then read? engine.properties s else none

-- Any expression is small enough.
def Engine.standard : Engine := ⟨CharSet.ofName?, fun _ => true⟩

def parse? (s : Text) : Option Regex := Engine.standard.compile? s

end Shading.Regex
