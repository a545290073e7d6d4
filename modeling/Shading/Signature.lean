import Shading.ClassFile.FormatError

/- The grammar is lenient: parentheses, ^ and V may stand between types anywhere at the top level. Readers take
   the text and give the pieces and the text that is left; the fuel is more than the length of the text, and
   every recursive call comes after a character has been read. -/

set_option autoImplicit false

namespace Shading

inductive SignaturePiece where
  | plain (text : Text)
  | className (name : Text)
  -- The simple name of a class nested in the class with the binary name `outer`.
  | nestedName (outer name : Text)
deriving DecidableEq, Repr

namespace SignaturePiece

def binaryName (outer name : Text) : Text := outer ++ '$' :: name

def source : SignaturePiece → Text
  | plain text => text
  | className name => name
  | nestedName _ name => name

-- The simple name of a nested class after renaming: what follows the new name of the enclosing
-- class, or else what follows the last `$` of the new binary name.
def simpleName (newOuter newName : Text) : Text :=
  match Text.dropStart? (newOuter ++ ['$']) newName with
  | some simple => simple
  | none => ((Text.cutAtLast? '$' newName).map Prod.snd).getD newName

def rename (f : Text → Option Text) : SignaturePiece → Text
  | plain text => text
  | className name => (f name).getD name
  | nestedName outer name =>
      let full := binaryName outer name
      simpleName ((f outer).getD outer) ((f full).getD full)

end SignaturePiece

namespace Signature

open SignaturePiece

abbrev Taken := Option (List SignaturePiece × Text)

def baseTypes : Text := "BCDFIJSZV".toList

def takeName? (stops : Text) (s : Text) : Option (Text × Text) :=
  match s.span fun c => !stops.contains c with
  | ([], _) => none
  | (_, []) => none
  | (name, rest) => some (name, rest)

def nameStops : Text := ['<', '.', ';']

def takeVariable (s : Text) : Taken :=
  match takeName? [';'] s with
  | some (name, _ :: rest) => some ([.plain ('T' :: name ++ [';'])], rest)
  | _ => none

mutual
def takeType (fuel : Nat) (s : Text) : Taken :=
  match fuel with
  | 0 => none
  | fuel + 1 =>
      let (brackets, rest) := s.span (· == '[')
      match rest with
      | [] => none
      | c :: rest =>
          let taken :=
            if baseTypes.contains c then some ([.plain [c]], rest)
            else if c = 'T' then takeVariable rest
            else if c = 'L' then do
              let (pieces, rest) ← takeClass fuel rest
              some (.plain ['L'] :: pieces, rest)
            else none
          taken.map fun (pieces, rest) => (.plain brackets :: pieces, rest)

def takeClass (fuel : Nat) (s : Text) : Taken :=
  match fuel with
  | 0 => none
  | fuel + 1 => do
      let (name, rest) ← takeName? nameStops s
      let (pieces, rest) ← takeSuffixes fuel name rest
      some (.className name :: pieces, rest)

-- What may follow a part of a class name, up to the semicolon: type arguments and nested classes.
-- `outer` is the binary name so far.
def takeSuffixes (fuel : Nat) (outer s : Text) : Taken :=
  match fuel with
  | 0 => none
  | fuel + 1 => do
      let (arguments, rest) ←
        match s with
        | '<' :: rest => do
            let (pieces, rest) ← takeArguments fuel rest
            some (.plain ['<'] :: pieces, rest)
        | _ => some ([], s)
      match rest with
      | ';' :: rest => some (arguments ++ [.plain [';']], rest)
      | '.' :: rest => do
          let (name, rest) ← takeName? nameStops rest
          let (pieces, rest) ← takeSuffixes fuel (binaryName outer name) rest
          some (arguments ++ .plain ['.'] :: .nestedName outer name :: pieces, rest)
      | _ => none

def takeArguments (fuel : Nat) (s : Text) : Taken :=
  match fuel with
  | 0 => none
  | fuel + 1 =>
      match s with
      | [] => none
      | '>' :: rest => some ([.plain ['>']], rest)
      | '*' :: rest => do
          let (pieces, rest) ← takeArguments fuel rest
          some (.plain ['*'] :: pieces, rest)
      | c :: rest => do
          let (bound, rest) :=
            if c = '+' || c = '-' then ([SignaturePiece.plain [c]], rest) else ([], s)
          let (type, rest) ← takeType fuel rest
          let (pieces, rest) ← takeArguments fuel rest
          some (bound ++ type ++ pieces, rest)
end

def takeBounds (fuel : Nat) (s : Text) : Taken :=
  match fuel with
  | 0 => none
  | fuel + 1 =>
      match s with
      | ':' :: rest => do
          let (type, rest) ← takeType fuel rest
          let (pieces, rest) ← takeBounds fuel rest
          some (.plain [':'] :: type ++ pieces, rest)
      | _ => some ([], s)

def takeClassBound (fuel : Nat) (s : Text) : Taken :=
  match s with
  | 'L' :: _ | '[' :: _ | 'T' :: _ => takeType fuel s
  | _ => some ([], s)

def takeParameters (fuel : Nat) (s : Text) : Taken :=
  match fuel with
  | 0 => none
  | fuel + 1 =>
      match s with
      | '>' :: rest => some ([.plain ['>']], rest)
      | _ =>
          match takeName? [':'] s with
          | some (name, _ :: rest) => do
              let (classBound, rest) ← takeClassBound fuel rest
              let (bounds, rest) ← takeBounds fuel rest
              let (pieces, rest) ← takeParameters fuel rest
              some (.plain (name ++ [':']) :: classBound ++ bounds ++ pieces, rest)
          | _ => none

-- Types and punctuation up to the end of the text; `done` holds the pieces before, latest first.
def takeAll (fuel : Nat) (done : List (List SignaturePiece)) (s : Text) :
    Option (List SignaturePiece) :=
  match fuel, s with
  | _, [] => some done.reverse.flatten
  | 0, _ => none
  | fuel + 1, c :: rest =>
      if c = '(' || c = ')' || c = '^' || c = 'V' then takeAll fuel ([.plain [c]] :: done) rest
      else
        match takeType fuel s with
        | some (pieces, rest) => takeAll fuel (pieces :: done) rest
        | none => none

def parse? (s : Text) : Option (List SignaturePiece) :=
  let fuel := 2 * s.length + 2
  match s with
  | [] => none
  | '<' :: rest => do
      let (parameters, rest) ← takeParameters fuel rest
      takeAll fuel [.plain ['<'] :: parameters] rest
  | _ => takeAll fuel [] s

/-- The signature with its class names mapped; a name without an image keeps its form. -/
def rename (f : Text → Option Text) (s : Text) : Except FormatError Text :=
  match parse? s with
  | some pieces => .ok (pieces.flatMap (SignaturePiece.rename f))
  | none => .error (.badSignature s)

end Signature

end Shading
