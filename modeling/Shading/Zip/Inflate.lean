import Shading.Text

set_option autoImplicit false

namespace Shading.Zip

inductive InflateStop where
  | cut
  | corrupt
deriving DecidableEq, Repr

structure Inflater where
  input : ByteArray
  position : Nat := 0
  output : ByteArray := .empty

-- A step of decompression; the output so far outlives its failure.
abbrev Inflate (α : Type) := ExceptT InflateStop (StateM Inflater) α

namespace Inflate

def bit : Inflate Nat := do
  let s ← get
  match s.input[s.position / 8]? with
  | none => throw .cut
  | some b =>
      set { s with position := s.position + 1 }
      return b.toNat >>> (s.position % 8) % 2

def bits : Nat → Inflate Nat
  | 0 => return 0
  | n + 1 => do
      let low ← bit
      return low + 2 * (← bits n)

def emit (b : UInt8) : Inflate Unit :=
  modify fun s => { s with output := s.output.push b }

structure PrefixCode where
  counts : List Nat
  symbols : Array Nat

namespace PrefixCode

def maxLength : Nat := 15

-- The code in which every symbol has a word of the given length, or none if that is zero. The words
-- have to fill the code up, unless there is at most one.
def ofLengths? (lengths : List Nat) : Option PrefixCode :=
  let byLength := (List.range maxLength).map fun n =>
    lengths.zipIdx.filterMap fun (length, symbol) => if length = n + 1 then some symbol else none
  let counts := byLength.map List.length
  let filled := (counts.foldl (fun (total, weight) count => (total + count * weight, weight / 2))
    (0, Nat.pow 2 (maxLength - 1))).1
  if filled = Nat.pow 2 maxLength || byLength.flatten.length ≤ 1 then
    some ⟨counts, byLength.flatten.toArray⟩
  else none

-- Decodes a symbol. `code` is twice the bits so far, `first` the first word of the next length and
-- `index` the place of its symbol.
def symbolFrom (symbols : Array Nat) (code first index : Nat) : List Nat → Inflate Nat
  | [] => throw .corrupt
  | count :: counts => do
      let code := code + (← bit)
      if code < first + count then return symbols.getD (index + (code - first)) 0
      symbolFrom symbols (2 * code) (2 * (first + count)) (index + count) counts

def symbol (c : PrefixCode) : Inflate Nat := symbolFrom c.symbols 0 0 0 c.counts

end PrefixCode

def codeOf (lengths : List Nat) : Inflate PrefixCode :=
  match PrefixCode.ofLengths? lengths with
  | some c => return c
  | none => throw .corrupt

def fixedLiterals : List Nat :=
  List.replicate 144 8 ++ List.replicate 112 9 ++ List.replicate 24 7 ++ List.replicate 8 8

def fixedDistances : List Nat := List.replicate 32 5

-- The order in which the lengths for the code of lengths are transmitted.
def lengthOrder : List Nat := [16, 17, 18, 0, 8, 7, 9, 6, 10, 5, 11, 4, 12, 3, 13, 2, 14, 1, 15]

-- Reads code lengths until there are `wanted` of them; those so far are given last first.
def codeLengths (c : PrefixCode) (wanted : Nat) (lengths : List Nat) (fuel : Nat) :
    Inflate (List Nat) :=
  match fuel with
  | 0 => throw .corrupt
  | fuel + 1 => do
      if lengths.length = wanted then return lengths.reverse
      if wanted < lengths.length then throw .corrupt
      let symbol ← c.symbol
      match symbol with
      | 16 =>
          match lengths with
          | [] => throw .corrupt
          | last :: _ =>
              let times := 3 + (← bits 2)
              codeLengths c wanted (List.replicate times last ++ lengths) fuel
      | 17 =>
          let times := 3 + (← bits 3)
          codeLengths c wanted (List.replicate times 0 ++ lengths) fuel
      | 18 =>
          let times := 11 + (← bits 7)
          codeLengths c wanted (List.replicate times 0 ++ lengths) fuel
      | length => codeLengths c wanted (length :: lengths) fuel

def transmittedCodes : Inflate (PrefixCode × PrefixCode) := do
  let literals := 257 + (← bits 5)
  let distances := 1 + (← bits 5)
  let transmitted ← (lengthOrder.take (4 + (← bits 4))).mapM fun symbol => do
    return (symbol, ← bits 3)
  if 286 < literals || 30 < distances then throw .corrupt
  let code ← codeOf ((List.range 19).map fun symbol => (transmitted.lookup symbol).getD 0)
  let lengths ← codeLengths code (literals + distances) [] (literals + distances + 1)
  return (← codeOf (lengths.take literals), ← codeOf (lengths.drop literals))

-- The least length and the number of further bits for each length symbol from 257 on.
def lengthCodes : Array (Nat × Nat) := #[
  (3, 0), (4, 0), (5, 0), (6, 0), (7, 0), (8, 0), (9, 0), (10, 0), (11, 1), (13, 1), (15, 1),
  (17, 1), (19, 2), (23, 2), (27, 2), (31, 2), (35, 3), (43, 3), (51, 3), (59, 3), (67, 4),
  (83, 4), (99, 4), (115, 4), (131, 5), (163, 5), (195, 5), (227, 5), (258, 0)]

def distanceCodes : Array (Nat × Nat) := #[
  (1, 0), (2, 0), (3, 0), (4, 0), (5, 1), (7, 1), (9, 2), (13, 2), (17, 3), (25, 3), (33, 4),
  (49, 4), (65, 5), (97, 5), (129, 6), (193, 6), (257, 7), (385, 7), (513, 8), (769, 8),
  (1025, 9), (1537, 9), (2049, 10), (3073, 10), (4097, 11), (6145, 11), (8193, 12), (12289, 12),
  (16385, 13), (24577, 13)]

def extended (table : Array (Nat × Nat)) (symbol : Nat) : Inflate Nat := do
  match table[symbol]? with
  | some (least, more) => return least + (← bits more)
  | none => throw .corrupt

def copy (distance : Nat) : Nat → Inflate Unit
  | 0 => return ()
  | n + 1 => do
      let output := (← get).output
      emit (if distance ≤ output.size then output[output.size - distance]?.getD 0 else 0)
      copy distance n

def matched (literals distances : PrefixCode) (fuel : Nat) : Inflate Unit :=
  match fuel with
  | 0 => throw .cut
  | fuel + 1 => do
      let symbol ← literals.symbol
      if symbol = 256 then return ()
      if symbol < 256 then emit symbol.toUInt8
      else
        let length ← extended lengthCodes (symbol - 257)
        let distance ← extended distanceCodes (← distances.symbol)
        copy distance length
      matched literals distances fuel

def storedBytes : Nat → Inflate Unit
  | 0 => return ()
  | n + 1 => do
      emit (← bits 8).toUInt8
      storedBytes n

def stored : Inflate Unit := do
  modify fun s => { s with position := (s.position + 7) / 8 * 8 }
  let length ← bits 16
  let complement ← bits 16
  if length + complement ≠ 0xFFFF then throw .corrupt
  storedBytes length

def blocks (fuel : Nat) : Inflate Unit :=
  match fuel with
  | 0 => throw .cut
  | fuel + 1 => do
      let last ← bit
      match ← bits 2 with
      | 0 => stored
      | 1 => matched (← codeOf fixedLiterals) (← codeOf fixedDistances) (fuel + 1)
      | 2 =>
          let (literals, distances) ← transmittedCodes
          matched literals distances (fuel + 1)
      | _ => throw .corrupt
      if last = 1 then return () else blocks fuel

end Inflate

def inflate? (stream : Bytes) : Option Bytes :=
  let input : ByteArray := ⟨stream.toArray⟩
  let (result, s) := (Inflate.blocks (8 * input.size + 1)).run.run { input }
  match result with
  | .error .corrupt => none
  | _ => some s.output.data.toList

end Shading.Zip
