import Shading.Zip.Crc32
import Shading.Zip.Timestamp

set_option autoImplicit false

namespace Shading.Zip

structure NewEntry where
  name : Text
  isDirectory : Bool
  time : Timestamp
  mode : Nat
  compressed : Bool
  content : Bytes

def ofNat (count n : Nat) : Bytes :=
  match count with
  | 0 => []
  | count + 1 => n.toUInt8 :: ofNat count (n / 256)

-- The greatest value of 32 bits. Greater ones are written apart, as values of 64 bits.
def wideLimit : Nat := 0xFFFFFFFF

def countLimit : Nat := 0xFFFF

def wideField (values : List Nat) : Bytes :=
  if values.isEmpty then [] else ofNat 2 1 ++ ofNat 2 (8 * values.length) ++ values.flatMap (ofNat 8)

def blockLimit : Nat := 0x10000

def storedBlock (isLast : Bool) (bytes : Bytes) : Bytes :=
  (if isLast then 1 else 0) :: ofNat 2 bytes.length ++ ofNat 2 (blockLimit - 1 - bytes.length) ++ bytes

-- A DEFLATE stream for bytes; `fuel` bounds the number of blocks.
def storedBlocks (fuel : Nat) (bytes : Bytes) : Bytes :=
  match fuel with
  | 0 => storedBlock true bytes
  | fuel + 1 =>
      let (block, rest) := bytes.splitAt (blockLimit - 1)
      if rest.isEmpty then storedBlock true block
      else storedBlock false block ++ storedBlocks fuel rest

def deflate (bytes : Bytes) : Bytes := storedBlocks bytes.length bytes

namespace NewEntry

def fullMode (e : NewEntry) : Nat := (if e.isDirectory then 0o40000 else 0o100000) + e.mode

def isLarge (e : NewEntry) : Bool := wideLimit ≤ e.content.length

def version (e : NewEntry) : Nat := if e.isLarge then 45 else 20

def stored (e : NewEntry) : Bytes := if e.compressed then deflate e.content else e.content

def wideSizes (e : NewEntry) (storedSize : Nat) : List Nat :=
  if e.isLarge then [e.content.length, storedSize] else []

def commonFields (e : NewEntry) (storedSize : Nat) (wide : Bytes) : Bytes :=
  let isAscii := e.name.all fun c => c.toNat < 128
  let shown (n : Nat) : Nat := if e.isLarge then wideLimit else n
  ofNat 2 e.version ++ ofNat 2 (if isAscii then 0 else 0x800) ++ ofNat 2 (if e.compressed then 8 else 0) ++
    ofNat 2 e.time.timeWord ++ ofNat 2 e.time.dateWord ++ ofNat 4 (crc32 e.content).toNat ++
    ofNat 4 (shown storedSize) ++ ofNat 4 (shown e.content.length) ++ ofNat 2 (Text.utf8Size e.name) ++
    ofNat 2 wide.length

def localHeader (e : NewEntry) (storedSize : Nat) : Bytes :=
  let wide := wideField (e.wideSizes storedSize)
  ofNat 4 0x04034b50 ++ e.commonFields storedSize wide ++ Text.utf8 e.name ++ wide

def directoryHeader (e : NewEntry) (storedSize start : Nat) : Bytes :=
  let wide := wideField (e.wideSizes storedSize ++ [start].filter (wideLimit ≤ ·))
  ofNat 4 0x02014b50 ++ ofNat 2 (0x300 + e.version) ++ e.commonFields storedSize wide ++ ofNat 2 0 ++
    ofNat 2 0 ++ ofNat 2 0 ++ ofNat 4 (e.fullMode * 0x10000) ++ ofNat 4 (min start wideLimit) ++
    Text.utf8 e.name ++ wide

end NewEntry

structure Output where
  bodies : List Bytes := []
  directory : List Bytes := []
  position : Nat := 0
  count : Nat := 0

namespace Output

def add (o : Output) (e : NewEntry) : Output :=
  let stored := e.stored
  let body := e.localHeader stored.length ++ stored
  ⟨body :: o.bodies, e.directoryHeader stored.length o.position :: o.directory,
    o.position + body.length, o.count + 1⟩

-- The end record of 64 bits and where it is.
def wideEnd (o : Output) (directorySize : Nat) : Bytes :=
  ofNat 4 0x06064b50 ++ ofNat 8 44 ++ ofNat 2 45 ++ ofNat 2 45 ++ ofNat 4 0 ++ ofNat 4 0 ++ ofNat 8 o.count ++
    ofNat 8 o.count ++ ofNat 8 directorySize ++ ofNat 8 o.position ++ ofNat 4 0x07064b50 ++ ofNat 4 0 ++
    ofNat 8 (o.position + directorySize) ++ ofNat 4 1

def finish (o : Output) : Bytes :=
  let directory := o.directory.reverse.flatten
  let isWide := countLimit < o.count || wideLimit < max directory.length o.position
  let count := ofNat 2 (min o.count countLimit)
  o.bodies.reverse.flatten ++ directory ++ (if isWide then o.wideEnd directory.length else []) ++
    ofNat 4 0x06054b50 ++ ofNat 2 0 ++ ofNat 2 0 ++ count ++ count ++ ofNat 4 (min directory.length wideLimit) ++
    ofNat 4 (min o.position wideLimit) ++ ofNat 2 0

end Output

def write (entries : List NewEntry) : Bytes := (entries.foldl Output.add {}).finish

end Shading.Zip
