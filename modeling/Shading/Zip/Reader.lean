import Shading.Failure
import Shading.Text.Utf8
import Shading.Zip.CodePage437
import Shading.Zip.Crc32
import Shading.Zip.Inflate
import Shading.Zip.Timestamp

/- The directory is looked for from the place that the end record tells; how far it is from there is how far
   all places are shifted. The last end record that leads to a readable directory counts. -/

set_option autoImplicit false

namespace Shading.Zip

structure Listing where
  name : Text
  system : Nat
  attributes : Nat
  encrypted : Bool
  method : Nat
  time? : Option Timestamp
  crc : UInt32
  compressedSize : Nat
  size : Nat
  start : Nat

structure Entry where
  name : Text
  time? : Option Timestamp
  mode? : Option Nat
  size : Nat
  isCompressed : Bool
  content : Except FileFault Bytes

namespace Entry

def isDirectory (e : Entry) : Bool := Text.endsWith ['/'] e.name || Text.endsWith ['\\'] e.name

end Entry

namespace Listing

-- The type and permission bits. Attributes of other systems than Unix tell no more than whether the
-- entry is a directory and may be written.
def mode? (l : Listing) : Option Nat :=
  if l.attributes = 0 then none
  else if l.system = 3 then some (l.attributes / 0x10000)
  else if l.system = 0 then
    let mode := if l.attributes / 16 % 2 = 1 then 0o40775 else 0o100664
    some (if l.attributes % 2 = 1 then mode &&& 0o555 else mode)
  else none

end Listing

def littleEndian (data : ByteArray) (start : Nat) : Nat → Option Nat
  | 0 => some 0
  | count + 1 => do
      let low ← data[start]?
      return low.toNat + 256 * (← littleEndian data (start + 1) count)

def slice? (data : ByteArray) (start count : Nat) : Option Bytes :=
  if start + count ≤ data.size then some (data.extract start (start + count)).data.toList else none

def slice (data : ByteArray) (start count : Nat) : Bytes :=
  (data.extract start (min data.size (start + count))).data.toList

def hasMark (data : ByteArray) (mark start : Nat) : Bool := littleEndian data start 4 == some mark

def localMark : Nat := 0x04034b50

def directoryMark : Nat := 0x02014b50

def endMark : Nat := 0x06054b50

-- Stands for a value that does not fit 32 bits.
def wideMark : Nat := 0xFFFFFFFF

def findMark? (data : ByteArray) (mark start count : Nat) : Option Nat :=
  match count with
  | 0 => none
  | count + 1 =>
      if hasMark data mark start then some start else findMark? data mark (start + 1) count

def wideEndMark : Nat := 0x06064b50

def locatorMark : Nat := 0x07064b50

-- Where to look for the end record of 64 bits. It stands right before the end record of 32 bits.
structure Locator where
  place : Nat
  part : Nat
  -- Where that record begins, unless everything is shifted.
  record : Nat
  parts : Nat

def Locator.read? (data : ByteArray) (endPlace : Nat) : Option Locator := do
  if endPlace < 20 then none
  let place := endPlace - 20
  if !hasMark data locatorMark place then none
  return {
    place
    part := ← littleEndian data (place + 4) 4
    record := ← littleEndian data (place + 8) 8
    parts := ← littleEndian data (place + 16) 4 }

structure WideEnd where
  place : Nat
  length : Nat
  writtenBy : Nat
  neededBy : Nat
  part : Nat
  directoryPart : Nat
  listed : Nat
  total : Nat
  directory : Nat

def WideEnd.read? (data : ByteArray) (place : Nat) : Option WideEnd := do
  if !hasMark data wideEndMark place then none
  return {
    place
    length := 12 + (← littleEndian data (place + 4) 8)
    writtenBy := ← littleEndian data (place + 12) 2
    neededBy := ← littleEndian data (place + 14) 2
    part := ← littleEndian data (place + 16) 4
    directoryPart := ← littleEndian data (place + 20) 4
    listed := ← littleEndian data (place + 24) 8
    total := ← littleEndian data (place + 32) 8
    directory := ← littleEndian data (place + 48) 8 }

-- The record reaches up to its locator, and the directory has room before it.
def WideEnd.fits (w : WideEnd) (l : Locator) : Bool :=
  56 ≤ w.length && w.place + w.length = l.place && w.directoryPart = l.part &&
    46 * w.total + w.directory ≤ w.place

def WideEnd.find? (data : ByteArray) (l : Locator) (start : Nat) : Nat → Option WideEnd
  | 0 => none
  | count + 1 =>
      match WideEnd.read? data start with
      | some w => if w.fits l then some w else WideEnd.find? data l (start + 1) count
      | none => WideEnd.find? data l (start + 1) count

-- What an archive ends with: how many entries there are and where the directory begins, unless
-- everything is shifted.
structure EndRecord where
  part : Nat
  directoryPart : Nat
  count : Nat
  directory : Nat
  shift : Nat

def EndRecord.ofLocator? (data : ByteArray) (l : Locator) : Option EndRecord := do
  if l.place ≤ l.record || l.parts > 1 then none
  let w ← WideEnd.find? data l l.record (l.place - l.record)
  if w.total < w.listed || w.writtenBy < w.neededBy then none
  return ⟨w.part, w.directoryPart, w.total, w.directory, w.place - l.record⟩

def EndRecord.read? (data : ByteArray) (place : Nat) : Option EndRecord := do
  if !hasMark data endMark place then none
  let comment ← littleEndian data (place + 20) 2
  if data.size < place + 22 + comment then none
  let total ← littleEndian data (place + 10) 2
  let directory ← littleEndian data (place + 16) 4
  match if total = 0xFFFF || directory = wideMark then Locator.read? data place else none with
  | some l => EndRecord.ofLocator? data l
  | none =>
      let shift ←
        if total = 0 then some (place - directory)
        else (findMark? data directoryMark directory (place - 3 - directory)).map (· - directory)
      return {
        part := ← littleEndian data (place + 4) 2
        directoryPart := ← littleEndian data (place + 6) 2
        count := ← littleEndian data (place + 8) 2
        directory
        shift }

-- The values of 64 bits that replace ones that do not fit 32 bits, in the order in which they are
-- recorded.
structure WideFields where
  size : Nat
  compressedSize : Nat
  header : Nat

-- Reads the extra fields of an entry, `fuel` of them at most. Without one of wide values the given
-- values count; `none` if that one is too short.
def WideFields.read? (data : ByteArray) (start stop : Nat) (given : WideFields) (fuel : Nat) :
    Option WideFields :=
  match fuel with
  | 0 => some given
  | fuel + 1 =>
      if stop < start + 4 then some given
      else
        match littleEndian data start 2, littleEndian data (start + 2) 2 with
        | some kind, some length =>
            if kind ≠ 1 then read? data (start + 4 + length) stop given fuel
            else do
              let place := start + 4
              let isWide (n : Nat) : Bool := 24 ≤ length || n = wideMark
              let (size, place) ←
                if isWide given.size then (littleEndian data place 8).map (·, place + 8)
                else some (given.size, place)
              let (compressedSize, place) ←
                if isWide given.compressedSize then (littleEndian data place 8).map (·, place + 8)
                else some (given.compressedSize, place)
              let (header, place) ←
                if isWide given.header then (littleEndian data place 8).map (·, place + 8)
                else some (given.header, place)
              if start + 4 + length < place then none
              read? data (start + 4 + length) stop ⟨size, compressedSize, header⟩ fuel
        | _, _ => some given

def contentStart? (data : ByteArray) (header : Nat) : Option Nat := do
  if !hasMark data localMark header then none
  return header + 30 + (← littleEndian data (header + 26) 2) + (← littleEndian data (header + 28) 2)

def decodeName (isUtf8 : Bool) (bytes : Bytes) : Text :=
  if isUtf8 then Text.Utf8.decodeLossy bytes else bytes.map codePage437

-- Reads the entry of the directory at a place, and the place after it. `directory` is where the
-- directory begins; no content begins after that.
def Listing.read? (data : ByteArray) (shift directory place : Nat) : Option (Listing × Nat) := do
  if !hasMark data directoryMark place then none
  let word (offset : Nat) : Option Nat := littleEndian data (place + offset) 2
  let long (offset : Nat) : Option Nat := littleEndian data (place + offset) 4
  let flags ← word 8
  let nameLength ← word 28
  let extraLength ← word 30
  let commentLength ← word 32
  let name ← slice? data (place + 46) nameLength
  let extra := place + 46 + nameLength
  let next := extra + extraLength + commentLength
  if data.size < next then none
  let wide ← WideFields.read? data extra (extra + extraLength)
    ⟨← long 24, ← long 20, ← long 42⟩ extraLength
  let start ← contentStart? data (wide.header + shift)
  if directory < start then none
  return ({
    name := decodeName (flags / 0x800 % 2 = 1) name
    system := (← word 4) / 0x100
    attributes := ← long 38
    encrypted := flags % 2 = 1
    method := ← word 10
    time? := Timestamp.ofWords? (← word 14) (← word 12)
    crc := (← long 16).toUInt32
    compressedSize := wide.compressedSize
    size := wide.size
    start }, next)

def readListings (data : ByteArray) (shift directory : Nat) (done : List Listing) (place : Nat) :
    Nat → Option (List Listing)
  | 0 => some done.reverse
  | count + 1 => do
      let (listing, place) ← Listing.read? data shift directory place
      readListings data shift directory (listing :: done) place count

-- Of entries of the same name the last one counts, in the place of the first.
def distinct (listings : List Listing) : List Listing :=
  listings.foldl (fun done l =>
    if done.any fun other => other.name == l.name then
      done.map fun other => if other.name == l.name then l else other
    else done ++ [l]) []

def EndRecord.listings? (data : ByteArray) (r : EndRecord) : Option (List Listing) := do
  if r.part ≠ r.directoryPart then none
  let directory := r.directory + r.shift
  return distinct (← readListings data r.shift directory [] directory r.count)

-- The entries that the last readable end record before a place leads to.
def lastListings? (data : ByteArray) : Nat → Option (List Listing)
  | 0 => none
  | place + 1 =>
      match (EndRecord.read? data place).bind (EndRecord.listings? data) with
      | some listings => some listings
      | none => lastListings? data place

def contentOf (method : Nat) (crc : UInt32) (stored : Bytes) : Except FileFault Bytes :=
  match if method = 8 then inflate? stored else some stored with
  | none => .error .corruptStream
  | some content => if crc32 content = crc then .ok content else .error .badChecksum

def Listing.open (data : ByteArray) (l : Listing) : Except Fault Entry :=
  if l.encrypted then .error .encrypted
  else if l.method ≠ 0 ∧ l.method ≠ 8 then .error .unknownMethod
  else .ok {
    name := l.name
    time? := l.time?
    mode? := l.mode?
    size := l.size
    isCompressed := l.method = 8
    content := contentOf l.method l.crc (slice data l.start l.compressedSize) }

/-- The entries of an archive in the order of its directory, each one if it can be opened. -/
def read (bytes : Bytes) : Except Fault (List (Except Fault Entry)) :=
  let data : ByteArray := ⟨bytes.toArray⟩
  match lastListings? data data.size with
  | none => .error .malformed
  | some listings => .ok (listings.map (Listing.open data))

end Shading.Zip
