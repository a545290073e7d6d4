import Shading.Text

set_option autoImplicit false

namespace Shading.Zip

-- The polynomial, the coefficient of the highest power in the lowest bit.
def polynomial : UInt32 := 0xEDB88320

def crcBit (crc : UInt32) : UInt32 :=
  if crc &&& 1 = 1 then polynomial ^^^ (crc >>> 1) else crc >>> 1

def crcByte (b : UInt32) : UInt32 := (List.range 8).foldl (fun crc _ => crcBit crc) b

def crcTable : Array UInt32 := ((List.range 256).map fun n => crcByte n.toUInt32).toArray

def crcStep (crc : UInt32) (b : UInt8) : UInt32 :=
  crcTable.getD ((crc ^^^ b.toUInt32) &&& 0xFF).toNat 0 ^^^ (crc >>> 8)

def crc32 (bytes : Bytes) : UInt32 := bytes.foldl crcStep 0xFFFFFFFF ^^^ 0xFFFFFFFF

end Shading.Zip
