/-!
# The checksum CRC-32

The remainder of a row of bytes under the reflected polynomial `0xEDB88320`, as gzip uses it.
-/

namespace RelationGateway.Gzip

/-- One bit of the division. -/
def crcBit (crc : UInt32) : UInt32 :=
  if crc &&& 1 == 1 then (crc >>> 1) ^^^ 0xEDB88320 else crc >>> 1

/-- Takes one more byte into the remainder. -/
def crcByte (crc : UInt32) (b : UInt8) : UInt32 :=
  crcBit (crcBit (crcBit (crcBit (crcBit (crcBit (crcBit (crcBit (crc ^^^ b.toUInt32))))))))

/-- The checksum of a row of bytes. -/
def crc32 (bytes : List UInt8) : UInt32 := ~~~(bytes.foldl crcByte 0xFFFFFFFF)

example : crc32 [] = 0 := by decide
example : crc32 [0x61] = 0xE8B7BE43 := by decide

end RelationGateway.Gzip
