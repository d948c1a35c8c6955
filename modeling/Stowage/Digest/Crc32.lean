import Stowage.Bytes

/-! The check sum of gzip: the remainder of the bits, last bit first, by a polynomial of degree 32. -/
namespace Stowage.Digest

/-- The polynomial without its leading term, last bit first. -/
def crcPolynomial : UInt32 := 0xedb88320

def crcBit (c : UInt32) : UInt32 :=
  if c &&& 1 = 1 then crcPolynomial ^^^ (c >>> 1) else c >>> 1

def crcByte (c : UInt32) (b : UInt8) : UInt32 :=
  Nat.repeat crcBit 8 (c ^^^ b.toUInt32)

def crc32 (bytes : Bytes) : UInt32 := bytes.foldl crcByte 0xffffffff ^^^ 0xffffffff

end Stowage.Digest
