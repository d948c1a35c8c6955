import Stowage.Digest.Crc32
import Stowage.Gzip.Deflate

/-! Decompression of gzip data of one member: header, deflate stream, check sum and length, and nothing
after them. -/
namespace Stowage.Gzip

inductive Fault where
  | invalidHeader | fieldTooLong | corruptStream | mismatch | trailing
deriving DecidableEq, Repr

def Fault.message : Fault → String
  | invalidHeader => "invalid gzip header"
  | fieldTooLong => "gzip header field too long"
  | corruptStream => "corrupt deflate stream"
  | mismatch => "corrupt gzip stream does not have a matching checksum"
  | trailing => "failed to write whole buffer"

def isGzip (data : Bytes) : Bool := data.take 2 = [0x1f, 0x8b]

/-- The rest after so many bytes. Data that ends too early cannot match its check sum. -/
def skip (count : Nat) (data : Bytes) : Except Fault Bytes :=
  if count ≤ data.length then .ok (data.drop count) else .error .mismatch

def skipField (data : Bytes) : Except Fault Bytes :=
  let field := (data.take 65536).takeWhile (· ≠ 0)
  if field.length = 65536 then .error .fieldTooLong else skip (field.length + 1) data

def skipIf (flag : Bool) (step : Bytes → Except Fault Bytes) (data : Bytes) : Except Fault Bytes :=
  if flag then step data else .ok data

def skipExtra (data : Bytes) : Except Fault Bytes := do
  let rest ← skip 2 data
  skip (Bytes.littleEndian (data.take 2)) rest

/-- The check sum of the header has the lower half of its bits. -/
def skipHeaderSum (whole data : Bytes) : Except Fault Bytes := do
  let rest ← skip 2 data
  let header := whole.take (whole.length - data.length)
  if Bytes.littleEndian (data.take 2) = (Digest.crc32 header).toNat % UInt16.size then return rest
  else .error .mismatch

def skipHeader (data : Bytes) : Except Fault Bytes := do
  let rest ← skip 10 data
  let flags := (data.getD 3 0).toNat
  if !isGzip data || data.getD 2 0 ≠ 8 || 0x20 ≤ flags then .error .invalidHeader
  else
    let rest ← skipIf (flags.testBit 2) skipExtra rest
    let rest ← skipIf (flags.testBit 3) skipField rest
    let rest ← skipIf (flags.testBit 4) skipField rest
    skipIf (flags.testBit 1) (skipHeaderSum data) rest

def decompress (data : Bytes) : Except Fault Bytes := do
  match Deflate.inflate (← skipHeader data) with
  | .error .ended => .error .mismatch
  | .error .corrupt => .error .corruptStream
  | .ok (content, trailer) =>
    if trailer.length < 8 then .error .mismatch
    else if 8 < trailer.length then .error .trailing
    else if Bytes.littleEndian (trailer.take 4) ≠ (Digest.crc32 content).toNat then .error .mismatch
    else if Bytes.littleEndian (trailer.drop 4) ≠ content.length % UInt32.size then .error .mismatch
    else return content

end Stowage.Gzip
