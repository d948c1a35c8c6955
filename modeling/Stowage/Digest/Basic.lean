import Stowage.Digest.Sha2

/-! Digests as texts: the name of the algorithm, a colon, and the hash in hexadecimal. -/
namespace Stowage.Digest

def sha256Text (data : Bytes) : String := "sha256:" ++ Bytes.hex (sha256 data)

def of? (algorithm : String) (data : Bytes) : Option String :=
  if algorithm = "sha256" then some (sha256Text data)
  else if algorithm = "sha512" then some ("sha512:" ++ Bytes.hex (sha512 data))
  else none

/-- What stands before the first colon of a digest that has one. -/
def algorithm (digest : String) : String :=
  let cs := digest.toList
  if cs.contains ':' then String.ofList (cs.takeWhile (· ≠ ':')) else ""

end Stowage.Digest
