import LogVault.Digest.Sha256

/-!
# LogVault.Digest.Hmac — signatures with a shared secret

The keyed digest of RFC 2104 over SHA-256. A signature is written as 64 hexadecimal digits; checking
one reads the digits in either case and refuses every text that is not the signature's own digits.
-/

namespace LogVault.Hmac

/-- The octets of a block. -/
def blockSize : Nat := 64

/-- A secret as long as a block: longer ones are replaced by their digest, shorter ones filled up
with zeros. -/
def blockKey (secret : Bytes) : Bytes :=
  let key := if blockSize < secret.length then Sha256.hash secret else secret
  key ++ List.replicate (blockSize - key.length) 0

/-- **The code** of a message under a secret. -/
def code (secret message : Bytes) : Bytes :=
  let key := blockKey secret
  let inner := Sha256.hash (key.map (· ^^^ 0x36) ++ message)
  Sha256.hash (key.map (· ^^^ 0x5c) ++ inner)

theorem length_code (secret message : Bytes) : (code secret message).length = 32 :=
  Sha256.length_hash _

/-- **The signature** of a message: the digits of its code. -/
def sign (secret message : Bytes) : String := Hex.text (code secret message)

/-- **Checking a signature.** -/
def verify (secret message : Bytes) (signature : String) : Bool :=
  match Hex.decode signature.toList with
  | some octets => octets == code secret message
  | none => false

end LogVault.Hmac
