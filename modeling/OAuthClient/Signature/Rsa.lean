import OAuthClient.Signature.Digest

/-!
# RSA signatures

A signature is a number whose power modulo the key's modulus is the padded digest of the message:
the octets 0 and 1, octets 255, the octet 0, the name of the digest algorithm, the digest.

## Main declarations

* `powMod`: powers modulo a number.
* `Rsa.PublicKey`: a key.
* `Rsa.paddedDigest?`: the octets that a signature of a message stands for.
* `Rsa.PublicKey.verifies`: whether octets are a signature of a message.
-/

namespace OAuthClient

-- Powers are those of core, whatever else is imported.
attribute [local instance (high)] instPowNat

/-- The power `b ^ e` modulo `m`, multiplied by `acc`, for an exponent of at most `bits` bits. -/
def powModFrom (m : Nat) : Nat → Nat → Nat → Nat → Nat
  | 0, _, _, acc => acc
  | bits + 1, b, e, acc =>
    powModFrom m bits (b * b % m) (e / 2) (if e % 2 = 1 then acc * b % m else acc)

/-- The power `b ^ e` modulo `m`. -/
def powMod (b e m : Nat) : Nat := powModFrom m (e.log2 + 1) (b % m) e (1 % m)

namespace Rsa

/-- A public key. -/
structure PublicKey where
  modulus : Nat
  exponent : Nat
  deriving DecidableEq, Repr

/-- The number of octets of the modulus, which is that of a signature. -/
def PublicKey.size (key : PublicKey) : Nat := key.modulus.log2 / 8 + 1

/-- The name of a digest algorithm and the header of its digest, in the encoding of certificates. -/
def digestHeader (d : Digest) : List UInt8 :=
  let (last, tag) : Nat × UInt8 := match d with
    | .sha256 => (32, 1)
    | .sha384 => (48, 2)
    | .sha512 => (64, 3)
  [0x30, UInt8.ofNat (last + 17), 0x30, 0x0d, 0x06, 0x09, 0x60, 0x86, 0x48, 0x01, 0x65, 0x03, 0x04,
    0x02, tag, 0x05, 0x00, 0x04, UInt8.ofNat last]

/-- The octets that a signature of a message stands for, in the size of the key. At least eight
octets fill them up. -/
def paddedDigest? (d : Digest) (size : Nat) (message : List UInt8) : Option (List UInt8) :=
  let info := digestHeader d ++ d.hash message
  if size < info.length + 11 then none
  else some (0 :: 1 :: List.replicate (size - info.length - 3) 255 ++ 0 :: info)

/-- Whether octets are a signature of a message. -/
def PublicKey.verifies (key : PublicKey) (d : Digest) (message signature : List UInt8) : Bool :=
  let s := Octets.toNat signature
  signature.length = key.size && s < key.modulus &&
    paddedDigest? d key.size message =
      some (Octets.ofNat key.size (powMod s key.exponent key.modulus))

end Rsa

end OAuthClient
