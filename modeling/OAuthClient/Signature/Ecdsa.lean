import OAuthClient.Signature.Curve

/-!
# Signatures on elliptic curves

A signature is two numbers `r` and `s` below the order of the curve, each in as many octets as the
order has.

## Main declarations

* `Ecdsa.PublicKey`: a key, a point of a curve.
* `Ecdsa.PublicKey.verifies`: whether octets are a signature of a message.
-/

namespace OAuthClient

-- Powers are those of core, whatever else is imported.
attribute [local instance (high)] instPowNat

/-- The number of octets of a coordinate. -/
def Curve.size : Curve → Nat
  | p256 => 32
  | p384 => 48
  | p521 => 66

namespace Ecdsa

/-- A public key: the coordinates of a point. -/
structure PublicKey where
  curve : Curve
  x : Nat
  y : Nat
  deriving DecidableEq, Repr

/-- The number of octets of a signature. -/
def signatureSize (curve : Curve) : Nat := 2 * curve.size

/-- The number that a digest stands for: its first bits, as many as the order has. -/
def digestNumber (order : Nat) (digest : List UInt8) : Nat :=
  Octets.toNat digest / 2 ^ (8 * digest.length - (order.log2 + 1))

/-- Whether two numbers are a signature of a message. -/
def PublicKey.accepts (key : PublicKey) (d : Digest) (message : List UInt8) (r s : Nat) : Bool :=
  let c := key.curve.parameters
  let inRange (n : Nat) : Bool := 0 < n && n < c.order
  inRange r && inRange s &&
    let w := CurveParameters.inverse c.order s
    let e := digestNumber c.order (d.hash message)
    let sum := c.add (c.scale (e * w % c.order) c.base)
      (c.scale (r * w % c.order) { x := key.x, y := key.y })
    sum.z ≠ 0 && c.abscissa sum % c.order = r

/-- Whether octets are a signature of a message. -/
def PublicKey.verifies (key : PublicKey) (d : Digest) (message signature : List UInt8) : Bool :=
  let size := key.curve.size
  signature.length = signatureSize key.curve &&
    key.accepts d message (Octets.toNat (signature.take size)) (Octets.toNat (signature.drop size))

end Ecdsa

end OAuthClient
