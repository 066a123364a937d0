import OAuthClient.Signature.Rsa

/-!
# Elliptic curves

The curves `y² = x³ - 3x + b` over prime fields on which signatures are made. Points are kept in
coordinates that need no division: `(x, y, z)` is the point `(x / z², y / z³)`, and the point at
infinity for `z = 0`.

## Main declarations

* `Curve`: the curves; `Curve.parameters` are their numbers.
* `Curve.Point`, `CurveParameters.add`, `CurveParameters.scale`: points, sums and multiples.
-/

namespace OAuthClient

/-- The curves. -/
inductive Curve where
  | p256 | p384 | p521
  deriving DecidableEq, Repr

/-- The numbers of a curve. -/
structure CurveParameters where
  /-- The number of elements of the field. -/
  field : Nat
  /-- The abscissa and ordinate of the base point. -/
  baseX : Nat
  baseY : Nat
  /-- The number of multiples of the base point. -/
  order : Nat

/-- The numbers of a curve. -/
def Curve.parameters : Curve → CurveParameters
  | p256 =>
    { field := 0xffffffff00000001000000000000000000000000ffffffffffffffffffffffff
      baseX := 0x6b17d1f2e12c4247f8bce6e563a440f277037d812deb33a0f4a13945d898c296
      baseY := 0x4fe342e2fe1a7f9b8ee7eb4a7c0f9e162bce33576b315ececbb6406837bf51f5
      order := 0xffffffff00000000ffffffffffffffffbce6faada7179e84f3b9cac2fc632551 }
  | p384 =>
    { field := 0xfffffffffffffffffffffffffffffffffffffffffffffffffffffffffffffffeffffffff0000000000000000ffffffff
      baseX := 0xaa87ca22be8b05378eb1c71ef320ad746e1d3b628ba79b9859f741e082542a385502f25dbf55296c3a545e3872760ab7
      baseY := 0x3617de4a96262c6f5d9e98bf9292dc29f8f41dbd289a147ce9da3113b5f0b8c00a60b1ce1d7e819d7a431d7c90ea0e5f
      order := 0xffffffffffffffffffffffffffffffffffffffffffffffffc7634d81f4372ddf581a0db248b0a77aecec196accc52973 }
  | p521 =>
    { field := 0x1ffffffffffffffffffffffffffffffffffffffffffffffffffffffffffffffffffffffffffffffffffffffffffffffffffffffffffffffffffffffffffffffffff
      baseX := 0x00c6858e06b70404e9cd9e3ecb662395b4429c648139053fb521f828af606b4d3dbaa14b5e77efe75928fe1dc127a2ffa8de3348b3c1856a429bf97e7e31c2e5bd66
      baseY := 0x011839296a789a3bc0045c8a5fb42c7d1bd998f54449579b446817afbd17273e662c97ee72995ef42640c550b9013fad0761353c7086a272c24088be94769fd16650
      order := 0x01fffffffffffffffffffffffffffffffffffffffffffffffffffffffffffffffffa51868783bf2f966b7fcc0148f709a5d03bb5c9b8899c47aebb6fb71e91386409 }

/-- A point. -/
structure Curve.Point where
  x : Nat
  y : Nat
  z : Nat := 1
  deriving DecidableEq, Repr

namespace CurveParameters

open Curve (Point)

/-- The point at infinity. -/
def infinity : Point := ⟨1, 1, 0⟩

/-- The base point. -/
def base (c : CurveParameters) : Point := ⟨c.baseX, c.baseY, 1⟩

/-- The difference in the field. -/
def sub (c : CurveParameters) (a b : Nat) : Nat := (a + (c.field - b % c.field)) % c.field

/-- The product in the field. -/
def mul (c : CurveParameters) (a b : Nat) : Nat := a * b % c.field

/-- The inverse of a nonzero element in a field of `p` elements. -/
def inverse (p a : Nat) : Nat := powMod a (p - 2) p

/-- The sum of a point and itself. -/
def double (c : CurveParameters) (a : Point) : Point :=
  if a.z = 0 || a.y = 0 then infinity
  else
    let yy := c.mul a.y a.y
    let s := c.mul 4 (c.mul a.x yy)
    let zz := c.mul a.z a.z
    let m := c.mul 3 (c.mul (c.sub a.x zz) (a.x + zz))
    let x := c.sub (c.mul m m) (2 * s)
    { x, y := c.sub (c.mul m (c.sub s x)) (c.mul 8 (c.mul yy yy)), z := c.mul 2 (c.mul a.y a.z) }

/-- The sum of two points. -/
def add (c : CurveParameters) (a b : Point) : Point :=
  if a.z = 0 then b
  else if b.z = 0 then a
  else
    let za := c.mul a.z a.z
    let zb := c.mul b.z b.z
    let ua := c.mul a.x zb
    let ub := c.mul b.x za
    let sa := c.mul a.y (c.mul b.z zb)
    let sb := c.mul b.y (c.mul a.z za)
    let h := c.sub ub ua
    let r := c.sub sb sa
    if h = 0 then if r = 0 then c.double a else infinity
    else
      let hh := c.mul h h
      let hhh := c.mul h hh
      let v := c.mul ua hh
      let x := c.sub (c.sub (c.mul r r) hhh) (2 * v)
      { x, y := c.sub (c.mul r (c.sub v x)) (c.mul sa hhh), z := c.mul h (c.mul a.z b.z) }

/-- The multiple of a point by a number of at most `bits` bits. -/
def scaleFrom (c : CurveParameters) : Nat → Nat → Point → Point
  | 0, _, _ => infinity
  | bits + 1, k, a =>
    let rest := scaleFrom c bits (k / 2) (c.double a)
    if k % 2 = 1 then c.add a rest else rest

/-- The multiple of a point. -/
def scale (c : CurveParameters) (k : Nat) (a : Point) : Point := c.scaleFrom (k.log2 + 1) k a

/-- The abscissa of a point that is not at infinity. -/
def abscissa (c : CurveParameters) (a : Point) : Nat :=
  c.mul a.x (inverse c.field (c.mul a.z a.z))

end CurveParameters

end OAuthClient
