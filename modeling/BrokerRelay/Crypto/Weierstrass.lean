import BrokerRelay.Bytes
import BrokerRelay.Crypto.Multiple
/-!
# Prime-order curves

The curves P-256 and P-384: the points with `y² = x³ - 3x + b` over a prime field. A point is held by
three projective coordinates, so that one formula without a division adds any two of them, also
equal ones and the neutral one; the order of these curves is odd, which is why it has no exceptions.
-/

namespace BrokerRelay.Crypto

/-- A curve: the field, the constant of its equation, its order and its base point. -/
structure Weierstrass where
  field : Nat
  constant : Nat
  order : Nat
  baseX : Nat
  baseY : Nat
  size : Nat
deriving DecidableEq, Repr

namespace Weierstrass

/-- A point; `z` is zero for the neutral one alone. -/
structure Point where
  x : Int
  y : Int
  z : Int
deriving DecidableEq, Repr

/-- The sum of two points. -/
def add (c : Weierstrass) (p q : Point) : Point :=
  let a : Int := -3
  let b : Int := 3 * c.constant
  let xx := p.x * q.x
  let yy := p.y * q.y
  let zz := p.z * q.z
  let xy := p.x * q.y + q.x * p.y
  let xz := p.x * q.z + q.x * p.z
  let yz := p.y * q.z + q.y * p.z
  let s := a * xz + b * zz
  let t := a * xx + b * xz - a * a * zz
  let u := 3 * xx + a * zz
  ⟨(xy * (yy - s) - yz * t) % c.field, (u * t + (yy + s) * (yy - s)) % c.field,
    (yz * (yy + s) + xy * u) % c.field⟩

/-- The group of the points. -/
def group (c : Weierstrass) : PointGroup Point := ⟨⟨0, 1, 0⟩, c.add⟩

/-- The base point. -/
def base (c : Weierstrass) : Point := ⟨c.baseX, c.baseY, 1⟩

/-- The uncompressed form of a point: both coordinates after a mark. -/
def encode (c : Weierstrass) (p : Point) : Bytes :=
  let w := inverseMod c.field p.z.toNat
  4 :: Bytes.ofNatBE c.size (p.x.toNat * w % c.field)
    ++ Bytes.ofNatBE c.size (p.y.toNat * w % c.field)

/-- The public point of a private number, in uncompressed form. -/
def publicKey (c : Weierstrass) (secret : Nat) : Bytes := c.encode (c.group.multiple secret c.base)

end Weierstrass

/-- The curve P-256. -/
def p256 : Weierstrass where
  field := 0xffffffff00000001000000000000000000000000ffffffffffffffffffffffff
  constant := 0x5ac635d8aa3a93e7b3ebbd55769886bc651d06b0cc53b0f63bce3c3e27d2604b
  order := 0xffffffff00000000ffffffffffffffffbce6faada7179e84f3b9cac2fc632551
  baseX := 0x6b17d1f2e12c4247f8bce6e563a440f277037d812deb33a0f4a13945d898c296
  baseY := 0x4fe342e2fe1a7f9b8ee7eb4a7c0f9e162bce33576b315ececbb6406837bf51f5
  size := 32

/-- The curve P-384. -/
def p384 : Weierstrass where
  field := 0xfffffffffffffffffffffffffffffffffffffffffffffffffffffffffffffffeffffffff0000000000000000ffffffff
  constant := 0xb3312fa7e23ee7e4988e056be3f82d19181d9c6efe8141120314088f5013875ac656398d8a2ed19d2a85c8edd3ec2aef
  order := 0xffffffffffffffffffffffffffffffffffffffffffffffffc7634d81f4372ddf581a0db248b0a77aecec196accc52973
  baseX := 0xaa87ca22be8b05378eb1c71ef320ad746e1d3b628ba79b9859f741e082542a385502f25dbf55296c3a545e3872760ab7
  baseY := 0x3617de4a96262c6f5d9e98bf9292dc29f8f41dbd289a147ce9da3113b5f0b8c00a60b1ce1d7e819d7a431d7c90ea0e5f
  size := 48

end BrokerRelay.Crypto
