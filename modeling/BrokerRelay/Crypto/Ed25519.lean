import BrokerRelay.Crypto.Multiple
import BrokerRelay.Crypto.Sha512
/-!
# Ed25519 keys

The public key of a seed: the digest of the seed gives a factor, the base point of the curve
`y² - x² = 1 + d x² y²` times that factor is the public point, and its written form is `y` with the
lowest bit of `x` above it. Projective coordinates make the sum of any two points one formula.
-/

namespace BrokerRelay.Crypto.Ed25519

/-- The size of the field. -/
def field : Nat := Nat.pow 2 255 - 19

/-- The constant of the curve's equation. -/
def d : Nat := (field - 121665) * inverseMod field 121666 % field

/-- A point. -/
structure Point where
  x : Int
  y : Int
  z : Int
deriving DecidableEq, Repr

/-- The sum of two points. -/
def add (p q : Point) : Point :=
  let a := p.z * q.z
  let b := a * a
  let xx := p.x * q.x
  let yy := p.y * q.y
  let e := d * xx * yy
  let f := b - e
  let g := b + e
  ⟨a * f * ((p.x + p.y) * (q.x + q.y) - xx - yy) % field, a * g * (yy + xx) % field,
    f * g % field⟩

/-- The group of the points. -/
def group : PointGroup Point := ⟨⟨0, 1, 1⟩, add⟩

/-- The base point. -/
def base : Point where
  x := 0x216936d3cd6e53fec0a4e231fdd6dc5c692cc7609525a7b2c9562d608f25d51a
  y := 0x6666666666666666666666666666666666666666666666666666666666666658
  z := 1

/-- The written form of a point. -/
def encode (p : Point) : Bytes :=
  let w := inverseMod field p.z.toNat
  let x := p.x.toNat * w % field
  let y := p.y.toNat * w % field
  Bytes.ofNatLE 32 (y + x % 2 * Nat.pow 2 255)

/-- The factor of a seed: half of its digest, made a multiple of eight of full length. -/
def secretFactor (seed : Bytes) : Nat :=
  let n := Bytes.toNatLE ((Sha512.digest seed).take 32)
  n % Nat.pow 2 254 / 8 * 8 + Nat.pow 2 254

/-- The public key of a seed. -/
def publicKey (seed : Bytes) : Bytes := encode (group.multiple (secretFactor seed) base)

end BrokerRelay.Crypto.Ed25519
