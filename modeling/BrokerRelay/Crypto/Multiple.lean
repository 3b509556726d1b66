/-!
# Multiples of a point

The points of a curve form a group. A multiple is computed from the binary digits of the factor: for
each digit, lowest first, the point is doubled, and it is added where the digit is one.
-/

namespace BrokerRelay.Crypto

/-- A group whose members are written in some form: its sum and its neutral member. -/
structure PointGroup (α : Type) where
  zero : α
  add : α → α → α

namespace PointGroup

variable {α : Type}

/-- Adds to `sum` the multiple of a point by the lowest `digits` binary digits of a factor. -/
def accumulate (g : PointGroup α) : Nat → Nat → α → α → α
  | 0, _, _, sum => sum
  | digits + 1, factor, point, sum =>
    g.accumulate digits (factor / 2) (g.add point point)
      (if factor % 2 = 1 then g.add sum point else sum)

/-- The multiple of a point. -/
def multiple (g : PointGroup α) (factor : Nat) (point : α) : α :=
  g.accumulate (factor.log2 + 1) factor point g.zero

end PointGroup

/-- A power modulo `m`, from the binary digits of the exponent. -/
def powerMod (m : Nat) (base exponent : Nat) : Nat :=
  (PointGroup.mk (1 % m) fun a b => a * b % m).multiple exponent (base % m)

/-- The inverse modulo a prime. -/
def inverseMod (p : Nat) (n : Nat) : Nat := powerMod p n (p - 2)

end BrokerRelay.Crypto
