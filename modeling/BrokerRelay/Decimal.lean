/-!
# Decimal numbers in 64 binary digits

Reads a decimal number as the nearest double-precision number, a tie going to the even neighbour, and
writes such a number with the fewest decimal digits that read back to it, positionally and with at
least one decimal. All arithmetic is exact, on natural numbers.
-/

namespace BrokerRelay

/-- A finite double-precision number: `mantissa * 2 ^ exponent`, with a mantissa below `2 ^ 53`. -/
structure Double where
  negative : Bool
  mantissa : Nat
  exponent : Int
deriving DecidableEq, Repr

namespace Double

/-- The least exponent of a double. -/
def minExponent : Int := -1074

/-- The greatest exponent of a double with a full mantissa. -/
def maxExponent : Int := 971

/-- A fraction `(num, den)` times `base ^ e`. -/
def scaled (base : Nat) (e : Int) (x : Nat × Nat) : Nat × Nat :=
  if 0 ≤ e then (x.1 * Nat.pow base e.toNat, x.2) else (x.1, x.2 * Nat.pow base (-e).toNat)

/-- The whole number nearest to `num / den`; a half goes to the even neighbour. -/
def roundHalfEven (num den : Nat) : Nat :=
  let q := num / den
  let r := num % den
  if 2 * r < den then q
  else if den < 2 * r then q + 1
  else if q % 2 == 0 then q else q + 1

/-- The double nearest to `digits * 10 ^ e`, unless it is too large. -/
def ofDecimal (negative : Bool) (digits : Nat) (e : Int) : Option Double :=
  let size : Int := (Nat.toDigits 10 digits).length + e
  if digits == 0 || size < -330 then some ⟨negative, 0, minExponent⟩
  else if 310 < size then none
  else
    let (num, den) := scaled 10 e (digits, 1)
    let guess : Int := (Nat.log2 num : Int) - Nat.log2 den - 52
    let (n, d) := scaled 2 (-guess) (num, den)
    let q := max minExponent (if n / d < Nat.pow 2 52 then guess - 1 else guess)
    let (n, d) := scaled 2 (-q) (num, den)
    let m := roundHalfEven n d
    let (m, q) := if m == Nat.pow 2 53 then (Nat.pow 2 52, q + 1) else (m, q)
    if maxExponent < q then none else some ⟨negative, m, q⟩

/-! ## Reading -/

/-- The value of a list of decimal digits. -/
def digitsValue (ds : List Char) : Nat := ds.foldl (fun n d => n * 10 + (d.toNat - 48)) 0

/-- Reads digits with an optional point and an optional exponent. -/
def parseUnsigned? (negative : Bool) (cs : List Char) : Option Double := do
  let whole := cs.takeWhile Char.isDigit
  let rest := cs.dropWhile Char.isDigit
  let (part, rest) :=
    match rest with
    | '.' :: r => (r.takeWhile Char.isDigit, r.dropWhile Char.isDigit)
    | _ => ([], rest)
  guard (!(whole.isEmpty && part.isEmpty))
  let e : Int ←
    match rest with
    | [] => some 0
    | c :: r =>
      if c == 'e' || c == 'E' then
        let (minus, ds) :=
          match r with
          | '-' :: ds => (true, ds)
          | '+' :: ds => (false, ds)
          | _ => (false, r)
        if ds.isEmpty || !ds.all Char.isDigit then none
        else
          let n : Int := digitsValue ds
          some (if minus then -n else n)
      else none
  ofDecimal negative (digitsValue (whole ++ part)) (e - part.length)

/-- Reads a decimal number with an optional sign. -/
def parse? : List Char → Option Double
  | '-' :: cs => parseUnsigned? true cs
  | '+' :: cs => parseUnsigned? false cs
  | cs => parseUnsigned? false cs

/-! ## Writing -/

/-- The value of a positive double as a fraction. -/
def fraction (x : Double) : Nat × Nat := scaled 2 x.exponent (x.mantissa, 1)

/-- The count of zeros between the point and the first digit of `num / den < 1`. -/
def leadingZeros (den : Nat) : Nat → Nat → Nat
  | 0, _ => 0
  | fuel + 1, num => if den ≤ num * 10 then 0 else leadingZeros den fuel (num * 10) + 1

/-- The power of ten of the first digit. -/
def decimalExponent (x : Double) : Int :=
  let (num, den) := x.fraction
  if den ≤ num then ((Nat.toDigits 10 (num / den)).length : Int) - 1
  else -((leadingZeros den 400 num : Int) + 1)

/-- The fractions between which a decimal reads back as `x`. The gap below a power of two is half
as wide. -/
def bounds (x : Double) : (Nat × Nat) × (Nat × Nat) :=
  let below := if x.mantissa == Nat.pow 2 52 && minExponent < x.exponent then 1 else 2
  (scaled 2 (x.exponent - 2) (4 * x.mantissa - below, 1),
   scaled 2 (x.exponent - 2) (4 * x.mantissa + 2, 1))

/-- The decimal `c * 10 ^ s` reads back as `x`. -/
def readsBack (x : Double) (s : Int) (c : Nat) : Bool :=
  let (n, d) := scaled 10 s (c, 1)
  let ((ln, ld), (hn, hd)) := x.bounds
  if x.mantissa % 2 == 0 then ln * d ≤ n * ld && n * hd ≤ hn * d
  else ln * d < n * ld && n * hd < hn * d

/-- The shortest digits that read back as `x`, from a grid of `count` digits on: the digits and the
power of ten of the last one. -/
def shortestFrom (x : Double) (e : Int) : Nat → Nat → Nat × Int
  | 0, _ => (0, 0)
  | fuel + 1, count =>
    let s := e - count + 1
    let (n, d) := scaled 10 (-s) x.fraction
    let low := n / d
    let r := n % d
    let nearer := if 2 * r < d then low else if d < 2 * r then low + 1
      else if low % 2 == 0 then low else low + 1
    let other := if nearer == low then low + 1 else low
    if x.readsBack s nearer then (nearer, s)
    else if x.readsBack s other then (other, s)
    else shortestFrom x e fuel (count + 1)

/-- The shortest digits that read back as `x` and the power of ten of the last one. A grid point just
above `x` may be the next power of ten, which needs one digit less. -/
def shortest (x : Double) : Nat × Int :=
  let (c, s) := x.shortestFrom x.decimalExponent 18 1
  if c % 10 == 0 then (c / 10, s + 1) else (c, s)

/-- The positional form with at least one decimal. -/
def text (x : Double) : String :=
  let sign := if x.negative then "-" else ""
  if x.mantissa == 0 then sign ++ "0.0"
  else
    let (c, s) := x.shortest
    let ds := Nat.toDigits 10 c
    let whole :=
      if 0 ≤ s then ds ++ List.replicate s.toNat '0' else ds.take (ds.length - (-s).toNat)
    let part :=
      if 0 ≤ s then ['0']
      else List.replicate ((-s).toNat - ds.length) '0' ++ ds.drop (ds.length - (-s).toNat)
    sign ++ String.ofList (if whole.isEmpty then ['0'] else whole) ++ "." ++ String.ofList part

end Double

end BrokerRelay
