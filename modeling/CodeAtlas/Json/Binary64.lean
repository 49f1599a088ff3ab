import CodeAtlas.Text.Basic

/-!
# Binary floating-point numbers

The finite numbers of the 64-bit binary format, as a sign, a mantissa below `2 ^ 53` and an
exponent. `round` gives the number nearest to a quotient, a tie going to the even mantissa, and
`shortest` the fewest decimal digits that read back as the number.
-/

namespace CodeAtlas

/-- The number `± mantissa * 2 ^ exponent`. -/
structure Binary64 where
  /-- Whether the sign is minus; zero has a sign too. -/
  negative : Bool
  /-- The mantissa, below `2 ^ 53`. -/
  mantissa : Nat
  /-- The exponent, from -1074 to 971. -/
  exponent : Int
  deriving DecidableEq, Repr

namespace Binary64

/-- A number `digits * 10 ^ scale`. -/
structure Decimal where
  /-- The significant digits, read as a number. -/
  digits : Nat
  /-- The power of ten that they count. -/
  scale : Int
  deriving DecidableEq, Repr

/-- The quotient rounded to the nearest whole number, a tie going to the even one. -/
def divRound (num den : Nat) : Nat :=
  let q := num / den
  let twice := 2 * (num % den)
  if twice < den then q
  else if den < twice then q + 1
  else if q % 2 = 0 then q else q + 1

/-- The whole number `m` with `num / den * 2 ^ (-e)` nearest to `m`. -/
def scaled (num den : Nat) (e : Int) : Nat :=
  divRound (num * Nat.pow 2 (-e).toNat) (den * Nat.pow 2 e.toNat)

/-- The exponent with which a quotient is written, so that its mantissa fills 53 bits unless
the exponent is already the least. -/
def exponentFor (num den : Nat) : Int :=
  let k : Int := (Nat.log2 num : Int) - (Nat.log2 den : Int) - 52
  let k := if num * Nat.pow 2 (-k).toNat < den * Nat.pow 2 k.toNat * Nat.pow 2 52 then k - 1 else k
  max k (-1074)

/-- The number nearest to `num / den`, with the given sign; `none` when it is too large. -/
def round (negative : Bool) (num den : Nat) : Option Binary64 :=
  if num = 0 then some ⟨negative, 0, -1074⟩
  else
    let e := exponentFor num den
    let m := scaled num den e
    let (m, e) := if m = Nat.pow 2 53 then (Nat.pow 2 52, e + 1) else (m, e)
    if e ≤ 971 then some ⟨negative, m, e⟩ else none

/-- The number as a quotient of whole numbers, without its sign. -/
def quotient (x : Binary64) : Nat × Nat :=
  (x.mantissa * Nat.pow 2 x.exponent.toNat, Nat.pow 2 (-x.exponent).toNat)

/-- The product of two numbers, rounded. -/
def mul (x y : Binary64) : Option Binary64 :=
  let (a, b) := x.quotient
  let (c, d) := y.quotient
  round (x.negative != y.negative) (a * c) (b * d)

/-- The quotient of two numbers, the second not zero, rounded. -/
def div (x y : Binary64) : Option Binary64 :=
  let (a, b) := x.quotient
  let (c, d) := y.quotient
  round (x.negative != y.negative) (a * d) (b * c)

/-- The number nearest to `10 ^ n`. -/
def tenTo (n : Nat) : Option Binary64 := round false (Nat.pow 10 n) 1

/-- A significand scaled by a power of ten: the significand is rounded first, then multiplied
or divided by rounded powers of ten, at most `10 ^ 308` at a time. Each step rounds. -/
def ofScaled (fuel : Nat) (x : Binary64) (scale : Int) : Option Binary64 :=
  match fuel with
  | 0 => none
  | fuel + 1 =>
    if scale.natAbs ≤ 308 then do
      let p ← tenTo scale.natAbs
      if 0 ≤ scale then mul x p else div x p
    else if x.mantissa = 0 then some x
    else if 0 ≤ scale then none
    else do
      let p ← tenTo 308
      let y ← div x p
      ofScaled fuel y (scale + 308)

/-- The number that a decimal reads as; `none` when it is too large. -/
def ofDecimal (negative : Bool) (d : Decimal) : Option Binary64 := do
  let x ← round false d.digits 1
  let y ← ofScaled 4 x (max d.scale (-900))
  some { y with negative := negative }

/-! ### The shortest digits -/

/-- Whether `c * 10 ^ g` lies in the interval of numbers that round to `x`. The ends belong to
it when the mantissa is even. -/
def roundsTo (x : Binary64) (c : Nat) (g : Int) : Bool :=
  let unit := Nat.pow 2 x.exponent.toNat * Nat.pow 10 (-g).toNat
  let value := 4 * x.mantissa * unit
  let candidate := 4 * c * Nat.pow 10 g.toNat * Nat.pow 2 (-x.exponent).toNat
  let above := 2 * unit
  let below := if x.mantissa = Nat.pow 2 52 ∧ x.exponent ≠ -1074 then unit else 2 * unit
  if x.mantissa % 2 = 0 then value ≤ candidate + below && candidate ≤ value + above
  else decide (value < candidate + below) && decide (candidate < value + above)

/-- The whole number below `x / 10 ^ g`, with the remainder and the divisor. -/
def gridBelow (x : Binary64) (g : Int) : Nat × Nat × Nat :=
  let (a, b) := x.quotient
  let num := a * Nat.pow 10 (-g).toNat
  let den := b * Nat.pow 10 g.toNat
  (num / den, num % den, den)

/-- The neighbour of `x` on the grid of multiples of `10 ^ g` that rounds to `x`, the nearer
one if both do, and of two equally near the even one. -/
def onGrid? (x : Binary64) (g : Int) : Option Decimal :=
  let (d, r, den) := gridBelow x g
  match roundsTo x d g && d != 0, roundsTo x (d + 1) g with
  | false, false => none
  | true, false => some ⟨d, g⟩
  | false, true => some ⟨d + 1, g⟩
  | true, true =>
    if 2 * r < den then some ⟨d, g⟩
    else if den < 2 * r then some ⟨d + 1, g⟩
    else if d % 2 = 0 then some ⟨d, g⟩ else some ⟨d + 1, g⟩

/-- The first grid that has a neighbour, from the coarse ones to the fine ones. -/
def search (x : Binary64) : Nat → Int → Decimal
  | 0, g => ⟨(gridBelow x g).1, g⟩
  | n + 1, g =>
    match onGrid? x g with
    | some d => d
    | none => search x n (g - 1)

/-- The digits without trailing zeros. -/
def dropZeros : Nat → Decimal → Decimal
  | 0, d => d
  | n + 1, d =>
    if d.digits ≠ 0 ∧ d.digits % 10 = 0 then dropZeros n ⟨d.digits / 10, d.scale + 1⟩ else d

/-- The number of decimal digits of the whole part. -/
def wholeDigits (x : Binary64) : Nat :=
  let (a, b) := x.quotient
  (Nat.toDigits 10 (a / b)).length

/-- The fewest digits that read back as the number; zero has the one digit 0. -/
def shortest (x : Binary64) : Decimal :=
  if x.mantissa = 0 then ⟨0, 0⟩
  else
    let (a, b) := x.quotient
    let start : Int :=
      if b ≤ a then (wholeDigits x : Int)
      else -((Nat.toDigits 10 (b / a)).length : Int) + 1
    dropZeros 20 (search x 20 start)

/-- The text with an exponent outside `10 ^ (-5)` to `10 ^ 16`, as structured data writes it. -/
def render (x : Binary64) : Text :=
  let d := x.shortest
  let ds := Text.ofNat d.digits
  let point : Int := ds.length + d.scale
  let body :=
    if x.mantissa = 0 then "0.0".toList
    else if 0 ≤ d.scale ∧ point ≤ 16 then ds ++ List.replicate d.scale.toNat '0' ++ ".0".toList
    else if 0 < point ∧ point ≤ 16 then ds.take point.toNat ++ '.' :: ds.drop point.toNat
    else if -5 < point ∧ point ≤ 0 then "0.".toList ++ List.replicate (-point).toNat '0' ++ ds
    else
      match ds with
      | [] => []
      | [c] => c :: 'e' :: Text.ofInt (point - 1)
      | c :: cs => c :: '.' :: cs ++ 'e' :: Text.ofInt (point - 1)
  if x.negative then '-' :: body else body

end Binary64

end CodeAtlas
