import ArkLifecycle.Number.Binary64

/-! The shortest decimal that reads back as a given binary number.

A decimal reads back as `x` when it lies in the interval of values that round to `x`. For one
digit, two digits and so on, the two neighbours of `x` on the decimal grid of that length are
tried; the first grid with a neighbour in the interval gives the text, and of two such
neighbours the nearer one is taken.
-/

namespace ArkLifecycle.Binary64

/-- (compareScaled a k b) compares `a * 10 ^ k` with `b`, for a power of ten of either sign. -/
def compareScaled (a : Nat) (k : Int) (b : Nat) : Ordering :=
  if 0 ≤ k then
    compare (a * Nat.pow 10 k.toNat) b
  else
    compare a (b * Nat.pow 10 (-k).toNat)

/-- (decimalExponent a b) is the exponent of the leading decimal digit of `a / b`. -/
def decimalExponent (a b : Nat) : Int :=
  if b ≤ a then
    ((Nat.toDigits 10 (a / b)).length : Int) - 1
  else
    let size := (Nat.toDigits 10 (b / a)).length
    if b ≤ a * Nat.pow 10 (size - 1) then -((size - 1 : Nat) : Int) else -(size : Int)

/-- (floorOnGrid a b k) is the greatest natural number whose product with `10 ^ k` is at most
`a / b`.
-/
def floorOnGrid (a b : Nat) (k : Int) : Nat :=
  if 0 ≤ k then
    a / (b * Nat.pow 10 k.toNat)
  else
    a * Nat.pow 10 (-k).toNat / b

/-- The values that round to one number: all between `low / unit` and `high / unit`, with the
two ends when `closed` holds. The number itself is `middle / unit`.
-/
structure Neighbourhood where
  low : Nat
  middle : Nat
  high : Nat
  unit : Nat
  closed : Bool

/-- (neighbourhood mantissa exponent) is the interval around a positive number. Below a power of
two the neighbouring numbers are twice as dense.
-/
def neighbourhood (mantissa : Nat) (exponent : Int) : Neighbourhood :=
  let below := if mantissa = Nat.pow 2 52 ∧ leastExponent < exponent then 1 else 2
  let (factor, unit) := fraction 1 (exponent - 2)
  { low := (4 * mantissa - below) * factor
    middle := 4 * mantissa * factor
    high := (4 * mantissa + 2) * factor
    unit := unit
    closed := mantissa % 2 == 0 }

/-- (holds range c k) holds when `c * 10 ^ k` lies in the interval. -/
def Neighbourhood.holds (range : Neighbourhood) (c : Nat) (k : Int) : Bool :=
  let low := compareScaled (c * range.unit) k range.low
  let high := compareScaled (c * range.unit) k range.high
  (low == .gt || (range.closed && low == .eq)) && (high == .lt || (range.closed && high == .eq))

/-- (upperIsNearer range c k) holds when `(c + 1) * 10 ^ k` is nearer to the number than
`c * 10 ^ k`; at equal distance the even one of the two counts as nearer.
-/
def Neighbourhood.upperIsNearer (range : Neighbourhood) (c : Nat) (k : Int) : Bool :=
  match compareScaled ((2 * c + 1) * range.unit) k (2 * range.middle) with
  | .lt => true
  | .gt => false
  | .eq => c % 2 == 1

/-- (onGrid? range k) is the grid point `c * 10 ^ k` next to the number that reads back. -/
def Neighbourhood.onGrid? (range : Neighbourhood) (k : Int) : Option Nat :=
  let c := floorOnGrid range.middle range.unit k
  match range.holds c k, range.holds (c + 1) k with
  | true, true => some (if range.upperIsNearer c k then c + 1 else c)
  | true, false => some c
  | false, true => some (c + 1)
  | false, false => none

/-- (search range top fuel count) tries the grids with `count`, `count + 1`, … digits. -/
def Neighbourhood.search (range : Neighbourhood) (top : Int) : Nat → Nat → Nat × Int
  | 0, count => (floorOnGrid range.middle range.unit (top - count + 1), top - count + 1)
  | fuel + 1, count =>
      let k := top - count + 1
      match range.onGrid? k with
      | some c => (c, k)
      | none => range.search top fuel (count + 1)

/-- (dropZeros fuel c k) moves the trailing zeros of `c` into the power of ten `k`. -/
def dropZeros : Nat → Nat → Int → Nat × Int
  | 0, c, k => (c, k)
  | fuel + 1, c, k => if c ≠ 0 ∧ c % 10 = 0 then dropZeros fuel (c / 10) (k + 1) else (c, k)

/-- (shortestDecimal mantissa exponent) is the shortest decimal `c * 10 ^ k` that reads back as
the positive number, where `c` has no trailing zero. Seventeen digits always suffice.
-/
def shortestDecimal (mantissa : Nat) (exponent : Int) : Nat × Int :=
  let range := neighbourhood mantissa exponent
  let top := decimalExponent range.middle range.unit
  let (c, k) := range.search top 17 1
  dropZeros 20 c k

/-- (positionalFrom) is the least leading exponent that is written without an exponent. -/
def positionalFrom : Int := -4

/-- (positionalBelow) is the leading exponent from which on an exponent is written. -/
def positionalBelow : Int := 16

/-- (zeros n) is a run of `n` digits zero. -/
def zeros (n : Nat) : List Char :=
  List.replicate n '0'

/-- (exponentText e) writes an exponent with its sign and at least two digits. -/
def exponentText (e : Int) : List Char :=
  let digits := Nat.toDigits 10 e.natAbs
  (if e < 0 then '-' else '+') :: (zeros (2 - digits.length) ++ digits)

/-- (decimalText c k) writes the positive decimal `c * 10 ^ k`. -/
def decimalText (c : Nat) (k : Int) : List Char :=
  let digits := Nat.toDigits 10 c
  let lead : Int := k + digits.length - 1
  if positionalFrom ≤ lead ∧ lead < positionalBelow then
    if 0 ≤ k then
      digits ++ zeros k.toNat ++ ['.', '0']
    else if 0 ≤ lead then
      let whole := lead.toNat + 1
      digits.take whole ++ '.' :: digits.drop whole
    else
      ['0', '.'] ++ zeros ((-lead).toNat - 1) ++ digits
  else
    match digits with
    | [] => []
    | [digit] => digit :: 'e' :: exponentText lead
    | digit :: rest => digit :: '.' :: rest ++ 'e' :: exponentText lead

/-- (magnitudeText mantissa exponent) writes a finite number without its sign. -/
def magnitudeText (mantissa : Nat) (exponent : Int) : List Char :=
  if mantissa = 0 then
    ['0', '.', '0']
  else
    let (c, k) := shortestDecimal mantissa exponent
    decimalText c k

/-- (shortestText x) writes `x` with the fewest digits that read back as `x`. -/
def shortestText : Binary64 → String
  | .nan _ => "nan"
  | .infinity negative => if negative then "-inf" else "inf"
  | .finite negative mantissa exponent =>
      String.ofList ((if negative then ['-'] else []) ++ magnitudeText mantissa exponent)

end ArkLifecycle.Binary64
