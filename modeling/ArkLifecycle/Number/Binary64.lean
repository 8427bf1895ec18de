/-! Binary floating-point numbers with 53 bits of precision, kept exactly.

A finite number is a sign, a mantissa and a power of two. Every operation that rounds does so
once, from an exact quotient of natural numbers, to the nearest number of the format; a tie
goes to the even mantissa.
-/

namespace ArkLifecycle

/-- A number of the binary64 format. A finite number stands for `mantissa * 2 ^ exponent` with
its sign; numbers made by `Binary64.ofRatio` use the greatest mantissa below `2 ^ 53`. An undefined
number carries a payload, by which it is told from other ones.
-/
inductive Binary64 where
  | nan (payload : Nat)
  | infinity (negative : Bool)
  | finite (negative : Bool) (mantissa : Nat) (exponent : Int)
deriving DecidableEq, Repr, Inhabited

namespace Binary64

/-- (leastExponent) is the exponent of the smallest positive number. -/
def leastExponent : Int := -1074

/-- (greatestExponent) is the exponent of the largest finite number. -/
def greatestExponent : Int := 971

/-- (zero) is the number zero without a sign. -/
def zero : Binary64 :=
  .finite false 0 leastExponent

/-- (divideHalfEven a b) is `a / b` rounded to the nearest natural number; a half goes to the
even neighbour.
-/
def divideHalfEven (a b : Nat) : Nat :=
  let quotient := a / b
  let rest := a % b
  if 2 * rest < b then
    quotient
  else if b < 2 * rest then
    quotient + 1
  else
    quotient + quotient % 2

/-- (scaled a b e) is `a / b / 2 ^ e` rounded to the nearest natural number. -/
def scaled (a b : Nat) (e : Int) : Nat :=
  if 0 ≤ e then
    divideHalfEven a (b * Nat.pow 2 e.toNat)
  else
    divideHalfEven (a * Nat.pow 2 (-e).toNat) b

/-- (reaches a b e) holds when `2 ^ e ≤ a / b`. -/
def reaches (a b : Nat) (e : Int) : Bool :=
  if 0 ≤ e then
    b * Nat.pow 2 e.toNat ≤ a
  else
    b ≤ a * Nat.pow 2 (-e).toNat

/-- (ofRatio negative a b) is the number nearest to `a / b`, with the given sign. A value beyond
the largest finite number becomes infinite.
-/
def ofRatio (negative : Bool) (a b : Nat) : Binary64 :=
  if a = 0 ∨ b = 0 then
    .finite negative 0 leastExponent
  else
    let top : Int := (a.log2 : Int) - (b.log2 : Int)
    let top := if reaches a b top then top else top - 1
    let exponent := max (top - 52) leastExponent
    let mantissa := scaled a b exponent
    let (mantissa, exponent) :=
      if mantissa = Nat.pow 2 53 then (Nat.pow 2 52, exponent + 1) else (mantissa, exponent)
    if greatestExponent < exponent then
      .infinity negative
    else
      .finite negative mantissa exponent

/-- (ofNat n) is the number nearest to `n`. -/
def ofNat (n : Nat) : Binary64 :=
  ofRatio false n 1

/-- (ofInt n) is the number nearest to `n`. -/
def ofInt (n : Int) : Binary64 :=
  ofRatio (n < 0) n.natAbs 1

/-- (ofDecimal negative digits power) is the number nearest to `digits * 10 ^ power`. Powers
that lie far outside the range of the format are answered without computing them.
-/
def ofDecimal (negative : Bool) (digits : Nat) (power : Int) : Binary64 :=
  if digits = 0 then
    .finite negative 0 leastExponent
  else
    let size : Int := (Nat.toDigits 10 digits).length
    if 310 < size + power then
      .infinity negative
    else if size + power < -330 then
      .finite negative 0 leastExponent
    else if 0 ≤ power then
      ofRatio negative (digits * Nat.pow 10 power.toNat) 1
    else
      ofRatio negative digits (Nat.pow 10 (-power).toNat)

/-- (fraction mantissa exponent) is `mantissa * 2 ^ exponent` as a quotient of natural numbers.
-/
def fraction (mantissa : Nat) (exponent : Int) : Nat × Nat :=
  if 0 ≤ exponent then
    (mantissa * Nat.pow 2 exponent.toNat, 1)
  else
    (mantissa, Nat.pow 2 (-exponent).toNat)

/-- (isZero x) holds of the two zeros. -/
def isZero : Binary64 → Bool
  | .finite _ mantissa _ => mantissa == 0
  | _ => false

/-- (truncate? x) is `x` without its fractional digits, and `none` unless `x` is finite. -/
def truncate? : Binary64 → Option Int
  | .finite negative mantissa exponent =>
      let (a, b) := fraction mantissa exponent
      let whole : Int := (a / b : Nat)
      some (if negative then -whole else whole)
  | _ => none

/-- (isIntegral x) holds when `x` is finite and has no fractional digits. -/
def isIntegral : Binary64 → Bool
  | .finite _ mantissa exponent =>
      let (a, b) := fraction mantissa exponent
      a % b == 0
  | _ => false

/-- (leInt x n) holds when `x ≤ n`. It holds of no integer when `x` is no number. -/
def leInt (x : Binary64) (n : Int) : Bool :=
  match x with
  | .nan _ => false
  | .infinity negative => negative
  | .finite negative mantissa exponent =>
      let (a, b) := fraction mantissa exponent
      let signed : Int := if negative then -(a : Int) else a
      signed ≤ n * b

/-- (ltInt x n) holds when `x < n`. It holds of no integer when `x` is no number. -/
def ltInt (x : Binary64) (n : Int) : Bool :=
  match x with
  | .nan _ => false
  | .infinity negative => negative
  | .finite negative mantissa exponent =>
      let (a, b) := fraction mantissa exponent
      let signed : Int := if negative then -(a : Int) else a
      signed < n * b

/-- (eqInt x n) holds when `x` and the integer `n` are the same number. -/
def eqInt (x : Binary64) (n : Int) : Bool :=
  x.leInt n && !x.ltInt n

/-- (signedFraction negative mantissa exponent) is the value as a quotient with a sign. -/
def signedFraction (negative : Bool) (mantissa : Nat) (exponent : Int) : Int × Nat :=
  let (a, b) := fraction mantissa exponent
  (if negative then -(a : Int) else a, b)

/-- (negate x) is `x` with the other sign. -/
def negate : Binary64 → Binary64
  | .nan payload => .nan payload
  | .infinity negative => .infinity !negative
  | .finite negative mantissa exponent => .finite (!negative) mantissa exponent

/-- (ofSigned zeroSign a b) is the number nearest to `a / b`; the sign of a zero is given. -/
def ofSigned (zeroSign : Bool) (a : Int) (b : Nat) : Binary64 :=
  ofRatio (if a = 0 then zeroSign else a < 0) a.natAbs b

/-- (add x y) is the number nearest to the sum of `x` and `y`. -/
def add : Binary64 → Binary64 → Binary64
  | .nan payload, _ => .nan payload
  | _, .nan payload => .nan payload
  | .infinity n, .infinity m => if n = m then .infinity n else .nan 0
  | .infinity n, .finite .. => .infinity n
  | .finite .., .infinity n => .infinity n
  | .finite n m e, .finite n' m' e' =>
      let (a, b) := signedFraction n m e
      let (c, d) := signedFraction n' m' e'
      ofSigned (n && n') (a * d + c * b) (b * d)

/-- (mul x y) is the number nearest to the product of `x` and `y`. -/
def mul : Binary64 → Binary64 → Binary64
  | .nan payload, _ => .nan payload
  | _, .nan payload => .nan payload
  | .infinity n, .infinity m => .infinity (n != m)
  | .infinity n, .finite m k _ => if k = 0 then .nan 0 else .infinity (n != m)
  | .finite n k _, .infinity m => if k = 0 then .nan 0 else .infinity (n != m)
  | .finite n m e, .finite n' m' e' =>
      let (a, b) := fraction m e
      let (c, d) := fraction m' e'
      ofRatio (n != n') (a * c) (b * d)

/-- (lt x y) holds when `x < y` as numbers. -/
def lt : Binary64 → Binary64 → Bool
  | .nan _, _ => false
  | _, .nan _ => false
  | .infinity true, y => y != .infinity true
  | .infinity false, _ => false
  | .finite .., .infinity negative => !negative
  | .finite n m e, .finite n' m' e' =>
      let (a, b) := signedFraction n m e
      let (c, d) := signedFraction n' m' e'
      a * d < c * b

/-- (isDefined x) holds of every number but the undefined ones. -/
def isDefined : Binary64 → Bool
  | .nan _ => false
  | _ => true

/-- (withPayload payload x) is `x`, which gets a payload when it is undefined. -/
def withPayload (payload : Nat) : Binary64 → Binary64
  | .nan _ => .nan payload
  | x => x

/-- (sameNumber x y) identifies the two zeros, and otherwise compares the numbers themselves.
Undefined numbers are the same only when they have one payload.
-/
def sameNumber (x y : Binary64) : Bool :=
  x == y || (!x.lt y && !y.lt x && x.isDefined && y.isDefined)

end Binary64

end ArkLifecycle
