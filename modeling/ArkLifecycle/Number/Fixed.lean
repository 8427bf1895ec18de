import ArkLifecycle.Number.Shortest

/-! Numbers with a fixed count of decimal places.

The exact binary value is rounded, and a half goes to the even last place.
-/

namespace ArkLifecycle.Binary64

/-- (inPlaces places mantissa exponent) is the magnitude in units of the last decimal place. -/
def inPlaces (places mantissa : Nat) (exponent : Int) : Nat :=
  let (a, b) := fraction mantissa exponent
  divideHalfEven (a * Nat.pow 10 places) b

/-- (roundTo places x) is the number nearest to `x` rounded to `places` decimal places. -/
def roundTo (places : Nat) : Binary64 → Binary64
  | .finite negative mantissa exponent =>
      ofRatio negative (inPlaces places mantissa exponent) (Nat.pow 10 places)
  | x => x

/-- (fixedText places x) writes `x` with exactly `places` decimal places, at least one. -/
def fixedText (places : Nat) : Binary64 → String
  | .nan _ => "nan"
  | .infinity negative => if negative then "-inf" else "inf"
  | .finite negative mantissa exponent =>
      let units := inPlaces places mantissa exponent
      let whole := Nat.toDigits 10 (units / Nat.pow 10 places)
      let part := Nat.toDigits 10 (units % Nat.pow 10 places)
      String.ofList <|
        (if negative then ['-'] else []) ++ whole ++ '.' :: zeros (places - part.length) ++ part

end ArkLifecycle.Binary64
