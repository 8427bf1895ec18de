import ArkLifecycle.Text.Basic

/-! Code units of UTF-16. Two units, a leading and a trailing one, make a character. -/

namespace ArkLifecycle.Text

/-- (isLeading n) holds of the code units that begin a pair. -/
def isLeading (n : Nat) : Bool :=
  0xd800 ≤ n && n < 0xdc00

/-- (isTrailing n) holds of the code units that end a pair. -/
def isTrailing (n : Nat) : Bool :=
  0xdc00 ≤ n && n < 0xe000

/-- (ofPair high low) is the character of a pair of code units. -/
def ofPair (high low : Nat) : Char :=
  Char.ofNat (0x10000 + (high - 0xd800) * 0x400 + (low - 0xdc00))

/-- (unitsOf letter) are the one or two code units of a letter. -/
def unitsOf (letter : Letter) : List Nat :=
  let n := letter.code
  if n < 0x10000 then
    [n]
  else
    [0xd800 + (n - 0x10000) / 0x400, 0xdc00 + (n - 0x10000) % 0x400]

end ArkLifecycle.Text
