/-! Bytes written with sixty-four letters.

Four letters write three bytes. Characters that are none of the letters mean nothing, and padding
ends the bytes once the last of them are complete.
-/

namespace ArkLifecycle.Yaml

/-- (sextet? c) is the number that a letter stands for. -/
def sextet? (c : Char) : Option Nat :=
  if c.isUpper then
    some (c.toNat - 0x41)
  else if c.isLower then
    some (c.toNat - 0x61 + 26)
  else if c.isDigit then
    some (c.toNat - 0x30 + 52)
  else if c == '+' then
    some 62
  else if c == '/' then
    some 63
  else
    none

/-- (decodeLetters letter left pads cs) reads bytes. `letter` counts the letters since the last
full three bytes, `left` are the bits that are left over from them, and `pads` counts the signs of
padding since the last letter. Without padding the number of letters must come out even.
-/
def decodeLetters (letter left pads : Nat) : List Char → Option (List Nat)
  | [] => if letter = 0 then some [] else none
  | c :: rest =>
      if c == '=' then
        if letter < 2 then
          decodeLetters letter left pads rest
        else if 4 ≤ letter + pads + 1 then
          some []
        else
          decodeLetters letter left (pads + 1) rest
      else
        match sextet? c, letter with
        | none, _ => decodeLetters letter left pads rest
        | some bits, 0 => decodeLetters 1 bits 0 rest
        | some bits, 1 => (decodeLetters 2 (bits % 16) 0 rest).map ((left * 4 + bits / 16) :: ·)
        | some bits, 2 => (decodeLetters 3 (bits % 4) 0 rest).map ((left * 16 + bits / 4) :: ·)
        | some bits, _ => (decodeLetters 0 0 0 rest).map ((left * 64 + bits) :: ·)

/-- (decodeBytes? cs) are the bytes that the characters `cs` write; all of them must be ASCII. -/
def decodeBytes? (cs : List Char) : Option (List Nat) :=
  if cs.all fun c => c.toNat < 0x80 then decodeLetters 0 0 0 cs else none

end ArkLifecycle.Yaml
