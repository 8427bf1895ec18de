import ArkLifecycle.Text.Basic

/-! Blank characters and the trimming of text.

A blank is a white-space character of Unicode or one of the separator controls U+001C to
U+001F. Trimming drops blanks at both ends and nothing else.
-/

namespace ArkLifecycle.Text

/-- (isBlank letter) holds of white space, in every script, and of the separator controls. -/
def isBlank (letter : Letter) : Bool :=
  let n := letter.code
  (0x09 ≤ n && n ≤ 0x0d) || (0x1c ≤ n && n ≤ 0x20) || n == 0x85 || n == 0xa0
    || n == 0x1680 || (0x2000 ≤ n && n ≤ 0x200a) || n == 0x2028 || n == 0x2029
    || n == 0x202f || n == 0x205f || n == 0x3000

/-- (trimStart cs) is `cs` without its leading blanks. -/
def trimStart (cs : List Letter) : List Letter :=
  cs.dropWhile isBlank

/-- (trimEnd cs) is `cs` without its trailing blanks. -/
def trimEnd (cs : List Letter) : List Letter :=
  (cs.reverse.dropWhile isBlank).reverse

/-- (trim cs) is `cs` without the blanks at its two ends. -/
def trim (cs : List Letter) : List Letter :=
  trimEnd (trimStart cs)

end ArkLifecycle.Text
