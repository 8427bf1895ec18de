import ArkLifecycle.Text.Blank

/-! Cutting a text into lines and words, without losing anything. -/

namespace ArkLifecycle.Text

/-- (endsLine letter) holds of the letters that end a line. -/
def endsLine (letter : Letter) : Bool :=
  let n := letter.code
  (0x0a ≤ n && n ≤ 0x0d) || (0x1c ≤ n && n ≤ 0x1e) || n == 0x85 || n == 0x2028 || n == 0x2029

/-- (cutBetween together s) cuts a text between any two letters that do not stay together. -/
def cutBetween (together : Letter → Letter → Bool) (s : Text) : List Text :=
  (s.toList.splitBy together).map fun letters => (⟨letters⟩ : Text)

/-- (lines s) are the lines of a text, each with what ends it. -/
def lines (s : Text) : List Text :=
  s.cutBetween fun a b => !endsLine a || (a == '\r' && b == '\n')

/-- (words s) are the words of a text, each with the blanks after it. -/
def words (s : Text) : List Text :=
  s.cutBetween fun a b => !isBlank a || isBlank b

end ArkLifecycle.Text
