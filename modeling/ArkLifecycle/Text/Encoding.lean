import ArkLifecycle.Text.Basic

/-! Texts as bytes.

UTF-8 writes every character and no half of a pair, so a text can be written unless a half stands
in it. The names of files are written more freely: each byte that is no UTF-8 has a trailing half
that stands for it, and such a half is written as that byte.
-/

namespace ArkLifecycle.Text

/-- Where a text cannot be written: the first letter that is in the way, and the places of the
first and the last one in a row.
-/
structure Gap where
  letter : Letter
  first : Nat
  last : Nat
deriving DecidableEq, Repr, Inhabited

/-- (isHalf letter) holds of the halves of pairs. -/
def isHalf : Letter → Bool
  | .char _ => false
  | .half _ => true

/-- (byteFor? letter) is the byte that a half stands for in the names of files. -/
def byteFor? (letter : Letter) : Option UInt8 :=
  match letter with
  | .char _ => none
  | .half _ =>
      if 0xdc80 ≤ letter.code ∧ letter.code ≤ 0xdcff then
        some (UInt8.ofNat (letter.code - 0xdc00))
      else
        none

/-- (gapFrom allowed place letters) is the first gap among letters that begin at a place; the
letters that are allowed are none.
-/
def gapFrom (allowed : Letter → Bool) (place : Nat) : List Letter → Option Gap
  | [] => none
  | letter :: rest =>
      if allowed letter then
        gapFrom allowed (place + 1) rest
      else
        some ⟨letter, place, place + (rest.takeWhile isHalf).length⟩

/-- (gap? s) is where a text cannot be written in UTF-8. -/
def gap? (s : Text) : Option Gap :=
  gapFrom (!isHalf ·) 0 s.toList

/-- (nameGap? s) is where a text cannot be written as the name of a file. -/
def nameGap? (s : Text) : Option Gap :=
  gapFrom (fun letter => !isHalf letter || (byteFor? letter).isSome) 0 s.toList

-----------------------------------------------------------------------------------------
-- Bytes

/-- (bytesOf letter) are the bytes of a letter in the name of a file. -/
def bytesOf (letter : Letter) : List UInt8 :=
  match letter with
  | .char value => (String.singleton value).toUTF8.toList
  | .half _ => (byteFor? letter).toList

/-- (nameBytes s) are the bytes of the name of a file. -/
def nameBytes (s : Text) : List UInt8 :=
  s.toList.flatMap bytesOf

/-- (continuation? byte) is the part of a code that a byte adds to the ones before it. -/
def continuation? (byte : UInt8) : Option Nat :=
  if byte.toNat / 0x40 = 2 then some (byte.toNat % 0x40) else none

/-- (isCode width n) holds when `n` is the code of a character that takes `width` bytes and no
fewer.
-/
def isCode (width n : Nat) : Bool :=
  match width with
  | 2 => 0x80 ≤ n
  | 3 => 0x800 ≤ n && !(0xd800 ≤ n && n < 0xe000)
  | _ => 0x10000 ≤ n && n < 0x110000

/-- (longChar? width lead bytes) reads a character of `width` bytes after its first one. -/
def longChar? (width lead : Nat) (bytes : List UInt8) : Option Char := do
  let parts ← (bytes.take (width - 1)).mapM continuation?
  let n := parts.foldl (fun code part => 0x40 * code + part) lead
  if parts.length + 1 = width ∧ isCode width n then some (Char.ofNat n) else none

/-- (charAt? byte rest) is the character that begins with a byte, and its number of bytes. -/
def charAt? (byte : UInt8) (rest : List UInt8) : Option (Char × Nat) :=
  let n := byte.toNat
  if n < 0x80 then
    some (Char.ofNat n, 1)
  else if 0xc0 ≤ n ∧ n < 0xe0 then
    (longChar? 2 (n % 0x20) rest).map (·, 2)
  else if 0xe0 ≤ n ∧ n < 0xf0 then
    (longChar? 3 (n % 0x10) rest).map (·, 3)
  else if 0xf0 ≤ n ∧ n < 0xf8 then
    (longChar? 4 (n % 0x08) rest).map (·, 4)
  else
    none

/-- (readName skip bytes) reads bytes, after skipping some, as the name of a file: characters where
they are UTF-8, and halves elsewhere.
-/
def readName : Nat → List UInt8 → List Letter
  | _, [] => []
  | skip + 1, _ :: rest => readName skip rest
  | 0, byte :: rest =>
      match charAt? byte rest with
      | some (c, width) => .char c :: readName (width - 1) rest
      | none => .ofCode (0xdc00 + byte.toNat) :: readName 0 rest

/-- (asName s) is the name under which a file stands when it is asked for by `s`. -/
def asName (s : Text) : Text :=
  ⟨readName 0 s.nameBytes⟩

end ArkLifecycle.Text
