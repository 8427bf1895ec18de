import ArkLifecycle.Text.Quoted

/-! The SHA-256 digest of a text, by which an analysis is named.

The message is padded to whole blocks of sixty-four bytes. Each block is extended to
sixty-four words, and every word drives one round over eight words of state.
-/

namespace ArkLifecycle.Digest

/-- The eight words of state that the blocks are folded into. -/
structure State where
  a : UInt32
  b : UInt32
  c : UInt32
  d : UInt32
  e : UInt32
  f : UInt32
  g : UInt32
  h : UInt32
deriving DecidableEq, Repr, Inhabited

/-- (start) is the state before the first block. -/
def start : State :=
  ⟨0x6a09e667, 0xbb67ae85, 0x3c6ef372, 0xa54ff53a,
    0x510e527f, 0x9b05688c, 0x1f83d9ab, 0x5be0cd19⟩

/-- (roundConstants) holds one constant for each of the sixty-four rounds. -/
def roundConstants : List UInt32 :=
  [
    0x428a2f98, 0x71374491, 0xb5c0fbcf, 0xe9b5dba5, 0x3956c25b, 0x59f111f1, 0x923f82a4, 0xab1c5ed5,
    0xd807aa98, 0x12835b01, 0x243185be, 0x550c7dc3, 0x72be5d74, 0x80deb1fe, 0x9bdc06a7, 0xc19bf174,
    0xe49b69c1, 0xefbe4786, 0x0fc19dc6, 0x240ca1cc, 0x2de92c6f, 0x4a7484aa, 0x5cb0a9dc, 0x76f988da,
    0x983e5152, 0xa831c66d, 0xb00327c8, 0xbf597fc7, 0xc6e00bf3, 0xd5a79147, 0x06ca6351, 0x14292967,
    0x27b70a85, 0x2e1b2138, 0x4d2c6dfc, 0x53380d13, 0x650a7354, 0x766a0abb, 0x81c2c92e, 0x92722c85,
    0xa2bfe8a1, 0xa81a664b, 0xc24b8b70, 0xc76c51a3, 0xd192e819, 0xd6990624, 0xf40e3585, 0x106aa070,
    0x19a4c116, 0x1e376c08, 0x2748774c, 0x34b0bcb5, 0x391c0cb3, 0x4ed8aa4a, 0x5b9cca4f, 0x682e6ff3,
    0x748f82ee, 0x78a5636f, 0x84c87814, 0x8cc70208, 0x90befffa, 0xa4506ceb, 0xbef9a3f7, 0xc67178f2
  ]

/-- (rotate x n) turns the bits of `x` by `n` places to the right. -/
def rotate (x : UInt32) (n : UInt32) : UInt32 :=
  (x >>> n) ||| (x <<< (32 - n))

/-- (round state constant word) is one round. -/
def round (state : State) (constant word : UInt32) : State :=
  let s1 := rotate state.e 6 ^^^ rotate state.e 11 ^^^ rotate state.e 25
  let choice := (state.e &&& state.f) ^^^ (~~~state.e &&& state.g)
  let t1 := state.h + s1 + choice + constant + word
  let s0 := rotate state.a 2 ^^^ rotate state.a 13 ^^^ rotate state.a 22
  let majority := (state.a &&& state.b) ^^^ (state.a &&& state.c) ^^^ (state.b &&& state.c)
  ⟨t1 + (s0 + majority), state.a, state.b, state.c, state.d + t1, state.e, state.f, state.g⟩

/-- (wordAt words i) is the word at index `i`, or zero beyond the end. -/
def wordAt (words : Array UInt32) (i : Nat) : UInt32 :=
  words.getD i 0

/-- (extend words count) appends `count` words, each made from four earlier ones. -/
def extend (words : Array UInt32) : Nat → Array UInt32
  | 0 => words
  | count + 1 =>
      let i := words.size
      let w15 := wordAt words (i - 15)
      let w2 := wordAt words (i - 2)
      let s0 := rotate w15 7 ^^^ rotate w15 18 ^^^ (w15 >>> 3)
      let s1 := rotate w2 17 ^^^ rotate w2 19 ^^^ (w2 >>> 10)
      extend (words.push (wordAt words (i - 16) + s0 + wordAt words (i - 7) + s1)) count

/-- (compress state words) folds one block of sixteen words into the state. -/
def compress (state : State) (words : Array UInt32) : State :=
  let schedule := extend words 48
  let last := (roundConstants.zip schedule.toList).foldl (fun s (k, w) => round s k w) state
  ⟨state.a + last.a, state.b + last.b, state.c + last.c, state.d + last.d,
    state.e + last.e, state.f + last.f, state.g + last.g, state.h + last.h⟩

/-- (lengthBytes n) writes `n` as eight bytes, the most significant first. -/
def lengthBytes (n : Nat) : List UInt8 :=
  (List.range 8).map fun i => UInt8.ofNat (n / Nat.pow 2 (8 * (7 - i)))

/-- (padded bytes) is the message, one set bit, zeros, and its length in bits. -/
def padded (bytes : List UInt8) : List UInt8 :=
  let size := bytes.length
  bytes ++ 0x80 :: List.replicate ((119 - size % 64) % 64) 0 ++ lengthBytes (8 * size)

/-- (word bytes) packs bytes into a word, the most significant first. -/
def word (bytes : List UInt8) : UInt32 :=
  bytes.foldl (fun value byte => value * 256 + byte.toUInt32) 0

/-- (chunks size count items) cuts the first `count * size` items into parts of one size. -/
def chunks {α : Type} (size : Nat) : Nat → List α → List (List α)
  | 0, _ => []
  | count + 1, items => items.take size :: chunks size count (items.drop size)

/-- (foldBlocks state count bytes) folds `count` blocks into the state. -/
def foldBlocks (state : State) : Nat → List UInt8 → State
  | 0, _ => state
  | count + 1, bytes =>
      let words := ((chunks 4 16 (bytes.take 64)).map word).toArray
      foldBlocks (compress state words) count (bytes.drop 64)

/-- (words state) lists the words of the state in order. -/
def State.words (state : State) : List UInt32 :=
  [state.a, state.b, state.c, state.d, state.e, state.f, state.g, state.h]

/-- (ofBytes bytes) is the digest of a message in hexadecimal. -/
def ofBytes (bytes : List UInt8) : String :=
  let message := padded bytes
  let state := foldBlocks start (message.length / 64) message
  String.ofList (state.words.flatMap fun w => Text.hexDigits 8 w.toNat)

/-- (ofText s) is the digest of the UTF-8 form of a text. -/
def ofText (s : String) : String :=
  ofBytes s.toUTF8.toList

/-- (shortLength) is how many digits of a digest name an analysis. -/
def shortLength : Nat := 16

/-- (short digest) is the part of a digest that names an analysis. -/
def short (digest : String) : Text :=
  Text.takeText shortLength digest

end ArkLifecycle.Digest
