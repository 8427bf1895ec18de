import ArkLifecycle.Fault

/-! Writing piece by piece.

A text is written to a file as one piece or as several. A piece that cannot be written ends the
writing; the pieces before it stay written.
-/

namespace ArkLifecycle

/-- Something that is written piece by piece. What was written before it failed is kept. -/
abbrev Emission := ExceptT Fault (StateM String)

namespace Emission

/-- (write piece) writes one piece, all of it or nothing. -/
def write (piece : Text) : Emission Unit :=
  match piece.gap? with
  | some gap => throw (.notEncodable gap)
  | none => modify fun written => written ++ String.ofList (piece.toList.filterMap Letter.char?)

/-- (outcome emission) is whether all could be written, and what was written. -/
def outcome (emission : Emission Unit) : Except Fault Unit × String :=
  emission.run ""

end Emission

end ArkLifecycle
