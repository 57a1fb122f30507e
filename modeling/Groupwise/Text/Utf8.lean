/-!
# UTF-8

Texts as bytes and back. `Utf8.decode?` reads a whole byte string; `Utf8.validLength` says how many
bytes at its front are well-formed characters.
-/

namespace Groupwise.Utf8

/-- The bytes of a text. -/
def encode (s : String) : List UInt8 := s.toUTF8.toList

/-- The text that the bytes stand for, if they are well-formed. -/
def decode? (bytes : List UInt8) : Option String := String.fromUTF8? ⟨bytes.toArray⟩

/-- A continuation byte. -/
def isTail (b : UInt8) : Bool := 0x80 ≤ b && b ≤ 0xBF

/-- The length of the character at the front, zero if there is none. -/
def charLength : List UInt8 → Nat
  | [] => 0
  | a :: rest =>
    if a ≤ 0x7F then 1
    else match rest with
      | b :: rest =>
        if 0xC2 ≤ a && a ≤ 0xDF then if isTail b then 2 else 0
        else match rest with
          | c :: rest =>
            if 0xE0 ≤ a && a ≤ 0xEF then
              let low : UInt8 := if a = 0xE0 then 0xA0 else 0x80
              let high : UInt8 := if a = 0xED then 0x9F else 0xBF
              if low ≤ b && b ≤ high && isTail c then 3 else 0
            else match rest with
              | d :: _ =>
                let low : UInt8 := if a = 0xF0 then 0x90 else 0x80
                let high : UInt8 := if a = 0xF4 then 0x8F else 0xBF
                if 0xF0 ≤ a && a ≤ 0xF4 && low ≤ b && b ≤ high && isTail c && isTail d then 4
                else 0
              | [] => 0
          | [] => 0
      | [] => 0

/-- The number of bytes before the first one that is not part of a well-formed character. -/
def validLength (bytes : List UInt8) : Nat :=
  let n := charLength bytes
  if _h : n = 0 ∨ bytes = [] then 0 else n + validLength (bytes.drop n)
termination_by bytes.length
decreasing_by
  simp only [not_or] at _h
  have : 0 < bytes.length := List.length_pos_iff.2 _h.2
  simp only [List.length_drop]
  omega

end Groupwise.Utf8
