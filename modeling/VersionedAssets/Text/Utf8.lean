/-! # Texts as bytes

The UTF-8 form of a text, and the two ways back: one that refuses bytes that are no text, and one
that writes U+FFFD for each maximal part that belongs to no character.
-/

namespace VersionedAssets

/-- A sequence of bytes. -/
abbrev Bytes := List UInt8

namespace Text

/-- The UTF-8 form of a text. -/
def utf8 (text : String) : Bytes := text.toUTF8.data.toList

/-- The text that the bytes are the UTF-8 form of, if there is one. -/
def ofUtf8? (bytes : Bytes) : Option String := String.fromUTF8? ⟨bytes.toArray⟩

/-- A character begun by its first bytes: how many bytes it still needs, the range of the next
one, and the bits read so far. -/
structure Begun where
  missing : Nat
  lowest : UInt8
  highest : UInt8
  bits : Nat
  deriving DecidableEq, Repr

/-- What a byte begins that does not continue a character. -/
inductive Lead where
  | whole (c : Char)
  | begun (b : Begun)
  | invalid
  deriving DecidableEq, Repr

/-- The ranges of the second byte keep overlong forms, surrogates and numbers past U+10FFFF out. -/
def lead (b : UInt8) : Lead :=
  let n := b.toNat
  if n < 0x80 then .whole (Char.ofNat n)
  else if n < 0xC2 then .invalid
  else if n < 0xE0 then .begun ⟨1, 0x80, 0xBF, n - 0xC0⟩
  else if n < 0xF0 then
    .begun ⟨2, if n = 0xE0 then 0xA0 else 0x80, if n = 0xED then 0x9F else 0xBF, n - 0xE0⟩
  else if n < 0xF5 then
    .begun ⟨3, if n = 0xF0 then 0x90 else 0x80, if n = 0xF4 then 0x8F else 0xBF, n - 0xF0⟩
  else .invalid

/-- The character that stands for bytes which belong to no character. -/
def replacement : Char := Char.ofNat 0xFFFD

/-- The characters written, and the character begun, after a byte that starts afresh. -/
def startAt (b : UInt8) : List Char × Option Begun :=
  match lead b with
  | .whole c => ([c], none)
  | .begun state => ([], some state)
  | .invalid => ([replacement], none)

/-- The characters of the bytes, with a character begun before them. -/
def decodeFrom : Option Begun → Bytes → List Char
  | none, [] => []
  | some _, [] => [replacement]
  | none, b :: rest =>
    let (written, state) := startAt b
    written ++ decodeFrom state rest
  | some begun, b :: rest =>
    if begun.lowest ≤ b ∧ b ≤ begun.highest then
      let bits := begun.bits * 64 + (b.toNat - 0x80)
      if begun.missing ≤ 1 then Char.ofNat bits :: decodeFrom none rest
      else decodeFrom (some ⟨begun.missing - 1, 0x80, 0xBF, bits⟩) rest
    else
      let (written, state) := startAt b
      replacement :: written ++ decodeFrom state rest

/-- The text of the bytes, with U+FFFD for each maximal part that belongs to no character. -/
def ofUtf8Replacing (bytes : Bytes) : String := String.ofList (decodeFrom none bytes)

end Text

end VersionedAssets
