import Mathlib.Data.List.Basic
import VersionedAssets.Text.Utf8

/-! # Well-formed UTF-8

What the bytes of a text look like, told by the ranges that the bytes of a character are in. The
ranges leave out the longer forms of a number, the numbers of surrogates and those past U+10FFFF, so
that the numbers that can be written are those of the characters, each in one form. Bytes are read as
a text exactly when they write numbers one after the other, and then as the text of these numbers.
-/

namespace VersionedAssets.Text

/-- The byte goes on with a character. -/
def IsTail (b : UInt8) : Prop := 0x80 ≤ b.toNat ∧ b.toNat ≤ 0xBF

/-- The bytes are the character with this number. -/
inductive Encodes (n : Nat) : Bytes → Prop where
  | one {a : UInt8} (ha : a.toNat ≤ 0x7F) (hn : n = a.toNat) : Encodes n [a]
  | two {a b : UInt8} (ha : 0xC2 ≤ a.toNat ∧ a.toNat ≤ 0xDF) (hb : IsTail b)
      (hn : n = (a.toNat - 0xC0) * 0x40 + (b.toNat - 0x80)) : Encodes n [a, b]
  | three {a b c : UInt8} (ha : 0xE0 ≤ a.toNat ∧ a.toNat ≤ 0xEF) (hb : IsTail b) (hc : IsTail c)
      (hshortest : a.toNat = 0xE0 → 0xA0 ≤ b.toNat)
      (hsurrogate : a.toNat = 0xED → b.toNat ≤ 0x9F)
      (hn : n = (a.toNat - 0xE0) * 0x1000 + (b.toNat - 0x80) * 0x40 + (c.toNat - 0x80)) :
      Encodes n [a, b, c]
  | four {a b c d : UInt8} (ha : 0xF0 ≤ a.toNat ∧ a.toNat ≤ 0xF4) (hb : IsTail b) (hc : IsTail c)
      (hd : IsTail d) (hshortest : a.toNat = 0xF0 → 0x90 ≤ b.toNat)
      (hgreatest : a.toNat = 0xF4 → b.toNat ≤ 0x8F)
      (hn : n = (a.toNat - 0xF0) * 0x40000 + (b.toNat - 0x80) * 0x1000 +
        (c.toNat - 0x80) * 0x40 + (d.toNat - 0x80)) : Encodes n [a, b, c, d]

/-- The bytes are the characters with these numbers, one after the other. -/
inductive Writes : List Nat → Bytes → Prop where
  | nil : Writes [] []
  | cons {n : Nat} {numbers : List Nat} {first rest : Bytes} (hfirst : Encodes n first)
      (hrest : Writes numbers rest) : Writes (n :: numbers) (first ++ rest)

/-- The bytes are characters, one after the other. -/
def IsUtf8 (bytes : Bytes) : Prop := ∃ numbers, Writes numbers bytes

variable {bytes : Bytes} {n : Nat} {numbers : List Nat} {text : String}

/-! ## Characters -/

theorem encodes_utf8EncodeChar (c : Char) : Encodes c.toNat (String.utf8EncodeChar c) := by
  have hvalid : c.toNat < 0xD800 ∨ 0xDFFF < c.toNat ∧ c.toNat < 0x110000 := c.valid
  have hval : c.val.toNat = c.toNat := rfl
  unfold String.utf8EncodeChar
  simp only [hval]
  split
  next => refine .one ?_ ?_ <;> rw [UInt8.toNat_ofNat'] <;> omega
  next =>
    split
    next => refine .two ?_ ?_ ?_ <;> simp only [IsTail, UInt8.toNat_ofNat'] <;> omega
    next =>
      split
      next => refine .three ?_ ?_ ?_ ?_ ?_ ?_ <;> simp only [IsTail, UInt8.toNat_ofNat'] <;> omega
      next =>
        refine .four ?_ ?_ ?_ ?_ ?_ ?_ ?_ <;> simp only [IsTail, UInt8.toNat_ofNat'] <;> omega

theorem Encodes.isValidChar (hencodes : Encodes n bytes) : n.isValidChar := by
  unfold Nat.isValidChar
  cases hencodes with
  | one ha hn => omega
  | two ha hb hn =>
      unfold IsTail at hb
      omega
  | three ha hb hc _ hsurrogate hn =>
      unfold IsTail at hb hc
      omega
  | four ha hb hc hd _ hgreatest hn =>
      unfold IsTail at hb hc hd
      omega

/-- Every number with bytes in these ranges is the one of a character, which has these bytes. -/
theorem Encodes.exists_char (hencodes : Encodes n bytes) :
    ∃ c : Char, c.toNat = n ∧ bytes = String.utf8EncodeChar c := by
  have hnumber : (Char.ofNat n).toNat = n := by
    rw [Char.ofNat, dif_pos hencodes.isValidChar]
    rfl
  have hval : (Char.ofNat n).val.toNat = n := hnumber
  refine ⟨Char.ofNat n, hnumber, ?_⟩
  unfold String.utf8EncodeChar
  simp only [hval]
  cases hencodes with
  | one ha hn =>
      rw [if_pos (by omega)]
      simp only [List.cons.injEq, and_true, ← UInt8.toNat_inj, UInt8.toNat_ofNat']
      omega
  | two ha hb hn =>
      unfold IsTail at hb
      rw [if_neg (by omega), if_pos (by omega)]
      simp only [List.cons.injEq, and_true, ← UInt8.toNat_inj, UInt8.toNat_ofNat']
      omega
  | three ha hb hc hshortest _ hn =>
      unfold IsTail at hb hc
      rw [if_neg (by omega), if_neg (by omega), if_pos (by omega)]
      simp only [List.cons.injEq, and_true, ← UInt8.toNat_inj, UInt8.toNat_ofNat']
      omega
  | four ha hb hc hd hshortest _ hn =>
      unfold IsTail at hb hc hd
      rw [if_neg (by omega), if_neg (by omega), if_neg (by omega)]
      simp only [List.cons.injEq, and_true, ← UInt8.toNat_inj, UInt8.toNat_ofNat']
      omega

/-! ## Texts -/

theorem utf8_ofList (cs : List Char) :
    utf8 (String.ofList cs) = cs.flatMap String.utf8EncodeChar := by
  rw [utf8, String.toUTF8_eq_toByteArray, String.toByteArray_ofList, List.utf8Encode,
    List.toList_data_toByteArray]

theorem writes_utf8 (text : String) : Writes (text.toList.map Char.toNat) (utf8 text) := by
  nth_rewrite 2 [← String.ofList_toList (s := text)]
  rw [utf8_ofList]
  induction text.toList with
  | nil => exact .nil
  | cons c rest ih =>
      rw [List.map_cons, List.flatMap_cons]
      exact .cons (encodes_utf8EncodeChar c) ih

theorem Writes.exists_text (hwrites : Writes numbers bytes) :
    ∃ text : String, text.toList.map Char.toNat = numbers ∧ bytes = utf8 text := by
  induction hwrites with
  | nil => exact ⟨String.ofList [], by simp, (utf8_ofList []).symm⟩
  | cons hfirst _ ih =>
      obtain ⟨c, rfl, rfl⟩ := hfirst.exists_char
      obtain ⟨text, rfl, rfl⟩ := ih
      refine ⟨String.ofList (c :: text.toList), by simp, ?_⟩
      rw [utf8_ofList, List.flatMap_cons, ← utf8_ofList, String.ofList_toList]

/-- The bytes of a text are what writes the numbers of its characters. -/
theorem writes_iff (text : String) (bytes : Bytes) :
    Writes (text.toList.map Char.toNat) bytes ↔ bytes = utf8 text := by
  constructor
  · intro hwrites
    obtain ⟨other, hnumbers, rfl⟩ := hwrites.exists_text
    have hlists := List.map_injective_iff.mpr (fun _ _ => Char.toNat_inj.mp) hnumbers
    rw [String.toList_inj.mp hlists]
  · rintro rfl
    exact writes_utf8 text

theorem isUtf8_utf8 (text : String) : IsUtf8 (utf8 text) := ⟨_, writes_utf8 text⟩

theorem IsUtf8.exists_text (hbytes : IsUtf8 bytes) : ∃ text, bytes = utf8 text := by
  obtain ⟨numbers, hwrites⟩ := hbytes
  obtain ⟨text, -, hutf8⟩ := hwrites.exists_text
  exact ⟨text, hutf8⟩

theorem ofUtf8?_eq_some_iff : ofUtf8? bytes = some text ↔ bytes = utf8 text := by
  have hbytes : text.toByteArray = ⟨bytes.toArray⟩ ↔ bytes = utf8 text := by
    rw [utf8, String.toUTF8_eq_toByteArray, ByteArray.ext_iff]
    constructor
    · intro hdata
      rw [hdata]
    · rintro rfl
      rfl
  rw [← hbytes, ofUtf8?, String.fromUTF8?]
  split
  next hvalid =>
    rw [Option.some.injEq, ← String.toByteArray_inj]
    exact eq_comm
  next hinvalid =>
    simp only [reduceCtorEq, false_iff]
    exact fun htext => hinvalid (htext ▸ text.isValidUTF8)

theorem ofUtf8?_utf8 (text : String) : ofUtf8? (utf8 text) = some text :=
  ofUtf8?_eq_some_iff.mpr rfl

theorem ofUtf8?_eq_none_iff : ofUtf8? bytes = none ↔ ¬ IsUtf8 bytes := by
  constructor
  · intro hnone hbytes
    obtain ⟨text, rfl⟩ := hbytes.exists_text
    rw [ofUtf8?_utf8] at hnone
    cases hnone
  · intro hnot
    cases hread : ofUtf8? bytes with
    | none => rfl
    | some text =>
        rw [ofUtf8?_eq_some_iff.mp hread] at hnot
        exact absurd (isUtf8_utf8 text) hnot

end VersionedAssets.Text
