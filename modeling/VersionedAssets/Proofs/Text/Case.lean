import Mathlib.Data.List.Basic
import VersionedAssets.Proofs.Text.Pieces
import VersionedAssets.Text.Letter

/-! # Lower case

No letter becomes punctuation in lower case, and punctuation stays what it is. A dot does not come
between a capital sigma and the letters of its word, so a text in lower case does not depend on the
dots in front of it.
-/

namespace VersionedAssets.Text

/-! ## Characters -/

/-- Every shift to lower case leads behind the punctuation in front of the letters. -/
theorem le_shifted {n m : Nat} (hshifted : shifted CaseTable.lower n = some m) : 0x41 ≤ m := by
  have htable : ∀ s ∈ CaseTable.lower, 0x41 ≤ (s.first : Int) + s.shift := by decide +kernel
  obtain ⟨s, hfind, rfl⟩ := Option.map_eq_some_iff.mp hshifted
  have hfirst := List.find?_some hfind
  have hs := htable s (List.mem_of_find?_eq_some hfind)
  simp only [Bool.and_eq_true, decide_eq_true_eq] at hfirst
  omega

theorem lowerChar_ne_nil (c : Char) : lowerChar c ≠ [] := by
  unfold lowerChar
  split
  · exact List.cons_ne_nil _ _
  · split
    · exact List.cons_ne_nil _ _
    · exact List.cons_ne_nil _ _

/-- The punctuation and the digits in front of the letters. -/
def IsPlain (c : Char) : Prop := 0 < c.toNat ∧ c.toNat < 0x41

section

variable {c : Char}

theorem ofNat_ne_of_isPlain (hc : IsPlain c) {n : Nat} (hn : 0x41 ≤ n) : c ≠ Char.ofNat n := by
  -- a number that is no code point stands for the character U+0000
  have hcode : (Char.ofNat n).toNat = n ∨ (Char.ofNat n).toNat = 0 := by
    by_cases hvalid : n.isValidChar
    · left
      rw [Char.ofNat, dif_pos hvalid]
      rfl
    · right
      rw [Char.ofNat, dif_neg hvalid]
      rfl
  rintro rfl
  rcases hcode with heq | heq
  · exact absurd hc.2 (by omega)
  · exact absurd hc.1 (by omega)

/-- Only punctuation itself becomes that punctuation in lower case. -/
theorem mem_lowerChar_iff (hc : IsPlain c) (other : Char) : c ∈ lowerChar other ↔ c = other := by
  unfold lowerChar
  split
  next hascii =>
    rw [List.mem_singleton]
    split
    next hupper =>
      have hletter : 0x41 ≤ other.toNat := hupper.1
      have hne : c ≠ other := fun heq => absurd hc.2 (by rw [heq]; omega)
      simp [hne, ofNat_ne_of_isPlain hc (show 0x41 ≤ other.toNat + 32 by omega)]
    next => rfl
  next hascii =>
    have hne : c ≠ other := fun heq => absurd hc.2 (by rw [heq]; omega)
    split
    next =>
      have hletter : c ≠ 'i' := ofNat_ne_of_isPlain hc (show 0x41 ≤ 0x69 by decide)
      have hmark : c ≠ Char.ofNat 0x307 := ofNat_ne_of_isPlain hc (by decide)
      simp only [List.mem_cons, hletter, hmark, List.not_mem_nil, hne, or_false]
    next =>
      cases hshifted : shifted CaseTable.lower other.toNat with
      | none => simp
      | some n => simp [hne, ofNat_ne_of_isPlain hc (le_shifted hshifted)]

/-! ## Texts -/

theorem mem_lowerFrom_iff (hc : IsPlain c) (before cs : List Char) :
    c ∈ lowerFrom before cs ↔ c ∈ cs := by
  induction cs generalizing before with
  | nil => rfl
  | cons first rest ih =>
      rw [lowerFrom, List.mem_append, ih, List.mem_cons]
      split
      next hsigma =>
        have hne : c ≠ first := hsigma ▸ ofNat_ne_of_isPlain hc (by decide)
        split
        · simp [hne, ofNat_ne_of_isPlain hc (show 0x41 ≤ 0x3C2 by decide)]
        · simp [hne, ofNat_ne_of_isPlain hc (show 0x41 ≤ 0x3C3 by decide)]
      next => rw [mem_lowerChar_iff hc]

theorem mem_lower_iff (hc : IsPlain c) (text : String) :
    c ∈ (lower text).toList ↔ c ∈ text.toList := by
  rw [lower, String.toList_ofList, mem_lowerFrom_iff hc]

end

theorem lower_eq_empty_iff (text : String) : lower text = "" ↔ text = "" := by
  rw [← String.toList_inj, ← String.toList_inj, lower, String.toList_ofList]
  cases text.toList with
  | nil => simp [lowerFrom]
  | cons c rest =>
      rw [lowerFrom]
      split
      · simp
      · simp [lowerChar_ne_nil]

/-- A dot is passed over when a letter is looked for. -/
theorem meetsCased_append_dot (before : List Char) :
    meetsCased (before ++ ['.']) = meetsCased before := by
  have hdot : inRanges CaseTable.caseIgnorable '.' = true := by decide +kernel
  rw [meetsCased, meetsCased, List.dropWhile_append]
  cases before.dropWhile (inRanges CaseTable.caseIgnorable) with
  | nil => simp [hdot]
  | cons c rest => rfl

/-- What stands before all others decides about a capital sigma only, and a dot does not decide. -/
theorem lowerFrom_append_dot (before cs : List Char) :
    lowerFrom (before ++ ['.']) cs = lowerFrom before cs := by
  induction cs generalizing before with
  | nil => rfl
  | cons c rest ih =>
      rw [lowerFrom, lowerFrom, meetsCased_append_dot, ← List.cons_append, ih]

theorem lower_dot_append (text : String) : lower ("." ++ text) = "." ++ lower text := by
  have hdot : lowerFrom [] ('.' :: text.toList) = '.' :: lowerFrom [] text.toList :=
    congrArg ('.' :: ·) (lowerFrom_append_dot [] text.toList)
  rw [← String.toList_inj]
  simp only [lower, String.toList_append, String.toList_ofList]
  exact hdot

end VersionedAssets.Text
