import VersionedAssets.Proofs.Text.Words

/-! # Digits that no numeral is written with

Superscripts and circled numbers are digits without a place in a numeral. A text of digits is read
as a number unless such a digit is in it or there are too many of them.
-/

namespace VersionedAssets.Text

/-- Digits without a place in a numeral lie between the blanks, too. -/
theorem otherDigits_apart : ∀ range ∈ DigitTable.otherDigits,
    0xA1 ≤ range.1 ∧ range.2 < 0x1680 ∨ 0x1681 ≤ range.1 ∧ range.2 < 0x2000 ∨
      0x2060 ≤ range.1 ∧ range.2 < 0x3000 ∨ 0x3001 ≤ range.1 := by
  decide

theorem isBlank_of_isDigit {c : Char} (hc : isDigit c = true) : isBlank c = false := by
  rw [isDigit, Bool.or_eq_true] at hc
  rcases hc with hvalue | hother
  · exact isBlank_of_digit hvalue
  · obtain ⟨range, hrange, hin⟩ := List.any_eq_true.mp hother
    simp only [Bool.and_eq_true, decide_eq_true_eq] at hin
    have hapart := otherDigits_apart range hrange
    simp only [isBlank, Bool.or_eq_false_iff, Bool.and_eq_false_iff, decide_eq_false_iff_not,
      beq_eq_false_iff_ne]
    omega

/-- The text consists of digits and is not read as a number: a digit in it has no place in a
numeral, or the digits are too many. -/
def IsUnreadable (text : String) : Prop :=
  allDigits text = true ∧
    ((∃ c ∈ text.toList, digitValue? c = none) ∨ Numeral.maxDigits < text.length)

/-- A run of digits goes as far as they have a place in a numeral. -/
theorem digitRun_true_eq {cs : List Char} (hscore : '_' ∉ cs) :
    Numeral.digitRun true cs =
      some ((cs.takeWhile fun c => (digitValue? c).isSome).filterMap digitValue?,
        cs.dropWhile fun c => (digitValue? c).isSome) := by
  induction cs with
  | nil => rfl
  | cons c rest ih =>
      rw [List.mem_cons, not_or] at hscore
      obtain ⟨hc, hrest⟩ := hscore
      cases hvalue : digitValue? c with
      | none => simp [Numeral.digitRun, Ne.symm hc, hvalue]
      | some d => simp [Numeral.digitRun, Ne.symm hc, hvalue, ih hrest]

/-- A digit without a place in a numeral ends the run of digits, and no margin follows. -/
theorem exists_dropWhile_eq_cons {cs : List Char} (hdigits : ∀ c ∈ cs, isDigit c = true) {c : Char}
    (hc : c ∈ cs) (hnone : digitValue? c = none) :
    ∃ next after, (cs.dropWhile fun c => (digitValue? c).isSome) = next :: after ∧
      Numeral.isMargin next = false := by
  have hne : (cs.dropWhile fun c => (digitValue? c).isSome) ≠ [] := by
    intro hnil
    have hsome := List.dropWhile_eq_nil_iff.mp hnil c hc
    rw [hnone] at hsome
    cases hsome
  obtain ⟨next, after, hafter⟩ := List.exists_cons_of_ne_nil hne
  have hnext : next ∈ cs.dropWhile fun c => (digitValue? c).isSome := by
    rw [hafter]
    exact List.mem_cons_self
  have hdigit := hdigits next ((List.dropWhile_suffix _).subset hnext)
  exact ⟨next, after, hafter, by simp [Numeral.isMargin, isBlank_of_isDigit hdigit]⟩

section

variable {text : String} (hdigits : allDigits text = true)

include hdigits

theorem isDigit_of_mem : ∀ c ∈ text.toList, isDigit c = true := by
  rw [allDigits, Bool.and_eq_true, List.all_eq_true] at hdigits
  exact hdigits.2

theorem exists_cons_of_allDigits : ∃ first rest, text.toList = first :: rest := by
  refine List.exists_cons_of_ne_nil fun hnil => ?_
  rw [allDigits, Bool.and_eq_true, Bool.not_eq_true'] at hdigits
  rw [String.toList_eq_nil_iff] at hnil
  rw [hnil] at hdigits
  cases hdigits.1

/-- Digits are read from the first one on. -/
theorem read_of_allDigits :
    Numeral.read text = match Numeral.digitRun false text.toList with
      | none => .error (.malformed text)
      | some (digits, after) =>
        if Numeral.maxDigits < digits.length then .error (.tooLong digits.length)
        else if after.all Numeral.isMargin then .ok (1 * Numeral.ofDigits digits)
        else .error (.malformed text) := by
  obtain ⟨first, rest, htext⟩ := exists_cons_of_allDigits hdigits
  have hfirst := isDigit_of_mem hdigits first (by rw [htext]; exact List.mem_cons_self)
  have hmargin : text.toList.dropWhile Numeral.isMargin = text.toList := by
    rw [htext]
    exact List.dropWhile_cons_of_neg (by simp [Numeral.isMargin, isBlank_of_isDigit hfirst])
  have hsign : Numeral.sign text.toList = (1, text.toList) := by
    rw [htext]
    unfold Numeral.sign
    split
    next heq =>
      obtain ⟨rfl, -⟩ := List.cons.inj heq
      exact absurd hfirst (by decide)
    next heq =>
      obtain ⟨rfl, -⟩ := List.cons.inj heq
      exact absurd hfirst (by decide)
    next => rfl
  rewrite [Numeral.read, hmargin, hsign]
  rfl

theorem exists_read_error {c : Char} (hc : c ∈ text.toList) (hnone : digitValue? c = none) :
    ∃ fault, Numeral.read text = .error fault := by
  have hall := isDigit_of_mem hdigits
  obtain ⟨first, rest, htext⟩ := exists_cons_of_allDigits hdigits
  rw [read_of_allDigits hdigits]
  rw [htext] at hall hc ⊢
  have hscore : '_' ∉ first :: rest := fun hmem => absurd (hall _ hmem) (by decide)
  rw [List.mem_cons, not_or] at hscore
  cases hvalue : digitValue? first with
  | none => exact ⟨.malformed text, by simp [Numeral.digitRun, Ne.symm hscore.1, hvalue]⟩
  | some d =>
      have hmem : c ∈ rest := by
        rcases List.mem_cons.mp hc with rfl | hrest
        · cases hnone.symm.trans hvalue
        · exact hrest
      have hdigits' : ∀ c ∈ rest, isDigit c = true := (List.forall_mem_cons.mp hall).2
      obtain ⟨next, after, hafter, hmargin⟩ := exists_dropWhile_eq_cons hdigits' hmem hnone
      simp only [Numeral.digitRun, Ne.symm hscore.1, hvalue, digitRun_true_eq hscore.2, hafter,
        Option.map_some, if_false, List.all_cons, hmargin, Bool.false_and, Bool.false_eq_true]
      split
      · exact ⟨_, rfl⟩
      · exact ⟨_, rfl⟩

theorem exists_read_error_iff :
    (∃ fault, Numeral.read text = .error fault) ↔ IsUnreadable text := by
  rw [IsUnreadable, and_iff_right hdigits]
  by_cases hall : ∀ c ∈ text.toList, (digitValue? c).isSome = true
  · obtain ⟨first, rest, htext⟩ := exists_cons_of_allDigits hdigits
    have hcs : IsDigits text.toList := ⟨by simp [htext], hall⟩
    have hplaced : ¬ ∃ c ∈ text.toList, digitValue? c = none := by
      rintro ⟨c, hc, hnone⟩
      exact hcs.notMem hnone hc
    have hlength : (text.toList.filterMap digitValue?).length = text.length := by
      rw [← String.length_toList, List.length_filterMap_eq_countP, List.countP_eq_length]
      exact hall
    rw [or_iff_right hplaced, read_of_allDigits hdigits, hcs.digitRun_eq]
    dsimp only
    rw [hlength]
    split
    next hlong => exact iff_of_true ⟨_, rfl⟩ hlong
    next hshort => simp [hshort]
  · obtain ⟨c, hlater⟩ := Classical.not_forall.mp hall
    obtain ⟨hc, hnone⟩ := Classical.not_imp.mp hlater
    rw [Bool.not_eq_true, Option.isSome_eq_false_iff, Option.isNone_iff_eq_none] at hnone
    exact iff_of_true (exists_read_error hdigits hc hnone) (.inl ⟨c, hc, hnone⟩)

end

end VersionedAssets.Text
