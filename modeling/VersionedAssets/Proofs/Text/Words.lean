import Mathlib.Data.List.Basic
import VersionedAssets.Proofs.Text.Pieces
import VersionedAssets.Text.Numeral

/-! # Words and numerals

A text in which words stand between single blanks has just these words. A run of ASCII digits is one
word, and it is read as the number that it writes, so the numeral of a number is read back.
-/

namespace VersionedAssets.Text

/-! ## Words -/

/-- A text without blanks. -/
def NoBlanks (cs : List Char) : Prop := ∀ c ∈ cs, isBlank c = false

instance : DecidablePred NoBlanks := fun cs =>
  List.decidableBAll (fun c => isBlank c = false) cs

theorem NoBlanks.append {front back : List Char} (hfront : NoBlanks front)
    (hback : NoBlanks back) : NoBlanks (front ++ back) := by
  intro c hc
  rcases List.mem_append.mp hc with hc | hc
  · exact hfront c hc
  · exact hback c hc

theorem runLists_append_cons {word : List Char} (hword : NoBlanks word) {blank : Char}
    (hblank : isBlank blank = true) (rest : List Char) :
    runLists (word ++ blank :: rest) = word :: runLists rest := by
  induction word with
  | nil => simp [runLists, hblank]
  | cons c word ih =>
      obtain ⟨hc, hword⟩ := List.forall_mem_cons.mp hword
      simp [runLists, hc, ih hword]

theorem runLists_of_noBlanks {word : List Char} (hword : NoBlanks word) :
    runLists word = [word] := by
  induction word with
  | nil => rfl
  | cons c word ih =>
      obtain ⟨hc, hword⟩ := List.forall_mem_cons.mp hword
      simp [runLists, hc, ih hword]

theorem wordLists_append_cons {word : List Char} (hword : NoBlanks word) (hne : word ≠ [])
    {blank : Char} (hblank : isBlank blank = true) (rest : List Char) :
    wordLists (word ++ blank :: rest) = word :: wordLists rest := by
  rw [wordLists, runLists_append_cons hword hblank, List.filter_cons_of_pos (by simpa using hne),
    wordLists]

theorem wordLists_of_noBlanks {word : List Char} (hword : NoBlanks word) (hne : word ≠ []) :
    wordLists word = [word] := by
  rw [wordLists, runLists_of_noBlanks hword, List.filter_cons_of_pos (by simpa using hne),
    List.filter_nil]

/-! ## Decimal digits of any script -/

/-- The runs of decimal digits lie between the blanks. -/
theorem digits_apart : ∀ start ∈ DigitTable.zeros,
    start = 0x30 ∨ 0x660 ≤ start ∧ start + 9 < 0x1680 ∨
      0x1681 ≤ start ∧ start + 9 < 0x2000 ∨ 0x3001 ≤ start := by
  decide

theorem isBlank_of_digit {c : Char} (hc : (digitValue? c).isSome = true) : isBlank c = false := by
  have hrange : 0x30 ≤ c.toNat ∧ c.toNat ≤ 0x39 ∨
      ∃ start ∈ DigitTable.zeros, start ≤ c.toNat ∧ c.toNat < start + 10 := by
    unfold digitValue? at hc
    split at hc
    next =>
      split at hc
      next hascii => exact .inl hascii
      next => cases hc
    next =>
      rw [Option.isSome_map, List.find?_isSome] at hc
      obtain ⟨start, hstart, hin⟩ := hc
      exact .inr ⟨start, hstart, by simpa using hin⟩
  simp only [isBlank, Bool.or_eq_false_iff, Bool.and_eq_false_iff, decide_eq_false_iff_not,
    beq_eq_false_iff_ne]
  rcases hrange with hascii | ⟨start, hstart, hin⟩
  · omega
  · have hapart := digits_apart start hstart
    omega

/-- One or more decimal digits. -/
structure IsDigits (cs : List Char) : Prop where
  ne_nil : cs ≠ []
  digits : ∀ c ∈ cs, (digitValue? c).isSome = true

/-- The number that decimal digits write. -/
def digitsValue (cs : List Char) : Nat := Numeral.ofDigits (cs.filterMap digitValue?)

theorem IsDigits.notMem {cs : List Char} (hcs : IsDigits cs) {c : Char}
    (hc : digitValue? c = none) : c ∉ cs := by
  intro hmem
  simpa [hc] using hcs.digits c hmem

theorem digitRun_of_digits {cs : List Char} (hcs : ∀ c ∈ cs, (digitValue? c).isSome = true) :
    Numeral.digitRun true cs = some (cs.filterMap digitValue?, []) := by
  induction cs with
  | nil => rfl
  | cons c cs ih =>
      obtain ⟨hc, hcs⟩ := List.forall_mem_cons.mp hcs
      obtain ⟨d, hd⟩ := Option.isSome_iff_exists.mp hc
      have hscore : c ≠ '_' := by
        rintro rfl
        cases hc
      simp [Numeral.digitRun, hscore, hd, ih hcs]

theorem IsDigits.digitRun_eq {cs : List Char} (hcs : IsDigits cs) :
    Numeral.digitRun false cs = some (cs.filterMap digitValue?, []) := by
  obtain ⟨c, rest, rfl⟩ := List.exists_cons_of_ne_nil hcs.ne_nil
  obtain ⟨hc, hrest⟩ := List.forall_mem_cons.mp hcs.digits
  obtain ⟨d, hd⟩ := Option.isSome_iff_exists.mp hc
  have hscore : c ≠ '_' := by
    rintro rfl
    cases hc
  simp [Numeral.digitRun, hscore, hd, digitRun_of_digits hrest]

theorem IsDigits.sign_eq {cs : List Char} (hcs : IsDigits cs) : Numeral.sign cs = (1, cs) := by
  unfold Numeral.sign
  split
  next => exact absurd List.mem_cons_self (hcs.notMem (by decide))
  next => exact absurd List.mem_cons_self (hcs.notMem (by decide))
  next => rfl

theorem IsDigits.dropWhile_isMargin {cs : List Char} (hcs : IsDigits cs) :
    cs.dropWhile Numeral.isMargin = cs := by
  obtain ⟨c, rest, rfl⟩ := List.exists_cons_of_ne_nil hcs.ne_nil
  have hblank : isBlank c = false := isBlank_of_digit (hcs.digits c List.mem_cons_self)
  exact List.dropWhile_cons_of_neg (by simp [Numeral.isMargin, hblank])

/-- Decimal digits are read as the number that they write, if they are not too many. -/
theorem IsDigits.read_eq {cs : List Char} (hcs : IsDigits cs)
    (hlength : cs.length ≤ Numeral.maxDigits) :
    Numeral.read (String.ofList cs) = .ok (digitsValue cs) := by
  have hshort : (cs.filterMap digitValue?).length ≤ Numeral.maxDigits :=
    (List.length_filterMap_le _ _).trans hlength
  rw [Numeral.read, String.toList_ofList, hcs.dropWhile_isMargin, hcs.sign_eq]
  dsimp only
  rw [hcs.digitRun_eq]
  dsimp only
  rw [if_neg (Nat.not_lt.mpr hshort), List.all_nil, if_pos rfl, Int.one_mul, digitsValue]

/-! ## Digits of ASCII -/

theorem isAsciiDigit_iff {c : Char} :
    isAsciiDigit c = true ↔ 0x30 ≤ c.toNat ∧ c.toNat ≤ 0x39 := by
  simp [isAsciiDigit]

section AsciiDigit

variable {c : Char} (hc : isAsciiDigit c = true)

include hc

theorem digitValue?_of_ascii : digitValue? c = some (c.toNat - 0x30) := by
  rw [isAsciiDigit_iff] at hc
  rw [digitValue?, if_pos (by omega), if_pos hc]

theorem isDigit_of_ascii : isDigit c = true := by
  rw [isDigit, digitValue?_of_ascii hc]
  rfl

theorem isBlank_of_ascii : isBlank c = false :=
  isBlank_of_digit (by rw [digitValue?_of_ascii hc]; rfl)

end AsciiDigit

/-- One or more digits of ASCII. -/
structure IsDecimal (cs : List Char) : Prop where
  ne_nil : cs ≠ []
  digits : ∀ c ∈ cs, isAsciiDigit c = true

theorem IsDecimal.notMem {cs : List Char} (hcs : IsDecimal cs) {c : Char}
    (hc : isAsciiDigit c = false) : c ∉ cs := by
  intro hmem
  rw [hcs.digits c hmem] at hc
  cases hc

theorem IsDecimal.exists_cons {cs : List Char} (hcs : IsDecimal cs) :
    ∃ d rest, cs = d :: rest ∧ isAsciiDigit d = true := by
  obtain ⟨d, rest, rfl⟩ := List.exists_cons_of_ne_nil hcs.ne_nil
  exact ⟨d, rest, rfl, hcs.digits d List.mem_cons_self⟩

theorem IsDecimal.noBlanks {cs : List Char} (hcs : IsDecimal cs) : NoBlanks cs :=
  fun c hc => isBlank_of_ascii (hcs.digits c hc)

theorem isDecimal_toDigits (n : Nat) : IsDecimal (Nat.toDigits 10 n) := by
  refine ⟨Nat.toDigits_ne_nil, fun c hc => ?_⟩
  have hdigit := Nat.isDigit_of_mem_toDigits (by decide) (by decide) hc
  exact isAsciiDigit_iff.mpr (Char.isDigit_iff_toNat.mp hdigit)

theorem isDecimal_toString (n : Nat) : IsDecimal (toString n).toList := by
  rw [Nat.toString_eq_ofList_toDigits, String.toList_ofList]
  exact isDecimal_toDigits n

/-! ## Numerals -/

theorem toString_nat_injective : Function.Injective (toString : Nat → String) := by
  intro m n heq
  have hdigits : Nat.toDigits 10 m = Nat.toDigits 10 n := by
    simpa [Nat.toString_eq_ofList_toDigits] using congrArg String.toList heq
  calc
    m = Nat.ofDigitChars 10 (Nat.toDigits 10 m) 0 :=
      (Nat.ofDigitChars_toDigits (by decide) (by decide)).symm
    _ = Nat.ofDigitChars 10 (Nat.toDigits 10 n) 0 := by rw [hdigits]
    _ = n := Nat.ofDigitChars_toDigits (by decide) (by decide)

theorem toList_toString_negSucc (n : Nat) :
    (toString (Int.negSucc n)).toList = '-' :: (toString (n + 1)).toList := by
  change ("-" ++ toString (n + 1)).toList = _
  rw [String.toList_append]
  rfl

/-- A negative number is told from the others by its sign. -/
theorem toString_int_injective : Function.Injective (toString : Int → String) := by
  have hsign (m n : Nat) : toString (Int.ofNat m) ≠ toString (Int.negSucc n) := by
    intro heq
    have hdash : '-' ∈ (toString m).toList := by
      change toString m = _ at heq
      rw [heq, toList_toString_negSucc]
      exact List.mem_cons_self
    exact (isDecimal_toString m).notMem (by decide) hdash
  intro m n heq
  cases m with
  | ofNat m =>
      cases n with
      | ofNat n => exact congrArg Int.ofNat (toString_nat_injective heq)
      | negSucc n => exact absurd heq (hsign m n)
  | negSucc m =>
      cases n with
      | ofNat n => exact absurd heq.symm (hsign n m)
      | negSucc n =>
          have hlists := congrArg String.toList heq
          rw [toList_toString_negSucc, toList_toString_negSucc, List.cons.injEq] at hlists
          have hnext := toString_nat_injective (String.toList_inj.mp hlists.2)
          exact congrArg Int.negSucc (Nat.succ.inj hnext)

theorem IsDecimal.isDigits {cs : List Char} (hcs : IsDecimal cs) : IsDigits cs :=
  ⟨hcs.ne_nil, fun c hc => by rw [digitValue?_of_ascii (hcs.digits c hc)]; rfl⟩

theorem IsDecimal.digitsValue_eq {cs : List Char} (hcs : IsDecimal cs) :
    digitsValue cs = Nat.ofDigitChars 10 cs 0 := by
  have hvalues : cs.filterMap digitValue? = cs.map fun c => c.toNat - 0x30 := by
    rw [← List.filterMap_eq_map]
    exact List.filterMap_congr fun c hc => digitValue?_of_ascii (hcs.digits c hc)
  rw [digitsValue, hvalues, Numeral.ofDigits, List.foldl_map]
  rfl

theorem read_of_isDecimal {cs : List Char} (hcs : IsDecimal cs)
    (hlength : cs.length ≤ Numeral.maxDigits) :
    Numeral.read (String.ofList cs) = .ok (Nat.ofDigitChars 10 cs 0) := by
  rw [hcs.isDigits.read_eq hlength, hcs.digitsValue_eq]

/-- The numeral of a number is read back, if it is not too long to be read. -/
theorem read_toString {n : Nat} (hlength : (Nat.toDigits 10 n).length ≤ Numeral.maxDigits) :
    Numeral.read (toString n) = .ok n := by
  rw [Nat.toString_eq_ofList_toDigits, read_of_isDecimal (isDecimal_toDigits n) hlength,
    Nat.ofDigitChars_toDigits (by decide) (by decide)]

end VersionedAssets.Text
