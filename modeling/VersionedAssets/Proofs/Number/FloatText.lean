import VersionedAssets.Proofs.Number.Shortest
import VersionedAssets.Proofs.Text.Words

/-! # The numerals of floats

A finite float is written as digits with more digits after a point, with a power of ten behind them,
or with both. It can be told from an integer by that, and no part of it is left without a digit.
-/

namespace VersionedAssets.Number

open Text

/-- Digits with digits after a point, a power of ten behind them, or both. -/
inductive IsFloatNumeral : List Char → Prop
  | positional {whole places : List Char} (hwhole : IsDecimal whole) (hplaces : IsDecimal places) :
      IsFloatNumeral (whole ++ '.' :: places)
  | scientific {whole fraction size : List Char} {sign : Char} (hwhole : IsDecimal whole)
      (hfraction : fraction = [] ∨ ∃ places, IsDecimal places ∧ fraction = '.' :: places)
      (hsign : sign = '-' ∨ sign = '+') (hsize : IsDecimal size) :
      IsFloatNumeral (whole ++ (fraction ++ 'e' :: sign :: size))

theorem IsFloatNumeral.exists_cons {numeral : List Char} (hnumeral : IsFloatNumeral numeral) :
    ∃ d rest, numeral = d :: rest ∧ isAsciiDigit d = true := by
  cases hnumeral with
  | positional hwhole hplaces =>
      obtain ⟨d, rest, rfl, hd⟩ := hwhole.exists_cons
      exact ⟨d, _, rfl, hd⟩
  | scientific hwhole hfraction hsign hsize =>
      obtain ⟨d, rest, rfl, hd⟩ := hwhole.exists_cons
      exact ⟨d, _, rfl, hd⟩

namespace FloatText

theorem isAsciiDigit_of_mem_replicate {count : Nat} {c : Char}
    (hc : c ∈ List.replicate count '0') : isAsciiDigit c = true := by
  rw [List.eq_of_mem_replicate hc]
  decide

section

variable {digits : List Char} (hdigits : IsDecimal digits)

include hdigits

theorem isFloatNumeral_positional (point : Int) : IsFloatNumeral (positional digits point) := by
  unfold positional
  split
  next =>
    refine @IsFloatNumeral.positional ['0'] _
      ⟨List.cons_ne_nil _ _, by simp [isAsciiDigit]⟩ ⟨?_, ?_⟩
    · exact List.append_ne_nil_of_right_ne_nil _ hdigits.ne_nil
    · exact List.forall_mem_append.mpr ⟨fun c => isAsciiDigit_of_mem_replicate, hdigits.digits⟩
  next hpoint =>
    have hbefore : ∀ c ∈ digits.take point.toNat, isAsciiDigit c = true :=
      fun c hc => hdigits.digits c (List.mem_of_mem_take hc)
    refine .positional ⟨?_, ?_⟩ ?_
    · intro hnil
      have hlength := congrArg List.length hnil
      rw [List.length_append, List.length_replicate, List.length_nil] at hlength
      omega
    · exact List.forall_mem_append.mpr ⟨hbefore, fun c => isAsciiDigit_of_mem_replicate⟩
    · split
      next => exact ⟨List.cons_ne_nil _ _, by simp [isAsciiDigit]⟩
      next hafter =>
        exact ⟨by simpa using hafter, fun c hc => hdigits.digits c (List.mem_of_mem_drop hc)⟩

theorem isFloatNumeral_scientific (power : Int) : IsFloatNumeral (scientific digits power) := by
  obtain ⟨first, rest, rfl⟩ := List.exists_cons_of_ne_nil hdigits.ne_nil
  obtain ⟨hfirst, hrest⟩ := List.forall_mem_cons.mp hdigits.digits
  have hwhole : IsDecimal [first] :=
    ⟨List.cons_ne_nil _ _, fun c hc => by rwa [List.mem_singleton.mp hc]⟩
  have hsize := isDecimal_toString power.natAbs
  unfold scientific
  rw [List.append_assoc]
  refine .scientific hwhole ?_ ?_ ?_
  · cases rest with
    | nil => exact .inl rfl
    | cons second more => exact .inr ⟨_, ⟨List.cons_ne_nil _ _, hrest⟩, rfl⟩
  · split
    · exact .inl rfl
    · exact .inr rfl
  · split
    · exact ⟨List.cons_ne_nil _ _, List.forall_mem_cons.mpr ⟨by decide, hsize.digits⟩⟩
    · exact hsize

end

theorem ofDigitChars_zeros (count : Nat) :
    Nat.ofDigitChars 10 (List.replicate count '0') 0 = 0 := by
  induction count with
  | zero => rfl
  | succ count ih => exact ih

/-- A number that is not zero has a digit that is not. -/
theorem isDecimal_significant {n : Nat} (hn : n ≠ 0) : IsDecimal (significant n) := by
  have hdigits := isDecimal_toString n
  refine ⟨fun hnil => hn ?_, fun c hc => hdigits.digits c ?_⟩
  · rw [significant, List.reverse_eq_nil_iff, List.dropWhile_eq_nil_iff] at hnil
    have hzeros : Nat.toDigits 10 n = List.replicate (Nat.toDigits 10 n).length '0' := by
      refine List.eq_replicate_of_mem fun c hc => ?_
      have hzero := hnil c (by simpa [Nat.toString_eq_ofList_toDigits] using hc)
      simpa using hzero
    rw [← @Nat.ofDigitChars_toDigits 10 n (by decide) (by decide), hzeros, ofDigitChars_zeros]
  · exact List.mem_reverse.mp ((List.dropWhile_suffix _).subset (List.mem_reverse.mp hc))

/-- A finite float has a numeral, and a sign if it is negative. -/
theorem exists_isFloatNumeral {f : Float} {x : Binary64} (hx : Binary64.ofFloat? f = some x) :
    ∃ numeral, IsFloatNumeral numeral ∧
      (ofBinary64 x).toList = (if x.negative then ['-'] else []) ++ numeral := by
  unfold ofBinary64
  dsimp only
  split
  next =>
    refine ⟨['0', '.', '0'], ?_, String.toList_ofList⟩
    exact @IsFloatNumeral.positional ['0'] _ ⟨List.cons_ne_nil _ _, by simp [isAsciiDigit]⟩
      ⟨List.cons_ne_nil _ _, by simp [isAsciiDigit]⟩
  next hmantissa =>
    have hne := Shortest.digits_ne_zero hmantissa (Binary64.firstPlace_of_ofFloat? hx)
    have hdigits := isDecimal_significant hne
    refine ⟨_, ?_, String.toList_ofList⟩
    split
    · exact isFloatNumeral_positional hdigits _
    · exact isFloatNumeral_scientific hdigits _

end FloatText

end VersionedAssets.Number
