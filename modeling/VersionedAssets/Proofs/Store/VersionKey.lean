import Mathlib.Data.List.Basic
import VersionedAssets.Proofs.Attempt
import VersionedAssets.Proofs.ResourcePath.Segments
import VersionedAssets.Proofs.Text.Numerals
import VersionedAssets.Store.Webjar

/-! # The order of versions

Keys are in a total order. Among versions that are written with numbers alone it is the order of
their numbers, from the first one on, and a version is older than those that go on after it.
-/

namespace VersionedAssets

namespace VersionPart

instance : Std.TransCmp compare where
  eq_swap := by
    intro a b
    cases a <;> cases b <;> first | rfl | exact Std.OrientedOrd.eq_swap
  isLE_trans := by
    intro a b c hab hbc
    -- only parts of one kind are compared by what they hold
    cases a <;> cases b <;> cases c <;>
      first
      | exact Std.TransOrd.isLE_trans hab hbc
      | rfl
      | exact absurd hab Bool.false_ne_true
      | exact absurd hbc Bool.false_ne_true

instance : Std.LawfulEqCmp compare where
  compare_self := by
    intro a
    cases a <;> exact Std.ReflOrd.compare_self
  eq_of_compare := by
    intro a b hcompare
    cases a with
    | number m =>
        cases b with
        | number n => exact congrArg number (Std.LawfulEqOrd.eq_of_compare hcompare)
        | text t => cases hcompare
    | text s =>
        cases b with
        | number n => cases hcompare
        | text t => exact congrArg text (Std.LawfulEqOrd.eq_of_compare hcompare)

/-- The part is a number: decimal digits, and not more of them than can be read. -/
structure IsNumeral (part : String) : Prop where
  isDigits : Text.IsDigits part.toList
  length_le : part.length ≤ Text.Numeral.maxDigits

theorem read_of_isNumeral {part : String} (hnumeral : IsNumeral part) :
    read part = .ok (number (Text.digitsValue part.toList)) := by
  have hdigits : Text.allDigits part = true := by
    rw [Text.allDigits, Bool.and_eq_true, List.all_eq_true]
    refine ⟨by simpa using hnumeral.isDigits.ne_nil, fun c hc => ?_⟩
    rw [Text.isDigit, hnumeral.isDigits.digits c hc]
    rfl
  have hread := hnumeral.isDigits.read_eq (by rw [String.length_toList]; exact hnumeral.length_le)
  rw [String.ofList_toList] at hread
  rw [read, if_pos hdigits, hread]
  rfl

/-- A part that is not read as a number is a text, unless it consists of digits. -/
theorem exists_read_error_iff {part : String} :
    (∃ fault, read part = .error fault) ↔ Text.IsUnreadable part := by
  cases hdigits : Text.allDigits part with
  | false =>
      refine iff_of_false ?_ fun hunreadable => nomatch hdigits.symm.trans hunreadable.1
      rintro ⟨fault, hfault⟩
      rw [read, hdigits] at hfault
      cases hfault
  | true =>
      rw [← Text.exists_read_error_iff hdigits, read, if_pos hdigits]
      cases Text.Numeral.read part with
      | ok n => exact iff_of_false nofun nofun
      | error fault => exact iff_of_true ⟨_, rfl⟩ ⟨_, rfl⟩

theorem read_eq_error {part : String} {fault : Fault} (hfault : read part = .error fault) :
    ∃ numeral, fault = .value (.numeral numeral) := by
  unfold read at hfault
  split at hfault
  · split at hfault
    next => cases hfault
    next numeral _ => exact ⟨numeral, (Except.error.inj hfault).symm⟩
  · cases hfault

end VersionPart

namespace VersionKey

theorem compare_eq_compareLex : compare = List.compareLex VersionPart.compare := by
  funext a b
  induction a generalizing b with
  | nil => cases b <;> rfl
  | cons part rest ih =>
      cases b with
      | nil => rfl
      | cons other others => rw [compare, ih, List.compareLex_cons_cons]

instance : Std.TransCmp compare := compare_eq_compareLex ▸ inferInstance

instance : Std.LawfulEqCmp compare := compare_eq_compareLex ▸ inferInstance

theorem compare_self (key : VersionKey) : key.compare key = .eq := Std.ReflCmp.compare_self

theorem isLE_total (a b : VersionKey) :
    ((a.compare b).isLE || (b.compare a).isLE) = true := by
  have hswap : b.compare a = (a.compare b).swap := Std.OrientedCmp.eq_swap
  rw [hswap]
  cases a.compare b <;> rfl

/-- Numbers are compared from the first one on; the first difference decides. -/
theorem compare_numbers (a b : List Nat) :
    compare (a.map .number) (b.map .number) = Ord.compare a b := by
  induction a generalizing b with
  | nil => cases b <;> rfl
  | cons m rest ih =>
      cases b with
      | nil => rfl
      | cons n others =>
          rw [List.map_cons, List.map_cons, compare, ih, VersionPart.compare,
            List.compare_cons_cons]

/-- What goes on after a key is newer. -/
theorem compare_append (key : VersionKey) {more : VersionKey} (hmore : more ≠ []) :
    compare key (key ++ more) = .lt := by
  induction key with
  | nil =>
      obtain ⟨part, rest, rfl⟩ := List.exists_cons_of_ne_nil hmore
      rfl
  | cons part rest ih =>
      have hsame : part.compare part = .eq := Std.ReflCmp.compare_self
      rw [List.cons_append, compare, hsame, ih]
      rfl

/-- A version that is written with numbers and dots has the numbers as its key. -/
theorem read_of_isNumeral {parts : List String} (hne : parts ≠ [])
    (hparts : ∀ part ∈ parts, VersionPart.IsNumeral part) :
    read (Text.join "." parts) =
      .ok (parts.map fun part => .number (Text.digitsValue part.toList)) := by
  have hnone {c : Char} (hc : Text.digitValue? c = none) :
      ∀ part ∈ parts.map String.toList, c ∉ part :=
    List.forall_mem_map.mpr fun part hpart => (hparts part hpart).isDigits.notMem hc
  have hlists : Text.pieceLists '.' (Text.join "." parts).toList = parts.map String.toList := by
    rw [Text.join, String.toList_intercalate]
    exact Text.pieceLists_intercalate (by simpa using hne) (hnone (by decide))
  have hpieces : Text.pieces '.' (Text.join "." parts) = parts := by
    rw [Text.pieces, hlists, List.map_map]
    simp [Function.comp_def]
  have hswap : Text.swap '-' '.' (Text.join "." parts) = Text.join "." parts := by
    have hdash : '-' ∉ (Text.join "." parts).toList := by
      rw [← Text.exists_mem_pieceLists_iff (show '-' ≠ '.' by decide), hlists]
      rintro ⟨part, hpart, hmem⟩
      exact hnone (by decide) part hpart hmem
    have hsame : ∀ c ∈ (Text.join "." parts).toList, (if c = '-' then '.' else c) = c := by
      intro c hc
      rw [if_neg]
      rintro rfl
      exact hdash hc
    rw [Text.swap, List.map_congr_left hsame, List.map_id', String.ofList_toList]
  rw [read, hswap, hpieces]
  exact Attempt.mapM_eq_ok fun part hpart => VersionPart.read_of_isNumeral (hparts part hpart)

/-! ## Versions without a key -/

/-- One of the parts of the version consists of digits and is not read as a number. -/
def IsKeyless (version : String) : Prop :=
  ∃ part ∈ Text.pieces '.' (Text.swap '-' '.' version), Text.IsUnreadable part

theorem exists_read_error_iff {version : String} :
    (∃ fault, read version = .error fault) ↔ IsKeyless version := by
  rw [read, Attempt.exists_mapM_eq_error_iff]
  exact exists_congr fun part => and_congr_right fun _ => VersionPart.exists_read_error_iff

theorem read_eq_error {version : String} {fault : Fault} (hfault : read version = .error fault) :
    ∃ numeral, fault = .value (.numeral numeral) := by
  obtain ⟨part, -, hpart⟩ := Attempt.exists_of_mapM_eq_error hfault
  exact VersionPart.read_eq_error hpart

/-! ## What is promised -/

/-- What is promised of the order of versions. -/
structure OrdersVersions : Prop where
  eq_iff : ∀ a b : VersionKey, a.compare b = .eq ↔ a = b
  swap : ∀ a b : VersionKey, b.compare a = (a.compare b).swap
  trans : ∀ a b c : VersionKey, a.compare b ≠ .gt → b.compare c ≠ .gt → a.compare c ≠ .gt
  /-- Versions of numbers alone are in the order of the lists of their numbers. -/
  numbers : ∀ parts others : List String, parts ≠ [] → others ≠ [] →
    (∀ part ∈ parts ++ others, VersionPart.IsNumeral part) →
      ∃ key key', read (Text.join "." parts) = .ok key ∧ read (Text.join "." others) = .ok key' ∧
        key.compare key' = Ord.compare (parts.map fun part => Text.digitsValue part.toList)
          (others.map fun part => Text.digitsValue part.toList)
  shorter_older : ∀ key more : VersionKey, more ≠ [] → key.compare (key ++ more) = .lt

theorem ordersVersions : OrdersVersions := by
  constructor
  case eq_iff =>
    intro a b
    refine ⟨Std.LawfulEqCmp.eq_of_compare, ?_⟩
    rintro rfl
    exact compare_self a
  case swap => exact fun a b => Std.OrientedCmp.eq_swap
  case trans =>
    intro a b c hab hbc
    exact Ordering.isLE_iff_ne_gt.mp (Std.TransCmp.isLE_trans (Ordering.isLE_iff_ne_gt.mpr hab)
      (Ordering.isLE_iff_ne_gt.mpr hbc))
  case numbers =>
    intro parts others hparts hothers hnumerals
    obtain ⟨hfirst, hsecond⟩ := List.forall_mem_append.mp hnumerals
    refine ⟨_, _, read_of_isNumeral hparts hfirst, read_of_isNumeral hothers hsecond, ?_⟩
    rw [← compare_numbers, List.map_map, List.map_map]
    rfl
  case shorter_older => exact fun key more => compare_append key

end VersionKey

end VersionedAssets
