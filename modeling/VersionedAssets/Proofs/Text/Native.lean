import VersionedAssets.Proofs.Text.Words
import VersionedAssets.Text.Quoted

/-! # Texts for servers

A server takes the names and values of headers as texts of characters up to U+00FF, each of which
becomes one byte. Control characters are not for headers: a line feed would end one.
-/

namespace VersionedAssets.Text

/-- Is the character one byte, and none that controls anything? -/
def isNativeChar (c : Char) : Bool :=
  0x20 ≤ c.toNat && c.toNat ≤ 0xFF && !(0x7F ≤ c.toNat && c.toNat ≤ 0x9F)

/-- A server takes the text as it is. -/
def IsNative (text : String) : Prop := ∀ c ∈ text.toList, isNativeChar c = true

-- Over the characters of the text: a search for an instance may come back with one that goes
-- through every character there is.
instance (text : String) : Decidable (IsNative text) :=
  List.decidableBAll (fun c => isNativeChar c = true) text.toList

theorem isNative_append {front back : String} :
    IsNative (front ++ back) ↔ IsNative front ∧ IsNative back := by
  simp only [IsNative, String.toList_append, List.forall_mem_append]

/-! ## Numbers -/

theorem isNativeChar_of_ascii {c : Char} (hc : isAsciiDigit c = true) : isNativeChar c = true := by
  rw [isAsciiDigit_iff] at hc
  simp only [isNativeChar, Bool.and_eq_true, decide_eq_true_eq, Bool.not_eq_true',
    Bool.and_eq_false_iff, decide_eq_false_iff_not]
  omega

theorem isNative_of_isDecimal {text : String} (hdecimal : IsDecimal text.toList) :
    IsNative text := by
  intro c hc
  exact isNativeChar_of_ascii (hdecimal.digits c hc)

theorem isNative_toString_nat (n : Nat) : IsNative (toString n) :=
  isNative_of_isDecimal (isDecimal_toString n)

theorem isNative_toString_int (n : Int) : IsNative (toString n) := by
  cases n with
  | ofNat n => exact isNative_toString_nat n
  | negSucc n =>
      intro c hc
      rw [toList_toString_negSucc] at hc
      rcases List.mem_cons.mp hc with rfl | hdigit
      · decide
      · exact isNative_toString_nat (n + 1) c hdigit

theorem isNativeChar_hexDigit : ∀ n < 16, isNativeChar (Quoted.hexDigit n) = true := by decide

theorem isNative_hex (width n : Nat) : IsNative (String.ofList (Quoted.hex width n)) := by
  induction width generalizing n with
  | zero =>
      rw [Quoted.hex]
      decide
  | succ width ih =>
      rw [Quoted.hex, String.ofList_append, isNative_append]
      refine ⟨ih (n / 16), ?_⟩
      intro c hc
      rw [String.toList_ofList, List.mem_singleton] at hc
      rw [hc]
      exact isNativeChar_hexDigit _ (Nat.mod_lt n (by decide))

/-! ## Names of a list -/

theorem isNative_getD {names : List String} (hnames : ∀ name ∈ names, IsNative name) (n : Nat) :
    IsNative (names.getD n "") := by
  rw [List.getD_eq_getElem?_getD]
  cases hname : names[n]? with
  | none => decide
  | some name => exact hnames name (List.mem_of_getElem? hname)

end VersionedAssets.Text
