import VersionedAssets.Proofs.Text.Utf8
import VersionedAssets.Request

/-! # Paths among the variables of a server

A server passes the path of a request on with one character for each byte. Every text comes back
from its bytes in this form, whatever characters it has. What is no text in this form, for a
character that is no byte or for bytes that are no UTF-8, is taken as it is.
-/

namespace VersionedAssets.Environ

open Text (IsUtf8 utf8 ofUtf8?)

/-- The text with one character for each byte. -/
def ofLatin1 (bytes : Bytes) : String := String.ofList (bytes.map fun b => Char.ofNat b.toNat)

/-- The path of a request whose variable for the path has this value, or is not set. -/
inductive Delivers : Option String → String → Prop where
  | absent : Delivers none "/"
  | empty : Delivers (some "") "/"
  | text {path : String} (hpath : path ≠ "") : Delivers (some (ofLatin1 (utf8 path))) path
  | other {raw : String} (hother : ∀ path, raw ≠ ofLatin1 (utf8 path)) : Delivers (some raw) raw

variable {environ : Environ} {raw path : String} {bytes : Bytes}

/-! ## Bytes as characters -/

theorem toNat_ofNat_byte (b : UInt8) : (Char.ofNat b.toNat).toNat = b.toNat := by
  have hlt := b.toNat_lt
  rw [Char.ofNat, dif_pos (.inl (by omega))]
  rfl

theorem ofNat_byte_of_lt {c : Char} (hc : c.toNat < 0x100) :
    Char.ofNat (UInt8.ofNat c.toNat).toNat = c := by
  rw [UInt8.toNat_ofNat', Nat.mod_eq_of_lt hc, Char.ofNat_toNat]

theorem latin1?_ofLatin1 (bytes : Bytes) : latin1? (ofLatin1 bytes) = some bytes := by
  have hall : (ofLatin1 bytes).toList.all (·.toNat < 0x100) = true := by
    rw [ofLatin1, String.toList_ofList, List.all_map, List.all_eq_true]
    intro b _
    simpa [toNat_ofNat_byte] using b.toNat_lt
  rw [latin1?, if_pos hall, ofLatin1, String.toList_ofList, List.map_map]
  simp [Function.comp_def, toNat_ofNat_byte]

theorem latin1?_eq_none_iff : latin1? raw = none ↔ ∃ c ∈ raw.toList, 0xFF < c.toNat := by
  unfold latin1?
  split
  next hall =>
    simp only [List.all_eq_true, decide_eq_true_eq] at hall
    simp only [reduceCtorEq, false_iff, not_exists, not_and]
    intro c hc
    have hlt := hall c hc
    omega
  next hall =>
    simp only [List.all_eq_true, decide_eq_true_eq, Classical.not_forall] at hall
    obtain ⟨c, hc, hlt⟩ := hall
    exact ⟨fun _ => ⟨c, hc, by omega⟩, fun _ => rfl⟩

theorem latin1?_eq_some_iff : latin1? raw = some bytes ↔ raw = ofLatin1 bytes := by
  constructor
  · intro hbytes
    unfold latin1? at hbytes
    split at hbytes
    next hall =>
      simp only [List.all_eq_true, decide_eq_true_eq] at hall
      obtain rfl := Option.some.inj hbytes
      have hsame : raw.toList.map (fun c => Char.ofNat (UInt8.ofNat c.toNat).toNat) = raw.toList :=
        calc
          raw.toList.map (fun c => Char.ofNat (UInt8.ofNat c.toNat).toNat)
              = raw.toList.map id :=
                List.map_congr_left fun c hc => ofNat_byte_of_lt (hall c hc)
          _ = raw.toList := List.map_id _
      rw [ofLatin1, List.map_map, Function.comp_def, hsame, String.ofList_toList]
    next => cases hbytes
  · rintro rfl
    exact latin1?_ofLatin1 bytes

/-! ## Texts among the values -/

theorem ofLatin1_utf8_empty : ofLatin1 (utf8 "") = "" := by decide +kernel

theorem ofLatin1_utf8_injective {first second : String}
    (hsame : ofLatin1 (utf8 first) = ofLatin1 (utf8 second)) : first = second := by
  have hbytes := latin1?_ofLatin1 (utf8 first)
  rw [hsame, latin1?_ofLatin1, Option.some.injEq] at hbytes
  have htext := Text.ofUtf8?_utf8 first
  rw [← hbytes, Text.ofUtf8?_utf8] at htext
  exact (Option.some.inj htext).symm

/-- A value is no text for one of two reasons. -/
theorem ne_ofLatin1_utf8_iff (raw : String) :
    (∀ path, raw ≠ ofLatin1 (utf8 path)) ↔
      (∃ c ∈ raw.toList, 0xFF < c.toNat) ∨ ∃ bytes, raw = ofLatin1 bytes ∧ ¬ IsUtf8 bytes := by
  constructor
  · intro hnone
    cases hbytes : latin1? raw with
    | none => exact .inl (latin1?_eq_none_iff.mp hbytes)
    | some bytes =>
        have hraw := latin1?_eq_some_iff.mp hbytes
        refine .inr ⟨bytes, hraw, fun hutf8 => ?_⟩
        obtain ⟨path, rfl⟩ := hutf8.exists_text
        exact hnone path hraw
  · rintro (hbeyond | ⟨bytes, rfl, hnot⟩) path hraw
    · rw [← latin1?_eq_none_iff, hraw, latin1?_ofLatin1] at hbeyond
      cases hbeyond
    · have hbytes := latin1?_ofLatin1 bytes
      rw [hraw, latin1?_ofLatin1, Option.some.injEq] at hbytes
      exact hnot (hbytes ▸ Text.isUtf8_utf8 path)

/-! ## The path of a request -/

theorem path_of_empty (hempty : environ.getD "PATH_INFO" "" = "") : environ.path = "/" := by
  rw [Environ.path, hempty]
  rfl

theorem path_of_ne_empty (hraw : environ.get? "PATH_INFO" = some raw) (hne : raw ≠ "") :
    environ.path = ((latin1? raw).bind ofUtf8?).getD raw := by
  have hvalue : environ.getD "PATH_INFO" "" = raw := by rw [getD, hraw, Option.getD_some]
  have hfilled : raw.isEmpty = false := by simpa using hne
  rw [Environ.path, hvalue]
  simp only [hfilled, Bool.false_eq_true, if_false]

theorem path_of_delivers {value : Option String} (hvalue : environ.get? "PATH_INFO" = value)
    (hdelivers : Delivers value path) : environ.path = path := by
  cases hdelivers with
  | absent => exact path_of_empty (by rw [getD, hvalue, Option.getD_none])
  | empty => exact path_of_empty (by rw [getD, hvalue, Option.getD_some])
  | text hpath =>
      have hne : ofLatin1 (utf8 path) ≠ "" := fun hempty =>
        hpath (ofLatin1_utf8_injective (hempty.trans ofLatin1_utf8_empty.symm))
      rw [path_of_ne_empty hvalue hne, latin1?_ofLatin1, Option.bind_some, Text.ofUtf8?_utf8,
        Option.getD_some]
  | other hother =>
      have hne : path ≠ "" := fun hempty => hother "" (hempty.trans ofLatin1_utf8_empty.symm)
      have hnone : (latin1? path).bind ofUtf8? = none := by
        rcases (ne_ofLatin1_utf8_iff path).mp hother with hbeyond | ⟨bytes, rfl, hnot⟩
        · rw [latin1?_eq_none_iff.mpr hbeyond, Option.bind_none]
        · rw [latin1?_ofLatin1, Option.bind_some, Text.ofUtf8?_eq_none_iff.mpr hnot]
      rw [path_of_ne_empty hvalue hne, hnone, Option.getD_none]

theorem exists_delivers (value : Option String) : ∃ path, Delivers value path := by
  cases value with
  | none => exact ⟨"/", .absent⟩
  | some raw =>
      by_cases htext : ∃ path, raw = ofLatin1 (utf8 path)
      · obtain ⟨path, rfl⟩ := htext
        by_cases hpath : path = ""
        · rw [hpath, ofLatin1_utf8_empty]
          exact ⟨"/", .empty⟩
        · exact ⟨path, .text hpath⟩
      · exact ⟨raw, .other (not_exists.mp htext)⟩

/-- The path of a request is the text that the server passed on, or the value as it is if there is
no text in it, or a slash if there is no value. There is no text in it exactly if it has a
character that is no byte, or bytes that are no UTF-8; the bytes of a text are told by the numbers
of its characters. -/
theorem ofEnviron_path_eq_iff (environ : Environ) :
    (∀ path, (Request.ofEnviron environ).path = path ↔
      Delivers (environ.get? "PATH_INFO") path) ∧
    (∀ raw, (∀ path, raw ≠ ofLatin1 (utf8 path)) ↔
      (∃ c ∈ raw.toList, 0xFF < c.toNat) ∨ ∃ bytes, raw = ofLatin1 bytes ∧ ¬ IsUtf8 bytes) ∧
    ∀ path bytes, Text.Writes (path.toList.map Char.toNat) bytes ↔ bytes = utf8 path := by
  refine ⟨fun path => ⟨?_, path_of_delivers rfl⟩, ne_ofLatin1_utf8_iff, Text.writes_iff⟩
  rintro rfl
  obtain ⟨path, hdelivers⟩ := exists_delivers (environ.get? "PATH_INFO")
  have hpath : (Request.ofEnviron environ).path = path := path_of_delivers rfl hdelivers
  rwa [hpath]

-- a text, and the same with the last byte of its character left out
example : Environ.path ⟨[("PATH_INFO", "/cafÃ©.css")]⟩ = "/café.css" ∧
    Environ.path ⟨[("PATH_INFO", "/cafÃ.css")]⟩ = "/cafÃ.css" := by decide +kernel

end VersionedAssets.Environ
