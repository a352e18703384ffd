import Mathlib.Data.List.TakeWhile
import VersionedAssets.Text.Pieces

/-! # Pieces of texts that are joined

A separator between two texts keeps their pieces apart. Without one, the last piece of the first
text and the first piece of the second grow together, and no other piece changes.
-/

namespace VersionedAssets.Text

/-- What stands before the first separator, or everything if there is none. -/
def firstPiece (sep : Char) (cs : List Char) : List Char := cs.takeWhile (· ≠ sep)

/-- What stands after the last separator, or everything if there is none. -/
def lastPiece (sep : Char) (cs : List Char) : List Char :=
  (cs.reverse.takeWhile (· ≠ sep)).reverse

theorem pieceLists_append_cons (sep : Char) (front back : List Char) :
    pieceLists sep (front ++ sep :: back) = pieceLists sep front ++ pieceLists sep back := by
  induction front with
  | nil => simp [pieceLists]
  | cons c rest ih =>
      by_cases hc : c = sep
      · simp [pieceLists, hc, ih]
      · cases hrest : pieceLists sep rest with
        | nil => exact absurd hrest (pieceLists_ne_nil sep rest)
        | cons piece pieces => simp [pieceLists, hc, ih, hrest]

theorem pieceLists_of_notMem {sep : Char} {cs : List Char} (hsep : sep ∉ cs) :
    pieceLists sep cs = [cs] := by
  induction cs with
  | nil => rfl
  | cons c rest ih =>
      simp only [List.mem_cons, not_or] at hsep
      simp [pieceLists, Ne.symm hsep.1, ih hsep.2]

/-- A character other than the separator is in the text if and only if it is in a piece. -/
theorem exists_mem_pieceLists_iff {sep c : Char} (hc : c ≠ sep) (cs : List Char) :
    (∃ piece ∈ pieceLists sep cs, c ∈ piece) ↔ c ∈ cs := by
  induction cs with
  | nil => simp [pieceLists]
  | cons first rest ih =>
      by_cases hfirst : first = sep
      · simp [pieceLists, hfirst, ih, hc]
      · cases hrest : pieceLists sep rest with
        | nil => exact absurd hrest (pieceLists_ne_nil sep rest)
        | cons piece pieces =>
            rw [hrest] at ih
            simp only [List.mem_cons, exists_eq_or_imp] at ih
            simp [pieceLists, hfirst, hrest, or_assoc, ih]

theorem mem_pieces_iff (sep : Char) (text piece : String) :
    piece ∈ pieces sep text ↔ piece.toList ∈ pieceLists sep text.toList := by
  rw [pieces, List.mem_map]
  constructor
  · rintro ⟨cs, hcs, rfl⟩
    rwa [String.toList_ofList]
  · exact fun hpiece => ⟨piece.toList, hpiece, String.ofList_toList⟩

theorem notMem_firstPiece (sep : Char) (cs : List Char) : sep ∉ firstPiece sep cs := by
  intro hmem
  simpa using List.mem_takeWhile_imp hmem

theorem notMem_lastPiece (sep : Char) (cs : List Char) : sep ∉ lastPiece sep cs := by
  intro hmem
  simpa using List.mem_takeWhile_imp (List.mem_reverse.mp hmem)

theorem lastPiece_eq_nil_iff (sep : Char) (cs : List Char) :
    lastPiece sep cs = [] ↔ cs = [] ∨ cs.getLast? = some sep := by
  rcases List.eq_nil_or_concat cs with rfl | ⟨front, c, rfl⟩
  · simp [lastPiece]
  · simp [lastPiece]

theorem endsWith_singleton_iff (text : String) (c : Char) :
    endsWith text (String.singleton c) = true ↔ text.toList.getLast? = some c := by
  rw [endsWith, List.isSuffixOf_iff_suffix, String.toList_singleton,
    List.getLast?_eq_some_iff]
  constructor
  · rintro ⟨front, hfront⟩
    exact ⟨front, hfront.symm⟩
  · rintro ⟨front, hfront⟩
    exact ⟨front, hfront.symm⟩

theorem eq_of_dropWhile_eq_cons {sep c : Char} {cs rest : List Char}
    (hrest : cs.dropWhile (· ≠ sep) = c :: rest) : cs = firstPiece sep cs ++ sep :: rest := by
  have hcut : firstPiece sep cs ++ cs.dropWhile (· ≠ sep) = cs := List.takeWhile_append_dropWhile
  have hc : c = sep := by
    have hhead := List.head?_dropWhile_not (· ≠ sep) cs
    rw [hrest] at hhead
    simpa using hhead
  rw [hrest, hc] at hcut
  exact hcut.symm

theorem eq_firstPiece_or (sep : Char) (cs : List Char) :
    cs = firstPiece sep cs ∨ ∃ after, cs = firstPiece sep cs ++ sep :: after := by
  cases hrest : cs.dropWhile (· ≠ sep) with
  | nil =>
      left
      have hcut : firstPiece sep cs ++ cs.dropWhile (· ≠ sep) = cs :=
        List.takeWhile_append_dropWhile
      rw [hrest, List.append_nil] at hcut
      exact hcut.symm
  | cons c after => exact .inr ⟨after, eq_of_dropWhile_eq_cons hrest⟩

theorem eq_lastPiece_or (sep : Char) (cs : List Char) :
    cs = lastPiece sep cs ∨ ∃ before, cs = before ++ sep :: lastPiece sep cs := by
  rcases eq_firstPiece_or sep cs.reverse with hcs | ⟨after, hcs⟩
  · left
    exact List.reverse_eq_iff.mp hcs
  · right
    refine ⟨after.reverse, ?_⟩
    have hback := congrArg List.reverse hcs
    simpa [lastPiece, firstPiece] using hback

theorem cutFirst?_eq_some {sep : Char} {cs before after : List Char}
    (hcut : cutFirst? sep cs = some (before, after)) :
    cs = before ++ sep :: after ∧ sep ∉ before := by
  unfold cutFirst? at hcut
  split at hcut
  next => cases hcut
  next c rest hrest =>
    obtain ⟨rfl, rfl⟩ := Prod.mk.inj (Option.some.inj hcut)
    exact ⟨eq_of_dropWhile_eq_cons hrest, notMem_firstPiece sep cs⟩

theorem notMem_of_cutFirst? {sep : Char} {cs : List Char} (hcut : cutFirst? sep cs = none) :
    sep ∉ cs := by
  unfold cutFirst? at hcut
  split at hcut
  next hrest =>
    intro hmem
    simpa using List.dropWhile_eq_nil_iff.mp hrest sep hmem
  next => cases hcut

theorem cutLast?_eq_some {sep : Char} {cs before after : List Char}
    (hcut : cutLast? sep cs = some (before, after)) :
    cs = before ++ sep :: after ∧ sep ∉ after := by
  unfold cutLast? at hcut
  obtain ⟨⟨back, front⟩, hfirst, hpair⟩ := Option.map_eq_some_iff.mp hcut
  obtain ⟨hcs, hsep⟩ := cutFirst?_eq_some hfirst
  obtain ⟨rfl, rfl⟩ := Prod.mk.inj hpair
  refine ⟨?_, by simpa using hsep⟩
  have hreverse := congrArg List.reverse hcs
  simpa using hreverse

theorem notMem_of_cutLast? {sep : Char} {cs : List Char} (hcut : cutLast? sep cs = none) :
    sep ∉ cs := by
  have hnot := notMem_of_cutFirst? (Option.map_eq_none_iff.mp hcut)
  simpa using hnot

/-- Characters without a separator change only the piece that they are put into. -/
theorem pieceLists_around (sep : Char) (before after : List Char) :
    ∃ front back, ∀ middle, sep ∉ middle →
      pieceLists sep (before ++ middle ++ after) =
        front ++ (lastPiece sep before ++ middle ++ firstPiece sep after) :: back := by
  -- what follows can only change the last piece of what stands before, and the other way around
  have hleft : ∃ front, ∀ cs, pieceLists sep (before ++ cs) =
      front ++ pieceLists sep (lastPiece sep before ++ cs) := by
    rcases eq_lastPiece_or sep before with hbefore | ⟨start, hbefore⟩
    · exact ⟨[], fun cs => by rw [← hbefore, List.nil_append]⟩
    · refine ⟨pieceLists sep start, fun cs => ?_⟩
      rw [← pieceLists_append_cons, ← List.cons_append, ← List.append_assoc, ← hbefore]
  have hright : ∃ back, ∀ cs, sep ∉ cs → pieceLists sep (cs ++ after) =
      (cs ++ firstPiece sep after) :: back := by
    rcases eq_firstPiece_or sep after with hafter | ⟨rest, hafter⟩
    · refine ⟨[], fun cs hcs => ?_⟩
      have hafter' : sep ∉ after := hafter ▸ notMem_firstPiece sep after
      rw [← hafter, pieceLists_of_notMem]
      rw [List.mem_append, not_or]
      exact ⟨hcs, hafter'⟩
    · refine ⟨pieceLists sep rest, fun cs hcs => ?_⟩
      have hfirst : sep ∉ cs ++ firstPiece sep after := by
        rw [List.mem_append, not_or]
        exact ⟨hcs, notMem_firstPiece sep after⟩
      calc
        pieceLists sep (cs ++ after)
            = pieceLists sep ((cs ++ firstPiece sep after) ++ sep :: rest) := by
              rw [List.append_assoc, ← hafter]
        _ = [cs ++ firstPiece sep after] ++ pieceLists sep rest := by
              rw [pieceLists_append_cons, pieceLists_of_notMem hfirst]
  obtain ⟨front, hfront⟩ := hleft
  obtain ⟨back, hback⟩ := hright
  refine ⟨front, back, fun middle hmiddle => ?_⟩
  rw [List.append_assoc, hfront, ← List.append_assoc, hback]
  rw [List.mem_append, not_or]
  exact ⟨notMem_lastPiece sep before, hmiddle⟩

/-! ## Slashes at the beginning -/

theorem head?_dropSlashes (text : String) : (dropSlashes text).toList.head? ≠ some '/' := by
  rw [dropSlashes, String.toList_ofList]
  have hhead := List.head?_dropWhile_not (fun c => decide (c = '/')) text.toList
  intro hslash
  rw [hslash] at hhead
  simp at hhead

theorem dropSlashes_of_head? {text : String} (hhead : text.toList.head? ≠ some '/') :
    dropSlashes text = text := by
  rw [dropSlashes, ← String.toList_inj, String.toList_ofList]
  cases hcs : text.toList with
  | nil => rfl
  | cons c rest =>
      have hc : c ≠ '/' := by
        rintro rfl
        exact hhead (by rw [hcs]; rfl)
      exact List.dropWhile_cons_of_neg (by simpa using hc)

theorem dropSlashes_slash_append (text : String) :
    dropSlashes ("/" ++ text) = dropSlashes text := by
  rw [dropSlashes, String.toList_append]
  rfl

end VersionedAssets.Text
