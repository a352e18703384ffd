import VersionedAssets.Proofs.Text.Cutting
import VersionedAssets.ResourcePath

/-! # Segments of resource paths

The segments of a path are safe: none of them leads up, or to another place than the entry of that
name. Safe segments with slashes between them make up a path that has these segments again.
-/

namespace VersionedAssets

namespace Text

variable {sep : Char}

theorem notMem_of_mem_pieceLists {cs piece : List Char} (hpiece : piece ∈ pieceLists sep cs) :
    sep ∉ piece := by
  induction cs generalizing piece with
  | nil =>
      obtain rfl := List.mem_singleton.mp hpiece
      exact List.not_mem_nil
  | cons c rest ih =>
      unfold pieceLists at hpiece
      split at hpiece
      next =>
        rcases List.mem_cons.mp hpiece with rfl | hpiece
        · exact List.not_mem_nil
        · exact ih hpiece
      next hc =>
        split at hpiece
        next hnone => exact absurd hnone (pieceLists_ne_nil sep rest)
        next first pieces hsome =>
          rcases List.mem_cons.mp hpiece with rfl | hpiece
          · have hfirst : sep ∉ first := ih (by simp [hsome])
            simp [Ne.symm hc, hfirst]
          · exact ih (by simp [hsome, hpiece])

/-- Pieces without the separator are what is between the separators again. -/
theorem pieceLists_intercalate {parts : List (List Char)} (hne : parts ≠ [])
    (hparts : ∀ part ∈ parts, sep ∉ part) : pieceLists sep ([sep].intercalate parts) = parts := by
  rw [pieceLists_intercalate_eq_flatMap hne]
  calc
    parts.flatMap (pieceLists sep) = parts.flatMap fun part => [part] :=
      List.flatMap_congr fun part hpart => pieceLists_of_notMem (hparts part hpart)
    _ = parts := List.flatMap_singleton' parts

/-- What is between the separators makes up the text again. -/
theorem intercalate_pieceLists (sep : Char) (cs : List Char) :
    [sep].intercalate (pieceLists sep cs) = cs := by
  induction cs with
  | nil => rfl
  | cons c rest ih =>
      cases hrest : pieceLists sep rest with
      | nil => exact absurd hrest (pieceLists_ne_nil sep rest)
      | cons piece pieces =>
          rw [hrest] at ih
          by_cases hc : c = sep
          · rw [pieceLists, if_pos hc, hrest, List.intercalate_cons_cons, ih, hc]
            rfl
          · rw [pieceLists, if_neg hc, hrest]
            cases pieces with
            | nil => simpa using ih
            | cons next pieces =>
                rw [List.intercalate_cons_cons] at ih ⊢
                rw [← ih]
                rfl

theorem toList_join (parts : List String) :
    (join "/" parts).toList = ['/'].intercalate (parts.map String.toList) :=
  String.toList_intercalate

theorem pieces_join {parts : List String} (hne : parts ≠ [])
    (hparts : ∀ part ∈ parts, '/' ∉ part.toList) : pieces '/' (join "/" parts) = parts := by
  rw [pieces, toList_join, pieceLists_intercalate (by simpa using hne)
    (List.forall_mem_map.mpr hparts), List.map_map]
  simp [Function.comp_def]

theorem join_pieces (text : String) : join "/" (pieces '/' text) = text := by
  rw [← String.toList_inj, toList_join, pieces, List.map_map]
  simp [Function.comp_def, intercalate_pieceLists]

end Text

namespace ResourcePath

/-- The segment names an entry of a directory, and nothing else. -/
structure IsSafe (segment : String) : Prop where
  ne_empty : segment ≠ ""
  ne_dot : segment ≠ "."
  ne_up : segment ≠ ".."
  no_slash : '/' ∉ segment.toList
  no_backslash : '\\' ∉ segment.toList
  no_nul : Char.ofNat 0 ∉ segment.toList

variable {path : String} {segments : List String}

theorem isSafe_ofList_iff {part : List Char} :
    IsSafe (String.ofList part) ↔ isUnsafe part = false ∧ isVoid part = false ∧ '/' ∉ part := by
  have hne (text : String) : String.ofList part ≠ text ↔ part ≠ text.toList := by
    rw [ne_eq, ← String.toList_inj, String.toList_ofList]
  constructor
  · rintro ⟨hempty, hdot, hup, hslash, hbackslash, hnul⟩
    rw [hne] at hempty hdot hup
    rw [String.toList_ofList] at hslash hbackslash hnul
    refine ⟨?_, ?_, hslash⟩
    · simpa [isUnsafe, hbackslash, hnul] using hup
    · simpa [isVoid] using And.intro hempty hdot
  · rintro ⟨hsafe, hnamed, hslash⟩
    simp only [isUnsafe, Bool.or_eq_false_iff, beq_eq_false_iff_ne, List.contains_eq_mem,
      decide_eq_false_iff_not] at hsafe
    simp only [isVoid, Bool.or_eq_false_iff, beq_eq_false_iff_ne] at hnamed
    constructor
    case ne_empty => exact (hne _).mpr hnamed.1
    case ne_dot => exact (hne _).mpr hnamed.2
    case ne_up => exact (hne _).mpr hsafe.1.1
    case no_slash => rwa [String.toList_ofList]
    case no_backslash => rw [String.toList_ofList]; exact hsafe.1.2
    case no_nul => rw [String.toList_ofList]; exact hsafe.2

theorem isSafe_iff {segment : String} :
    IsSafe segment ↔ isUnsafe segment.toList = false ∧ isVoid segment.toList = false ∧
      '/' ∉ segment.toList := by
  rw [← isSafe_ofList_iff, String.ofList_toList]

instance (segment : String) : Decidable (IsSafe segment) := decidable_of_iff _ isSafe_iff.symm

/-- The segments of a path told by its pieces. -/
theorem segments?_eq (path : String) :
    segments? path =
      if (Text.pieces '/' path).any fun part => isUnsafe part.toList then none
      else some ((Text.pieces '/' path).filter fun part => !isVoid part.toList) := by
  have hany : ((Text.pieces '/' path).any fun part => isUnsafe part.toList) =
      (Text.pieceLists '/' path.toList).any isUnsafe := by
    simp [Text.pieces, Function.comp_def]
  have hfilter : ((Text.pieces '/' path).filter fun part => !isVoid part.toList) =
      ((Text.pieceLists '/' path.toList).filter fun part => !isVoid part).map String.ofList := by
    simp [Text.pieces, List.filter_map, Function.comp_def]
  rw [hany, hfilter, segments?, segmentLists?]
  split <;> rfl

theorem isSafe_of_segments? (hsegments : segments? path = some segments) :
    ∀ segment ∈ segments, IsSafe segment := by
  rw [segments?_eq] at hsegments
  split at hsegments
  next => cases hsegments
  next hsafe =>
    obtain rfl := Option.some.inj hsegments
    intro segment hsegment
    obtain ⟨hpiece, hnamed⟩ := List.mem_filter.mp hsegment
    refine isSafe_iff.mpr ⟨?_, by simpa using hnamed,
      Text.notMem_of_mem_pieceLists ((Text.mem_pieces_iff '/' path segment).mp hpiece)⟩
    rw [← Bool.not_eq_true]
    exact fun hrefused => hsafe (List.any_eq_true.mpr ⟨segment, hpiece, hrefused⟩)

theorem nonEmptySegments?_eq_some_iff :
    nonEmptySegments? path = some segments ↔ segments? path = some segments ∧ segments ≠ [] := by
  unfold nonEmptySegments?
  cases segments? path with
  | none => simp
  | some found =>
      cases found with
      | nil => simp [eq_comm]
      | cons segment rest =>
          constructor
          · rintro ⟨⟩
            exact ⟨rfl, List.cons_ne_nil _ _⟩
          · exact fun hfound => hfound.1

/-- Safe segments are those of the path that they are joined to. -/
theorem segments?_join (hsafe : ∀ segment ∈ segments, IsSafe segment) :
    segments? (Text.join "/" segments) = some segments := by
  by_cases hne : segments = []
  · rw [hne]
    decide
  · rw [segments?_eq, Text.pieces_join hne fun segment hsegment => (hsafe segment hsegment).no_slash,
      if_neg, List.filter_eq_self.mpr]
    · intro segment hsegment
      simp [(isSafe_iff.mp (hsafe segment hsegment)).2.1]
    · rw [Bool.not_eq_true, List.any_eq_false]
      intro segment hsegment
      simp [(isSafe_iff.mp (hsafe segment hsegment)).1]

end ResourcePath

end VersionedAssets
