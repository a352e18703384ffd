import Mathlib.Data.List.Basic
import Mathlib.Tactic.Tauto
import VersionedAssets.Proofs.VersionToken
import VersionedAssets.ResourcePath

/-! # Safe paths and version tokens

A handler looks a path up only when it stays inside of its store and names no directory. Putting a
token into such a path keeps it so. Taking one off does not always: the segment that the token
stood in may turn into two dots, or into nothing at the end of the path.
-/

namespace VersionedAssets.ResourcePath

open VersionToken

/-- The paths that name a resource of a store: they have segments, and they neither are empty nor
end in a slash. -/
structure Guarded (path : String) : Prop where
  safe : segments? path ≠ none
  ne_empty : path ≠ ""
  not_directory : Text.endsWith path "/" = false

/-- A safe path that names no resource of a store names a directory. -/
theorem directory_of_not_guarded {path : String} (hnot : ¬ Guarded path)
    (hsafe : segments? path ≠ none) : path = "" ∨ Text.endsWith path "/" = true := by
  by_contra hneither
  rw [not_or, Bool.not_eq_true] at hneither
  exact hnot ⟨hsafe, hneither.1, hneither.2⟩

/-- What is left of the segment of a token when the token is gone. -/
def remainder (before after : List Char) : List Char :=
  Text.lastPiece '/' before ++ Text.firstPiece '/' after

theorem isUnsafe_eq_false_iff (segment : List Char) :
    isUnsafe segment = false ↔
      segment ≠ ['.', '.'] ∧ '\\' ∉ segment ∧ Char.ofNat 0 ∉ segment := by
  simp [isUnsafe, and_assoc]

theorem segments?_ne_none_iff (path : String) :
    segments? path ≠ none ↔
      ∀ part ∈ Text.pieceLists '/' path.toList, isUnsafe part = false := by
  simp only [segments?, segmentLists?]
  split
  next hrefused =>
    obtain ⟨part, hpart, htrue⟩ := List.any_eq_true.mp hrefused
    simp only [Option.map_none, ne_eq, not_true_eq_false, false_iff, not_forall]
    exact ⟨part, hpart, by simp [htrue]⟩
  next hsafe => simpa using hsafe

/-- A path without segments goes up somewhere or has a backslash or a NUL in it. -/
theorem segments?_eq_none_iff (path : String) :
    segments? path = none ↔
      ".." ∈ Text.pieces '/' path ∨ '\\' ∈ path.toList ∨ Char.ofNat 0 ∈ path.toList := by
  have hsafe := not_congr (segments?_ne_none_iff path)
  rw [not_not] at hsafe
  rw [hsafe, Text.mem_pieces_iff, ← Text.exists_mem_pieceLists_iff (show '\\' ≠ '/' by decide),
    ← Text.exists_mem_pieceLists_iff (show Char.ofNat 0 ≠ '/' by decide)]
  simp only [not_forall, Bool.not_eq_false]
  constructor
  · rintro ⟨part, hpart, hrefused⟩
    simp only [isUnsafe, Bool.or_eq_true, beq_iff_eq, List.contains_iff_mem] at hrefused
    rcases hrefused with (rfl | hbackslash) | hnul
    · exact .inl hpart
    · exact .inr (.inl ⟨part, hpart, hbackslash⟩)
    · exact .inr (.inr ⟨part, hpart, hnul⟩)
  · rintro (hup | ⟨part, hpart, hbackslash⟩ | ⟨part, hpart, hnul⟩)
    · exact ⟨_, hup, by decide⟩
    · exact ⟨part, hpart, by simp [isUnsafe, hbackslash]⟩
    · exact ⟨part, hpart, by simp [isUnsafe, hnul]⟩

theorem guarded_iff (path : String) :
    Guarded path ↔ (∀ part ∈ Text.pieceLists '/' path.toList, isUnsafe part = false) ∧
      path.toList ≠ [] ∧ path.toList.getLast? ≠ some '/' := by
  have hslash : Text.endsWith path "/" = false ↔ path.toList.getLast? ≠ some '/' := by
    rw [← Bool.not_eq_true, ne_eq, ← Text.endsWith_singleton_iff]
    rfl
  have hempty : path ≠ "" ↔ path.toList ≠ [] := by simp
  constructor
  · rintro ⟨hsafe, hne, hdir⟩
    exact ⟨(segments?_ne_none_iff path).mp hsafe, hempty.mp hne, hslash.mp hdir⟩
  · rintro ⟨hsafe, hne, hdir⟩
    exact ⟨(segments?_ne_none_iff path).mpr hsafe, hempty.mpr hne, hslash.mpr hdir⟩

/-! ## Tokens in segments -/

theorem slash_notMem {token : List Char} (htoken : IsToken token) : '/' ∉ token :=
  htoken.notMem (by decide) (by decide)

theorem backslash_notMem {token : List Char} (htoken : IsToken token) : '\\' ∉ token :=
  htoken.notMem (by decide) (by decide)

theorem nul_notMem {token : List Char} (htoken : IsToken token) : Char.ofNat 0 ∉ token :=
  htoken.notMem (by decide) (by decide)

/-- Only the segment that a token is put into can become unsafe, and only by its two dots. -/
theorem safe_around_iff {token : List Char} (htoken : IsToken token) (before after : List Char) :
    (∀ part ∈ Text.pieceLists '/' (before ++ after), isUnsafe part = false) ↔
      (∀ part ∈ Text.pieceLists '/' (before ++ token ++ after), isUnsafe part = false) ∧
        remainder before after ≠ ['.', '.'] := by
  obtain ⟨front, back, haround⟩ := Text.pieceLists_around '/' before after
  have hwithout := haround [] (by simp)
  have hwith := haround token (slash_notMem htoken)
  rw [List.append_nil, List.append_nil] at hwithout
  have hmiddle : isUnsafe (remainder before after) = false ↔
      isUnsafe (Text.lastPiece '/' before ++ token ++ Text.firstPiece '/' after) = false ∧
        remainder before after ≠ ['.', '.'] := by
    -- a letter of the token keeps its segment from being two dots
    have hletter : 'v' ∈ token := by
      obtain ⟨digits, _, _, rfl⟩ := htoken
      simp [marker]
    have hdots : Text.lastPiece '/' before ++ token ++ Text.firstPiece '/' after ≠ ['.', '.'] := by
      intro heq
      have hmem : 'v' ∈ ['.', '.'] := heq ▸ by simp [hletter]
      simp at hmem
    rw [isUnsafe_eq_false_iff, isUnsafe_eq_false_iff, remainder]
    simp only [List.mem_append, not_or, backslash_notMem htoken, nul_notMem htoken]
    tauto
  rw [hwithout, hwith]
  simp only [List.forall_mem_append, List.forall_mem_cons]
  rw [show Text.lastPiece '/' before ++ Text.firstPiece '/' after = remainder before after from rfl,
    hmiddle]
  tauto

/-- A token leaves nothing of its segment exactly when it is the last segment of its path. -/
theorem remainder_eq_nil_iff {before after : List Char} (hafter : endsBefore after = true) :
    remainder before after = [] ↔
      after = [] ∧ (before = [] ∨ before.getLast? = some '/') := by
  rw [remainder, List.append_eq_nil_iff, Text.lastPiece_eq_nil_iff, and_comm]
  rcases endsBefore_cases hafter with rfl | ⟨rest, rfl⟩
  · simp [Text.firstPiece]
  · simp [Text.firstPiece]

/-- A path with its first token taken off is safe to look up unless the token leaves nothing or two
dots of its segment. -/
theorem guarded_remove_iff {path : String} {before token after : List Char}
    (hguarded : Guarded path) (hfirst : First path.toList before token after) :
    Guarded (remove path) ↔
      remainder before after ≠ [] ∧ remainder before after ≠ ['.', '.'] := by
  obtain ⟨hsafe, -, hdir⟩ := (guarded_iff path).mp hguarded
  rw [hfirst.path_eq] at hsafe hdir
  rw [guarded_iff, remove_of_first hfirst, String.toList_ofList,
    safe_around_iff hfirst.isToken before after]
  have hends : remainder before after ≠ [] ↔
      before ++ after ≠ [] ∧ (before ++ after).getLast? ≠ some '/' := by
    rw [ne_eq, remainder_eq_nil_iff hfirst.ends]
    rcases endsBefore_cases hfirst.ends with rfl | ⟨rest, rfl⟩
    · simp
    · have hlast : (before ++ '.' :: rest).getLast? ≠ some '/' := by
        rw [List.getLast?_append_of_ne_nil _ (by simp)] at hdir ⊢
        exact hdir
      simpa using hlast
  rw [hends]
  tauto

/-- Putting a token in keeps a path safe to look up. -/
theorem guarded_inject {path : String} {lastModified : Int} (hguarded : Guarded path)
    (hnonneg : 0 ≤ lastModified) : Guarded (inject path lastModified) := by
  obtain ⟨hsafe, -, hdir⟩ := (guarded_iff path).mp hguarded
  obtain ⟨before, after, hpath, hinject, -⟩ := inject_eq path lastModified
  have htoken := isToken_ofTime hnonneg
  rw [hpath] at hsafe hdir
  rw [guarded_iff, hinject]
  refine ⟨((safe_around_iff htoken before after).mp hsafe).1, by simp [htoken.ne_nil], ?_⟩
  intro hlast
  -- the path ends with the token or with what it ended with before
  by_cases hafter : after = []
  · rw [hafter, List.append_nil, List.getLast?_append_of_ne_nil _ htoken.ne_nil] at hlast
    exact slash_notMem htoken (List.mem_of_getLast? hlast)
  · rw [List.getLast?_append_of_ne_nil _ hafter] at hlast hdir
    exact hdir hlast

end VersionedAssets.ResourcePath
