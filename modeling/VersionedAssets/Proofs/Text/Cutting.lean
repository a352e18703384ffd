import Mathlib.Data.List.Basic
import VersionedAssets.Proofs.Text.Pieces
import VersionedAssets.Text.Blank

/-! # Cutting and trimming

What a text is cut into, and what is trimmed off its ends, told from the texts that it was put
together from.
-/

namespace VersionedAssets.Text

/-! ## Trimming -/

theorem exists_trimList {α : Type} (p : α → Bool) (cs : List α) :
    ∃ front back, cs = front ++ trimList p cs ++ back ∧ (∀ c ∈ front, p c = true) ∧
      ∀ c ∈ back, p c = true := by
  refine ⟨cs.takeWhile p, ((cs.dropWhile p).reverse.takeWhile p).reverse, ?_,
    fun c hc => List.mem_takeWhile_imp hc,
    fun c hc => List.mem_takeWhile_imp (List.mem_reverse.mp hc)⟩
  rw [trimList, List.append_assoc, ← List.reverse_append, List.takeWhile_append_dropWhile,
    List.reverse_reverse, List.takeWhile_append_dropWhile]

/-- Trimming takes off what is around a text that has nothing of it at its ends. -/
theorem trimList_padded {α : Type} {p : α → Bool} {front middle back : List α}
    (hfront : ∀ c ∈ front, p c = true) (hback : ∀ c ∈ back, p c = true)
    (hfirst : ∃ c rest, middle = c :: rest ∧ p c = false)
    (hlast : ∃ rest c, middle = rest ++ [c] ∧ p c = false) :
    trimList p (front ++ middle ++ back) = middle := by
  obtain ⟨first, rest, hmiddle, hfirst⟩ := hfirst
  obtain ⟨rest', last, hmiddle', hlast⟩ := hlast
  have hleft : (front ++ middle ++ back).dropWhile p = middle ++ back := by
    rw [List.append_assoc, List.dropWhile_append_of_pos hfront, hmiddle, List.cons_append,
      List.dropWhile_cons_of_neg (by simp [hfirst])]
  have hright : (middle ++ back).reverse.dropWhile p = middle.reverse := by
    rw [List.reverse_append,
      List.dropWhile_append_of_pos fun c hc => hback c (List.mem_reverse.mp hc), hmiddle',
      List.reverse_append, List.reverse_singleton, List.singleton_append,
      List.dropWhile_cons_of_neg (by simp [hlast])]
  rw [trimList, hleft, hright, List.reverse_reverse]

theorem trimEndSlashes_of_getLast? {text : String} (hlast : text.toList.getLast? ≠ some '/') :
    trimEndSlashes text = text := by
  have hreverse : dropSlashes (String.ofList text.toList.reverse) =
      String.ofList text.toList.reverse := by
    refine dropSlashes_of_head? ?_
    rwa [String.toList_ofList, List.head?_reverse]
  have hlist := congrArg String.toList hreverse
  rw [dropSlashes, String.toList_ofList, String.toList_ofList] at hlist
  rw [trimEndSlashes, hlist, List.reverse_reverse, String.ofList_toList]

/-- No slashes are around a text whose pieces are all filled. -/
theorem trimSlashes_of_notMem {text : String} (hfilled : "" ∉ pieces '/' text) :
    trimSlashes text = text := by
  rw [mem_pieces_iff] at hfilled
  have hhead : text.toList.head? ≠ some '/' := by
    intro hslash
    obtain ⟨rest, hrest⟩ := List.head?_eq_some_iff.mp hslash
    rw [hrest] at hfilled
    exact hfilled (by simp [pieceLists])
  have hlast : text.toList.getLast? ≠ some '/' := by
    intro hslash
    obtain ⟨front, hfront⟩ := List.getLast?_eq_some_iff.mp hslash
    rw [hfront, pieceLists_append_cons] at hfilled
    exact hfilled (by simp [pieceLists])
  rw [trimSlashes, dropSlashes_of_head? hhead, trimEndSlashes_of_getLast? hlast]

/-! ## Cutting -/

variable {sep : Char}

/-- Texts with separators between them are cut as each of them is. -/
theorem pieceLists_intercalate_eq_flatMap {parts : List (List Char)} (hne : parts ≠ []) :
    pieceLists sep ([sep].intercalate parts) = parts.flatMap (pieceLists sep) := by
  induction parts with
  | nil => exact absurd rfl hne
  | cons part rest ih =>
      cases rest with
      | nil => simp
      | cons next rest =>
          rw [List.intercalate_cons_cons, List.append_assoc, List.singleton_append,
            pieceLists_append_cons, ih (List.cons_ne_nil _ _)]
          rfl

/-- Joining texts loses nothing of them. -/
theorem subset_intercalate {part : List Char} {parts : List (List Char)} (hpart : part ∈ parts) :
    part ⊆ [sep].intercalate parts := by
  induction parts with
  | nil => cases hpart
  | cons first rest ih =>
      cases rest with
      | nil => simp_all
      | cons next rest =>
          rw [List.intercalate_cons_cons]
          rcases List.mem_cons.mp hpart with rfl | hrest
          · intro c hc
            simp [hc]
          · intro c hc
            simp [ih hrest hc]

/-- With a separator before and after the text, every piece has one on both of its sides. -/
theorem exists_around_of_mem_pieceLists {cs piece : List Char}
    (hpiece : piece ∈ pieceLists sep cs) :
    ∃ before after, sep :: (cs ++ [sep]) = before ++ sep :: (piece ++ sep :: after) := by
  induction hlength : cs.length using Nat.strong_induction_on generalizing cs with
  | _ length ih =>
      have hnone := notMem_firstPiece sep cs
      rcases eq_firstPiece_or sep cs with hcs | ⟨rest, hcs⟩
      · rw [← hcs] at hnone
        rw [pieceLists_of_notMem hnone, List.mem_singleton] at hpiece
        exact ⟨[], [], by rw [hpiece]; rfl⟩
      · rw [hcs, pieceLists_append_cons, pieceLists_of_notMem hnone, List.singleton_append,
          List.mem_cons] at hpiece
        rcases hpiece with rfl | hrest
        · refine ⟨[], rest ++ [sep], ?_⟩
          nth_rewrite 1 [hcs]
          simp
        · have hshorter : rest.length < length := by
            rw [← hlength, hcs, List.length_append, List.length_cons]
            omega
          obtain ⟨before, after, heq⟩ := ih _ hshorter hrest rfl
          refine ⟨sep :: firstPiece sep cs ++ before, after, ?_⟩
          rw [List.append_assoc, ← heq]
          nth_rewrite 1 [hcs]
          simp

/-- The pieces of a text between two others without a separator. -/
theorem mem_pieceLists_enclosed {front cs back piece : List Char} (hfront : sep ∉ front)
    (hback : sep ∉ back) (hpiece : piece ∈ pieceLists sep (front ++ cs ++ back)) :
    (sep ∉ cs ∧ piece = front ++ cs ++ back) ∨ (∃ rest ⊆ cs, piece = front ++ rest) ∨
      (∃ rest ⊆ cs, piece = rest ++ back) ∨
      ∃ before after, cs = before ++ sep :: (piece ++ sep :: after) := by
  have hjoined {first last : List Char} (hfirst : sep ∉ first) (hlast : sep ∉ last) :
      sep ∉ first ++ last := by simp [hfirst, hlast]
  have hnone := notMem_firstPiece sep cs
  rcases eq_firstPiece_or sep cs with hcs | ⟨rest, hcs⟩
  · rw [← hcs] at hnone
    rw [pieceLists_of_notMem (hjoined (hjoined hfront hnone) hback), List.mem_singleton] at hpiece
    exact .inl ⟨hnone, hpiece⟩
  · have hrest : rest ⊆ cs := by
      intro c hc
      rw [hcs]
      simp [hc]
    have hfirst : firstPiece sep cs ⊆ cs := fun c hc => (List.takeWhile_prefix _).subset hc
    have hwhole : front ++ cs ++ back = front ++ firstPiece sep cs ++ sep :: (rest ++ back) := by
      nth_rewrite 1 [hcs]
      simp
    rw [hwhole, pieceLists_append_cons, pieceLists_of_notMem (hjoined hfront hnone),
      List.singleton_append, List.mem_cons] at hpiece
    rcases hpiece with rfl | hpiece
    · exact .inr (.inl ⟨_, hfirst, rfl⟩)
    · refine .inr (.inr ?_)
      have hlast := notMem_lastPiece sep rest
      rcases eq_lastPiece_or sep rest with hrest' | ⟨middle, hrest'⟩
      · rw [← hrest'] at hlast
        rw [pieceLists_of_notMem (hjoined hlast hback), List.mem_singleton] at hpiece
        exact .inl ⟨rest, hrest, hpiece⟩
      · have hwhole' : rest ++ back = middle ++ sep :: (lastPiece sep rest ++ back) := by
          nth_rewrite 1 [hrest']
          simp
        rw [hwhole', pieceLists_append_cons, pieceLists_of_notMem (hjoined hlast hback),
          List.mem_append, List.mem_singleton] at hpiece
        rcases hpiece with hmiddle | rfl
        · obtain ⟨before, after, heq⟩ := exists_around_of_mem_pieceLists hmiddle
          refine .inr ⟨firstPiece sep cs ++ before, after ++ lastPiece sep rest, ?_⟩
          calc
            cs = firstPiece sep cs ++ (sep :: (middle ++ [sep]) ++ lastPiece sep rest) := by
              nth_rewrite 1 [hcs]
              nth_rewrite 1 [hrest']
              simp
            _ = _ := by
              rw [heq]
              simp
        · refine .inl ⟨_, fun c hc => hrest ?_, rfl⟩
          rw [hrest']
          simp [hc]

theorem cutLast?_append {sep : Char} {after : List Char} (hafter : sep ∉ after)
    (before : List Char) : cutLast? sep (before ++ sep :: after) = some (before, after) := by
  have hplain : ∀ c ∈ after.reverse, decide (c ≠ sep) = true := by
    intro c hc
    rw [List.mem_reverse] at hc
    exact decide_eq_true fun heq => hafter (heq ▸ hc)
  have hreverse : (before ++ sep :: after).reverse = after.reverse ++ sep :: before.reverse := by
    simp
  rw [cutLast?, cutFirst?, hreverse, List.dropWhile_append_of_pos hplain,
    List.takeWhile_append_of_pos hplain]
  simp

theorem pieces_slash_append (text : String) :
    pieces '/' ("/" ++ text) = "" :: pieces '/' text := by
  simp [pieces, pieceLists]

end VersionedAssets.Text
