import VersionedAssets.Proofs.VersionToken

/-! # Where tokens stand

A token is told by its place, the positions where it begins and ends. There is at most one end for
each beginning, since all the digits belong to a token and the dot that may follow is no digit. The
scanner finds the token that begins first, and taking it off moves what follows it up to where it
began.
-/

namespace VersionedAssets.VersionToken

/-- A token of the path stands from one position up to the other: a marker and one or more digits,
with the end of the path or a dot after them. -/
structure IsSpan (path : String) (start stop : Nat) : Prop where
  isToken : IsToken ((path.toList.take stop).drop start)
  ends : stop = path.toList.length ∨ path.toList[stop]? = some '.'

variable {path : String} {start stop : Nat}

/-! ## Positions and texts -/

theorem endsBefore_drop_iff (cs : List Char) (n : Nat) :
    endsBefore (cs.drop n) = true ↔ cs.length ≤ n ∨ cs[n]? = some '.' := by
  rw [← List.head?_drop, ← List.drop_eq_nil_iff]
  cases cs.drop n with
  | nil => simp [endsBefore]
  | cons c rest => simp [endsBefore]

theorem IsSpan.stop_le (hspan : IsSpan path start stop) : stop ≤ path.toList.length := by
  rcases hspan.ends with hend | hdot
  · exact hend.le
  · exact (List.getElem?_eq_some_iff.mp hdot).1.le

theorem IsSpan.start_lt (hspan : IsSpan path start stop) : start < stop := by
  have hne := hspan.isToken.ne_nil
  rw [ne_eq, List.drop_eq_nil_iff, List.length_take] at hne
  omega

theorem IsSpan.occurs (hspan : IsSpan path start stop) :
    Occurs path.toList (path.toList.take start) ((path.toList.take stop).drop start)
      (path.toList.drop stop) where
  path_eq := by
    have hbefore : (path.toList.take stop).take start = path.toList.take start := by
      rw [List.take_take, Nat.min_eq_left hspan.start_lt.le]
    rw [← hbefore, List.take_append_drop, List.take_append_drop]
  isToken := hspan.isToken
  ends := (endsBefore_drop_iff _ _).mpr (hspan.ends.imp_left (·.ge))

theorem Occurs.isSpan {before token after : List Char}
    (hoccurs : Occurs path.toList before token after) :
    IsSpan path before.length (before.length + token.length) where
  isToken := by
    rw [hoccurs.path_eq, ← List.length_append, List.take_left, List.drop_left]
    exact hoccurs.isToken
  ends := by
    have hlength : path.toList.length = before.length + token.length + after.length := by
      rw [hoccurs.path_eq, List.length_append, List.length_append]
    rcases endsBefore_cases hoccurs.ends with rfl | ⟨rest, rfl⟩
    · exact .inl hlength.symm
    · right
      rw [hoccurs.path_eq, ← List.length_append, List.getElem?_append_right (Nat.le_refl _),
        Nat.sub_self]
      rfl

/-- No two tokens begin at one position. -/
theorem IsSpan.stop_unique {stop' : Nat} (hspan : IsSpan path start stop)
    (hother : IsSpan path start stop') : stop = stop' := by
  obtain ⟨-, -, hafter⟩ := hspan.occurs.unique hother.occurs rfl
  have hlengths := congrArg List.length hafter
  rw [List.length_drop, List.length_drop] at hlengths
  have hstop := hspan.stop_le
  have hstop' := hother.stop_le
  omega

/-! ## The first place -/

theorem find?_eq_none_iff (path : String) :
    find? path = none ↔ ∀ start stop, ¬ IsSpan path start stop := by
  constructor
  · exact fun hfind start stop hspan => notOccurs_of_findFrom? hfind _ _ _ hspan.occurs
  · intro hnone
    by_contra hsome
    obtain ⟨span, hfind⟩ := Option.ne_none_iff_exists'.mp hsome
    obtain ⟨before, token, after, hfirst, -⟩ := first_of_findFrom? hfind
    exact hnone _ _ hfirst.toOccurs.isSpan

theorem isFirst_of_find? (hfind : find? path = some ⟨start, stop⟩) :
    IsSpan path start stop ∧ ∀ start' < start, ∀ stop', ¬ IsSpan path start' stop' := by
  obtain ⟨before, token, after, hfirst, hstart, hstop⟩ := first_of_findFrom? hfind
  simp only [Nat.zero_add] at hstart hstop
  subst hstart hstop
  refine ⟨hfirst.toOccurs.isSpan, fun start' hlt stop' hspan => ?_⟩
  have hleast := hfirst.leftmost _ _ _ hspan.occurs
  rw [List.length_take] at hleast
  omega

theorem find?_eq_some_iff (path : String) (start stop : Nat) :
    find? path = some ⟨start, stop⟩ ↔
      IsSpan path start stop ∧ ∀ start' < start, ∀ stop', ¬ IsSpan path start' stop' := by
  refine ⟨isFirst_of_find?, fun ⟨hspan, hleast⟩ => ?_⟩
  cases hfind : find? path with
  | none => exact absurd hspan ((find?_eq_none_iff path).mp hfind start stop)
  | some found =>
      obtain ⟨hfound, hleast'⟩ := isFirst_of_find? hfind
      -- neither of the two begins before the other
      have hstart : found.start = start := Nat.le_antisymm
        (Nat.le_of_not_lt fun hlt => hleast' _ hlt _ hspan)
        (Nat.le_of_not_lt fun hlt => hleast _ hlt _ hfound)
      have hstop : found.stop = stop := (hstart ▸ hfound).stop_unique hspan
      rw [← hstart, ← hstop]

/-! ## Taking the token off -/

theorem toList_remove_of_find? (hfind : find? path = some ⟨start, stop⟩) :
    (remove path).toList = path.toList.take start ++ path.toList.drop stop := by
  rw [remove, hfind, String.toList_ofList]

/-- What stands before the token stays, and what stands after it follows at once. -/
theorem getElem?_remove (hfind : find? path = some ⟨start, stop⟩) (i : Nat) :
    (remove path).toList[i]? = path.toList[if i < start then i else i + (stop - start)]? := by
  have hspan := (isFirst_of_find? hfind).1
  have hlt := hspan.start_lt
  have hle := hspan.stop_le
  have hlength : (path.toList.take start).length = start := by
    rw [List.length_take]
    omega
  rw [toList_remove_of_find? hfind]
  by_cases hi : i < start
  · rw [if_pos hi, List.getElem?_append_left (by omega), List.getElem?_take_of_lt hi]
  · rw [if_neg hi, List.getElem?_append_right (by omega), hlength, List.getElem?_drop]
    congr 1
    omega

theorem remove_eq_self_iff (path : String) : remove path = path ↔ isVersioned path = false := by
  rw [isVersioned, Option.isSome_eq_false_iff, Option.isNone_iff_eq_none]
  constructor
  · intro hsame
    by_contra hsome
    obtain ⟨span, hfind⟩ := Option.ne_none_iff_exists'.mp hsome
    have hspan := (isFirst_of_find? hfind).1
    have hlt := hspan.start_lt
    have hle := hspan.stop_le
    have hlength := congrArg List.length (toList_remove_of_find? hfind)
    rw [hsame, List.length_append, List.length_take, List.length_drop] at hlength
    omega
  · intro hfind
    rw [remove, hfind]

/-- The scanner finds exactly the token that begins first, and nothing in a path without tokens; no
two tokens begin at one position. Taking the token off keeps every other character in order, and
keeps the path as it is exactly if there is no token. -/
theorem find?_leftmost (path : String) :
    (∀ start stop, find? path = some ⟨start, stop⟩ ↔
      IsSpan path start stop ∧ ∀ start' < start, ∀ stop', ¬ IsSpan path start' stop') ∧
    (find? path = none ↔ ∀ start stop, ¬ IsSpan path start stop) ∧
    (∀ start stop stop', IsSpan path start stop → IsSpan path start stop' → stop = stop') ∧
    (∀ start stop, find? path = some ⟨start, stop⟩ → ∀ i,
      (remove path).toList[i]? = path.toList[if i < start then i else i + (stop - start)]?) ∧
    (remove path = path ↔ isVersioned path = false) := by
  refine ⟨find?_eq_some_iff path, find?_eq_none_iff path, ?_, ?_, remove_eq_self_iff path⟩
  · exact fun _ _ _ hspan hother => hspan.stop_unique hother
  · exact fun _ _ hfind i => getElem?_remove hfind i

/-- The last of three markers is followed by digits. It begins with the dash that the one before
ends with. -/
theorem find?_leftmost_repeated :
    find? "-ver-a-ver-ver-12.js" = some ⟨10, 17⟩ ∧ IsSpan "-ver-a-ver-ver-12.js" 10 17 ∧
      (∀ stop, IsSpan "-ver-a-ver-ver-12.js" 10 stop → stop = 17) ∧
      (remove "-ver-a-ver-ver-12.js").toList[10]? = some '.' := by
  obtain ⟨hfirst, -, hunique, hmoved, -⟩ := find?_leftmost "-ver-a-ver-ver-12.js"
  have hfind : find? "-ver-a-ver-ver-12.js" = some ⟨10, 17⟩ := by decide +kernel
  have hspan := ((hfirst 10 17).mp hfind).1
  refine ⟨hfind, hspan, fun stop hother => hunique 10 stop 17 hother hspan, ?_⟩
  rw [hmoved 10 17 hfind 10]
  decide +kernel

-- no digits, other characters than a dot after them, and digits that are not the ASCII ones
example : ∀ path ∈ ["app-ver-.js", "app-ver-12a.js", "app-ver-1-2.js", "app-ver-1\n",
    "app-ver-١.js"], find? path = none := by decide +kernel

end VersionedAssets.VersionToken
