import Mathlib.Data.List.TakeWhile
import VersionedAssets.Proofs.Text.Pieces
import VersionedAssets.VersionToken

/-! # The first token of a path

What the scanner finds is described without it: a token is the marker with one or more digits,
followed by a dot or by nothing, and the first one is the one with the least in front of it. A token
that is put before the last dot becomes the first one, unless another token stands before an
earlier dot, so taking it off again gives the path back.
-/

namespace VersionedAssets.VersionToken

/-- The marker and one or more digits. -/
def IsToken (token : List Char) : Prop :=
  ∃ digits, digits ≠ [] ∧ (∀ c ∈ digits, Text.isAsciiDigit c = true) ∧ token = marker ++ digits

/-- A token of a path with what stands before and after it. -/
structure Occurs (path before token after : List Char) : Prop where
  path_eq : path = before ++ token ++ after
  isToken : IsToken token
  ends : endsBefore after = true

/-- The token of a path with the least before it. -/
structure First (path before token after : List Char) : Prop
    extends Occurs path before token after where
  leftmost : ∀ before' token' after', Occurs path before' token' after' →
    before.length ≤ before'.length

/-- No token of the path stands before a dot other than the last one. -/
def OnlyBeforeLastDot (path : List Char) : Prop :=
  ∀ before token rest, Occurs path before token ('.' :: rest) → '.' ∉ rest

theorem IsToken.ne_nil {token : List Char} (htoken : IsToken token) : token ≠ [] := by
  obtain ⟨digits, _, _, rfl⟩ := htoken
  simp [marker]

theorem IsToken.mem {token : List Char} (htoken : IsToken token) {c : Char} (hc : c ∈ token) :
    c ∈ marker ∨ Text.isAsciiDigit c = true := by
  obtain ⟨digits, _, hdigits, rfl⟩ := htoken
  exact (List.mem_append.mp hc).imp_right (hdigits c)

/-- A character that is neither of the marker nor a digit is not in a token. -/
theorem IsToken.notMem {token : List Char} (htoken : IsToken token) {c : Char}
    (hmarker : c ∉ marker) (hdigit : Text.isAsciiDigit c = false) : c ∉ token := by
  intro hc
  rcases htoken.mem hc with hmem | hmem
  · exact hmarker hmem
  · simp [hdigit] at hmem

theorem endsBefore_cases {after : List Char} (hafter : endsBefore after = true) :
    after = [] ∨ ∃ rest, after = '.' :: rest := by
  cases after with
  | nil => exact .inl rfl
  | cons c rest =>
      have hc : c = '.' := by simpa [endsBefore] using hafter
      exact .inr ⟨rest, by rw [hc]⟩

/-! ## What the scanner finds -/

theorem takeWhile_digits {digits after : List Char}
    (hdigits : ∀ c ∈ digits, Text.isAsciiDigit c = true) (hafter : endsBefore after = true) :
    (digits ++ after).takeWhile Text.isAsciiDigit = digits ∧
      (digits ++ after).dropWhile Text.isAsciiDigit = after := by
  rw [List.takeWhile_append_of_pos hdigits, List.dropWhile_append_of_pos hdigits]
  rcases endsBefore_cases hafter with rfl | ⟨rest, rfl⟩
  · simp
  · have hdot : Text.isAsciiDigit '.' = false := by decide
    simp [hdot]

theorem digitsAt?_of_occurs {cs token after : List Char} (hoccurs : Occurs cs [] token after) :
    ∃ count, digitsAt? cs = some count ∧ token.length = marker.length + count := by
  obtain ⟨hpath, ⟨digits, hne, hdigits, rfl⟩, hafter⟩ := hoccurs
  obtain ⟨htake, hdrop⟩ := takeWhile_digits hdigits hafter
  refine ⟨digits.length, ?_, List.length_append⟩
  have hmarker : marker.isPrefixOf cs = true := by
    rw [List.isPrefixOf_iff_prefix, hpath, List.nil_append, List.append_assoc]
    exact List.prefix_append _ _
  have hrest : cs.drop marker.length = digits ++ after := by
    rw [hpath, List.nil_append, List.append_assoc, List.drop_left]
  simp only [digitsAt?, hmarker, if_true, hrest, htake, hdrop]
  simp [hne, hafter]

theorem occurs_of_digitsAt? {cs : List Char} {count : Nat} (hcount : digitsAt? cs = some count) :
    ∃ token after, Occurs cs [] token after ∧ token.length = marker.length + count := by
  unfold digitsAt? at hcount
  split at hcount
  next hmarker =>
    obtain ⟨rest, rfl⟩ := List.isPrefixOf_iff_prefix.mp hmarker
    simp only [List.drop_left] at hcount
    split at hcount
    next => simp at hcount
    next hends =>
      simp only [Bool.or_eq_true, List.isEmpty_iff, Bool.not_eq_true', not_or,
        Bool.not_eq_false] at hends
      refine ⟨marker ++ rest.takeWhile Text.isAsciiDigit, rest.dropWhile Text.isAsciiDigit,
        ⟨?_, ⟨_, hends.1, fun c hc => List.mem_takeWhile_imp hc, rfl⟩, hends.2⟩, ?_⟩
      · rw [List.nil_append, List.append_assoc, List.takeWhile_append_dropWhile]
      · rw [List.length_append, Option.some.inj hcount]
  next => simp at hcount

theorem occurs_cons_iff {c : Char} {cs before token after : List Char} :
    Occurs (c :: cs) (c :: before) token after ↔ Occurs cs before token after := by
  constructor
  · rintro ⟨hpath, htoken, hafter⟩
    exact ⟨(List.cons.inj hpath).2, htoken, hafter⟩
  · rintro ⟨rfl, htoken, hafter⟩
    exact ⟨rfl, htoken, hafter⟩

/-- A token of a longer path begins at its first character or is a token of the rest. -/
theorem Occurs.cons_cases {c : Char} {cs before token after : List Char}
    (hoccurs : Occurs (c :: cs) before token after) :
    before = [] ∨ ∃ rest, before = c :: rest ∧ Occurs cs rest token after := by
  cases before with
  | nil => exact .inl rfl
  | cons head rest =>
      obtain ⟨rfl, _⟩ := List.cons.inj hoccurs.path_eq
      exact .inr ⟨rest, rfl, occurs_cons_iff.mp hoccurs⟩

theorem notOccurs_of_findFrom? {offset : Nat} {cs : List Char}
    (hfind : findFrom? offset cs = none) (before token after : List Char) :
    ¬ Occurs cs before token after := by
  induction cs generalizing offset before with
  | nil =>
      rintro ⟨hpath, htoken, _⟩
      simp [htoken.ne_nil] at hpath
  | cons c rest ih =>
      intro hoccurs
      cases hat : digitsAt? (c :: rest) with
      | some count => simp [findFrom?, hat] at hfind
      | none =>
          simp only [findFrom?, hat] at hfind
          rcases hoccurs.cons_cases with rfl | ⟨start, rfl, hrest⟩
          · obtain ⟨count, hcount, _⟩ := digitsAt?_of_occurs hoccurs
            simp [hat] at hcount
          · exact ih hfind start hrest

theorem first_of_findFrom? {offset : Nat} {cs : List Char} {span : Span}
    (hfind : findFrom? offset cs = some span) :
    ∃ before token after, First cs before token after ∧
      span.start = offset + before.length ∧
      span.stop = offset + before.length + token.length := by
  induction cs generalizing offset with
  | nil => simp [findFrom?] at hfind
  | cons c rest ih =>
      cases hat : digitsAt? (c :: rest) with
      | some count =>
          simp only [findFrom?, hat, Option.some.injEq] at hfind
          subst hfind
          obtain ⟨token, after, hoccurs, hlength⟩ := occurs_of_digitsAt? hat
          refine ⟨[], token, after, ⟨hoccurs, by simp⟩, rfl, ?_⟩
          simp only [List.length_nil, hlength]
          omega
      | none =>
          simp only [findFrom?, hat] at hfind
          obtain ⟨before, token, after, hfirst, hstart, hstop⟩ := ih hfind
          refine ⟨c :: before, token, after, ⟨occurs_cons_iff.mpr hfirst.toOccurs, ?_⟩, ?_, ?_⟩
          · intro before' token' after' hother
            rcases hother.cons_cases with rfl | ⟨start, rfl, hrest⟩
            · obtain ⟨count, hcount, _⟩ := digitsAt?_of_occurs hother
              simp [hat] at hcount
            · exact Nat.succ_le_succ (hfirst.leftmost start token' after' hrest)
          · rw [hstart, List.length_cons]
            omega
          · rw [hstop, List.length_cons]
            omega

/-- Two tokens that begin at one place are the same. -/
theorem Occurs.unique {path before token after before' token' after' : List Char}
    (hoccurs : Occurs path before token after) (hother : Occurs path before' token' after')
    (hlength : before.length = before'.length) :
    before = before' ∧ token = token' ∧ after = after' := by
  have hboth := hoccurs.path_eq.symm.trans hother.path_eq
  rw [List.append_assoc, List.append_assoc] at hboth
  obtain ⟨hbefore, hrest⟩ := List.append_inj hboth hlength
  have hat : Occurs (token ++ after) [] token after := ⟨rfl, hoccurs.isToken, hoccurs.ends⟩
  have hat' : Occurs (token' ++ after') [] token' after' := ⟨rfl, hother.isToken, hother.ends⟩
  obtain ⟨count, hcount, htoken⟩ := digitsAt?_of_occurs hat
  obtain ⟨count', hcount', htoken'⟩ := digitsAt?_of_occurs hat'
  have hcounts : count = count' := by
    rw [hrest, hcount'] at hcount
    exact (Option.some.inj hcount).symm
  obtain ⟨htokens, hafter⟩ := List.append_inj hrest (by omega)
  exact ⟨hbefore, htokens, hafter⟩

/-! ## Taking the first token off -/

theorem exists_first_or_notOccurs (cs : List Char) :
    (∃ before token after, First cs before token after) ∨
      ∀ before token after, ¬ Occurs cs before token after := by
  cases hfind : findFrom? 0 cs with
  | none => exact .inr (notOccurs_of_findFrom? hfind)
  | some span =>
      obtain ⟨before, token, after, hfirst, _⟩ := first_of_findFrom? hfind
      exact .inl ⟨before, token, after, hfirst⟩

theorem remove_of_notOccurs {path : String}
    (hnone : ∀ before token after, ¬ Occurs path.toList before token after) :
    remove path = path := by
  cases hfind : find? path with
  | none => simp [remove, hfind]
  | some span =>
      obtain ⟨before, token, after, hfirst, _⟩ := first_of_findFrom? hfind
      exact absurd hfirst.toOccurs (hnone before token after)

theorem remove_of_first {path : String} {before token after : List Char}
    (hfirst : First path.toList before token after) :
    remove path = String.ofList (before ++ after) := by
  cases hfind : find? path with
  | none => exact absurd hfirst.toOccurs (notOccurs_of_findFrom? hfind before token after)
  | some span =>
      obtain ⟨before', token', after', hother, hstart, hstop⟩ := first_of_findFrom? hfind
      -- both are first, so they begin at one place and are the same token
      have hlength := Nat.le_antisymm (hfirst.leftmost _ _ _ hother.toOccurs)
        (hother.leftmost _ _ _ hfirst.toOccurs)
      obtain ⟨rfl, rfl, rfl⟩ := hfirst.toOccurs.unique hother.toOccurs hlength
      have htake : path.toList.take span.start = before := by
        rw [hstart, Nat.zero_add, hfirst.path_eq, List.append_assoc, List.take_left]
      have hdrop : path.toList.drop span.stop = after := by
        rw [hstop, Nat.zero_add, ← List.length_append, hfirst.path_eq, List.drop_left]
      simp [remove, hfind, htake, hdrop]

/-! ## Putting a token in -/

theorem isToken_ofTime {lastModified : Int} (hnonneg : 0 ≤ lastModified) :
    IsToken (ofTime lastModified) := by
  obtain ⟨n, rfl⟩ := Int.eq_ofNat_of_zero_le hnonneg
  have hdigits : (toString (n : Int)).toList = Nat.toDigits 10 n := by
    rw [show toString (n : Int) = n.repr from rfl, Nat.toList_repr]
  refine ⟨Nat.toDigits 10 n, Nat.toDigits_ne_nil, ?_, by rw [ofTime, hdigits]⟩
  intro c hc
  have hdigit := Nat.isDigit_of_mem_toDigits (by decide) (by decide) hc
  obtain ⟨hlow, hhigh⟩ := Char.isDigit_iff_toNat.mp hdigit
  simp only [Text.isAsciiDigit, Bool.and_eq_true, decide_eq_true_eq]
  exact ⟨hlow, hhigh⟩

/-- No token begins inside of another one and goes on after its end. -/
theorem IsToken.eq_nil_of_overlap {token other front back rest after : List Char}
    (htoken : IsToken token) (hother : IsToken other) (hsplit : other = front ++ back)
    (hfront : front ≠ []) (hback : token ++ rest = back ++ after) : back = [] := by
  obtain ⟨digits, _, _, rfl⟩ := htoken
  obtain ⟨digits', hne', hdigits', rfl⟩ := hother
  by_contra hne
  -- the rest of the other token begins with the dash of this one
  obtain ⟨tail, rfl⟩ : ∃ tail, back = '-' :: tail := by
    cases back with
    | nil => exact absurd rfl hne
    | cons c tail =>
        simp only [marker, List.cons_append, List.cons.injEq] at hback
        exact ⟨tail, by rw [← hback.1]⟩
  rcases List.append_eq_append_iff.mp hsplit with ⟨early, _, hdigits⟩ | ⟨late, hmarker, htail⟩
  · have hdash := hdigits' '-' (by rw [hdigits]; simp)
    simp [Text.isAsciiDigit] at hdash
  · -- only the dash at the end of the marker is left, and a letter follows it, not a digit
    cases late with
    | nil =>
        rw [List.nil_append] at htail
        have hdash := hdigits' '-' (by rw [← htail]; simp)
        simp [Text.isAsciiDigit] at hdash
    | cons c late =>
        simp only [List.cons_append, List.cons.injEq] at htail
        obtain ⟨rfl, htail⟩ := htail
        have hlate : late = [] := by
          rcases front with _ | ⟨a, _ | ⟨b, _ | ⟨d, _ | ⟨e, _ | ⟨f, front⟩⟩⟩⟩⟩ <;>
            simp_all [marker]
        rw [hlate, List.nil_append] at htail
        cases digits' with
        | nil => exact hne' rfl
        | cons d digits' =>
            rw [htail] at hback
            simp only [marker, List.cons_append, List.cons.injEq] at hback
            have hletter := hdigits' 'v' (by rw [← hback.2.1]; simp)
            simp [Text.isAsciiDigit] at hletter

/-- A token that begins before a token put into a path ends before it, at a dot. -/
theorem Occurs.before_token {front token back before other after : List Char}
    (htoken : IsToken token) (hoccurs : Occurs (front ++ token ++ back) before other after)
    (hlt : before.length < front.length) :
    ∃ rest, front = before ++ other ++ '.' :: rest := by
  have hpath := hoccurs.path_eq
  rw [List.append_assoc, List.append_assoc] at hpath
  obtain ⟨middle, hfront, hmiddle⟩ : ∃ middle, front = before ++ middle ∧
      other ++ after = middle ++ (token ++ back) := by
    rcases List.append_eq_append_iff.mp hpath with ⟨late, hbefore, _⟩ | ⟨middle, hfront, hrest⟩
    · rw [hbefore, List.length_append] at hlt
      omega
    · exact ⟨middle, hfront, hrest⟩
  have hne : middle ≠ [] := by
    rintro rfl
    rw [hfront, List.append_nil] at hlt
    exact Nat.lt_irrefl _ hlt
  obtain ⟨rest, hother⟩ : ∃ rest, middle = other ++ rest ∧ after = rest ++ (token ++ back) := by
    rcases List.append_eq_append_iff.mp hmiddle with ⟨rest, hmid, hafter⟩ | ⟨tail, hsplit, htail⟩
    · exact ⟨rest, hmid, hafter⟩
    · have hnil := htoken.eq_nil_of_overlap hoccurs.isToken hsplit hne htail
      subst hnil
      exact ⟨[], by simpa using hsplit.symm, by simpa using htail.symm⟩
  obtain ⟨hmid, hafter⟩ := hother
  cases rest with
  | nil =>
      obtain ⟨digits, _, _, rfl⟩ := htoken
      have hends := hoccurs.ends
      rw [hafter] at hends
      simp [endsBefore, marker] at hends
  | cons c rest =>
      have hc : c = '.' := by
        have hends := hoccurs.ends
        rw [hafter] at hends
        simpa [endsBefore] using hends
      exact ⟨rest, by rw [hfront, hmid, hc, List.append_assoc]⟩

/-- Where a token is put in: before the last dot, or at the end of a path without a dot. -/
theorem inject_eq (path : String) (lastModified : Int) :
    ∃ before after, path.toList = before ++ after ∧
      (inject path lastModified).toList = before ++ ofTime lastModified ++ after ∧
      (after = [] ∧ '.' ∉ before ∨ ∃ rest, after = '.' :: rest ∧ '.' ∉ rest) := by
  cases hcut : Text.cutLast? '.' path.toList with
  | none =>
      refine ⟨path.toList, [], by simp, ?_, .inl ⟨rfl, Text.notMem_of_cutLast? hcut⟩⟩
      simp [inject, hcut]
  | some pair =>
      obtain ⟨before, rest⟩ := pair
      obtain ⟨hpath, hdot⟩ := Text.cutLast?_eq_some hcut
      refine ⟨before, '.' :: rest, hpath, ?_, .inr ⟨rest, rfl, hdot⟩⟩
      simp [inject, hcut]

/-- The token that is put in is the first one. -/
theorem first_inject {path : String} {lastModified : Int} (hnonneg : 0 ≤ lastModified)
    (honly : OnlyBeforeLastDot path.toList) :
    ∃ before after, path.toList = before ++ after ∧
      First (inject path lastModified).toList before (ofTime lastModified) after := by
  obtain ⟨before, after, hpath, hinject, hplace⟩ := inject_eq path lastModified
  have htoken := isToken_ofTime hnonneg
  have hends : endsBefore after = true := by
    rcases hplace with ⟨rfl, _⟩ | ⟨rest, rfl, _⟩ <;> rfl
  refine ⟨before, after, hpath, ⟨hinject, htoken, hends⟩, ?_⟩
  intro before' token' after' hother
  -- an earlier token would stand before a dot of the path that is not its last one
  by_contra hlt
  rw [hinject] at hother
  obtain ⟨rest, hbefore⟩ := hother.before_token htoken (Nat.lt_of_not_le hlt)
  have hoccurs : Occurs path.toList before' token' ('.' :: (rest ++ after)) :=
    ⟨by rw [hpath, hbefore]; simp, hother.isToken, rfl⟩
  have hdot := honly _ _ _ hoccurs
  rcases hplace with ⟨_, hnodot⟩ | ⟨tail, rfl, _⟩
  · exact hnodot (by rw [hbefore]; simp)
  · exact hdot (by simp)

/-- Taking the first token off undoes putting one in, for a path in which no token stands before
an earlier dot. -/
theorem remove_inject {path : String} {lastModified : Int} (hnonneg : 0 ≤ lastModified)
    (honly : OnlyBeforeLastDot path.toList) : remove (inject path lastModified) = path := by
  obtain ⟨before, after, hpath, hfirst⟩ := first_inject hnonneg honly
  rw [remove_of_first hfirst, ← hpath, String.ofList_toList]

end VersionedAssets.VersionToken
