import VersionedAssets.Proofs.ResourcePath
import VersionedAssets.Proofs.ResourcePath.Segments

/-! # Segments as a normal form

The segments of a path are its parts without those that mean nothing, unless a part would lead out
of the store. A path that is cut at a slash has the segments of the one half before those of the
other, so slashes and dots between segments make no difference: every way to spell safe segments is
a path with these segments, and the shortest way is to join them.
-/

namespace VersionedAssets.ResourcePath

/-- The parts of a path: there is at least one of them, none has a slash in it, and with slashes
between neighbours they make up the path. -/
structure AreParts (path : String) (parts : List String) : Prop where
  ne_nil : parts ≠ []
  no_slash : ∀ part ∈ parts, '/' ∉ part.toList
  join_eq : Text.join "/" parts = path

/-- What may stand between two segments: one or more slashes, with nothing or a dot between
neighbours. So every sequence of `/` and `/./` may. -/
inductive IsFiller : List Char → Prop where
  | slash : IsFiller ['/']
  | slashes {rest : List Char} (hrest : IsFiller rest) : IsFiller ('/' :: rest)
  | dotted {rest : List Char} (hrest : IsFiller rest) : IsFiller ('/' :: '.' :: rest)

/-- The ways to spell segments: nothing, a segment, or two spelled paths with a filler between
them. As either of the two may be nothing, fillers may stand before and after the segments too. -/
inductive Spells : List String → List Char → Prop where
  | nothing : Spells [] []
  | segment (segment : String) : Spells [segment] segment.toList
  | append {first second : List String} {front gap back : List Char} (hfirst : Spells first front)
      (hgap : IsFiller gap) (hsecond : Spells second back) :
      Spells (first ++ second) (front ++ gap ++ back)

/-- What makes the segments that paths are split into a normal form. -/
structure IsNormalForm (split : String → Option (List String)) : Prop where
  /-- A path is refused for a part that leads up or has a backslash or a NUL in it, and only for
  such a part. -/
  refuses : ∀ path parts, AreParts path parts →
    (split path = none ↔
      ∃ part ∈ parts, part = ".." ∨ '\\' ∈ part.toList ∨ Char.ofNat 0 ∈ part.toList)
  /-- The segments are the parts that mean something, in order, and they are safe. -/
  keeps : ∀ path parts segments, AreParts path parts → split path = some segments →
    segments = parts.filter (fun part => part ≠ "" ∧ part ≠ ".") ∧
      ∀ segment ∈ segments, IsSafe segment
  /-- Safe segments are those of the path that they are joined to. -/
  joins : ∀ segments, (∀ segment ∈ segments, IsSafe segment) →
    split (Text.join "/" segments) = some segments
  /-- Safe segments are those of every path that spells them. -/
  reads : ∀ segments text, (∀ segment ∈ segments, IsSafe segment) → Spells segments text →
    split (String.ofList text) = some segments
  /-- Splitting once more changes nothing. -/
  idempotent : ∀ path segments, split path = some segments →
    split (Text.join "/" segments) = some segments

variable {path : String} {parts segments : List String}

/-! ## Parts -/

theorem AreParts.eq_pieces (hparts : AreParts path parts) : parts = Text.pieces '/' path := by
  rw [← hparts.join_eq, Text.pieces_join hparts.ne_nil hparts.no_slash]

theorem areParts_pieces (path : String) : AreParts path (Text.pieces '/' path) where
  ne_nil := List.map_eq_nil_iff.not.mpr (Text.pieceLists_ne_nil '/' path.toList)
  no_slash := by
    intro part hpart
    exact Text.notMem_of_mem_pieceLists ((Text.mem_pieces_iff '/' path part).mp hpart)
  join_eq := Text.join_pieces path

theorem existsUnique_areParts (path : String) : ∃! parts, AreParts path parts :=
  ⟨Text.pieces '/' path, areParts_pieces path, fun _ hparts => hparts.eq_pieces⟩

theorem segments?_eq_none_iff_exists_part (path : String) :
    segments? path = none ↔ ∃ part ∈ Text.pieces '/' path,
      part = ".." ∨ '\\' ∈ part.toList ∨ Char.ofNat 0 ∈ part.toList := by
  have hunsafe (part : String) : isUnsafe part.toList = true ↔
      part = ".." ∨ '\\' ∈ part.toList ∨ Char.ofNat 0 ∈ part.toList := by
    simp [isUnsafe, ← String.toList_inj, or_assoc]
  simp only [segments?_eq, ← hunsafe, ← List.any_eq_true]
  split
  next hrefused => simp [hrefused]
  next hrefused => simp [hrefused]

theorem eq_filter_of_segments? (hsegments : segments? path = some segments) :
    segments = (Text.pieces '/' path).filter (fun part => part ≠ "" ∧ part ≠ ".") := by
  have hvoid (part : String) : isVoid part.toList = true ↔ part = "" ∨ part = "." := by
    rw [isVoid, Bool.or_eq_true, beq_iff_eq, beq_iff_eq, ← String.toList_inj, ← String.toList_inj]
    exact Iff.rfl
  rw [segments?_eq] at hsegments
  split at hsegments
  next => cases hsegments
  next =>
    obtain rfl := Option.some.inj hsegments
    refine List.filter_congr fun part _ => ?_
    rw [Bool.eq_iff_iff]
    simp only [Bool.not_eq_true', decide_eq_true_eq, ← not_or, ← hvoid, Bool.not_eq_true]

/-! ## Spellings -/

/-- A path cut at a slash has the segments of both halves, or none when either half has none. -/
theorem segmentLists?_append_slash (front back : List Char) :
    segmentLists? (front ++ '/' :: back) =
      (segmentLists? front).bind fun first => (segmentLists? back).map (first ++ ·) := by
  simp only [segmentLists?, Text.pieceLists_append_cons, List.any_append, List.filter_append]
  cases (Text.pieceLists '/' front).any isUnsafe <;>
    cases (Text.pieceLists '/' back).any isUnsafe <;> simp

/-- A half without segments makes no difference. -/
theorem segmentLists?_slash_of_void {front : List Char} (hfront : segmentLists? front = some [])
    (back : List Char) : segmentLists? (front ++ '/' :: back) = segmentLists? back := by
  rw [segmentLists?_append_slash, hfront, Option.bind_some]
  exact Option.map_id_apply

theorem segmentLists?_of_isSafe {segment : String} (hsafe : IsSafe segment) :
    segmentLists? segment.toList = some [segment.toList] := by
  obtain ⟨hstays, hnamed, hslash⟩ := isSafe_iff.mp hsafe
  simp [segmentLists?, Text.pieceLists_of_notMem hslash, hstays, hnamed]

/-- A filler does what a single slash does. -/
theorem segmentLists?_filler {gap : List Char} (hgap : IsFiller gap) (front back : List Char) :
    segmentLists? (front ++ gap ++ back) = segmentLists? (front ++ '/' :: back) := by
  -- for every `front`: what is left of the filler is met behind nothing, or behind the dot
  induction hgap generalizing front with
  | slash => rw [List.append_assoc, List.singleton_append]
  | @slashes rest _ ih =>
      have hrest : segmentLists? (rest ++ back) = segmentLists? back :=
        (ih []).trans (segmentLists?_slash_of_void rfl back)
      rw [List.append_assoc, List.cons_append, segmentLists?_append_slash, hrest,
        ← segmentLists?_append_slash]
  | @dotted rest _ ih =>
      have hrest : segmentLists? ('.' :: (rest ++ back)) = segmentLists? back :=
        (ih ['.']).trans (segmentLists?_slash_of_void rfl back)
      rw [List.append_assoc, List.cons_append, List.cons_append, segmentLists?_append_slash, hrest,
        ← segmentLists?_append_slash]

theorem segmentLists?_of_spells {text : List Char} (hspells : Spells segments text)
    (hsafe : ∀ segment ∈ segments, IsSafe segment) :
    segmentLists? text = some (segments.map String.toList) := by
  induction hspells with
  | nothing => rfl
  | segment segment => exact segmentLists?_of_isSafe (hsafe segment (List.mem_singleton_self _))
  | append _ hgap _ ihfirst ihsecond =>
      obtain ⟨hfirst, hsecond⟩ := List.forall_mem_append.mp hsafe
      rw [segmentLists?_filler hgap, segmentLists?_append_slash, ihfirst hfirst,
        ihsecond hsecond, Option.bind_some, Option.map_some, List.map_append]

theorem segments?_of_spells {text : List Char} (hspells : Spells segments text)
    (hsafe : ∀ segment ∈ segments, IsSafe segment) :
    segments? (String.ofList text) = some segments := by
  rw [segments?, String.toList_ofList, segmentLists?_of_spells hspells hsafe, Option.map_some,
    List.map_map]
  simp [Function.comp_def]

/-- The segments of paths are a normal form. It is told by the parts of a path, which every path has,
and only one list of them. -/
theorem segments?_isNormalForm :
    (∀ path, ∃! parts, AreParts path parts) ∧ IsNormalForm segments? := by
  refine ⟨existsUnique_areParts, ?_⟩
  constructor
  case refuses =>
    intro path parts hparts
    rw [hparts.eq_pieces]
    exact segments?_eq_none_iff_exists_part path
  case keeps =>
    intro path parts segments hparts hsegments
    rw [hparts.eq_pieces]
    exact ⟨eq_filter_of_segments? hsegments, isSafe_of_segments? hsegments⟩
  case joins => exact fun segments hsafe => segments?_join hsafe
  case reads => exact fun segments text hsafe hspells => segments?_of_spells hspells hsafe
  case idempotent =>
    exact fun path segments hsegments => segments?_join (isSafe_of_segments? hsegments)

/-- Two segments with slashes and dots before, between and after them. -/
theorem segments?_isNormalForm_stretched :
    (∀ segment ∈ ["css", "site.css"], IsSafe segment) ∧
      Spells ["css", "site.css"] "/./css/././/site.css//".toList ∧
      segments? "/./css/././/site.css//" = some ["css", "site.css"] := by
  have hsafe : ∀ segment ∈ ["css", "site.css"], IsSafe segment := by decide +kernel
  have hbetween : Spells ["css", "site.css"]
      ("css".toList ++ "/././/".toList ++ "site.css".toList) :=
    Spells.append (.segment "css") (.dotted (.dotted (.slashes .slash))) (.segment "site.css")
  have hafter := Spells.append hbetween (.slashes .slash) .nothing
  have hbefore := Spells.append .nothing (.dotted .slash) hafter
  have hspells : Spells ["css", "site.css"] "/./css/././/site.css//".toList := by
    simpa using hbefore
  refine ⟨hsafe, hspells, ?_⟩
  have hread := segments?_isNormalForm.2.reads _ _ hsafe hspells
  rwa [String.ofList_toList] at hread

end VersionedAssets.ResourcePath
