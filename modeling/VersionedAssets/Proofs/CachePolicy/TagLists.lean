import VersionedAssets.Proofs.CachePolicy.Revalidation
import VersionedAssets.Proofs.Text.Cutting

/-! # Lists of tags

A request may name any tag at all or list the tags that the client has. A list is cut at its commas,
those between the quotes of a tag included. What is between the quotes is never taken for the tag of
a resource, but a star between two commas of it is taken for any tag.
-/

namespace VersionedAssets

namespace CachePolicy

open Text

/-! ## The grammar of the header -/

/-- The characters that a tag may have between its quotes. -/
def isTagChar (c : Char) : Bool :=
  c.toNat == 0x21 || (0x23 ≤ c.toNat && c.toNat ≤ 0x7E) || (0x80 ≤ c.toNat && c.toNat ≤ 0xFF)

/-- A tag as a request lists it. -/
structure ListedTag where
  weak : Bool
  /-- What is between the quotes. -/
  text : List Char
  valid : ∀ c ∈ text, isTagChar c = true

/-- Spaces and tabs. -/
def IsPadding (cs : List Char) : Prop := ∀ c ∈ cs, c = ' ' ∨ c = '\t'

/-- What stands between two commas of a list: padding, with a tag in it or without one. -/
structure ListElement where
  before : List Char
  tag? : Option ListedTag
  after : List Char
  padded : IsPadding before ∧ IsPadding after

/-- What a request may say about the tags that the client has. -/
inductive TagCondition where
  /-- The client has the resource, whatever its tag is. -/
  | any
  /-- The client has what these tags are for. -/
  | list (elements : List ListElement) (tagged : ∃ element ∈ elements, element.tag?.isSome = true)

/-- The mark of a weak tag. -/
def weakMark : List Char := ['W', '/']

namespace ListedTag

/-- The tag with its quotes and without the mark of weak tags. -/
def quoted (tag : ListedTag) : List Char := '"' :: (tag.text ++ ['"'])

/-- The mark of the tag, if it is weak. -/
def mark (tag : ListedTag) : List Char := if tag.weak then weakMark else []

def write (tag : ListedTag) : List Char := tag.mark ++ tag.quoted

/-- Between two commas of the tag stands a star, perhaps as a weak tag, and otherwise nothing but
blanks. The only blanks that a tag can have are U+0085 and U+00A0. -/
def HidesStar (tag : ListedTag) : Prop :=
  ∃ before front mark back after,
    tag.text = before ++ ',' :: (front ++ mark ++ '*' :: back ++ ',' :: after) ∧
      (∀ c ∈ front ++ back, isBlank c = true) ∧ (mark = [] ∨ mark = weakMark)

end ListedTag

def ListElement.write (element : ListElement) : List Char :=
  element.before ++ (element.tag?.map ListedTag.write).getD [] ++ element.after

namespace TagCondition

/-- The header value that says so. -/
def write : TagCondition → String
  | any => "*"
  | list elements _ => String.ofList ([','].intercalate (elements.map ListElement.write))

/-- The tags that are listed. -/
def tags : TagCondition → List ListedTag
  | any => []
  | list elements _ => elements.filterMap ListElement.tag?

/-- The client has the resource with the tag: weak tags are as good as others. -/
def Covers (condition : TagCondition) (tag : String) : Prop :=
  condition = any ∨ ∃ listed ∈ condition.tags, listed.quoted = tag.toList

/-- A star is hidden in one of the tags. -/
def HidesStar (condition : TagCondition) : Prop := ∃ listed ∈ condition.tags, listed.HidesStar

end TagCondition

/-! ## Reading a piece -/

theorem toList_readTag (piece : List Char) :
    (readTag (String.ofList piece)).toList =
      if weakMark.isPrefixOf (trimList isBlank piece) then (trimList isBlank piece).drop 2
      else trimList isBlank piece := by
  have hmark : "W/".toList = weakMark := rfl
  simp only [readTag, trim, startsWith, String.toList_ofList, dropFirst, hmark]
  split
  · rw [String.toList_ofList]
  · rw [String.toList_ofList]

theorem readTag_sublist (piece : List Char) :
    (readTag (String.ofList piece)).toList.Sublist piece := by
  obtain ⟨front, back, hpiece, -, -⟩ := exists_trimList isBlank piece
  have htrimmed : (trimList isBlank piece).Sublist piece := by
    nth_rewrite 2 [hpiece]
    exact (List.sublist_append_right _ _).trans (List.sublist_append_left _ _)
  rw [toList_readTag]
  split
  · exact (List.drop_sublist _ _).trans htrimmed
  · exact htrimmed

/-- Reading a piece leaves all in it but blanks and the mark of weak tags. -/
theorem mem_readTag {piece : List Char} {c : Char} (hc : c ∈ piece) (hblank : isBlank c = false)
    (hmark : c ∉ weakMark) : c ∈ (readTag (String.ofList piece)).toList := by
  have htrimmed : c ∈ trimList isBlank piece := by
    obtain ⟨front, back, hpiece, hfront, hback⟩ := exists_trimList isBlank piece
    rw [hpiece, List.mem_append, List.mem_append] at hc
    rcases hc with (hc | hc) | hc
    · simp [hfront c hc] at hblank
    · exact hc
    · simp [hback c hc] at hblank
  rw [toList_readTag]
  split
  next hweak =>
    obtain ⟨rest, hrest⟩ := List.isPrefixOf_iff_prefix.mp hweak
    rw [← hrest] at htrimmed ⊢
    exact (List.mem_append.mp htrimmed).resolve_left hmark
  next => exact htrimmed

/-- In padding, a piece is read as what stands there, without the mark of weak tags. -/
theorem readTag_padded {front mark middle back : List Char}
    (hfront : ∀ c ∈ front, isBlank c = true) (hback : ∀ c ∈ back, isBlank c = true)
    (hmark : mark = [] ∨ mark = weakMark) (hfirst : ∃ c rest, middle = c :: rest ∧
      isBlank c = false ∧ c ≠ 'W') (hlast : ∃ rest c, middle = rest ++ [c] ∧ isBlank c = false) :
    (readTag (String.ofList (front ++ mark ++ middle ++ back))).toList = middle := by
  obtain ⟨first, rest, hmiddle, hblank, hletter⟩ := hfirst
  have htrimmed : trimList isBlank (front ++ (mark ++ middle) ++ back) = mark ++ middle := by
    refine trimList_padded hfront hback ?_ ?_
    · rcases hmark with rfl | rfl
      · exact ⟨first, rest, hmiddle, hblank⟩
      · exact ⟨'W', '/' :: middle, rfl, by decide⟩
    · obtain ⟨start, last, hend, hblank'⟩ := hlast
      exact ⟨mark ++ start, last, by rw [hend, List.append_assoc], hblank'⟩
  rw [toList_readTag, List.append_assoc front, htrimmed]
  rcases hmark with rfl | rfl
  · have hplain : weakMark.isPrefixOf middle = false := by
      simp [hmiddle, weakMark, List.isPrefixOf, Ne.symm hletter]
    simp [hplain]
  · simp [weakMark]

/-- What is read as a star. -/
theorem readTag_eq_star_iff (piece : List Char) :
    readTag (String.ofList piece) = "*" ↔
      ∃ front mark back, piece = front ++ mark ++ '*' :: back ∧
        (∀ c ∈ front ++ back, isBlank c = true) ∧ (mark = [] ∨ mark = weakMark) := by
  rw [← String.toList_inj]
  constructor
  · intro hstar
    obtain ⟨front, back, hpiece, hfront, hback⟩ := exists_trimList isBlank piece
    have hblanks : ∀ c ∈ front ++ back, isBlank c = true :=
      List.forall_mem_append.mpr ⟨hfront, hback⟩
    rw [toList_readTag] at hstar
    split at hstar
    next hweak =>
      obtain ⟨rest, hrest⟩ := List.isPrefixOf_iff_prefix.mp hweak
      rw [← hrest] at hstar hpiece
      obtain rfl : rest = ['*'] := hstar
      exact ⟨front, weakMark, back, by simpa using hpiece, hblanks, .inr rfl⟩
    next =>
      rw [hstar] at hpiece
      exact ⟨front, [], back, by simpa using hpiece, hblanks, .inl rfl⟩
  · rintro ⟨front, mark, back, rfl, hblanks, hmark⟩
    obtain ⟨hfront, hback⟩ := List.forall_mem_append.mp hblanks
    have hread := readTag_padded hfront hback hmark ⟨'*', [], rfl, by decide, by decide⟩
      ⟨[], '*', rfl, by decide⟩
    rw [List.append_cons, hread]
    rfl

/-! ## Reading an element -/

theorem IsPadding.notMem {cs : List Char} (hcs : IsPadding cs) {c : Char} (hspace : c ≠ ' ')
    (htab : c ≠ '\t') : c ∉ cs := by
  intro hc
  rcases hcs c hc with heq | heq
  · exact hspace heq
  · exact htab heq

theorem IsPadding.isBlank {cs : List Char} (hcs : IsPadding cs) : ∀ c ∈ cs, isBlank c = true := by
  intro c hc
  rcases hcs c hc with rfl | rfl <;> decide

theorem two_le_count_entityTag (n : Int) : 2 ≤ (entityTag n).toList.count '"' := by
  simp [entityTag]

/-- A piece with one quote is not read as the tag of a resource, which has two. -/
theorem readTag_ne_entityTag {piece : List Char} (hcount : piece.count '"' ≤ 1) (n : Int) :
    readTag (String.ofList piece) ≠ entityTag n := by
  intro heq
  have hless := (readTag_sublist piece).count_le '"'
  rw [heq] at hless
  have htwo := two_le_count_entityTag n
  omega

/-- A piece with a quote is not read as a star. -/
theorem readTag_ne_star {piece : List Char} (hquote : '"' ∈ piece) :
    readTag (String.ofList piece) ≠ "*" := by
  intro heq
  have hmem := mem_readTag hquote (by decide) (by decide)
  rw [heq] at hmem
  exact absurd hmem (by decide)

namespace ListedTag

variable (tag : ListedTag)

theorem quote_notMem : '"' ∉ tag.text := fun hquote => absurd (tag.valid _ hquote) (by decide)

theorem mark_cases : tag.mark = [] ∨ tag.mark = weakMark := by
  unfold mark
  split
  · exact .inr rfl
  · exact .inl rfl

end ListedTag

namespace ListElement

variable {element : ListElement} {tag : ListedTag}

/-- What stands before the text of a tag: padding, perhaps the mark of weak tags, and a quote. -/
def opening (element : ListElement) (tag : ListedTag) : List Char :=
  element.before ++ tag.mark ++ ['"']

/-- What stands behind the text of a tag. -/
def closing (element : ListElement) : List Char := '"' :: element.after

theorem write_of_none (htag : element.tag? = none) :
    element.write = element.before ++ element.after := by
  simp [write, htag]

theorem write_of_some (htag : element.tag? = some tag) :
    element.write = element.opening tag ++ tag.text ++ element.closing := by
  simp [write, htag, ListedTag.write, ListedTag.quoted, opening, closing]

theorem comma_notMem_opening (element : ListElement) (tag : ListedTag) :
    ',' ∉ element.opening tag := by
  have hbefore := element.padded.1.notMem (c := ',') (by decide) (by decide)
  rcases tag.mark_cases with hmark | hmark
  · simp [opening, hmark, hbefore]
  · simp [opening, hmark, hbefore, weakMark]

theorem comma_notMem_closing (element : ListElement) : ',' ∉ element.closing := by
  have hafter := element.padded.2.notMem (c := ',') (by decide) (by decide)
  simp [closing, hafter]

theorem count_opening (element : ListElement) (tag : ListedTag) :
    (element.opening tag).count '"' = 1 := by
  have hbefore := List.count_eq_zero.mpr
    (element.padded.1.notMem (c := '"') (by decide) (by decide))
  rcases tag.mark_cases with hmark | hmark
  · simp [opening, hmark, hbefore]
  · simp [opening, hmark, hbefore, weakMark]

theorem count_closing (element : ListElement) : element.closing.count '"' = 1 := by
  have hafter := List.count_eq_zero.mpr
    (element.padded.2.notMem (c := '"') (by decide) (by decide))
  simp [closing, hafter]

/-- The pieces of an element with a tag: the whole element, one of its ends with one of the quotes,
or what stands between two commas of the tag. -/
theorem mem_pieces_write (htag : element.tag? = some tag) {piece : List Char}
    (hpiece : piece ∈ pieceLists ',' element.write) :
    (',' ∉ tag.text ∧ piece = element.write) ∨ piece.count '"' = 1 ∨
      piece.count '"' = 0 ∧
        ∃ before after, tag.text = before ++ ',' :: (piece ++ ',' :: after) := by
  have hrest {rest : List Char} (hrest : rest ⊆ tag.text) : rest.count '"' = 0 :=
    List.count_eq_zero.mpr fun hquote => tag.quote_notMem (hrest hquote)
  rw [write_of_some htag] at hpiece
  rcases mem_pieceLists_enclosed (comma_notMem_opening element tag) (comma_notMem_closing element)
    hpiece with ⟨hcomma, heq⟩ | ⟨rest, hsub, rfl⟩ | ⟨rest, hsub, rfl⟩ | ⟨before, after, htext⟩
  · exact .inl ⟨hcomma, heq.trans (write_of_some htag).symm⟩
  · refine .inr (.inl ?_)
    rw [List.count_append, count_opening, hrest hsub]
  · refine .inr (.inl ?_)
    rw [List.count_append, count_closing, hrest hsub]
  · refine .inr (.inr ⟨hrest ?_, before, after, htext⟩)
    intro c hc
    rw [htext]
    simp [hc]

/-- An element without a tag is read as nothing. -/
theorem readTag_of_none (htag : element.tag? = none) {piece : List Char}
    (hpiece : piece ∈ pieceLists ',' element.write) {tag : String}
    (hread : readTag (String.ofList piece) = tag) : ∀ c ∈ tag.toList, c = ' ' ∨ c = '\t' := by
  have hpadding : IsPadding element.write := by
    rw [write_of_none htag]
    exact List.forall_mem_append.mpr element.padded
  have hcomma : ',' ∉ element.write := hpadding.notMem (by decide) (by decide)
  rw [pieceLists_of_notMem hcomma, List.mem_singleton] at hpiece
  intro c hc
  rw [← hread] at hc
  exact hpadding c (hpiece ▸ (readTag_sublist piece).subset hc)

/-- A whole element is read as its tag. -/
theorem readTag_write (htag : element.tag? = some tag) :
    (readTag (String.ofList element.write)).toList = tag.quoted := by
  have hwrite : element.write = element.before ++ tag.mark ++ tag.quoted ++ element.after := by
    rw [write_of_some htag]
    simp [opening, closing, ListedTag.quoted]
  rw [hwrite]
  exact readTag_padded element.padded.1.isBlank element.padded.2.isBlank tag.mark_cases
    ⟨'"', _, rfl, by decide, by decide⟩ ⟨'"' :: tag.text, '"', rfl, by decide⟩

/-- Only a star that the tag of the element hides is read as one. -/
theorem reads_star_iff (element : ListElement) :
    (∃ piece ∈ pieceLists ',' element.write, readTag (String.ofList piece) = "*") ↔
      ∃ tag, element.tag? = some tag ∧ tag.HidesStar := by
  constructor
  · rintro ⟨piece, hpiece, hstar⟩
    cases htag : element.tag? with
    | none => exact absurd (readTag_of_none htag hpiece hstar '*' (by simp)) (by decide)
    | some tag =>
        refine ⟨tag, rfl, ?_⟩
        -- a star has no quote in it, so it stands between two commas of the tag
        rcases mem_pieces_write htag hpiece with ⟨-, rfl⟩ | hcount | ⟨-, before, after, htext⟩
        · have hquoted := readTag_write htag
          rw [hstar] at hquoted
          cases hquoted
        · exact absurd hstar (readTag_ne_star (List.count_pos_iff.mp (by omega)))
        · obtain ⟨front, mark, back, rfl, hblanks, hmark⟩ := (readTag_eq_star_iff piece).mp hstar
          exact ⟨before, front, mark, back, after, htext, hblanks, hmark⟩
  · rintro ⟨tag, htag, before, front, mark, back, after, htext, hblanks, hmark⟩
    have hstar := (readTag_eq_star_iff _).mpr ⟨front, mark, back, rfl, hblanks, hmark⟩
    refine ⟨front ++ mark ++ '*' :: back, ?_, hstar⟩
    have hcomma : ',' ∉ front ++ mark ++ '*' :: back := by
      have hblank : ',' ∉ front ++ back := fun hc => absurd (hblanks _ hc) (by decide)
      rw [List.mem_append, not_or] at hblank
      rcases hmark with rfl | rfl
      · simp [hblank]
      · simp [hblank, weakMark]
    have hwrite : element.write = (element.opening tag ++ before) ++
        ',' :: ((front ++ mark ++ '*' :: back) ++ ',' :: (after ++ element.closing)) := by
      rw [write_of_some htag, htext]
      simp
    rw [hwrite, pieceLists_append_cons, pieceLists_append_cons, pieceLists_of_notMem hcomma]
    simp

/-- The tag of a resource is read only where it is listed. -/
theorem reads_entityTag_iff (element : ListElement) (n : Int) :
    (∃ piece ∈ pieceLists ',' element.write, readTag (String.ofList piece) = entityTag n) ↔
      ∃ tag, element.tag? = some tag ∧ tag.quoted = (entityTag n).toList := by
  constructor
  · rintro ⟨piece, hpiece, hread⟩
    cases htag : element.tag? with
    | none =>
        have hquote : '"' ∈ (entityTag n).toList := by simp [entityTag]
        exact absurd (readTag_of_none htag hpiece hread _ hquote) (by decide)
    | some tag =>
        refine ⟨tag, rfl, ?_⟩
        -- the tag of a resource has two quotes in it, so it is a whole element
        rcases mem_pieces_write htag hpiece with ⟨-, rfl⟩ | hcount | ⟨hcount, -⟩
        · rw [← readTag_write htag, hread]
        · exact absurd hread (readTag_ne_entityTag (by omega) n)
        · exact absurd hread (readTag_ne_entityTag (by omega) n)
  · rintro ⟨tag, htag, hquoted⟩
    have hcomma : ',' ∉ tag.text := by
      have hnone : ',' ∉ (entityTag n).toList :=
        notMem_entityTag (by decide) (by decide) (by decide)
      rw [← hquoted] at hnone
      exact fun hc => hnone (by simp [ListedTag.quoted, hc])
    have hwhole : ',' ∉ element.write := by
      rw [write_of_some htag]
      simp [comma_notMem_opening, comma_notMem_closing, hcomma]
    refine ⟨element.write, by rw [pieceLists_of_notMem hwhole]; exact List.mem_singleton_self _, ?_⟩
    rw [← String.toList_inj, readTag_write htag, hquoted]

end ListElement

/-! ## Reading a list -/

theorem mem_readTags_write {elements : List ListElement}
    {tagged : ∃ element ∈ elements, element.tag?.isSome = true} {tag : String} (hne : tag ≠ "") :
    tag ∈ readTags (TagCondition.list elements tagged).write ↔
      ∃ element ∈ elements, ∃ piece ∈ pieceLists ',' element.write,
        readTag (String.ofList piece) = tag := by
  have hparts : elements.map ListElement.write ≠ [] := by
    obtain ⟨element, helement, -⟩ := tagged
    simp [List.ne_nil_of_mem helement]
  simp only [readTags, pieces, TagCondition.write, String.toList_ofList,
    pieceLists_intercalate_eq_flatMap hparts, List.mem_filter, List.mem_map, List.mem_flatMap]
  constructor
  · rintro ⟨⟨-, ⟨piece, ⟨-, ⟨element, helement, rfl⟩, hpiece⟩, rfl⟩, hread⟩, -⟩
    exact ⟨element, helement, piece, hpiece, hread⟩
  · rintro ⟨element, helement, piece, hpiece, hread⟩
    exact ⟨⟨_, ⟨piece, ⟨_, ⟨element, helement, rfl⟩, hpiece⟩, rfl⟩, hread⟩, by simpa using hne⟩

theorem readTags_star : readTags "*" = ["*"] := by decide +kernel

theorem entityTag_ne_star (n : Int) : entityTag n ≠ "*" := by
  intro heq
  have hnone : '*' ∉ (entityTag n).toList := notMem_entityTag (by decide) (by decide) (by decide)
  exact hnone (heq ▸ by decide)

namespace TagCondition

variable (condition : TagCondition)

theorem exists_mem_tags_iff {elements : List ListElement}
    {tagged : ∃ element ∈ elements, element.tag?.isSome = true} {holds : ListedTag → Prop} :
    (∃ listed ∈ (list elements tagged).tags, holds listed) ↔
      ∃ element ∈ elements, ∃ listed, element.tag? = some listed ∧ holds listed := by
  simp only [tags, List.mem_filterMap]
  constructor
  · rintro ⟨listed, ⟨element, helement, htag⟩, hlisted⟩
    exact ⟨element, helement, listed, htag, hlisted⟩
  · rintro ⟨element, helement, listed, htag, hlisted⟩
    exact ⟨listed, ⟨element, helement, htag⟩, hlisted⟩

theorem reads_star_iff :
    "*" ∈ readTags condition.write ↔ condition = any ∨ condition.HidesStar := by
  cases condition with
  | any => simp [write, readTags_star]
  | list elements tagged =>
      rw [mem_readTags_write (by decide), HidesStar, exists_mem_tags_iff]
      simp [ListElement.reads_star_iff]

theorem reads_entityTag_iff (n : Int) :
    entityTag n ∈ readTags condition.write ↔
      ∃ listed ∈ condition.tags, listed.quoted = (entityTag n).toList := by
  cases condition with
  | any => simp [write, readTags_star, tags, entityTag_ne_star]
  | list elements tagged =>
      have hne : entityTag n ≠ "" := by
        intro heq
        have hempty := entityTag_isEmpty n
        rw [heq] at hempty
        exact absurd hempty (by decide)
      rw [mem_readTags_write hne, exists_mem_tags_iff]
      simp only [ListElement.reads_entityTag_iff]

theorem write_isEmpty : condition.write.isEmpty = false := by
  rw [← Bool.not_eq_true, String.isEmpty_iff, ← String.toList_inj]
  cases condition with
  | any => decide
  | list elements tagged =>
      obtain ⟨element, helement, hsome⟩ := tagged
      obtain ⟨tag, htag⟩ := Option.isSome_iff_exists.mp hsome
      have hquote : '"' ∈ element.write := by
        rw [ListElement.write_of_some htag]
        simp [ListElement.closing]
      have hmem : '"' ∈ [','].intercalate (elements.map ListElement.write) :=
        subset_intercalate (List.mem_map_of_mem helement) hquote
      intro hnone
      rw [write, String.toList_ofList] at hnone
      rw [hnone] at hmem
      cases hmem

theorem covers_entityTag_iff (n : Int) :
    condition.Covers (entityTag n) ↔ condition = any ∨ entityTag n ∈ readTags condition.write := by
  rw [Covers, reads_entityTag_iff]

end TagCondition

/-- A request that says which tags the client has is spared the resource if any tag will do, if the
tag of the resource is listed, and also if one of the listed tags hides a star. -/
theorem isModified_of_condition {request : Request} {condition : TagCondition}
    (hcondition : request.header "if-none-match" "" = condition.write) (n : Int) :
    ∃ modified, isModified request (entityTag n) n = .ok modified ∧
      (modified = false ↔ condition.Covers (entityTag n) ∨ condition.HidesStar) := by
  refine ⟨isNewByTags condition.write (entityTag n), ?_, ?_⟩
  · simp [isModified, hcondition, condition.write_isEmpty]
  · have hread : isNewByTags condition.write (entityTag n) = false ↔
        "*" ∈ readTags condition.write ∨ entityTag n ∈ readTags condition.write := by
      rw [isNewByTags, Bool.not_eq_false', Bool.or_eq_true, List.contains_iff_mem,
        List.contains_iff_mem]
    rw [hread, condition.reads_star_iff, condition.covers_entityTag_iff]
    tauto

/-- A request with the header value. -/
def requestWith (value : String) : Request :=
  { method := "GET", path := "/app.js", headers := ⟨[("if-none-match", value)]⟩ }

/-- A list with one tag and nothing else. -/
def TagCondition.only (tag : ListedTag) : TagCondition :=
  list [⟨[], some tag, [], by simp [IsPadding]⟩] (by simp)

/-- The tag `"a,*,b"`. -/
def starred : ListedTag := ⟨false, ['a', ',', '*', ',', 'b'], by simp [isTagChar]⟩

theorem isModified_of_condition_starred :
    (requestWith "\"a,*,b\"").header "if-none-match" "" = (TagCondition.only starred).write ∧
      ∃ modified, isModified (requestWith "\"a,*,b\"") (entityTag 1) 1 = .ok modified ∧
        (modified = false ↔ (TagCondition.only starred).Covers (entityTag 1) ∨
          (TagCondition.only starred).HidesStar) := by
  have hcondition : (requestWith "\"a,*,b\"").header "if-none-match" "" =
      (TagCondition.only starred).write := by
    decide +kernel
  exact ⟨hcondition, isModified_of_condition hcondition 1⟩

/-- The tag with a star between two commas spares a client that does not have the resource. -/
theorem not_isModified_iff_covers : ¬ ∀ (condition : TagCondition) (request : Request) (n : Int),
    request.header "if-none-match" "" = condition.write →
      (isModified request (entityTag n) n = .ok false ↔ condition.Covers (entityTag n)) := by
  intro hcovers
  have hiff := hcovers (TagCondition.only starred) (requestWith "\"a,*,b\"") 1 (by decide +kernel)
  have hspared : isModified (requestWith "\"a,*,b\"") (entityTag 1) 1 = .ok false := by
    decide +kernel
  rcases hiff.mp hspared with hany | ⟨listed, hlisted, hquoted⟩
  · cases hany
  · obtain rfl : listed = starred := by simpa [TagCondition.only, TagCondition.tags] using hlisted
    exact absurd hquoted (by decide +kernel)

end CachePolicy

end VersionedAssets
