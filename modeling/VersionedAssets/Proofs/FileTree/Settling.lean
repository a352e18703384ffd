import VersionedAssets.Proofs.FileTree.Links

/-! # The search for settled paths

The search finds the path that names stand for, or a loop. It keeps the links whose targets are
being followed: these are pending, no link is pending twice, and there are no more of them than
links in the tree, so the depth of the search suffices. A pending link that is met again is a loop.
-/

namespace VersionedAssets

namespace Node

mutual

/-- The paths of the links below a node. -/
def linkPaths : Node → List FilePath
  | file _ _ => []
  | link _ => [[]]
  | directory entries => linkPathsIn entries

/-- The paths of the links in the entries of a directory. -/
def linkPathsIn : List (String × Node) → List FilePath
  | [] => []
  | (name, node) :: rest => (linkPaths node).map (name :: ·) ++ linkPathsIn rest

end

mutual

theorem length_linkPaths (node : Node) : node.linkPaths.length = node.linkCount := by
  cases node with
  | file => rfl
  | link => rfl
  | directory entries => simp [linkPaths, linkCount, length_linkPathsIn entries]

theorem length_linkPathsIn (entries : List (String × Node)) :
    (linkPathsIn entries).length = linkCounts entries := by
  cases entries with
  | nil => rfl
  | cons entry rest =>
      simp [linkPathsIn, linkCounts, length_linkPaths entry.2, length_linkPathsIn rest]

end

theorem mem_linkPathsIn {entries : List (String × Node)} {name : String} {child : Node}
    (hchild : entries.lookup name = some child) {path : FilePath} (hpath : path ∈ child.linkPaths) :
    name :: path ∈ linkPathsIn entries := by
  induction entries with
  | nil => simp at hchild
  | cons entry rest ih =>
      obtain ⟨key, node⟩ := entry
      rw [List.lookup_cons] at hchild
      rw [linkPathsIn, List.mem_append]
      split at hchild
      next hkey =>
        obtain rfl := Option.some.inj hchild
        obtain rfl := eq_of_beq hkey
        exact .inl (List.mem_map_of_mem hpath)
      next => exact .inr (ih hchild)

theorem mem_linkPaths {node : Node} {path : FilePath} {target : String}
    (hlink : node.at? path = some (.link target)) : path ∈ node.linkPaths := by
  induction path generalizing node with
  | nil =>
      obtain rfl := Option.some.inj hlink
      simp [linkPaths]
  | cons name rest ih =>
      obtain ⟨child, hchild, hrest⟩ := Option.bind_eq_some_iff.mp hlink
      cases node with
      | file => cases hchild
      | link => cases hchild
      | directory entries => exact mem_linkPathsIn hchild (ih hrest)

end Node

namespace FileTree

variable {tree : FileTree}

/-- Distinct links are at most as many as the tree has. -/
theorem length_le_linkCount {links : List FilePath} (hnodup : links.Nodup)
    (hlinks : ∀ link ∈ links, tree.link? link ≠ none) : links.length ≤ tree.root.linkCount := by
  rw [← Node.length_linkPaths]
  refine hnodup.length_le_of_subset ?_
  intro link hlink
  have hsome := hlinks link hlink
  unfold link? at hsome
  split at hsome
  next hnode => exact Node.mem_linkPaths hnode
  next => exact absurd rfl hsome

theorem link?_eq_none (hlinks : tree.root.linkCount = 0) (path : FilePath) :
    tree.link? path = none := by
  unfold link?
  split
  next hnode =>
    have hpath := Node.mem_linkPaths hnode
    rw [List.eq_nil_of_length_eq_zero ((Node.length_linkPaths _).trans hlinks)] at hpath
    cases hpath
  next => rfl

/-! ## What is known during the search -/

/-- The links that are marked as pending are those, and where a link is said to lead is where it
leads. -/
structure Records (tree : FileTree) (pending : List FilePath) (visited : Visited) : Prop where
  nodup : pending.Nodup
  links : ∀ link ∈ pending, tree.link? link ≠ none
  pending_iff : ∀ link, visited.lookup link = some none ↔ link ∈ pending
  known : ∀ link settled, visited.lookup link = some (some settled) →
    ∃ target, tree.link? link = some target ∧
      Settles tree (origin link.dropLast target) (Text.pieces '/' target) settled

/-- The search says where the names lead, or it has met a loop or a pending link. -/
def Finds (tree : FileTree) (pending : List FilePath) (base : FilePath) (names : List String) :
    Settled × Visited → Prop
  | (.at settled, visited) => Settles tree base names settled ∧ Records tree pending visited
  | (.cyclic _, _) =>
    ∃ link, Meets tree base names link ∧ (IsCircular tree link ∨ link ∈ pending)

variable {pending : List FilePath} {visited : Visited}

theorem records_nil : Records tree [] [] := by
  refine ⟨List.nodup_nil, by simp, by simp, by simp⟩

theorem Records.push (hrecords : Records tree pending visited) {link : FilePath} {target : String}
    (hlink : tree.link? link = some target) (hnew : visited.lookup link = none) :
    Records tree (link :: pending) ((link, none) :: visited) := by
  have hnotPending : link ∉ pending := by
    rw [← hrecords.pending_iff, hnew]
    simp
  refine ⟨List.nodup_cons.mpr ⟨hnotPending, hrecords.nodup⟩, ?_, ?_, ?_⟩
  · rw [List.forall_mem_cons]
    exact ⟨by simp [hlink], hrecords.links⟩
  · intro other
    by_cases hother : other = link
    · simp [hother]
    · simp [List.lookup_cons, beq_eq_false_iff_ne.mpr hother, hother, hrecords.pending_iff]
  · intro other settled hlookup
    by_cases hother : other = link
    · simp [hother] at hlookup
    · rw [List.lookup_cons, beq_eq_false_iff_ne.mpr hother] at hlookup
      exact hrecords.known other settled hlookup

theorem Records.pop {link : FilePath} (hrecords : Records tree (link :: pending) visited)
    {target : String} {settled : FilePath} (hlink : tree.link? link = some target)
    (hsettles : Settles tree (origin link.dropLast target) (Text.pieces '/' target) settled) :
    Records tree pending ((link, some settled) :: visited) := by
  obtain ⟨hnotPending, hnodup⟩ := List.nodup_cons.mp hrecords.nodup
  refine ⟨hnodup, fun other hother => hrecords.links other (List.mem_cons_of_mem _ hother), ?_, ?_⟩
  · intro other
    by_cases hother : other = link
    · simp [hother, hnotPending]
    · have hpending := hrecords.pending_iff other
      simp only [List.mem_cons, hother, false_or] at hpending
      simpa [List.lookup_cons, beq_eq_false_iff_ne.mpr hother] using hpending
  · intro other settled' hlookup
    by_cases hother : other = link
    · subst hother
      simp only [List.lookup_cons, beq_self_eq_true, Option.some.injEq] at hlookup
      exact ⟨target, hlink, hlookup ▸ hsettles⟩
    · rw [List.lookup_cons, beq_eq_false_iff_ne.mpr hother] at hlookup
      exact hrecords.known other settled' hlookup

/-! ## The search -/

theorem Finds.mono {base base' : FilePath} {names names' : List String}
    {result : Settled × Visited} (hfinds : Finds tree pending base names result)
    (hsettles : ∀ settled, Settles tree base names settled → Settles tree base' names' settled)
    (hmeets : ∀ link, Meets tree base names link → Meets tree base' names' link) :
    Finds tree pending base' names' result := by
  obtain ⟨settled | met, visited⟩ := result
  · exact ⟨hsettles settled hfinds.1, hfinds.2⟩
  · obtain ⟨link, hlink, hloop⟩ := hfinds
    exact ⟨link, hmeets link hlink, hloop⟩

/-- If the steps find where single names lead, going through names finds where they lead. -/
theorem finds_settleNames {step : FilePath → String → Visited → Settled × Visited}
    (hstep : ∀ base name visited, IsName name → Records tree pending visited →
      Finds tree pending base [name] (step base name visited))
    (base : FilePath) (names : List String) (hrecords : Records tree pending visited) :
    Finds tree pending base names (settleNames step base names visited) := by
  induction names generalizing base visited with
  | nil => exact ⟨.arrived base, hrecords⟩
  | cons name rest ih =>
      rcases isName_or name with hvoid | rfl | hname
      · simp only [settleNames, hvoid, if_true]
        exact (ih base hrecords).mono (fun _ => .skip hvoid) (fun _ => .skip hvoid)
      · simp only [settleNames, isVoid_up, if_true]
        exact (ih base.dropLast hrecords).mono (fun _ => .up) (fun _ => .up)
      · have hfound := hstep base name visited hname hrecords
        -- the rest is followed from where the name leads, if it leads somewhere
        simp only [settleNames, hname.not_void, if_neg hname.not_up]
        rcases hrun : step base name visited with ⟨reached | met, visited'⟩
        · rw [hrun] at hfound
          exact (ih reached hfound.2).mono (fun _ => hfound.1.append)
            (fun _ => .append_right hfound.1)
        · rw [hrun] at hfound
          obtain ⟨link, hlink, hloop⟩ := hfound
          exact ⟨link, hlink.append_left rest, hloop⟩

/-- One name of the search: a link is followed unless the search knows about it. -/
def settleName (tree : FileTree) (depth : Nat) (base : FilePath) (name : String)
    (visited : Visited) : Settled × Visited :=
  match tree.link? (base ++ [name]) with
  | none => (.at (base ++ [name]), visited)
  | some target =>
    match visited.lookup (base ++ [name]) with
    | some (some settled) => (.at settled, visited)
    | some none => (.cyclic (base ++ [name]), visited)
    | none =>
      match tree.settleFrom depth (origin base target) (Text.pieces '/' target)
          ((base ++ [name], none) :: visited) with
      | (.at settled, visited) => (.at settled, (base ++ [name], some settled) :: visited)
      | (.cyclic met, visited) => (.cyclic met, visited)

theorem settleFrom_succ (tree : FileTree) (depth : Nat) (base : FilePath) (names : List String)
    (visited : Visited) :
    tree.settleFrom (depth + 1) base names visited =
      settleNames (tree.settleName depth) base names visited := rfl

theorem finds_settleName {depth : Nat}
    (hdeeper : ∀ pending visited, Records tree pending visited →
      tree.root.linkCount < depth + pending.length → ∀ base names,
        Finds tree pending base names (tree.settleFrom depth base names visited))
    (hdepth : tree.root.linkCount < depth + 1 + pending.length)
    (hrecords : Records tree pending visited) {name : String} (hname : IsName name)
    (base : FilePath) :
    Finds tree pending base [name] (tree.settleName depth base name visited) := by
  unfold settleName
  cases hlink : tree.link? (base ++ [name]) with
  | none => exact ⟨.step hname hlink (.arrived _), hrecords⟩
  | some target =>
      dsimp only
      cases hlookup : visited.lookup (base ++ [name]) with
      | none =>
          have hfound := hdeeper _ _ (hrecords.push hlink hlookup)
            (by rw [List.length_cons]; omega) (origin base target) (Text.pieces '/' target)
          dsimp only
          rcases hrun : tree.settleFrom depth (origin base target) (Text.pieces '/' target)
            ((base ++ [name], none) :: visited) with ⟨settled | met, visited'⟩
          · rw [hrun] at hfound
            refine ⟨.follow hname hlink hfound.1 (.arrived _), hfound.2.pop hlink ?_⟩
            rw [List.dropLast_concat]
            exact hfound.1
          · rw [hrun] at hfound
            obtain ⟨link, hmeets, hloop⟩ := hfound
            rcases hloop with hcircular | hpending
            · exact ⟨link, .inside hname hlink hmeets, .inl hcircular⟩
            · -- met again on the way along its own target, the link is circular
              rcases List.mem_cons.mp hpending with rfl | hpending
              · exact ⟨_, .here hname hlink, .inl ((isCircular_iff hlink).mpr hmeets)⟩
              · exact ⟨link, .inside hname hlink hmeets, .inr hpending⟩
      | some known =>
          cases known with
          | none => exact ⟨_, .here hname hlink, .inr ((hrecords.pending_iff _).mp hlookup)⟩
          | some settled =>
              obtain ⟨target', hlink', hsettles⟩ := hrecords.known _ _ hlookup
              rw [List.dropLast_concat] at hsettles
              exact ⟨.follow hname hlink' hsettles (.arrived _), hrecords⟩

/-- The search finds where names lead as long as its depth covers the links that are not pending. -/
theorem finds_settleFrom (depth : Nat) (hrecords : Records tree pending visited)
    (hdepth : tree.root.linkCount < depth + pending.length) (base : FilePath)
    (names : List String) :
    Finds tree pending base names (tree.settleFrom depth base names visited) := by
  induction depth generalizing pending visited base names with
  | zero =>
      -- more links would be pending than there are
      have hcount := length_le_linkCount hrecords.nodup hrecords.links
      omega
  | succ depth ih =>
      rw [settleFrom_succ]
      refine finds_settleNames ?_ base names hrecords
      intro base name visited hname hrecords
      exact finds_settleName (fun _ _ hrecords hdepth => ih hrecords hdepth) hdepth hrecords hname
        base

/-! ## What settling comes to -/

/-- From the root, with nothing pending, the search finds the path or a loop. -/
theorem settleFrom_root (tree : FileTree) (path : FilePath) :
    (∃ settled visited, tree.settleFrom (tree.root.linkCount + 1) [] path [] =
        (.at settled, visited) ∧ Settles tree [] path settled) ∨
      ∃ met visited, tree.settleFrom (tree.root.linkCount + 1) [] path [] =
        (.cyclic met, visited) ∧ Loops tree [] path := by
  have hfinds := finds_settleFrom (tree.root.linkCount + 1) (records_nil : Records tree [] [])
    (by simp) [] path
  rcases hrun : tree.settleFrom (tree.root.linkCount + 1) [] path [] with
    ⟨settled | met, visited⟩
  · rw [hrun] at hfinds
    exact .inl ⟨settled, visited, rfl, hfinds.1⟩
  · rw [hrun] at hfinds
    obtain ⟨link, hmeets, hloop⟩ := hfinds
    exact .inr ⟨met, visited, rfl, link, hmeets, hloop.resolve_right (by simp)⟩

/-- A path that leads to another one settles to that one. -/
theorem settle_of_settles {path settled : FilePath} (hsettles : Settles tree [] path settled) :
    tree.settle path = .at settled := by
  rcases settleFrom_root tree path with ⟨found, visited, hrun, hfound⟩ | ⟨met, visited, _, hloops⟩
  · rw [settle, hrun, hsettles.unique hfound]
  · exact absurd hloops hsettles.not_loops

/-- Loops are all that keeps a path from leading to another one. -/
theorem not_loops_iff {path : FilePath} :
    ¬ Loops tree [] path ↔ ∃ settled, Settles tree [] path settled := by
  constructor
  · intro hnone
    rcases settleFrom_root tree path with ⟨settled, _, _, hsettles⟩ | ⟨_, _, _, hloops⟩
    · exact ⟨settled, hsettles⟩
    · exact absurd hloops hnone
  · rintro ⟨settled, hsettles⟩
    exact hsettles.not_loops

end FileTree

end VersionedAssets
