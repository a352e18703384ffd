import VersionedAssets.Proofs.FileTree.Opening

/-! # What opening finds

Opening follows a limited number of links and settling follows any number, but where opening gets
to, settling gets to as well: what a path is found to lead to stands where the path settles.
-/

namespace VersionedAssets.FileTree

variable {tree : FileTree} {base path settled : FilePath} {names rest : List String}

/-! ## Names that count -/

theorem settles_append_iff {front : List String} :
    Settles tree base (front ++ rest) settled ↔
      ∃ middle, Settles tree base front middle ∧ Settles tree middle rest settled := by
  refine ⟨fun hsettles => ?_, fun ⟨middle, hfront, hrest⟩ => hfront.append hrest⟩
  induction front generalizing base with
  | nil => exact ⟨base, .arrived base, hsettles⟩
  | cons name front ih =>
      rcases isName_or name with hvoid | rfl | hname
      · obtain ⟨middle, hfront, hrest⟩ := ih ((settles_void_iff hvoid).mp hsettles)
        exact ⟨middle, .skip hvoid hfront, hrest⟩
      · obtain ⟨middle, hfront, hrest⟩ := ih (settles_up_iff.mp hsettles)
        exact ⟨middle, .up hfront, hrest⟩
      · cases hlink : tree.link? (base ++ [name]) with
        | none =>
            obtain ⟨middle, hfront, hrest⟩ := ih ((settles_plain_iff hname hlink).mp hsettles)
            exact ⟨middle, .step hname hlink hfront, hrest⟩
        | some target =>
            obtain ⟨reached, htarget, hsettles⟩ := (settles_link_iff hname hlink).mp hsettles
            obtain ⟨middle, hfront, hrest⟩ := ih hsettles
            exact ⟨middle, .follow hname hlink htarget hfront, hrest⟩

/-- Only the names that are not void count. -/
theorem settles_filter_iff :
    Settles tree base (names.filter fun name => !FilePath.isVoid name) settled ↔
      Settles tree base names settled := by
  induction names generalizing base with
  | nil => exact Iff.rfl
  | cons name rest ih =>
      rcases isName_or name with hvoid | rfl | hname
      · rw [List.filter_cons_of_neg (by simp [hvoid]), settles_void_iff hvoid]
        exact ih
      · rw [List.filter_cons_of_pos (by simp [isVoid_up]), settles_up_iff, settles_up_iff]
        exact ih
      · rw [List.filter_cons_of_pos (by simp [hname.not_void])]
        cases hlink : tree.link? (base ++ [name]) with
        | none =>
            rw [settles_plain_iff hname hlink, settles_plain_iff hname hlink]
            exact ih
        | some target =>
            rw [settles_link_iff hname hlink, settles_link_iff hname hlink]
            exact exists_congr fun reached => and_congr_right fun _ => ih

/-- What opening goes through for the target of a link leads where the target settles. -/
theorem settles_wayTo_iff {target : String} :
    Settles tree base (wayTo target) settled ↔
      Settles tree base (Text.pieces '/' target) settled := by
  have hnames : (wayTo target).filter (fun name => !FilePath.isVoid name) =
      (Text.pieces '/' target).filter fun name => !FilePath.isVoid name := by
    have hend : ((if (Text.pieces '/' target).getLast? = some "" then ["."] else []).filter
        fun name => !FilePath.isVoid name) = [] := by
      split <;> simp [FilePath.isVoid]
    rw [wayTo, List.filter_append, hend, List.append_nil, List.filter_filter]
    refine List.filter_congr fun name _ => ?_
    by_cases hname : name = "" <;> simp [hname, FilePath.isVoid]
  rw [← settles_filter_iff, hnames, settles_filter_iff]

/-! ## Walking -/

/-- No name of the path is too long. -/
def OnlyShort (path : FilePath) : Prop := ∀ name ∈ path, IsShort name

/-- A walk along the names that begins at the path has followed them up to where it stops. -/
def Stop.IsSound (tree : FileTree) (base : FilePath) (names : List String) : Stop → Prop
  | .arrived path => Settles tree base names path ∧ OnlyShort path
  | .failed _ => True
  | .met start target rest => OnlyShort start ∧
      ∃ front name, names = front ++ name :: rest ∧ Settles tree base front start ∧
        IsName name ∧ tree.link? (start ++ [name]) = some target

/-- What comes before the names does not matter for where the walk stops. -/
theorem Stop.IsSound.cons {start : FilePath} {name : String} {stop : Stop}
    (hsound : stop.IsSound tree start names)
    (hname : ∀ front settled, Settles tree start front settled →
      Settles tree base (name :: front) settled) : stop.IsSound tree base (name :: names) := by
  cases stop with
  | arrived path => exact ⟨hname _ _ hsound.1, hsound.2⟩
  | failed fault => trivial
  | met start target rest =>
      obtain ⟨hshort, front, next, rfl, hfront, hnext, hlink⟩ := hsound
      exact ⟨hshort, name :: front, next, rfl, hname _ _ hfront, hnext, hlink⟩

theorem isSound_walk (hshort : OnlyShort base) :
    (tree.walk base names).IsSound tree base names := by
  induction names generalizing base with
  | nil => exact ⟨.arrived base, hshort⟩
  | cons name rest ih =>
      rw [walk]
      split
      next =>
        split
        next hvoid => exact (ih hshort).cons fun _ _ => .skip hvoid
        next hvoid =>
          split
          next hup =>
            have habove : OnlyShort base.dropLast := fun other hother =>
              hshort other (List.dropLast_subset _ hother)
            exact hup ▸ (ih habove).cons fun _ _ => .up
          next hup =>
            have hname : IsName name := ⟨by simpa using hvoid, hup⟩
            split
            next => trivial
            next hlong =>
              split
              next => trivial
              next target hnode =>
                exact ⟨hshort, [], name, rfl, .arrived base, hname, by simp [link?, hnode]⟩
              next node hnolink hnode =>
                have hplain : tree.link? (base ++ [name]) = none := by
                  unfold link?
                  split
                  next target htarget =>
                    exact (hnolink target (Option.some.inj (hnode.symm.trans htarget))).elim
                  next => rfl
                have hlonger : OnlyShort (base ++ [name]) :=
                  List.forall_mem_append.mpr
                    ⟨hshort, List.forall_mem_singleton.mpr (Nat.le_of_not_lt hlong)⟩
                exact (ih hlonger).cons fun _ _ => .step hname hplain
      next => trivial

theorem settles_of_arrived (hshort : OnlyShort base)
    (harrived : tree.walk base names = .arrived path) :
    Settles tree base names path ∧ OnlyShort path := by
  have hsound : (tree.walk base names).IsSound tree base names := isSound_walk hshort
  rwa [harrived] at hsound

/-! ## Reaching -/

/-- Where a limited number of links leads is where the names settle. -/
theorem settles_of_reach {budget : Nat} (hshort : OnlyShort base)
    (hreach : tree.reach budget base names = .ok path) :
    Settles tree base names path ∧ OnlyShort path := by
  induction budget generalizing base names with
  | zero =>
      unfold reach at hreach
      split at hreach
      next reached harrived =>
        exact settles_of_arrived hshort (Except.ok.inj hreach ▸ harrived)
      next => cases hreach
      next => cases hreach
  | succ budget ih =>
      unfold reach at hreach
      split at hreach
      next reached harrived =>
        exact settles_of_arrived hshort (Except.ok.inj hreach ▸ harrived)
      next => cases hreach
      next start target rest hmet =>
        have hsound : (tree.walk base names).IsSound tree base names := isSound_walk hshort
        rw [hmet] at hsound
        obtain ⟨hshort, front, name, rfl, hfront, hname, hlink⟩ := hsound
        have horigin : OnlyShort (origin start target) := by
          unfold origin
          split
          · simp [OnlyShort]
          · exact hshort
        obtain ⟨hsettles, hpath⟩ := ih horigin hreach
        obtain ⟨reached, htarget, hrest⟩ := settles_append_iff.mp hsettles
        exact ⟨hfront.append (.follow hname hlink (settles_wayTo_iff.mp htarget) hrest), hpath⟩

/-- What a path leads to stands where the path settles. -/
theorem settles_of_find {node : Node} (hfind : tree.find path = .ok node) :
    ∃ settled, Settles tree [] path settled ∧ tree.node? settled = some node ∧
      OnlyShort settled := by
  unfold find at hfind
  split at hfind
  next => cases hfind
  next =>
    split at hfind
    next => cases hfind
    next reached hreach =>
      split at hfind
      next found hnode =>
        obtain rfl := Except.ok.inj hfind
        obtain ⟨hsettles, hshort⟩ := settles_of_reach (by simp [OnlyShort]) hreach
        exact ⟨reached, hsettles, hnode, hshort⟩
      next => cases hfind

end VersionedAssets.FileTree
