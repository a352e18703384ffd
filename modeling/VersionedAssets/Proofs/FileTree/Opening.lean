import VersionedAssets.Proofs.FileTree.Links

/-! # Opening settled paths

Along a path without links a walk stops early only because something is missing: a directory, the
next name, or room for a long name. So a settled path leads to what stands there, or to nothing.
-/

namespace VersionedAssets

namespace Node

theorem at?_append (node : Node) (front rest : FilePath) :
    node.at? (front ++ rest) = (node.at? front).bind fun child => child.at? rest := by
  induction front generalizing node with
  | nil => rfl
  | cons name front ih =>
      simp only [List.cons_append, at?, Option.bind_assoc, ih]

end Node

namespace FileTree

variable {tree : FileTree} {path base : FilePath} {names : List String}

theorem node?_append (tree : FileTree) (front rest : FilePath) :
    tree.node? (front ++ rest) = (tree.node? front).bind fun node => node.at? rest :=
  tree.root.at?_append front rest

/-- The name is not too long for the file system. -/
def IsShort (name : String) : Prop := name.utf8ByteSize ≤ maxName

/-- The node stands at the path, and neither the path nor a name of it is too long to be opened. -/
structure Stands (tree : FileTree) (path : FilePath) (node : Node) : Prop where
  node?_eq : tree.node? path = some node
  names_short : ∀ name ∈ path, IsShort name
  path_short : (FilePath.render path).utf8ByteSize ≤ maxPath

/-- Nothing stands below what is no directory. -/
theorem node?_concat_of_not_directory {name : String}
    (hfile : ∀ entries, tree.node? base ≠ some (.directory entries)) :
    tree.node? (base ++ [name]) = none := by
  rw [node?_append]
  cases hbase : tree.node? base with
  | none => rfl
  | some node =>
      cases node with
      | file => rfl
      | link => rfl
      | directory entries => exact absurd hbase (hfile entries)

/-- A walk goes on to a name that is no link, unless the name is missing or too long. -/
theorem walk_cons {name : String} (hname : IsName name)
    (hplain : tree.link? (base ++ [name]) = none) (rest : List String) :
    tree.walk base (name :: rest) = tree.walk (base ++ [name]) rest ∧ IsShort name ∨
      ∃ fault, tree.walk base (name :: rest) = .failed fault ∧ fault.isMissing = true ∧
        (tree.node? (base ++ [name]) = none ∨ ¬ IsShort name) := by
  by_cases hdirectory : ∃ entries, tree.node? base = some (.directory entries)
  · obtain ⟨entries, hbase⟩ := hdirectory
    by_cases hlong : maxName < name.utf8ByteSize
    · refine .inr ⟨.nameTooLong, ?_, rfl, .inr (Nat.not_le_of_lt hlong)⟩
      simp [walk, hbase, hname.not_void, hname.not_up, hlong]
    · cases hnode : tree.node? (base ++ [name]) with
      | none =>
          refine .inr ⟨.absent, ?_, rfl, .inl rfl⟩
          simp [walk, hbase, hname.not_void, hname.not_up, hlong, hnode]
      | some node =>
          refine .inl ⟨?_, Nat.le_of_not_lt hlong⟩
          cases node with
          | link target => simp [link?, hnode] at hplain
          | file => simp [walk, hbase, hname.not_void, hname.not_up, hlong, hnode]
          | directory => simp [walk, hbase, hname.not_void, hname.not_up, hlong, hnode]
  · have hfile : ∀ entries, tree.node? base ≠ some (.directory entries) :=
      fun entries hbase => hdirectory ⟨entries, hbase⟩
    refine .inr ⟨.notDirectory, ?_, rfl, .inl (node?_concat_of_not_directory hfile)⟩
    rw [walk]
    split
    next entries hbase => exact absurd hbase (hfile entries)
    next => rfl

theorem Stands.unique {node other : Node} (hstands : Stands tree path node)
    (hother : Stands tree path other) : other = node :=
  Option.some.inj (hother.node?_eq.symm.trans hstands.node?_eq)

/-- A walk along a settled path arrives, or something is missing on the way. -/
theorem walk_of_isSettled (hsettled : IsSettled tree (base ++ names)) :
    tree.walk base names = .arrived (base ++ names) ∧ (∀ name ∈ names, IsShort name) ∨
      ∃ fault, tree.walk base names = .failed fault ∧ fault.isMissing = true ∧
        (tree.node? (base ++ names) = none ∨ ∃ name ∈ names, ¬ IsShort name) := by
  induction names generalizing base with
  | nil => exact .inl ⟨by simp [walk], by simp⟩
  | cons name rest ih =>
      rw [List.append_cons] at hsettled ⊢
      have hname := hsettled.names name (by simp)
      have hplain := hsettled.no_link base name (List.prefix_append _ _)
      rcases walk_cons hname hplain rest with ⟨hwalk, hshort⟩ | ⟨fault, hwalk, hmissing, hwhy⟩
      · rw [hwalk]
        rcases ih hsettled with ⟨harrived, hrest⟩ | ⟨fault, hfailed, hmissing, hwhy⟩
        · exact .inl ⟨harrived, List.forall_mem_cons.mpr ⟨hshort, hrest⟩⟩
        · refine .inr ⟨fault, hfailed, hmissing, hwhy.imp_right ?_⟩
          rintro ⟨other, hother, hlong⟩
          exact ⟨other, List.mem_cons_of_mem _ hother, hlong⟩
      · refine .inr ⟨fault, hwalk, hmissing, ?_⟩
        rcases hwhy with hnone | hlong
        · exact .inl (by rw [node?_append, hnone]; rfl)
        · exact .inr ⟨name, List.mem_cons_self, hlong⟩

/-- What opening a settled path comes to. -/
theorem find_of_isSettled (hsettled : IsSettled tree path) :
    (∃ node, tree.find path = .ok node ∧ Stands tree path node) ∨
      ∃ fault, tree.find path = .error fault ∧ fault.isMissing = true ∧
        ∀ node, ¬ Stands tree path node := by
  by_cases hlong : maxPath < (FilePath.render path).utf8ByteSize
  · refine .inr ⟨.nameTooLong, by simp [find, hlong], rfl, ?_⟩
    exact fun node hstands => Nat.not_lt_of_le hstands.path_short hlong
  · rcases @walk_of_isSettled tree [] path hsettled with
      ⟨hwalk, hshort⟩ | ⟨fault, hwalk, hmissing, hwhy⟩
    · have hreach : tree.reach maxLinks [] path = .ok path := by
        rw [reach, hwalk]
        rfl
      cases hnode : tree.node? path with
      | none =>
          refine .inr ⟨.absent, by simp [find, hlong, hreach, hnode], rfl, ?_⟩
          exact fun node hstands => absurd hstands.node?_eq (by simp [hnode])
      | some node =>
          exact .inl ⟨node, by simp [find, hlong, hreach, hnode],
            hnode, hshort, Nat.le_of_not_lt hlong⟩
    · have hreach : tree.reach maxLinks [] path = .error fault := by
        rw [reach, hwalk]
      refine .inr ⟨fault, by simp [find, hlong, hreach], hmissing, ?_⟩
      intro node hstands
      rcases hwhy with hnone | ⟨name, hname, hlongName⟩
      · exact absurd (hstands.node?_eq.symm.trans hnone) (by simp)
      · exact hlongName (hstands.names_short name hname)

theorem find_eq_ok_iff (hsettled : IsSettled tree path) (node : Node) :
    tree.find path = .ok node ↔ Stands tree path node := by
  rcases find_of_isSettled hsettled with ⟨found, hfind, hstands⟩ | ⟨fault, hfind, -, hnone⟩
  · rw [hfind]
    constructor
    · intro heq
      obtain rfl := Except.ok.inj heq
      exact hstands
    · intro hother
      rw [hstands.unique hother]
  · rw [hfind]
    exact iff_of_false (by simp) (hnone node)

/-- Asking what stands at a settled path does not fail. -/
theorem isRegularFile_of_isSettled (hsettled : IsSettled tree path) :
    (∃ data modified, Stands tree path (.file data modified)) ∧
        tree.isRegularFile path = .ok true ∨
      (∀ data modified, ¬ Stands tree path (.file data modified)) ∧
        tree.isRegularFile path = .ok false := by
  rcases find_of_isSettled hsettled with ⟨node, hfind, hstands⟩ | ⟨fault, hfind, hmissing, hnone⟩
  · cases node with
    | file data modified =>
        exact .inl ⟨⟨data, modified, hstands⟩, by simp [isRegularFile, hfind, Node.isFile]⟩
    | link target =>
        refine .inr ⟨?_, by simp [isRegularFile, hfind, Node.isFile]⟩
        exact fun _ _ hfile => Node.noConfusion (hstands.unique hfile)
    | directory entries =>
        refine .inr ⟨?_, by simp [isRegularFile, hfind, Node.isFile]⟩
        exact fun _ _ hfile => Node.noConfusion (hstands.unique hfile)
  · exact .inr ⟨fun _ _ => hnone _, by simp [isRegularFile, hfind, hmissing]⟩

end FileTree

end VersionedAssets
