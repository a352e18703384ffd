import VersionedAssets.FileTree

/-! # The order of entries

Trees that hold the same and list their directories in different orders cannot be told apart by
following paths: what is found at a path is the same, but for the order of the entries.
-/

namespace VersionedAssets

/-- The same is there, but for the order of the entries of a directory. -/
inductive Node.Alike : Option Node → Option Node → Prop
  | absent : Alike none none
  | file (data : Bytes) (modified : Int) :
      Alike (some (.file data modified)) (some (.file data modified))
  | link (target : String) : Alike (some (.link target)) (some (.link target))
  | directory {entries others : List (String × Node)}
      (hnames : (others.map (·.1)).Perm (entries.map (·.1))) :
      Alike (some (.directory entries)) (some (.directory others))

namespace Node

theorem Alike.refl (found : Option Node) : Alike found found := by
  rcases found with _ | node
  · exact .absent
  · cases node with
    | file data modified => exact .file data modified
    | link target => exact .link target
    | directory entries => exact .directory (.refl _)

theorem Alike.symm {found twin : Option Node} (halike : Alike found twin) : Alike twin found := by
  cases halike with
  | absent => exact .absent
  | file data modified => exact .file data modified
  | link target => exact .link target
  | directory hnames => exact .directory hnames.symm

/-- Entries with different names are found by their names in whatever order they are listed. -/
theorem lookup_eq_of_perm {entries others : List (String × Node)} (hperm : others.Perm entries)
    (hnodup : (others.map (·.1)).Nodup) (name : String) :
    others.lookup name = entries.lookup name := by
  induction hperm with
  | nil => rfl
  | cons entry _ ih =>
      obtain ⟨key, node⟩ := entry
      rw [List.lookup_cons, List.lookup_cons, ih (List.nodup_cons.mp hnodup).2]
  | swap first second rest =>
      obtain ⟨key, node⟩ := first
      obtain ⟨other, twin⟩ := second
      have hdistinct : key ≠ other := by
        rintro rfl
        simp at hnodup
      simp only [List.lookup_cons]
      by_cases hkey : name = key
      · simp [hkey, beq_eq_false_iff_ne.mpr hdistinct]
      · rw [beq_eq_false_iff_ne.mpr hkey]
  | trans hperm _ ih ih' => rw [ih hnodup, ih' ((hperm.map _).nodup_iff.mp hnodup)]

/-- The entries of a directory in another order. -/
theorem Alike.of_perm {entries others : List (String × Node)} (hperm : others.Perm entries)
    (hnodup : (others.map (·.1)).Nodup) (path : FilePath) :
    Alike ((Node.directory entries).at? path) ((Node.directory others).at? path) := by
  cases path with
  | nil => exact .directory (hperm.map _)
  | cons name rest =>
      simp only [at?, child?, lookup_eq_of_perm hperm hnodup]
      exact .refl _

/-- A directory with another order somewhere below it. -/
theorem Alike.below {node twin : Node} (halike : ∀ path, Alike (node.at? path) (twin.at? path))
    (front back : List (String × Node)) (name : String) (path : FilePath) :
    Alike ((Node.directory (front ++ (name, node) :: back)).at? path)
      ((Node.directory (front ++ (name, twin) :: back)).at? path) := by
  cases path with
  | nil => exact .directory (by simp)
  | cons next rest =>
      simp only [at?, child?]
      induction front with
      | nil =>
          simp only [List.nil_append, List.lookup_cons]
          cases next == name with
          | true => exact halike rest
          | false => exact .refl _
      | cons entry front ih =>
          obtain ⟨key, other⟩ := entry
          simp only [List.cons_append, List.lookup_cons]
          cases next == key with
          | true => exact .refl _
          | false => exact ih

end Node

namespace FileTree

/-- The trees hold the same, but for the order of the entries of their directories. -/
def Reordered (tree other : FileTree) : Prop :=
  ∀ path, Node.Alike (tree.node? path) (other.node? path)

variable {tree other : FileTree} {path : FilePath}

theorem Reordered.symm (hreordered : Reordered tree other) : Reordered other tree :=
  fun path => (hreordered path).symm

theorem Reordered.walk_eq (hreordered : Reordered tree other) (base : FilePath)
    (names : List String) : tree.walk base names = other.walk base names := by
  induction names generalizing base with
  | nil => rfl
  | cons name rest ih =>
      have hbase := hreordered base
      have hnext := hreordered (base ++ [name])
      simp only [walk]
      generalize tree.node? base = found, other.node? base = twin at hbase
      generalize tree.node? (base ++ [name]) = next,
        other.node? (base ++ [name]) = nextTwin at hnext
      cases hbase <;> cases hnext <;> simp only [ih]

theorem Reordered.reach_eq (hreordered : Reordered tree other) (budget : Nat) (base : FilePath)
    (names : List String) : tree.reach budget base names = other.reach budget base names := by
  induction budget generalizing base names with
  | zero => rw [reach, reach, hreordered.walk_eq]
  | succ budget ih =>
      rw [reach, reach, hreordered.walk_eq]
      simp only [ih]

/-- What a path leads to in one tree is what it leads to in the other. -/
theorem Reordered.find_alike (hreordered : Reordered tree other) (path : FilePath) :
    (∃ fault, tree.find path = .error fault ∧ other.find path = .error fault) ∨
      ∃ node twin, tree.find path = .ok node ∧ other.find path = .ok twin ∧
        Node.Alike (some node) (some twin) := by
  unfold find
  by_cases hlong : maxPath < (FilePath.render path).utf8ByteSize
  · simp [hlong]
  · rw [if_neg hlong, if_neg hlong, hreordered.reach_eq]
    cases hreach : other.reach maxLinks [] path with
    | error fault => exact .inl ⟨fault, rfl, rfl⟩
    | ok reached =>
        have hreached := hreordered reached
        dsimp only
        generalize tree.node? reached = found, other.node? reached = twin at hreached
        cases hreached with
        | absent => exact .inl ⟨.absent, rfl, rfl⟩
        | file data modified => exact .inr ⟨_, _, rfl, rfl, .file data modified⟩
        | link target => exact .inr ⟨_, _, rfl, rfl, .link target⟩
        | directory hnames => exact .inr ⟨_, _, rfl, rfl, .directory hnames⟩

theorem Reordered.find_error (hreordered : Reordered tree other) {fault : IoFault}
    (hfind : tree.find path = .error fault) : other.find path = .error fault := by
  rcases hreordered.find_alike path with ⟨found, hfound, hother⟩ | ⟨node, twin, hfound, -⟩
  · rw [hother, ← hfound, hfind]
  · cases hfound.symm.trans hfind

theorem Reordered.find_file (hreordered : Reordered tree other) {data : Bytes} {modified : Int}
    (hfind : tree.find path = .ok (.file data modified)) :
    other.find path = .ok (.file data modified) := by
  rcases hreordered.find_alike path with ⟨fault, hfound, -⟩ | ⟨node, twin, hfound, hother, halike⟩
  · cases hfound.symm.trans hfind
  · obtain ⟨⟩ := hfound.symm.trans hfind
    cases halike
    exact hother

theorem Reordered.find_directory (hreordered : Reordered tree other)
    {entries : List (String × Node)} (hfind : tree.find path = .ok (.directory entries)) :
    ∃ others, other.find path = .ok (.directory others) ∧
      (others.map (·.1)).Perm (entries.map (·.1)) := by
  rcases hreordered.find_alike path with ⟨fault, hfound, -⟩ | ⟨node, twin, hfound, hother, halike⟩
  · cases hfound.symm.trans hfind
  · obtain ⟨⟩ := hfound.symm.trans hfind
    cases halike with
    | directory hnames => exact ⟨_, hother, hnames⟩

end FileTree

end VersionedAssets
