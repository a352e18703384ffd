/-! # Attempts one after the other

A chain of steps that may fail comes to a value exactly if each step comes to one, and then to the
value of the last step. It fails with the fault of the first step that fails.
-/

namespace VersionedAssets.Attempt

variable {ε α β : Type}

theorem bind_of_ok {first : Except ε α} {next : α → Except ε β} {a : α} (hfirst : first = .ok a) :
    (first >>= next) = next a := by
  rw [hfirst]
  rfl

theorem bind_of_error {first : Except ε α} {next : α → Except ε β} {fault : ε}
    (hfirst : first = .error fault) : (first >>= next) = .error fault := by
  rw [hfirst]
  rfl

theorem bind_eq_ok_iff {first : Except ε α} {next : α → Except ε β} {b : β} :
    (first >>= next) = .ok b ↔ ∃ a, first = .ok a ∧ next a = .ok b := by
  cases first with
  | error fault => simp [bind, Except.bind]
  | ok a => simp [bind, Except.bind]

theorem bind_eq_error_iff {first : Except ε α} {next : α → Except ε β} {fault : ε} :
    (first >>= next) = .error fault ↔
      first = .error fault ∨ ∃ a, first = .ok a ∧ next a = .error fault := by
  cases first with
  | error fault => simp [bind, Except.bind]
  | ok a => simp [bind, Except.bind]

theorem map_eq_ok_iff {first : Except ε α} {f : α → β} {b : β} :
    first.map f = .ok b ↔ ∃ a, first = .ok a ∧ f a = b := by
  cases first with
  | error fault => simp [Except.map]
  | ok a => simp [Except.map]

theorem map_eq_error_iff {first : Except ε α} {f : α → β} {fault : ε} :
    first.map f = .error fault ↔ first = .error fault := by
  cases first with
  | error fault => simp [Except.map]
  | ok a => simp [Except.map]

/-- Attempts that all come to a value come to the list of the values. -/
theorem mapM_eq_ok {f : α → Except ε β} {g : α → β} {items : List α}
    (hitems : ∀ item ∈ items, f item = .ok (g item)) : items.mapM f = .ok (items.map g) := by
  induction items with
  | nil => rfl
  | cons item rest ih =>
      obtain ⟨hitem, hrest⟩ := List.forall_mem_cons.mp hitems
      rw [List.mapM_cons, hitem, ih hrest]
      rfl

/-- What a list of attempts fails with is what one of them fails with. -/
theorem exists_of_mapM_eq_error {f : α → Except ε β} {items : List α} {fault : ε}
    (hfails : items.mapM f = .error fault) : ∃ item ∈ items, f item = .error fault := by
  induction items with
  | nil => cases hfails
  | cons item rest ih =>
      rw [List.mapM_cons] at hfails
      rcases bind_eq_error_iff.mp hfails with hitem | ⟨b, -, hlater⟩
      · exact ⟨item, List.mem_cons_self, hitem⟩
      · rcases bind_eq_error_iff.mp hlater with hrest | ⟨bs, -, hnever⟩
        · obtain ⟨failing, hmem, hfailing⟩ := ih hrest
          exact ⟨failing, List.mem_cons_of_mem _ hmem, hfailing⟩
        · cases hnever

theorem exists_mapM_eq_error_iff {f : α → Except ε β} {items : List α} :
    (∃ fault, items.mapM f = .error fault) ↔ ∃ item ∈ items, ∃ fault, f item = .error fault := by
  constructor
  · rintro ⟨fault, hfails⟩
    obtain ⟨item, hmem, hitem⟩ := exists_of_mapM_eq_error hfails
    exact ⟨item, hmem, fault, hitem⟩
  · intro hfails
    induction items with
    | nil => simp at hfails
    | cons item rest ih =>
        rw [List.mapM_cons]
        cases hfirst : f item with
        | error fault => exact ⟨fault, rfl⟩
        | ok b =>
            obtain ⟨failing, hmem, fault, hfault⟩ := hfails
            rcases List.mem_cons.mp hmem with rfl | hmem
            · cases hfirst.symm.trans hfault
            · obtain ⟨later, hlater⟩ := ih ⟨failing, hmem, fault, hfault⟩
              exact ⟨later, by rw [hlater]; rfl⟩

/-! ## Filtering -/

section

variable {test : α → Except ε Bool} {items : List α}

theorem filterAuxM_eq_ok {answer : α → Bool}
    (hitems : ∀ item ∈ items, test item = .ok (answer item)) (done : List α) :
    items.filterAuxM test done = .ok ((items.filter answer).reverse ++ done) := by
  induction items generalizing done with
  | nil => rfl
  | cons item rest ih =>
      obtain ⟨hitem, hrest⟩ := List.forall_mem_cons.mp hitems
      rw [List.filterAuxM, bind_of_ok hitem, ih hrest]
      cases hanswer : answer item <;> simp [hanswer]

/-- Tests that all come to an answer filter by their answers. -/
theorem filterM_eq_ok {answer : α → Bool} (hitems : ∀ item ∈ items, test item = .ok (answer item)) :
    items.filterM test = .ok (items.filter answer) := by
  rw [List.filterM, filterAuxM_eq_ok hitems, List.append_nil]
  exact congrArg Except.ok (List.reverse_reverse _)

theorem filterAuxM_eq_error {fault : ε}
    (hitems : ∀ item ∈ items, (∃ answer, test item = .ok answer) ∨ test item = .error fault)
    (hfails : ∃ item ∈ items, test item = .error fault) (done : List α) :
    items.filterAuxM test done = .error fault := by
  induction items generalizing done with
  | nil => simp at hfails
  | cons item rest ih =>
      obtain ⟨hitem, hrest⟩ := List.forall_mem_cons.mp hitems
      rw [List.filterAuxM]
      rcases hitem with ⟨answer, hanswer⟩ | hfault
      · rw [bind_of_ok hanswer]
        refine ih hrest ?_ _
        obtain ⟨failing, hmem, hfails⟩ := hfails
        rcases List.mem_cons.mp hmem with rfl | hmem
        · cases hanswer.symm.trans hfails
        · exact ⟨failing, hmem, hfails⟩
      · exact bind_of_error hfault

/-- If tests can fail with one fault only and some test does, filtering fails with it. -/
theorem filterM_eq_error {fault : ε}
    (hitems : ∀ item ∈ items, (∃ answer, test item = .ok answer) ∨ test item = .error fault)
    (hfails : ∃ item ∈ items, test item = .error fault) : items.filterM test = .error fault := by
  rw [List.filterM, filterAuxM_eq_error hitems hfails]
  rfl

end

end VersionedAssets.Attempt
