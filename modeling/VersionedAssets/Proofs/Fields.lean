import VersionedAssets.Fields

/-! # Reading fields back

The value of a name is the one that was written last, whatever was written under other names.
-/

namespace VersionedAssets.Fields

variable {α : Type}

theorem lookup_putEntry (name other : String) (value : α) (entries : List (String × α)) :
    (putEntry name value entries).lookup other =
      if other = name then some value else entries.lookup other := by
  induction entries with
  | nil =>
      by_cases hother : other = name
      · simp [putEntry, hother]
      · simp [putEntry, hother, List.lookup_cons, beq_eq_false_iff_ne.mpr hother]
  | cons entry rest ih =>
      obtain ⟨key, old⟩ := entry
      by_cases hkey : key = name
      · subst hkey
        by_cases hother : other = key
        · simp [putEntry, hother]
        · simp [putEntry, hother, List.lookup_cons, beq_eq_false_iff_ne.mpr hother]
      · by_cases hother : other = key
        · simp [putEntry, hkey, hother]
        · simp [putEntry, hkey, List.lookup_cons, beq_eq_false_iff_ne.mpr hother, ih]

theorem putEntry_putEntry (name : String) (first second : α) (entries : List (String × α)) :
    putEntry name second (putEntry name first entries) = putEntry name second entries := by
  induction entries with
  | nil => simp [putEntry]
  | cons entry rest ih =>
      by_cases hkey : entry.1 = name
      · simp [putEntry, hkey]
      · simp [putEntry, hkey, ih]

/-- A value that is written again replaces the one before. -/
theorem put_put (fields : Fields α) (name : String) (first second : α) :
    (fields.put name first).put name second = fields.put name second :=
  congrArg mk (putEntry_putEntry name first second fields.entries)

theorem get?_put (fields : Fields α) (name other : String) (value : α) :
    (fields.put name value).get? other = if other = name then some value else fields.get? other :=
  lookup_putEntry name other value fields.entries

/-- Writing a name changes nothing for those who look for other names. -/
theorem find?_putEntry {p : String → Bool} {name : String} (hname : p name = false) (value : α)
    (entries : List (String × α)) :
    (putEntry name value entries).find? (fun entry => p entry.1) =
      entries.find? fun entry => p entry.1 := by
  induction entries with
  | nil => simp [putEntry, hname]
  | cons entry rest ih =>
      by_cases hkey : entry.1 = name
      · simp [putEntry, hkey, hname]
      · simp [putEntry, hkey, List.find?_cons, ih]

/-- Entries that are left out change nothing for the names that all stay. -/
theorem lookup_filter {p : String → Bool} {name : String} (hname : p name = true)
    (entries : List (String × α)) :
    (entries.filter fun entry => p entry.1).lookup name = entries.lookup name := by
  induction entries with
  | nil => rfl
  | cons entry rest ih =>
      obtain ⟨key, value⟩ := entry
      by_cases hkey : name = key
      · subst hkey
        simp [hname]
      · have hskipped : ((key, value) :: rest).lookup name = rest.lookup name := by
          simp [List.lookup_cons, beq_eq_false_iff_ne.mpr hkey]
        rw [hskipped, ← ih]
        by_cases hkept : p key = true
        · simp [hkept, List.lookup_cons, beq_eq_false_iff_ne.mpr hkey]
        · simp [hkept]

theorem get?_putNew (fields : Fields α) (name other : String) (value : α) :
    (fields.putNew name value).get? other =
      if other = name then some ((fields.get? name).getD value) else fields.get? other := by
  unfold putNew has
  split
  next hhas =>
    obtain ⟨old, hold⟩ := Option.isSome_iff_exists.mp hhas
    by_cases hother : other = name
    · simp [hother, hold]
    · simp [hother]
  next hnew =>
    rw [Option.isSome_iff_exists, not_exists] at hnew
    rw [get?_put, Option.eq_none_iff_forall_ne_some.mpr hnew]
    rfl

/-! ## What fields are filled with -/

/-- The names in the order in which they were first written. -/
def names (fields : Fields α) : List String := fields.entries.map Prod.fst

theorem map_fst_putEntry (name : String) (value : α) (entries : List (String × α)) :
    (putEntry name value entries).map Prod.fst =
      if name ∈ entries.map Prod.fst then entries.map Prod.fst
      else entries.map Prod.fst ++ [name] := by
  induction entries with
  | nil => simp [putEntry]
  | cons entry rest ih =>
      by_cases hkey : entry.1 = name
      · simp [putEntry, hkey]
      · have hname : name ≠ entry.1 := fun heq => hkey heq.symm
        simp only [putEntry, hkey, if_false, List.map_cons, ih, List.mem_cons, hname, false_or]
        split <;> rfl

theorem mem_putEntry {name : String} {value : α} {entries : List (String × α)}
    {entry : String × α} (hentry : entry ∈ putEntry name value entries) :
    entry = (name, value) ∨ entry ∈ entries := by
  induction entries with
  | nil => simpa [putEntry] using hentry
  | cons first rest ih =>
      unfold putEntry at hentry
      split at hentry
      · rcases List.mem_cons.mp hentry with hnew | hrest
        · exact .inl hnew
        · exact .inr (List.mem_cons_of_mem _ hrest)
      · rcases List.mem_cons.mp hentry with hfirst | hrest
        · exact .inr (hfirst ▸ List.mem_cons_self)
        · exact (ih hrest).imp_right (List.mem_cons_of_mem _)

/-- No name stands twice, and all entries are such. -/
structure FilledBy (p : String × α → Prop) (fields : Fields α) : Prop where
  nodup : fields.names.Nodup
  all : ∀ entry ∈ fields.entries, p entry

namespace FilledBy

variable {p q : String × α → Prop} {fields : Fields α} {name : String} {value : α}

theorem empty : FilledBy p Fields.empty := ⟨List.nodup_nil, fun _ hentry => by cases hentry⟩

theorem mono (hfilled : FilledBy p fields) (himp : ∀ entry, p entry → q entry) :
    FilledBy q fields :=
  ⟨hfilled.nodup, fun entry hentry => himp entry (hfilled.all entry hentry)⟩

theorem put (hfilled : FilledBy p fields) (hp : p (name, value)) :
    FilledBy p (fields.put name value) := by
  constructor
  · rw [names, Fields.put, map_fst_putEntry]
    split
    next => exact hfilled.nodup
    next hnew =>
      refine List.nodup_append.mpr ⟨hfilled.nodup, by simp, ?_⟩
      intro old hold added hadded heq
      rw [List.mem_singleton.mp hadded] at heq
      exact hnew (heq ▸ hold)
  · intro entry hentry
    rcases mem_putEntry hentry with rfl | hold
    · exact hp
    · exact hfilled.all entry hold

theorem putNew (hfilled : FilledBy p fields) (hp : fields.has name = false → p (name, value)) :
    FilledBy p (fields.putNew name value) := by
  unfold Fields.putNew
  split
  next => exact hfilled
  next hnew => exact hfilled.put (hp (Bool.not_eq_true _ ▸ hnew))

theorem ofList {entries : List (String × α)} (hentries : ∀ entry ∈ entries, p entry) :
    FilledBy p (Fields.ofList entries) := by
  have hfold (fields : Fields α) (hfilled : FilledBy p fields) :
      FilledBy p (entries.foldl (fun fields entry => fields.put entry.1 entry.2) fields) := by
    induction entries generalizing fields with
    | nil => exact hfilled
    | cons entry rest ih =>
        rw [List.forall_mem_cons] at hentries
        exact ih hentries.2 _ (hfilled.put hentries.1)
  exact hfold Fields.empty empty

/-- Where no name stands twice, there is one entry of a name, or none. -/
theorem filter_entries (hfilled : FilledBy p fields) (name : String) :
    fields.entries.filter (fun entry => entry.1 == name) =
      ((fields.get? name).map fun value => (name, value)).toList := by
  obtain ⟨entries⟩ := fields
  have hnodup : (entries.map Prod.fst).Nodup := hfilled.nodup
  clear hfilled
  simp only [get?]
  induction entries with
  | nil => rfl
  | cons entry rest ih =>
      obtain ⟨key, old⟩ := entry
      rw [List.map_cons, List.nodup_cons] at hnodup
      by_cases hkey : key = name
      · subst hkey
        have hrest : rest.filter (fun entry => entry.1 == key) = [] := by
          rw [List.filter_eq_nil_iff]
          intro entry hentry hname
          exact hnodup.1 (List.mem_map.mpr ⟨entry, hentry, eq_of_beq hname⟩)
        simp [hrest]
      · have hname : name ≠ key := fun heq => hkey heq.symm
        simp [hkey, List.lookup_cons, beq_eq_false_iff_ne.mpr hname, ih hnodup.2]

theorem mem_iff (hfilled : FilledBy p fields) :
    (name, value) ∈ fields.entries ↔ fields.get? name = some value := by
  have hfilter : (name, value) ∈ fields.entries ↔
      (name, value) ∈ fields.entries.filter fun entry => entry.1 == name := by simp
  rw [hfilter, hfilled.filter_entries]
  simp

end FilledBy

end VersionedAssets.Fields
