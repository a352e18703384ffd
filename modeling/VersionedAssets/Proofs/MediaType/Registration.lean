import VersionedAssets.Proofs.MediaType
import VersionedAssets.Proofs.Text.Case
import VersionedAssets.Proofs.Text.Cutting

/-! # Registering media types

A registration is found again under every file name with the extension, in whatever case it is
written, and changes nothing for other extensions or in other registries. Files are looked up by the
part of their name from its last dot on. So an extension with a further dot in it is registered for
no file at all.
-/

namespace VersionedAssets

namespace Text

theorem dot_append_ofList (cs : List Char) :
    "." ++ String.ofList cs = String.ofList ('.' :: cs) := by
  rw [← String.toList_inj]
  simp

end Text

namespace MediaTypes

open Text

/-! ## Extensions -/

/-- An extension without the dot that it may begin with. -/
def bare (ext : String) : String := if startsWith ext "." then dropFirst 1 ext else ext

theorem bare_subset (ext : String) : (bare ext).toList ⊆ ext.toList := by
  unfold bare
  split
  · rw [dropFirst, String.toList_ofList]
    exact List.drop_subset _ _
  · exact List.Subset.refl _

theorem normalize_eq (ext : String) : normalize ext = "." ++ lower (bare ext) := by
  rw [← lower_dot_append, normalize, bare]
  split
  next hdot =>
    obtain ⟨rest, hrest⟩ := List.isPrefixOf_iff_prefix.mp hdot
    have hlist : ext.toList = '.' :: rest := hrest.symm
    have hdropped : "." ++ dropFirst 1 ext = ext := by
      rw [dropFirst, hlist, dot_append_ofList, ← String.toList_inj, String.toList_ofList, hlist]
      rfl
    rw [hdropped]
  next => rfl

theorem extensionOf_eq {path : String} {before after : List Char}
    (hname : (baseName path).toList = before ++ '.' :: after) (hbefore : before ≠ [])
    (hne : after ≠ []) (hafter : '.' ∉ after) :
    extensionOf path = "." ++ lower (String.ofList after) := by
  obtain ⟨c, rest, rfl⟩ := List.exists_cons_of_ne_nil hne
  obtain ⟨first, front, rfl⟩ := List.exists_cons_of_ne_nil hbefore
  rw [extensionOf, suffix, hname, cutLast?_append hafter, ← lower_dot_append, dot_append_ofList]

/-- The extension of a file is empty, or a dot and a text without one. -/
theorem extensionOf_cases (path : String) : extensionOf path = "" ∨
    ∃ after : String, '.' ∉ after.toList ∧ extensionOf path = "." ++ lower after := by
  unfold extensionOf suffix
  split
  next before c after hcut =>
    obtain ⟨-, hafter⟩ := cutLast?_eq_some hcut
    refine .inr ⟨String.ofList (c :: after), by rwa [String.toList_ofList], ?_⟩
    rw [← lower_dot_append, dot_append_ofList]
  next => exact .inl (by decide)

theorem isPlain_dot : IsPlain '.' := ⟨by decide, by decide⟩

theorem isPlain_slash : IsPlain '/' := ⟨by decide, by decide⟩

/-- An extension with a further dot in it is that of no file. -/
theorem extensionOf_ne_normalize {ext : String} (hdot : '.' ∈ (bare ext).toList) (path : String) :
    extensionOf path ≠ normalize ext := by
  rw [normalize_eq]
  intro heq
  have hlists := congrArg String.toList heq
  rcases extensionOf_cases path with hnone | ⟨after, hafter, hext⟩
  · rw [hnone] at hlists
    simp at hlists
  · have hlower : (lower after).toList = (lower (bare ext)).toList := by
      rw [hext] at hlists
      simpa using hlists
    rw [← mem_lower_iff isPlain_dot, hlower, mem_lower_iff isPlain_dot] at hafter
    exact hafter hdot

/-! ## File names -/

/-- The path of a directory as it stands in front of a file name: nothing, or a text that ends in a
slash. -/
def IsDirectory (directory : String) : Prop :=
  directory = "" ∨ ∃ parent, directory = parent ++ "/"

theorem baseName_append {directory name : String} (hdirectory : IsDirectory directory)
    (hname : FilePath.isVoid name = false) (hslash : '/' ∉ name.toList) :
    baseName (directory ++ name) = name := by
  have hpiece : pieces '/' name = [name] := by
    rw [pieces, pieceLists_of_notMem hslash]
    simp
  rcases hdirectory with rfl | ⟨parent, rfl⟩
  · rw [baseName, FilePath.names, String.empty_append, hpiece]
    simp [hname]
  · have hpieces : pieces '/' (parent ++ "/" ++ name) = pieces '/' parent ++ [name] := by
      have hlist : (parent ++ "/" ++ name).toList = parent.toList ++ '/' :: name.toList := by simp
      rw [← hpiece, pieces, hlist, pieceLists_append_cons, List.map_append]
      rfl
    rw [baseName, FilePath.names, hpieces]
    simp [hname]

/-- A file with the extension in any case is found under it. -/
theorem extensionOf_file {ext directory stem written : String} (hne : bare ext ≠ "")
    (hslash : '/' ∉ ext.toList) (hsimple : '.' ∉ (bare ext).toList)
    (hdirectory : IsDirectory directory) (hstem : stem ≠ "") (hstem' : '/' ∉ stem.toList)
    (hwritten : lower written = lower (bare ext)) :
    extensionOf (directory ++ (stem ++ "." ++ written)) = normalize ext := by
  have hfilled : written ≠ "" := by
    rw [ne_eq, ← lower_eq_empty_iff, hwritten, lower_eq_empty_iff]
    exact hne
  have hdots : '.' ∉ written.toList := by
    rwa [← mem_lower_iff isPlain_dot, hwritten, mem_lower_iff isPlain_dot]
  have hslashes : '/' ∉ written.toList := by
    rw [← mem_lower_iff isPlain_slash, hwritten, mem_lower_iff isPlain_slash]
    exact fun hc => hslash (bare_subset ext hc)
  have hlist : (stem ++ "." ++ written).toList = stem.toList ++ '.' :: written.toList := by simp
  have hname : FilePath.isVoid (stem ++ "." ++ written) = false := by
    have hlong : 1 < (stem ++ "." ++ written).toList.length := by
      have hpos : 0 < stem.toList.length := List.length_pos_iff.mpr (by simpa using hstem)
      rw [hlist, List.length_append, List.length_cons]
      omega
    rw [FilePath.isVoid, Bool.or_eq_false_iff, beq_eq_false_iff_ne, beq_eq_false_iff_ne]
    constructor
    · intro heq
      rw [heq] at hlong
      exact absurd hlong (by decide)
    · intro heq
      rw [heq] at hlong
      exact absurd hlong (by decide)
  have hbase : (baseName (directory ++ (stem ++ "." ++ written))).toList =
      stem.toList ++ '.' :: written.toList := by
    rw [baseName_append hdirectory hname (by rw [hlist]; simp [hstem', hslashes]), hlist]
  rw [extensionOf_eq hbase (by simpa using hstem) (by simpa using hfilled) hdots,
    String.ofList_toList, hwritten, normalize_eq]

/-! ## One registration -/

/-- What registering a type for an extension does to a registry. -/
structure TakesEffect (ext mediaType : String) (before after : MediaTypes) : Prop where
  /-- Every file with the extension has the type, in whatever case the extension is written. -/
  reached : bare ext ≠ "" → '/' ∉ ext.toList → '.' ∉ (bare ext).toList →
    ∀ directory stem written, IsDirectory directory → stem ≠ "" → '/' ∉ stem.toList →
      lower written = lower (bare ext) →
        after.typeOf? (directory ++ (stem ++ "." ++ written)) = some mediaType
  kept : ∀ path, extensionOf path ≠ normalize ext → after.typeOf? path = before.typeOf? path
  /-- An extension with a further dot is that of no file. -/
  compound : '.' ∈ (bare ext).toList → ∀ path, after.typeOf? path = before.typeOf? path

theorem typeOf?_register (registry : MediaTypes) (ext mediaType path : String) :
    (registry.register ext mediaType).typeOf? path =
      if extensionOf path = normalize ext then some mediaType else registry.typeOf? path :=
  Fields.get?_put _ _ _ _

theorem takesEffect_register (registry : MediaTypes) (ext mediaType : String) :
    TakesEffect ext mediaType registry (registry.register ext mediaType) := by
  have hkept (path : String) (hother : extensionOf path ≠ normalize ext) :
      (registry.register ext mediaType).typeOf? path = registry.typeOf? path := by
    rw [typeOf?_register, if_neg hother]
  refine ⟨?_, hkept, fun hdot path => hkept path (extensionOf_ne_normalize hdot path)⟩
  intro hne hslash hsimple directory stem written hdirectory hstem hstem' hwritten
  rw [typeOf?_register,
    if_pos (extensionOf_file hne hslash hsimple hdirectory hstem hstem' hwritten)]

/-! ## Many registries -/

/-- What a program does with registries, which it names by the order in which they were made. -/
inductive Call where
  | make (entries : List (String × String)) (charset : String)
  | register (number : Nat) (ext mediaType : String)

/-- Is something registered in the registry? -/
def Call.Changes (call : Call) (number : Nat) : Prop :=
  ∃ ext mediaType, call = .register number ext mediaType

/-- The registries after a call. -/
def perform (registries : List MediaTypes) : Call → List MediaTypes
  | .make entries charset => registries ++ [ofList entries charset]
  | .register number ext mediaType =>
    registries.modify number fun registry => registry.register ext mediaType

/-- The registries of a program. The one that was there before all calls is number 0. -/
def performAll (calls : List Call) : List MediaTypes := calls.foldl perform [default]

section

variable {registries : List MediaTypes} {number : Nat} {registry : MediaTypes}

/-- A call leaves every registry alone but the one that it registers in. -/
theorem getElem?_perform_of_not_changes {call : Call} (hcall : ¬ call.Changes number)
    (hregistry : registries[number]? = some registry) :
    (perform registries call)[number]? = some registry := by
  cases call with
  | make entries charset =>
      obtain ⟨hbound, -⟩ := List.getElem?_eq_some_iff.mp hregistry
      rw [perform, List.getElem?_append_left hbound, hregistry]
  | register other ext mediaType =>
      have hne : other ≠ number := fun heq => hcall ⟨ext, mediaType, heq ▸ rfl⟩
      rw [perform, List.getElem?_modify, hregistry]
      simp [hne]

theorem getElem?_foldl_perform_of_not_changes {calls : List Call}
    (hcalls : ∀ call ∈ calls, ¬ call.Changes number)
    (hregistry : registries[number]? = some registry) :
    (calls.foldl perform registries)[number]? = some registry := by
  induction calls generalizing registries with
  | nil => exact hregistry
  | cons call rest ih =>
      obtain ⟨hcall, hrest⟩ := List.forall_mem_cons.mp hcalls
      exact ih hrest (getElem?_perform_of_not_changes hcall hregistry)

/-- A registration takes effect in the registry that it is made in, for every extension without a
further dot, and in no other. -/
theorem registration_local {calls : List Call}
    (hregistry : (performAll calls)[number]? = some registry) (ext mediaType : String) :
    ∃ after, (performAll (calls ++ [.register number ext mediaType]))[number]? = some after ∧
      TakesEffect ext mediaType registry after ∧
      (∀ other ≠ number, (performAll (calls ++ [.register number ext mediaType]))[other]? =
        (performAll calls)[other]?) ∧
      (number ≠ 0 → (∀ call ∈ calls, ¬ call.Changes 0) →
        (performAll (calls ++ [.register number ext mediaType]))[0]? = some default) := by
  have hlast : performAll (calls ++ [.register number ext mediaType]) =
      (performAll calls).modify number fun registry => registry.register ext mediaType := by
    rw [performAll, List.foldl_append]
    rfl
  refine ⟨registry.register ext mediaType, ?_, takesEffect_register registry ext mediaType, ?_, ?_⟩
  · rw [hlast, List.getElem?_modify, hregistry]
    simp
  · intro other hother
    rw [hlast, List.getElem?_modify]
    simp [hother.symm]
  · intro hnumber hcalls
    refine getElem?_foldl_perform_of_not_changes ?_ rfl
    rw [List.forall_mem_append]
    refine ⟨hcalls, ?_⟩
    rw [List.forall_mem_singleton]
    rintro ⟨_, _, hcall⟩
    exact hnumber (Call.register.inj hcall).1

end

/-- A registry with a type of its own, and another one. -/
def twoRegistries : List Call := [.make [("css", "text/x-own")] "utf-8", .make [] "latin-1"]

theorem registration_local_twoRegistries :
    (performAll twoRegistries)[1]? = some (ofList [("css", "text/x-own")] "utf-8") ∧
      ∃ after, (performAll (twoRegistries ++ [.register 1 "PNG" "image/own"]))[1]? = some after ∧
        TakesEffect "PNG" "image/own" (ofList [("css", "text/x-own")] "utf-8") after ∧
        (∀ other ≠ 1, (performAll (twoRegistries ++ [.register 1 "PNG" "image/own"]))[other]? =
          (performAll twoRegistries)[other]?) ∧
        ((1 : Nat) ≠ 0 → (∀ call ∈ twoRegistries, ¬ call.Changes 0) →
          (performAll (twoRegistries ++ [.register 1 "PNG" "image/own"]))[0]? = some default) := by
  have hmade : (performAll twoRegistries)[1]? = some (ofList [("css", "text/x-own")] "utf-8") := rfl
  exact ⟨hmade, registration_local hmade "PNG" "image/own"⟩

/-- A file with the extension `.tar.gz` has the type for `.gz` all the same. -/
theorem not_registration_reaches : ¬ ∀ (registry : MediaTypes)
    (ext mediaType directory stem written : String), bare ext ≠ "" → '/' ∉ ext.toList →
      endsWith ext "." = false → IsDirectory directory → stem ≠ "" → '/' ∉ stem.toList →
      lower written = lower (bare ext) →
        (registry.register ext mediaType).typeOf? (directory ++ (stem ++ "." ++ written)) =
          some mediaType := by
  intro hreaches
  have hfound := hreaches default ".tar.gz" "application/x-gtar" "" "a" "tar.gz" (by decide +kernel)
    (by decide) (by decide +kernel) (.inl rfl) (by decide) (by decide) (by decide +kernel)
  have htype : (default.register ".tar.gz" "application/x-gtar").typeOf?
      ("" ++ ("a" ++ "." ++ "tar.gz")) = some "application/gzip" := by
    decide +kernel
  rw [htype] at hfound
  exact absurd hfound (by decide)

end MediaTypes

end VersionedAssets
