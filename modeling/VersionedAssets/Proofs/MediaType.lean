import VersionedAssets.MediaType
import VersionedAssets.Proofs.Fields

/-! # Registries as they are built

A registry begins with the standard types and grows by registrations. So it knows whatever the
standard registry knows, and a file that it does not know is a download of the fallback type.
-/

namespace VersionedAssets.MediaTypes

/-- The standard types with others registered after them, none of which is empty. -/
def IsBuilt (registry : MediaTypes) : Prop :=
  ∃ entries charset, registry = ofList entries charset ∧ ∀ entry ∈ entries, entry.2 ≠ ""

/-- The fields with entries written one after the other. -/
def putAll (types : Fields String) (entries : List (String × String)) : Fields String :=
  entries.foldl (fun fields entry => fields.put entry.1 entry.2) types

/-- None of the types is the empty text. -/
def NoneEmpty (types : Fields String) : Prop :=
  ∀ ext mediaType, types.get? ext = some mediaType → mediaType ≠ ""

theorem types_ofList (entries : List (String × String)) (charset : String) :
    (ofList entries charset).types = putAll (Fields.ofList standard)
      (entries.map fun entry => (normalize entry.1, entry.2)) := by
  have hfold : ∀ registry : MediaTypes,
      (entries.foldl (fun registry entry => registry.register entry.1 entry.2) registry).types =
        putAll registry.types (entries.map fun entry => (normalize entry.1, entry.2)) := by
    induction entries with
    | nil => exact fun _ => rfl
    | cons entry rest ih => exact fun registry => ih (registry.register entry.1 entry.2)
  exact hfold ⟨Fields.ofList standard, charset⟩

theorem NoneEmpty.put {types : Fields String} (htypes : NoneEmpty types) {mediaType : String}
    (hne : mediaType ≠ "") (ext : String) : NoneEmpty (types.put ext mediaType) := by
  intro other value hget
  rw [Fields.get?_put] at hget
  split at hget
  next => rwa [← Option.some.inj hget]
  next => exact htypes other value hget

theorem NoneEmpty.putAll {types : Fields String} (htypes : NoneEmpty types)
    {entries : List (String × String)} (hentries : ∀ entry ∈ entries, entry.2 ≠ "") :
    NoneEmpty (putAll types entries) := by
  induction entries generalizing types with
  | nil => exact htypes
  | cons entry rest ih =>
      rw [List.forall_mem_cons] at hentries
      exact ih (htypes.put hentries.1 entry.1) hentries.2

theorem noneEmpty_standard : NoneEmpty (Fields.ofList standard) := by
  have hempty : NoneEmpty Fields.empty := fun _ _ hget => by cases hget
  exact hempty.putAll (by decide)

theorem get?_putAll_ne_none {types : Fields String} {ext : String}
    (hknown : types.get? ext ≠ none) (entries : List (String × String)) :
    (putAll types entries).get? ext ≠ none := by
  induction entries generalizing types with
  | nil => exact hknown
  | cons entry rest ih =>
      refine ih ?_
      rw [Fields.get?_put]
      split
      · simp
      · exact hknown

theorem contentType?_ne_empty {registry : MediaTypes} (hbuilt : registry.IsBuilt)
    {path contentType : String} (hknown : registry.contentType? path = some contentType) :
    contentType ≠ "" := by
  obtain ⟨entries, charset, rfl, hentries⟩ := hbuilt
  obtain ⟨mediaType, htype, rfl⟩ := Option.map_eq_some_iff.mp hknown
  have hne : mediaType ≠ "" := by
    rw [typeOf?, types_ofList] at htype
    refine (noneEmpty_standard.putAll ?_) _ _ htype
    rw [List.forall_mem_map]
    exact hentries
  unfold withCharset
  split
  · simp
  · exact hne

/-- A handler takes what its registry says as it is. -/
theorem nonEmpty?_contentType? {registry : MediaTypes} (hbuilt : registry.IsBuilt)
    (path : String) : nonEmpty? (registry.contentType? path) = registry.contentType? path := by
  cases hknown : registry.contentType? path with
  | none => rfl
  | some contentType =>
      have hne := contentType?_ne_empty hbuilt hknown
      simp [nonEmpty?, hne]

/-- A file that a registry does not know is unknown to the standard registry as well. -/
theorem downloadType_of_unknown {registry : MediaTypes} (hbuilt : registry.IsBuilt)
    {path : String} (hunknown : registry.contentType? path = none) :
    downloadType path = "application/octet-stream" := by
  obtain ⟨entries, charset, rfl, hentries⟩ := hbuilt
  have hbuiltUnknown := Option.map_eq_none_iff.mp hunknown
  rw [typeOf?, types_ofList] at hbuiltUnknown
  have hstandard : default.typeOf? path = none := by
    cases hknown : default.typeOf? path with
    | none => rfl
    | some mediaType =>
        have htype : (Fields.ofList standard).get? (extensionOf path) = some mediaType := hknown
        exact absurd hbuiltUnknown (get?_putAll_ne_none (by rw [htype]; simp) _)
  simp [downloadType, contentType?, hstandard, nonEmpty?, fallback]

end VersionedAssets.MediaTypes
