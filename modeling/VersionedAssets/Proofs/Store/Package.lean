import VersionedAssets.Proofs.Bundle
import VersionedAssets.Store.Package

/-! # The files of a package

As long as nothing on the host fails, a lookup finds a file if it is there and nothing otherwise.
-/

namespace VersionedAssets

open ResourcePath

namespace PackageStore

variable {store : PackageStore} {host : Host} {place : Bundle} {segments : List String}
  {path : String}

/-- The location of a file of the package. -/
def FileAt (store : PackageStore) (host : Host) (place : Bundle) (segments : List String)
    (location : Location) : Prop :=
  (place.below segments).HoldsFile host.files ∧
    location = (place.below segments).location (store.uri segments)

theorem FileAt.unique {location other : Location}
    (hfile : store.FileAt host place segments location)
    (hother : store.FileAt host place segments other) : other = location :=
  hother.2.trans hfile.2.symm

/-- What looking safe segments up comes to. -/
theorem locate_outcome (hroot : store.root host = .ok place) (hsound : place.IsSound host.files)
    (hsafe : ∀ segment ∈ segments, IsSafe segment) :
    (∃ location, store.FileAt host place segments location ∧
        store.locate host segments = .ok (some location)) ∨
      (∀ location, ¬ store.FileAt host place segments location) ∧
        store.locate host segments = .ok none := by
  rcases Bundle.isFile_below hsound hsafe with ⟨hthere, hfile⟩ | ⟨hnone, hfile⟩
  · refine .inl ⟨_, ⟨hthere, rfl⟩, ?_⟩
    simp [locate, hroot, bind, Except.bind, Bundle.appendAll_eq hsound hsafe, hfile, pure,
      Except.pure]
  · refine .inr ⟨fun location hlocation => hnone hlocation.1, ?_⟩
    simp [locate, hroot, bind, Except.bind, Bundle.appendAll_eq hsound hsafe, hfile, pure,
      Except.pure]

theorem find_of_segments? (hsegments : segments? path = some segments) (hne : segments ≠ []) :
    store.find host path = store.locate host segments := by
  obtain ⟨segment, rest, rfl⟩ := List.exists_cons_of_ne_nil hne
  rw [find, nonEmptySegments?, hsegments]

theorem find_of_no_segments (hsegments : segments? path = none ∨ segments? path = some []) :
    store.find host path = .ok none := by
  rcases hsegments with hnone | hempty
  · rw [find, nonEmptySegments?, hnone]
  · rw [find, nonEmptySegments?, hempty]

/-- Files of the package are where they are in whatever order its directories are listed. -/
theorem fileAt_of_reordered {other : Host} {twin : Bundle}
    (hreordered : Bundle.Reordered host.files other.files place twin) {location : Location} :
    store.FileAt other twin segments location ↔ store.FileAt host place segments location := by
  have hbelow := hreordered.below segments
  rw [FileAt, FileAt, hbelow.location_eq]
  exact and_congr_left fun _ => ⟨hbelow.symm.holdsFile, hbelow.holdsFile⟩

end PackageStore

end VersionedAssets
