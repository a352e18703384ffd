import Mathlib.Data.List.Induction
import VersionedAssets.Application
import VersionedAssets.Proofs.Handler.Lookups

/-! # Which handler a path is for

Mounting keeps longer URL paths first and takes no URL path twice. Two URL paths of one length
cannot both lead to a path, so the first handler that a path is for is the only one with the longest
URL path.
-/

namespace VersionedAssets

namespace Application

/-! ## Mounting -/

/-- The handlers of the application were mounted one after the other; nothing else touched them. -/
inductive IsSetUp : Application → Prop
  | fresh {app : Application} (hnone : app.handlers = []) : IsSetUp app
  | mounted {app after : Application} {handler : Handler} (hsetup : IsSetUp app)
      (hadd : app.addHandler handler = .ok after) : IsSetUp after
  | kept {app after : Application} (hsetup : IsSetUp app)
      (hkept : after.handlers = app.handlers) : IsSetUp after

/-- Longer URL paths come first, and no two handlers have the same one. -/
structure InOrder (handlers : List Handler) : Prop where
  longer_first : handlers.Pairwise fun a b => b.urlPath.length ≤ a.urlPath.length
  distinct : handlers.Pairwise fun a b => a.urlPath ≠ b.urlPath

theorem inOrder_addHandler {app after : Application} {handler : Handler}
    (horder : InOrder app.handlers) (hadd : app.addHandler handler = .ok after) :
    InOrder after.handlers := by
  unfold addHandler at hadd
  split at hadd
  next => cases hadd
  next hfree =>
    obtain rfl := Except.ok.inj hadd
    have hnew : ∀ other ∈ app.handlers, other.urlPath ≠ handler.urlPath := by
      simpa [hasMount] using hfree
    constructor
    · refine (List.pairwise_mergeSort ?_ ?_ _).imp fun hle => of_decide_eq_true hle
      · intro a b c hab hbc
        simp only [decide_eq_true_eq] at hab hbc ⊢
        exact hbc.trans hab
      · intro a b
        simpa using Nat.le_total b.urlPath.length a.urlPath.length
    · refine ((List.mergeSort_perm _ _).pairwise_iff fun hne => hne.symm).mpr ?_
      rw [List.pairwise_append]
      refine ⟨horder.distinct, List.pairwise_singleton _ _, ?_⟩
      intro other hother added hadded
      rw [List.mem_singleton.mp hadded]
      exact hnew other hother

theorem IsSetUp.inOrder {app : Application} (hsetup : app.IsSetUp) : InOrder app.handlers := by
  induction hsetup with
  | fresh hnone =>
      rw [hnone]
      exact ⟨.nil, .nil⟩
  | mounted _ hadd ih => exact inOrder_addHandler ih hadd
  | kept _ hkept ih => rwa [hkept]

/-- A handler whose URL path is new and no longer than the others goes to the end. -/
theorem addHandler_of_last {app : Application} {handler : Handler}
    (horder : InOrder (app.handlers ++ [handler])) :
    app.addHandler handler = .ok { app with handlers := app.handlers ++ [handler] } := by
  obtain ⟨hlonger, hdistinct⟩ := horder
  have hfree : app.hasMount handler.urlPath = false := by
    rw [hasMount, List.any_eq_false]
    intro other hother
    simpa using (List.pairwise_append.mp hdistinct).2.2 other hother handler List.mem_cons_self
  rw [addHandler, hfree, List.mergeSort_of_pairwise (hlonger.imp fun hle => decide_eq_true hle)]
  rfl

/-- Every list of handlers in this order can be mounted, from the longest URL path on. -/
theorem isSetUp_of_inOrder (app : Application) (horder : InOrder app.handlers) :
    app.IsSetUp := by
  obtain ⟨handlers, hhandlers⟩ : ∃ handlers, app.handlers = handlers := ⟨_, rfl⟩
  induction handlers using List.reverseRecOn generalizing app with
  | nil => exact .fresh hhandlers
  | append_singleton front last ih =>
      rw [hhandlers] at horder
      have hfront : InOrder front :=
        ⟨(List.pairwise_append.mp horder.longer_first).1,
          (List.pairwise_append.mp horder.distinct).1⟩
      have hadd : ({ app with handlers := front } : Application).addHandler last = _ :=
        addHandler_of_last horder
      exact .kept (.mounted (ih { app with handlers := front } hfront rfl) hadd) hhandlers

end Application

/-! ## Finding -/

namespace Handler

/-- The path lies at or below the URL path of the handler; every path does for a handler at the
root. -/
def IsFor (handler : Handler) (path : String) : Prop :=
  handler.urlPath = "" ∨ owns handler.urlPath path = true

theorem IsFor.prefix_of {handler : Handler} {path : String} (hfor : handler.IsFor path) :
    handler.urlPath.toList <+: path.toList := by
  rcases hfor with hroot | howns
  · rw [hroot]
    exact List.nil_prefix
  · obtain ⟨rest, rfl, -⟩ := (owns_iff _ _).mp howns
    rw [String.toList_append]
    exact List.prefix_append _ _

/-- What a path is for is told by the length of the URL path. -/
theorem IsFor.urlPath_eq {handler other : Handler} {path : String} (hfor : handler.IsFor path)
    (hother : other.IsFor path) (hlength : handler.urlPath.length = other.urlPath.length) :
    handler.urlPath = other.urlPath := by
  rw [← String.length_toList, ← String.length_toList] at hlength
  have hprefix := List.prefix_of_prefix_length_le hfor.prefix_of hother.prefix_of hlength.le
  rw [← String.toList_inj]
  exact hprefix.eq_of_length hlength

end Handler

namespace Application

variable {app : Application} {handler : Handler} {path : String}

theorem findHandler?_eq (app : Application) (path : String) :
    ∃ p : Handler → Bool, app.findHandler? path = app.handlers.find? p ∧
      ∀ handler, p handler = true ↔ handler.IsFor path := by
  refine ⟨_, rfl, fun handler => ?_⟩
  rw [Bool.or_eq_true, String.isEmpty_iff, Handler.IsFor]

/-- The handler that a path is for is the one with the longest URL path that leads to it. -/
theorem findHandler?_eq_some_iff (hsetup : app.IsSetUp) :
    app.findHandler? path = some handler ↔
      handler ∈ app.handlers ∧ handler.IsFor path ∧
        ∀ other ∈ app.handlers, other.IsFor path →
          other.urlPath.length ≤ handler.urlPath.length := by
  obtain ⟨hlonger, hdistinct⟩ := hsetup.inOrder
  obtain ⟨p, hfind, hp⟩ := app.findHandler?_eq path
  rw [hfind, List.find?_eq_some_iff_append]
  constructor
  · rintro ⟨hfor, before, after, hsplit, hbefore⟩
    rw [hsplit] at hlonger ⊢
    refine ⟨by simp, (hp _).mp hfor, fun other hother hfor' => ?_⟩
    rcases List.mem_append.mp hother with hearlier | hafter
    · have hskipped := hbefore other hearlier
      rw [(hp _).mpr hfor'] at hskipped
      cases hskipped
    · rcases List.mem_cons.mp hafter with rfl | hafter
      · exact Nat.le_refl _
      · exact List.rel_of_pairwise_cons (List.pairwise_append.mp hlonger).2.1 hafter
  · rintro ⟨hmem, hfor, hlongest⟩
    obtain ⟨before, after, hsplit⟩ := List.append_of_mem hmem
    refine ⟨(hp _).mpr hfor, before, after, hsplit, fun other hother => ?_⟩
    rw [hsplit, List.pairwise_append] at hlonger hdistinct
    rw [Bool.not_eq_true', ← Bool.not_eq_true, hp]
    intro hfor'
    -- one that comes before is as long, and only one of that length leads to the path
    have hle := hlongest other (by simp [hsplit, hother]) hfor'
    have hge := hlonger.2.2 other hother handler List.mem_cons_self
    exact hdistinct.2.2 other hother handler List.mem_cons_self
      (hfor'.urlPath_eq hfor (Nat.le_antisymm hle hge))

/-- A path that a handler is for goes to it or to one with a longer URL path. -/
theorem exists_findHandler?_eq (hsetup : app.IsSetUp) (hmem : handler ∈ app.handlers)
    (hfor : handler.IsFor path) :
    ∃ found, app.findHandler? path = some found ∧
      (found = handler ∨ handler.urlPath.length < found.urlPath.length) := by
  obtain ⟨found, hfound⟩ : ∃ found, app.findHandler? path = some found := by
    obtain ⟨p, hfind, hp⟩ := app.findHandler?_eq path
    rw [hfind, ← Option.isSome_iff_exists, List.find?_isSome]
    exact ⟨handler, hmem, (hp _).mpr hfor⟩
  refine ⟨found, hfound, ?_⟩
  rcases Nat.lt_or_ge handler.urlPath.length found.urlPath.length with hlt | hge
  · exact .inr hlt
  · have hlongest := ((findHandler?_eq_some_iff hsetup).mp hfound).2.2
    have hsame : app.findHandler? path = some handler :=
      (findHandler?_eq_some_iff hsetup).mpr
        ⟨hmem, hfor, fun other hother hfor' => (hlongest other hother hfor').trans hge⟩
    exact .inl (Option.some.inj (hfound.symm.trans hsame))

end Application

end VersionedAssets
