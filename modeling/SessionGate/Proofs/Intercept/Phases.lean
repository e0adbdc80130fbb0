import Mathlib.Data.List.TakeWhile
import SessionGate.Intercept.Run
import SessionGate.Proofs.Intercept.Guard

/-! # The calls of the store within a run

* `storeStep`: a call of the store as a step of a run; a program over the routes makes such steps alone
  (`onRoutes_ends_iff`).
* `installation` and `teardown` are the calls of the store before and after the manifests are deleted
  (`span_deletion`, `cut_at_deletion`).
* `Restores` is what a teardown asks, given what the installation told.
-/
namespace SessionGate.Intercept
set_option autoImplicit false
open Cluster (Error Manifest)
open Program (Step Along)

/-- The call of the store that a step is, if it is one. -/
def routeStep? : Step stage → Option (Step routeAccess)
  | ⟨.cluster (.route call), a⟩ => some ⟨call, a⟩
  | _ => none

/-- The manifests are deleted. -/
def deletes : Step stage → Bool
  | ⟨.cluster (.delete _), _⟩ => true
  | _ => false

/-- The calls of the store before the manifests are deleted. -/
def installation (steps : List (Step stage)) : List (Step routeAccess) :=
  List.filterMap routeStep? (List.takeWhile (!deletes ·) steps)

/-- The calls of the store from there on. -/
def teardown (steps : List (Step stage)) : List (Step routeAccess) :=
  List.filterMap routeStep? (List.dropWhile (!deletes ·) steps)

/-- Steps that neither call the store nor delete. -/
def Quiet (steps : List (Step stage)) : Prop :=
  ∀ step ∈ steps, routeStep? step = none ∧ deletes step = false

/-- What a teardown asks the store: the restoration of what was changed, if something is known. -/
def Restores (ns : String) (guarded : Option Guarded) (steps : List (Step routeAccess)) : Prop :=
  match guarded.bind (·.route), guarded.bind (·.snapshot) with
  | some name, some snapshot => ∃ r, (RouteGuard.restore ns name snapshot).Ends steps r
  | _, _ => steps = []

variable {steps before : List (Step stage)}

/-! ## Calls of the store -/

def storeStep (call : Step routeAccess) : Step stage := ⟨.cluster (.route call.1), call.2⟩

theorem filterMap_storeStep (calls : List (Step routeAccess)) :
    List.filterMap routeStep? (calls.map storeStep) = calls := by
  rw [List.filterMap_map]
  exact List.filterMap_some

theorem not_deletes_storeStep (calls : List (Step routeAccess)) :
    ∀ step ∈ calls.map storeStep, deletes step = false := by
  intro step hstep
  obtain ⟨call, -, rfl⟩ := List.mem_map.mp hstep
  rfl

theorem onRoutes_ends_iff {α : Type} {p : Program routeAccess α} {r : α} :
    (onRoutes p).Ends steps r ↔ ∃ calls, steps = calls.map storeStep ∧ p.Ends calls r := by
  induction p generalizing steps with
  | done result =>
    constructor
    · rintro ⟨rfl, rfl⟩
      exact ⟨[], rfl, rfl, rfl⟩
    · rintro ⟨calls, rfl, rfl, rfl⟩
      exact ⟨rfl, rfl⟩
  | note event next ih => exact ih
  | ask call next ih =>
    constructor
    · rintro ⟨a, rest, rfl, h⟩
      obtain ⟨calls, rfl, hends⟩ := (ih a).mp h
      exact ⟨⟨call, a⟩ :: calls, rfl, a, calls, rfl, hends⟩
    · rintro ⟨calls, rfl, a, rest, rfl, hends⟩
      exact ⟨a, rest.map storeStep, rfl, (ih a).mpr ⟨rest, rfl, hends⟩⟩

/-! ## Cutting a history at the deletion -/

theorem installation_append_teardown (steps : List (Step stage)) :
    installation steps ++ teardown steps = List.filterMap routeStep? steps := by
  rw [installation, teardown, ← List.filterMap_append, List.takeWhile_append_dropWhile]

/-- Where the deletion parts a history. -/
theorem span_deletion (manifests : List Manifest) (a : Except Error Unit) (after : List (Step stage))
    (h : ∀ step ∈ before, deletes step = false) :
    List.takeWhile (!deletes ·) (before ++ ⟨.cluster (.delete manifests), a⟩ :: after) = before ∧
      List.dropWhile (!deletes ·) (before ++ ⟨.cluster (.delete manifests), a⟩ :: after) =
        ⟨.cluster (.delete manifests), a⟩ :: after := by
  have hkeeps : ∀ step ∈ before, (!deletes step) = true := by
    intro step hstep
    rw [h step hstep]
    rfl
  constructor
  · rw [List.takeWhile_append_of_pos hkeeps, List.takeWhile_cons_of_neg (by simp [deletes]), List.append_nil]
  · rw [List.dropWhile_append_of_pos hkeeps, List.dropWhile_cons_of_neg (by simp [deletes])]

theorem cut_at_deletion (manifests : List Manifest) (a : Except Error Unit) (after : List (Step stage))
    (h : ∀ step ∈ before, deletes step = false) :
    installation (before ++ ⟨.cluster (.delete manifests), a⟩ :: after) =
        List.filterMap routeStep? before ∧
      teardown (before ++ ⟨.cluster (.delete manifests), a⟩ :: after) =
        List.filterMap routeStep? after := by
  obtain ⟨htake, hdrop⟩ := span_deletion manifests a after h
  rw [installation, teardown, htake, hdrop]
  exact ⟨rfl, rfl⟩

theorem Quiet.filterMap (h : Quiet steps) : List.filterMap routeStep? steps = [] :=
  List.filterMap_eq_nil_iff.mpr fun step hstep => (h step hstep).1

end SessionGate.Intercept
