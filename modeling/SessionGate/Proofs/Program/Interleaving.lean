import Mathlib.Data.List.Induction
import SessionGate.Proofs.Program.History

/-! # Interleaved histories

* `stepsOf i calls`: the steps of one program among the steps of several, in their order.
* `Seen`: a step that was taken where a condition on the state held.
* `Keeps`: every step of a history keeps the condition, as long as the history has seen nothing but states
  in which it holds; after the last step a further condition holds.
* `keeps_interleaved`: histories that keep a condition keep it in any order of their steps, and what
  belongs to the history of the last step holds in the end.
-/
namespace SessionGate.Program
set_option autoImplicit false

variable {I : Interface} {ι τ : Type} {R : τ → Step I → τ → Prop} {holds ends : τ → Prop}
  {step : Step I} {steps steps' : List (Step I)}

/-! ## Steps of one program -/

/-- The steps of one program, in their order. -/
def stepsOf [DecidableEq ι] (i : ι) (calls : List (ι × Step I)) : List (Step I) :=
  (calls.filter (·.1 = i)).map (·.2)

section StepsOf
variable [DecidableEq ι] {i : ι} {calls calls' : List (ι × Step I)}

theorem stepsOf_append : stepsOf i (calls ++ calls') = stepsOf i calls ++ stepsOf i calls' := by
  rw [stepsOf, List.filter_append, List.map_append]
  rfl

theorem stepsOf_cons_self (step : Step I) : stepsOf i ((i, step) :: calls) = step :: stepsOf i calls := by
  rw [stepsOf, List.filter_cons_of_pos (by simp)]
  rfl

theorem mem_of_mem_stepsOf (h : step ∈ stepsOf i calls) : (i, step) ∈ calls := by
  obtain ⟨⟨j, s⟩, hcall, rfl⟩ := List.mem_map.mp h
  obtain ⟨hmem, hj⟩ := List.mem_filter.mp hcall
  obtain rfl : j = i := by simpa using hj
  exact hmem

end StepsOf

/-! ## Conditions that a history keeps -/

/-- The step was taken where the condition held. -/
def Seen (R : τ → Step I → τ → Prop) (holds : τ → Prop) (step : Step I) : Prop :=
  ∃ t t', holds t ∧ R t step t'

/-- Each step keeps the condition if the steps before it were taken where it held. -/
def Keeps (R : τ → Step I → τ → Prop) (holds ends : τ → Prop) (steps : List (Step I)) : Prop :=
  ∀ past step rest, steps = past ++ step :: rest → (∀ s ∈ past, Seen R holds s) →
    ∀ t t', holds t → R t step t' → holds t' ∧ (rest = [] → ends t')

theorem keeps_nil : Keeps R holds ends [] := by
  intro past step rest h
  cases past <;> cases h

theorem Keeps.imp {ends' : τ → Prop} (h : Keeps R holds ends steps) (himp : ∀ t, ends t → ends' t) :
    Keeps R holds ends' steps := by
  intro past step rest hsteps hpast t t' ht hstep
  obtain ⟨hkept, hends⟩ := h past step rest hsteps hpast t t' ht hstep
  exact ⟨hkept, fun hrest => himp t' (hends hrest)⟩

theorem keeps_singleton (h : ∀ t t', holds t → R t step t' → holds t' ∧ ends t') :
    Keeps R holds ends [step] := by
  intro past s rest hsteps _ t t' ht hstep
  cases past with
  | nil =>
    obtain ⟨rfl, rfl⟩ := List.cons.inj hsteps
    exact ⟨(h t t' ht hstep).1, fun _ => (h t t' ht hstep).2⟩
  | cons first past =>
    cases past <;> cases (List.cons.inj hsteps).2

/-- Steps of which each keeps the condition by itself. -/
theorem keeps_of_forall (h : ∀ step ∈ steps, ∀ t t', holds t → R t step t' → holds t') :
    Keeps R holds (fun _ => True) steps := by
  rintro past step rest rfl - t t' ht hstep
  exact ⟨h step (List.mem_append_right _ List.mem_cons_self) t t' ht hstep, fun _ => trivial⟩

theorem Keeps.append (h : Keeps R holds (fun _ => True) steps)
    (h' : (∀ s ∈ steps, Seen R holds s) → Keeps R holds ends steps') (hlast : steps' = [] → ∀ t, ends t) :
    Keeps R holds ends (steps ++ steps') := by
  intro past step rest hsteps hpast t t' ht hstep
  rcases List.append_eq_append_iff.mp hsteps with ⟨past', rfl, htail⟩ | ⟨rest', rfl, htail⟩
  · exact h' (fun s hs => hpast s (List.mem_append_left _ hs)) past' step rest htail
      (fun s hs => hpast s (List.mem_append_right _ hs)) t t' ht hstep
  · cases rest' with
    | nil =>
      rw [List.append_nil] at h'
      exact h' hpast [] step rest htail.symm (List.forall_mem_nil _) t t' ht hstep
    | cons first rest' =>
      obtain ⟨rfl, rfl⟩ := List.cons.inj htail
      refine ⟨(h past step rest' rfl hpast t t' ht hstep).1, fun hrest => ?_⟩
      exact hlast (List.append_eq_nil_iff.mp hrest).2 t'

section Interleaved
variable [DecidableEq ι] {calls : List (ι × Step I)} {ends : ι → τ → Prop} {t t' : τ}

/-- One step in an order of the steps of several histories. -/
theorem Keeps.of_stepsOf {i : ι} {earlier later : List (ι × Step I)}
    (h : Keeps R holds (ends i) (stepsOf i (earlier ++ (i, step) :: later)))
    (hearlier : ∀ call ∈ earlier, Seen R holds call.2) (ht : holds t) (hstep : R t step t') :
    holds t' ∧ (later = [] → ends i t') := by
  rw [stepsOf_append, stepsOf_cons_self] at h
  obtain ⟨hkept, hends⟩ := h (stepsOf i earlier) step (stepsOf i later) rfl
    (fun s hs => hearlier _ (mem_of_mem_stepsOf hs)) t t' ht hstep
  refine ⟨hkept, ?_⟩
  rintro rfl
  exact hends rfl

/-- What every history keeps is kept in any order of their steps. -/
theorem keeps_interleaved (hkeeps : ∀ i, Keeps R holds (ends i) (stepsOf i calls)) (ht : holds t)
    (halong : Along R t (calls.map (·.2)) t') : (∀ call ∈ calls, Seen R holds call.2) ∧
      ∀ earlier i step, calls = earlier ++ [(i, step)] → ends i t' := by
  -- from the start to any call on the condition holds, and every step up to there was taken where it held
  have hmain : ∀ earlier later, calls = earlier ++ later → ∀ u, Along R t (earlier.map (·.2)) u →
      holds u ∧ ∀ call ∈ earlier, Seen R holds call.2 := by
    intro earlier
    induction earlier using List.reverseRecOn with
    | nil =>
      intro later _ u hu
      obtain rfl := along_nil.mp hu
      exact ⟨ht, List.forall_mem_nil _⟩
    | append_singleton earlier call ih =>
      rintro later hcalls u hu
      rw [List.append_assoc] at hcalls
      rw [List.map_append] at hu
      obtain ⟨v, hearlier, hlast⟩ := along_append.mp hu
      obtain ⟨w, hstep, hnil⟩ := along_cons.mp hlast
      obtain rfl := along_nil.mp hnil
      obtain ⟨hv, hseen⟩ := ih _ hcalls v hearlier
      have hkept := hkeeps call.1
      rw [hcalls] at hkept
      refine ⟨(hkept.of_stepsOf hseen hv hstep).1, List.forall_mem_append.mpr ⟨hseen, ?_⟩⟩
      exact List.forall_mem_singleton.mpr ⟨v, u, hv, hstep⟩
  refine ⟨(hmain calls [] (List.append_nil calls).symm t' halong).2, ?_⟩
  rintro earlier i step hcalls
  rw [hcalls, List.map_append] at halong
  obtain ⟨v, hearlier, hlast⟩ := along_append.mp halong
  obtain ⟨w, hstep, hnil⟩ := along_cons.mp hlast
  obtain rfl := along_nil.mp hnil
  obtain ⟨hv, hseen⟩ := hmain earlier _ hcalls v hearlier
  have hkept := hkeeps i
  rw [hcalls] at hkept
  exact (hkept.of_stepsOf hseen hv hstep).2 rfl

end Interleaved

end SessionGate.Program
