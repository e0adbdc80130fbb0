import Mathlib.Data.List.Induction
import SessionGate.Proofs.Template.Segment

/-! # Rendering as substitution

* `Variables.ofAdded`: variables that are added one after the other; of two with one name the last one counts
  (`Variables.get?_ofAdded`).
* `renderAll_of_missing`: a variable that is not defined ends a rendering with an error.
* `Variables.render_substitutes`: a template gives its segments one after the other, and what comes from a value is
  not read again.
-/
namespace SessionGate.Template
set_option autoImplicit false

variable {name read : List Char} {word other text : String} {fuel : Nat} {vars : Variables} {m : Machine}
  {pieces : List Piece} {segments : List Segment} {added : List (String × String)}

/-! ## Variables that are added -/

def Variables.ofAdded (added : List (String × String)) : Variables :=
  added.foldl (fun vars entry => vars.add entry.1 entry.2) {}

theorem Variables.get?_add_ne (h : word ≠ other) : (vars.add other text).get? word = vars.get? word := by
  have hfilter : ∀ entries : List (String × String),
      (entries.filter (·.1 != other)).lookup word = entries.lookup word := by
    intro entries
    induction entries with
    | nil => rfl
    | cons entry entries ih =>
      by_cases hentry : entry.1 = other
      · have hword : (word == entry.1) = false := beq_eq_false_iff_ne.mpr (hentry ▸ h)
        rw [List.filter_cons_of_neg (by simp [hentry]), ih, List.lookup_cons, hword]
      · rw [List.filter_cons_of_pos (by simp [hentry]), List.lookup_cons, List.lookup_cons, ih]
  have hhead : (word == other) = false := beq_eq_false_iff_ne.mpr h
  rw [get?, add, List.lookup_cons, hhead, get?]
  exact hfilter vars.entries

theorem Variables.get?_ofAdded (added : List (String × String)) (word : String) :
    (ofAdded added).get? word = added.reverse.lookup word := by
  induction added using List.reverseRecOn with
  | nil => rfl
  | append_singleton added entry ih =>
    have hadd : ofAdded (added ++ [entry]) = (ofAdded added).add entry.1 entry.2 := List.foldl_append
    rw [hadd, List.reverse_append, List.reverse_singleton, List.singleton_append, List.lookup_cons]
    by_cases hword : word = entry.1
    · rw [hword, get?_add, beq_self_eq_true]
    · rw [get?_add_ne hword, ih, beq_eq_false_iff_ne.mpr hword]

theorem lookup_reverse_isSome : (added.reverse.lookup word).isSome ↔ word ∈ added.map (·.1) := by
  rw [← not_iff_not, Bool.not_eq_true, Option.isSome_eq_false_iff, Option.isNone_iff_eq_none,
    List.lookup_eq_none_iff, List.mem_map]
  constructor
  · rintro hnone ⟨entry, hentry, rfl⟩
    simpa using hnone entry (List.mem_reverse.mpr hentry)
  · intro hmissing entry hentry
    rw [bne_iff_ne]
    exact fun hsame => hmissing ⟨entry, List.mem_reverse.mp hentry, hsame.symm⟩

theorem mem_of_lookup_reverse (h : added.reverse.lookup word = some text) : (word, text) ∈ added := by
  obtain ⟨before, after, hadded, -⟩ := List.lookup_eq_some_iff.mp h
  rw [← List.mem_reverse, hadded]
  simp

/-! ## Variables that are missing -/

/-- Functions have names in small letters. -/
theorem Builtin.ofName?_of_isVariable (h : isVariable name = true) : ofName? (String.ofList name) = none := by
  have hword : ∀ word : String, isVariable word.toList = false → String.ofList name ≠ word := by
    rintro word hword rfl
    rw [String.toList_ofList, h] at hword
    cases hword
  unfold ofName?
  split
  · next heq => exact absurd heq (hword _ (by decide))
  · next heq => exact absurd heq (hword _ (by decide))
  · next heq => exact absurd heq (hword _ (by decide))
  · next heq => exact absurd heq (hword _ (by decide))
  · rfl

theorem Run.bind_error {α β : Type} {x : Run α} {f : α → Run β} {e : Error} (h : x m = .error e) :
    (x >>= f) m = .error e := by
  simp [bind, StateT.bind, Except.bind, h]

theorem render_of_missing (hname : isVariable name = true) (hm : m.IsOver vars)
    (hmissing : vars.get? (String.ofList name) = none) :
    render (fuel + 2) (.output (.name (String.ofList name))) m = .error .undefined := by
  have hlookup : m.lookup (String.ofList name) = none := by
    have hbinding := vars.lookup_bindings (String.ofList name)
    rw [hmissing] at hbinding
    rw [Machine.lookup, hm.frames, List.findSome?_cons, Machine.inFrame]
    simp [hbinding, Builtin.ofName?_of_isVariable hname]
  have heval : eval (fuel + 1) (.name (String.ofList name)) m = .ok (.undefined, m) := by
    rw [eval, Run.bind_eq Run.get_eq, hlookup, Option.getD_none, Run.pure_eq]
  rw [render, Run.bind_eq heval, emitted]
  rfl

/-- What stands in front of the first missing variable is rendered, and lost with the error. -/
theorem renderAll_of_missing (h : ∀ piece ∈ pieces, piece.IsSimple) (hm : m.IsOver vars)
    (hword : .output [.name word] ∈ pieces) (hmissing : vars.get? word = none) :
    renderAll (fuel + 3) (pieces.map Piece.statement) m = .error .undefined := by
  rw [renderAll]
  -- whatever has been rendered so far, the pieces in front of the missing one add to it
  have hfrom : ∀ before : String, (pieces.map Piece.statement).foldlM
      (fun text statement => return text ++ (← render (fuel + 2) statement) : String → Statement → Run String)
        before m = .error .undefined := by
    induction pieces with
    | nil => cases hword
    | cons piece pieces ih =>
      intro before
      have hsimple := h piece List.mem_cons_self
      rw [List.map_cons, List.foldlM_cons]
      by_cases hhere : ∃ other, piece = .output [.name other] ∧ vars.get? other = none
      · obtain ⟨other, rfl, hother⟩ := hhere
        cases hsimple with
        | output hname =>
          have hrender : render (fuel + 2) (Piece.output [.name (String.ofList _)]).statement m = _ :=
            render_of_missing hname hm hother
          exact Run.bind_error (Run.bind_error hrender)
      · have hdefined : ∀ other, piece = .output [.name other] → (vars.get? other).isSome := by
          intro other hpiece
          rw [Option.isSome_iff_ne_none]
          exact fun hother => hhere ⟨other, hpiece, hother⟩
        have hpiece : render (fuel + 2) piece.statement m = _ := render_of_isSimple hsimple hm hdefined
        have hlater : .output [.name word] ∈ pieces := by
          refine List.mem_of_ne_of_mem (fun hsame => ?_) hword
          exact hhere ⟨word, hsame.symm, hmissing⟩
        have hrest := ih (fun piece hpiece => h piece (List.mem_cons_of_mem _ hpiece)) hlater
        have hstep : (do return before ++ (← render (fuel + 2) piece.statement) : Run String) m =
            .ok (before ++ String.ofList (piece.filled vars), m) := by
          rw [Run.bind_eq hpiece, Run.pure_eq]
        rw [Run.bind_eq hstep]
        exact hrest _
  exact hfrom ""

theorem Segment.output_mem_pieces (h : .placeholder name ∈ segments) :
    .output [.name (String.ofList name)] ∈ Segment.pieces read segments := by
  induction segments generalizing read with
  | nil => cases h
  | cons segment rest ih =>
    cases segment with
    | text content => exact ih (List.mem_of_ne_of_mem Segment.noConfusion h)
    | escape => exact ih (List.mem_of_ne_of_mem Segment.noConfusion h)
    | placeholder other =>
      rw [Segment.pieces]
      rcases List.mem_cons.mp h with heq | h
      · rw [Segment.placeholder.inj heq]
        exact List.mem_append_right _ List.mem_cons_self
      · exact List.mem_append_right _ (List.mem_cons_of_mem _ (ih h))

/-! ## Templates -/

/-- What a segment stands for, given the variables in the order in which they were added. -/
def Segment.standsFor (added : List (String × String)) : Segment → List Char
  | .text content => content
  | .escape => opening
  | .placeholder name => ((added.reverse.lookup (String.ofList name)).getD "").toList

theorem Segment.filled_ofAdded (added : List (String × String)) :
    filled (Variables.ofAdded added) = standsFor added := by
  funext segment
  cases segment with
  | placeholder name => rw [filled, standsFor, Variables.get?_ofAdded]
  | _ => rfl

/-- If every variable of a template is defined, the template gives its texts as they are, the opening of a placeholder
for each escape, and for each placeholder the text that was added last under its name. Otherwise it cannot be
rendered. -/
theorem Variables.render_substitutes (hproper : Segment.AreProper segments)
    (hclean : ∀ entry ∈ added, '\x00' ∉ entry.2.toList) :
    ((∀ name, .placeholder name ∈ segments → String.ofList name ∈ added.map (·.1)) →
      (ofAdded added).render (String.ofList (segments.flatMap Segment.written)) =
        .ok (String.ofList (segments.flatMap (Segment.standsFor added)))) ∧
    ∀ name, .placeholder name ∈ segments → String.ofList name ∉ added.map (·.1) → ∃ detail,
      (ofAdded added).render (String.ofList (segments.flatMap Segment.written)) = .error (.template detail) := by
  constructor
  · intro hdefined
    rw [← Segment.filled_ofAdded, render_written hproper]
    intro name hname
    obtain ⟨value, hvalue⟩ := Option.isSome_iff_exists.mp (lookup_reverse_isSome.mpr (hdefined name hname))
    refine ⟨value, by rw [get?_ofAdded, hvalue], ?_⟩
    exact hclean (String.ofList name, value) (mem_of_lookup_reverse hvalue)
  · intro name hname hmissing
    have hget : (ofAdded added).get? (String.ofList name) = none := by
      rw [get?_ofAdded, ← Option.not_isSome_iff_eq_none]
      exact fun hsome => hmissing (lookup_reverse_isSome.mp hsome)
    obtain ⟨m, hm, hrender⟩ := Segment.renderText_marked (ofAdded added) hproper
    have hdepth : depthLimit = 99997 + 3 := rfl
    rw [hdepth, renderAll_of_missing (Segment.isSimple_of_mem_pieces hproper) hm (Segment.output_mem_pieces hname)
      hget] at hrender
    refine ⟨Error.undefined.message, ?_⟩
    rw [render, String.toList_ofList, Segment.replaceText_written hproper, hrender]
    rfl

/-- Variables one of which is added twice, and one of which has a text like a template. -/
def lookalikes : List (String × String) := [("B", "$x$\x7bA\x7d\x7b%$$\x7b"), ("A", "1"), ("A", "2\x7d")]

def lookalikeSegments : List Segment :=
  [.text "n: \x7b".toList, .placeholder ['B'], .escape, .text "A\x7d".toList, .escape, .placeholder ['A'], .text ['\n']]

theorem render_substitutes_lookalike :
    (Variables.ofAdded lookalikes).render "n: \x7b$\x7bB\x7d$$\x7bA\x7d$$\x7b$\x7bA\x7d\n" =
      .ok "n: \x7b$x$\x7bA\x7d\x7b%$$\x7b$\x7bA\x7d$\x7b2\x7d\n" ∧
    ∃ detail, (Variables.ofAdded lookalikes).render "$\x7bMISSING\x7d" = .error (.template detail) := by
  have hclean : ∀ entry ∈ lookalikes, '\x00' ∉ entry.2.toList := by decide
  have hproper : Segment.AreProper lookalikeSegments := by
    refine ⟨by decide, by decide, by decide, by simp, by decide, by decide, by decide, by decide, by simp, by decide,
      by decide, by decide, by decide, by simp, trivial⟩
  have hmissing : Segment.AreProper [.placeholder "MISSING".toList] := ⟨by decide, trivial⟩
  constructor
  · have hdefined : ∀ name, .placeholder name ∈ lookalikeSegments → String.ofList name ∈ lookalikes.map (·.1) := by
      simp [lookalikeSegments, lookalikes]
    exact (Variables.render_substitutes hproper hclean).1 hdefined
  · exact (Variables.render_substitutes hmissing hclean).2 "MISSING".toList (by simp) (by decide)

end SessionGate.Template
