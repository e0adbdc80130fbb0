import SessionGate.Proofs.Template.Piece
import SessionGate.Proofs.Text.Replace

/-! # Templates of segments

A template without blocks and comments is a sequence of texts, escapes and placeholders.

* `Segment.pieces_marked`: the pieces of such a template.
* `Variables.render_written`: what it gives. -/
namespace SessionGate.Template
set_option autoImplicit false

/-- A part of a template. -/
inductive Segment where
  | text (content : List Char)
  /-- An opening of a placeholder that is meant as a text. -/
  | escape
  | placeholder (name : List Char)

variable {name rest read : List Char} {fuel : Nat} {vars : Variables} {piece : Piece} {segments : List Segment}

namespace Segment

def written : Segment → List Char
  | .text content => content
  | .escape => '$' :: opening
  | .placeholder name => opening ++ name ++ outputClose

/-- How a segment is written while escapes are set aside. -/
def marked : Segment → List Char
  | .text content => content
  | .escape => escapedOpening
  | .placeholder name => opening ++ name ++ outputClose

/-- Texts open nothing and are as long as they can be. A dollar sign at the end of one would join what follows. -/
def AreProper : List Segment → Prop
  | [] => True
  | .text content :: rest => '\x00' ∉ content ∧ (content.getLast? = some '$' → rest = []) ∧ IsClear content ∧
      (∀ more, rest.head? ≠ some (.text more)) ∧ AreProper rest
  | .escape :: rest => AreProper rest
  | .placeholder name :: rest => isVariable name = true ∧ AreProper rest

/-- The pieces of segments behind a text. -/
def pieces (read : List Char) : List Segment → List Piece
  | [] => textPiece read
  | .text content :: rest => pieces (read ++ content) rest
  | .escape :: rest => pieces (read ++ escapedOpening) rest
  | .placeholder name :: rest => textPiece read ++ .output [.name (String.ofList name)] :: pieces [] rest

theorem pieces_placeholder (h : isVariable name = true) (hclear : IsClear read) :
    Template.pieces (fuel + 1) .keep (read ++ (opening ++ name ++ outputClose ++ rest)) =
      (Template.pieces fuel .keep rest).map fun more =>
        textPiece read ++ .output [.name (String.ofList name)] :: more := by
  have hsplit : splitOpening (read ++ (opening ++ name ++ outputClose ++ rest)) =
      (read, some (.output, name ++ outputClose ++ rest)) := by
    rw [splitOpening_append hclear]
    · simp [opening, splitOpening]
    · rintro a - b hb
      obtain rfl := Option.some.inj hb
      simp [opens]
  have hcode : code outputClose ((name ++ outputClose ++ rest).length + 1) 0 (name ++ outputClose ++ rest) =
      .ok ([.name (String.ofList name)], .keep, rest) := by
    have hlength : (name ++ outputClose ++ rest).length + 1 = (name ++ rest).length + 2 := by
      simp [outputClose]
      omega
    rw [hlength, code_of_isVariable h]
  rw [Template.pieces, Trim.start, if_neg (by decide), hsplit]
  dsimp only
  rw [List.append_assoc, trimSign_of_isVariable h, ← List.append_assoc]
  dsimp only
  rw [hcode, Trim.finish, if_neg (by decide)]
  cases hmore : Template.pieces fuel .keep rest with
  | error e => simp [bind, Except.bind, hmore, Except.map]
  | ok more => simp [bind, Except.bind, hmore, Except.map, pure, Except.pure]

/-- An escape that is set aside begins and ends with a character that opens nothing. -/
theorem isClear_append_escaped (hclear : IsClear read) : IsClear (read ++ escapedOpening) := by
  have hescaped : IsClear escapedOpening := by decide
  have hfirst : escapedOpening.head? = some '\x00' := by decide
  refine List.isChain_append.mpr ⟨hclear, hescaped, fun a _ b hb => ?_⟩
  obtain rfl := Option.some.inj (hfirst.symm.trans hb)
  simp [opens]

theorem closed_behind_escaped : ∀ a ∈ (read ++ escapedOpening).getLast?, ∀ b, opens a b = false := by
  intro a ha b
  have hlast : escapedOpening.getLast? = some '\x00' := by decide
  rw [List.getLast?_append, hlast, Option.some_or] at ha
  obtain rfl := Option.some.inj ha
  simp [opens]

/-- The pieces of a template are those of its segments. -/
theorem pieces_marked (hproper : AreProper segments) (hclear : IsClear read)
    (hjoin : ∀ content, segments.head? = some (.text content) → ∀ a ∈ read.getLast?, ∀ b, opens a b = false)
    (hfuel : (read ++ segments.flatMap marked).length < fuel) :
    Template.pieces fuel .keep (read ++ segments.flatMap marked) = .ok (pieces read segments) := by
  -- texts and escapes join the text read so far, and a placeholder ends it
  induction segments generalizing read fuel with
  | nil =>
    cases fuel with
    | zero => exact absurd hfuel (Nat.not_lt_zero _)
    | succ fuel =>
      have hsplit : splitOpening (read ++ []) = (read, none) := by
        rw [splitOpening_append hclear (by simp)]
        simp [splitOpening]
      rw [List.flatMap_nil, Template.pieces, Trim.start, if_neg (by decide), hsplit]
      rfl
  | cons segment rest ih =>
    rw [List.flatMap_cons] at hfuel ⊢
    cases segment with
    | text content =>
      obtain ⟨-, -, hcontent, hnext, hrest⟩ := hproper
      have hread : IsClear (read ++ content) :=
        List.isChain_append.mpr ⟨hclear, hcontent, fun a ha b _ => hjoin content rfl a ha b⟩
      rw [marked, ← List.append_assoc] at hfuel ⊢
      exact ih hrest hread (fun more hmore => absurd hmore (hnext more)) hfuel
    | escape =>
      rw [marked, ← List.append_assoc] at hfuel ⊢
      exact ih hproper (isClear_append_escaped hclear) (fun _ _ => closed_behind_escaped) hfuel
    | placeholder name =>
      cases fuel with
      | zero => exact absurd hfuel (Nat.not_lt_zero _)
      | succ fuel =>
        obtain ⟨hname, hrest⟩ := hproper
        have hshorter : (rest.flatMap marked).length < fuel := by
          simp only [marked, opening, List.length_append, List.length_cons] at hfuel
          omega
        have hmore : Template.pieces fuel .keep ([] ++ rest.flatMap marked) = .ok (pieces [] rest) :=
          ih hrest List.IsChain.nil (by simp) hshorter
        rw [marked, pieces_placeholder hname hclear, ← List.nil_append (rest.flatMap marked), hmore]
        rfl

theorem isVariable_of_mem (hproper : AreProper segments) (h : .placeholder name ∈ segments) :
    isVariable name = true := by
  induction segments with
  | nil => cases h
  | cons segment rest ih =>
    cases segment with
    | text content => exact ih hproper.2.2.2.2 (List.mem_of_ne_of_mem Segment.noConfusion h)
    | escape => exact ih hproper (List.mem_of_ne_of_mem Segment.noConfusion h)
    | placeholder word =>
      rcases List.mem_cons.mp h with heq | h
      · rw [Segment.placeholder.inj heq]
        exact hproper.1
      · exact ih hproper.2 h

/-- A piece is a text or comes from a placeholder. -/
theorem mem_pieces (h : piece ∈ pieces read segments) : (∃ content, piece = .text content) ∨
    ∃ name, .placeholder name ∈ segments ∧ piece = .output [.name (String.ofList name)] := by
  have htext : ∀ {read : List Char}, piece ∈ textPiece read → ∃ content, piece = .text content := by
    intro read h
    rw [textPiece] at h
    split at h
    · cases h
    · exact ⟨read, List.mem_singleton.mp h⟩
  have hlater : ∀ {segment : Segment} {rest : List Segment}, ((∃ content, piece = .text content) ∨
      ∃ name, .placeholder name ∈ rest ∧ piece = .output [.name (String.ofList name)]) →
        (∃ content, piece = .text content) ∨
          ∃ name, .placeholder name ∈ segment :: rest ∧ piece = .output [.name (String.ofList name)] :=
    fun h => h.imp_right fun ⟨name, hname, hpiece⟩ => ⟨name, List.mem_cons_of_mem _ hname, hpiece⟩
  induction segments generalizing read with
  | nil => exact .inl (htext h)
  | cons segment rest ih =>
    cases segment with
    | text content => exact hlater (ih h)
    | escape => exact hlater (ih h)
    | placeholder name =>
      rw [pieces, List.mem_append, List.mem_cons] at h
      rcases h with h | rfl | h
      · exact .inl (htext h)
      · exact .inr ⟨name, List.mem_cons_self, rfl⟩
      · exact hlater (ih h)

/-! ## Texts of segments -/

def filled (vars : Variables) : Segment → List Char
  | .text content => content
  | .escape => opening
  | .placeholder name => ((vars.get? (String.ofList name)).getD "").toList

/-- What a segment gives while escapes are set aside. -/
def unfinished (vars : Variables) : Segment → List Char
  | .text content => content
  | .escape => escapedOpening
  | .placeholder name => ((vars.get? (String.ofList name)).getD "").toList

theorem flatMap_pieces (segments : List Segment) (read : List Char) :
    (pieces read segments).flatMap (Piece.filled vars) = read ++ segments.flatMap (unfinished vars) := by
  have htext : ∀ read : List Char, (textPiece read).flatMap (Piece.filled vars) = read := by
    intro read
    cases read with
    | nil => rfl
    | cons c read => simp [textPiece, Piece.filled]
  induction segments generalizing read with
  | nil => rw [pieces, htext, List.flatMap_nil, List.append_nil]
  | cons segment rest ih =>
    cases segment with
    | text content => rw [pieces, ih, List.flatMap_cons, List.append_assoc]; rfl
    | escape => rw [pieces, ih, List.flatMap_cons, List.append_assoc]; rfl
    | placeholder name =>
      rw [pieces, List.flatMap_append, htext, List.flatMap_cons, List.flatMap_cons, ih]
      rfl

/-- An escape begins in no text, unless the dollar sign of the text stands in front of an opening. -/
theorem not_escape_of_isClear {text : List Char} {c : Char} {after : List Char} (hclear : IsClear text)
    (hlast : text.getLast? = some '$' → rest = []) (hsuffix : c :: after <:+ text) :
    ¬ '$' :: opening <+: c :: after ++ rest := by
  intro hbegins
  have hend : (c :: after).getLast? = some '$' → rest = [] := by
    obtain ⟨before, rfl⟩ := hsuffix
    intro hsign
    exact hlast (by rw [List.getLast?_append, hsign, Option.some_or])
  have hchain : IsClear (c :: after) := hclear.suffix hsuffix
  rw [opening, List.cons_append, List.cons_prefix_cons] at hbegins
  obtain ⟨rfl, hbegins⟩ := hbegins
  cases after with
  | nil =>
    rw [hend rfl] at hbegins
    cases List.prefix_nil.mp hbegins
  | cons d after =>
    rw [List.cons_append, List.cons_prefix_cons] at hbegins
    obtain ⟨rfl, hbegins⟩ := hbegins
    cases after with
    | nil =>
      rw [hend rfl] at hbegins
      cases List.prefix_nil.mp hbegins
    | cons e after =>
      rw [List.cons_append, List.cons_prefix_cons] at hbegins
      obtain ⟨rfl, -⟩ := hbegins
      have hcloses := (List.isChain_cons_cons.mp (List.isChain_cons_cons.mp hchain).2).1
      exact absurd hcloses (by decide)

/-- Escapes are set aside, and nothing else. -/
theorem replaceText_written (hproper : AreProper segments) :
    Text.replaceText ('$' :: opening) escapedOpening (segments.flatMap written) = segments.flatMap marked := by
  induction segments with
  | nil => exact Text.replaceText_nil (by simp)
  | cons segment rest ih =>
    rw [List.flatMap_cons, List.flatMap_cons]
    cases segment with
    | text content =>
      obtain ⟨-, hlast, hclear, -, hrest⟩ := hproper
      have hend : content.getLast? = some '$' → rest.flatMap written = [] := fun hsign => by
        rw [hlast hsign, List.flatMap_nil]
      rw [written, Text.replaceText_append fun _ _ => not_escape_of_isClear hclear hend, ih hrest]
      rfl
    | escape => rw [written, Text.replaceText_self (by simp), ih hproper, marked]
    | placeholder name =>
      have hname : '$' ∉ name ++ outputClose := by
        rw [List.mem_append, not_or]
        refine ⟨fun hmem => ?_, by decide⟩
        exact absurd (isNameChar_of_isVariable hproper.1 _ hmem) (by decide)
      have hopening : ¬ '$' :: opening <+: '$' :: ('\x7b' :: (name ++ outputClose) ++ rest.flatMap written) := by
        simp [opening]
      have hcons : written (.placeholder name) = '$' :: ('\x7b' :: (name ++ outputClose)) := by
        simp [written, opening]
      have hdollar : '$' ∉ '\x7b' :: (name ++ outputClose) := List.not_mem_cons_of_ne_of_not_mem (by decide) hname
      rw [hcons, List.cons_append, Text.replaceText_cons hopening, Text.replaceText_append_of_not_mem hdollar, ih hproper.2,
        ← List.cons_append, ← hcons]
      rfl

/-- Escapes are put in again, and nothing else changes. -/
theorem replaceText_unfinished (hproper : AreProper segments)
    (hvalues : ∀ name, .placeholder name ∈ segments →
      ∃ value, vars.get? (String.ofList name) = some value ∧ '\x00' ∉ value.toList) :
    Text.replaceText escapedOpening opening (segments.flatMap (unfinished vars)) = segments.flatMap (filled vars) := by
  obtain ⟨more, hescaped⟩ : ∃ more, escapedOpening = '\x00' :: more :=
    List.head?_eq_some_iff.mp (by decide)
  have hne : escapedOpening ≠ [] := by simp [hescaped]
  have hpasses : ∀ {text rest : List Char}, '\x00' ∉ text →
      Text.replaceText escapedOpening opening (text ++ rest) =
        text ++ Text.replaceText escapedOpening opening rest := by
    intro text rest htext
    rw [hescaped, Text.replaceText_append_of_not_mem htext]
  induction segments with
  | nil => exact Text.replaceText_nil hne
  | cons segment rest ih =>
    have hrest := fun name hname => hvalues name (List.mem_cons_of_mem segment hname)
    rw [List.flatMap_cons, List.flatMap_cons]
    cases segment with
    | text content =>
      obtain ⟨hzero, -, -, -, hproper⟩ := hproper
      rw [unfinished, filled, hpasses hzero, ih hproper hrest]
    | escape => rw [unfinished, Text.replaceText_self hne, ih hproper hrest, filled]
    | placeholder name =>
      obtain ⟨value, hvalue, hzero⟩ := hvalues name List.mem_cons_self
      rw [unfinished, filled, hvalue, Option.getD_some, hpasses hzero, ih hproper.2 hrest]

end Segment

namespace Segment

theorem isSimple_of_mem_pieces (hproper : AreProper segments) : ∀ piece ∈ pieces [] segments, piece.IsSimple := by
  intro piece hpiece
  rcases mem_pieces hpiece with ⟨content, rfl⟩ | ⟨name, hname, rfl⟩
  · exact .text content
  · exact .output (isVariable_of_mem hproper hname)

/-- While escapes are set aside, a template is rendered piece by piece over the variables alone. -/
theorem renderText_marked (vars : Variables) (hproper : AreProper segments) : ∃ m : Machine, m.IsOver vars ∧
    renderText (segments.flatMap marked) vars.bindings =
      (renderAll depthLimit ((pieces [] segments).map Piece.statement) m).map (·.1) := by
  have hscan : Piece.scan (segments.flatMap marked) = .ok (pieces [] segments) :=
    pieces_marked hproper List.IsChain.nil (by simp) (by simp)
  have hparse := Statement.parse_of_isSimple (isSimple_of_mem_pieces hproper)
  let m : Machine :=
    { frames := [{ base := .given vars.bindings }]
      blocks := Statement.blocksOf ((pieces [] segments).map Piece.statement) }
  refine ⟨m, ⟨rfl, rfl⟩, ?_⟩
  rw [renderText, hscan]
  simp only [bind, Except.bind, hparse, StateT.run]
  cases renderAll depthLimit ((pieces [] segments).map Piece.statement) _ with
  | error e => rfl
  | ok result => rfl

end Segment

/-- A template of texts and placeholders gives the texts as they are, an opening for each escape, and the value of
each variable as it is. -/
theorem Variables.render_written (hproper : Segment.AreProper segments)
    (hvalues : ∀ name, .placeholder name ∈ segments →
      ∃ value, vars.get? (String.ofList name) = some value ∧ '\x00' ∉ value.toList) :
    vars.render (String.ofList (segments.flatMap Segment.written)) =
      .ok (String.ofList (segments.flatMap (Segment.filled vars))) := by
  have hdefined : ∀ word, .output [.name word] ∈ Segment.pieces [] segments → (vars.get? word).isSome := by
    intro word hword
    rcases Segment.mem_pieces hword with ⟨content, hpiece⟩ | ⟨name, hname, hpiece⟩
    · cases hpiece
    · obtain rfl : word = String.ofList name := by simpa using hpiece
      obtain ⟨value, hvalue, -⟩ := hvalues name hname
      rw [hvalue, Option.isSome_some]
  obtain ⟨m, hm, hrender⟩ := Segment.renderText_marked vars hproper
  have hdepth : depthLimit = 99997 + 3 := rfl
  rw [hdepth, renderAll_of_isSimple (Segment.isSimple_of_mem_pieces hproper) hm hdefined,
    Segment.flatMap_pieces] at hrender
  rw [render, String.toList_ofList, Segment.replaceText_written hproper, hrender]
  dsimp only [Except.map]
  rw [String.toList_ofList, List.nil_append, Segment.replaceText_unfinished hproper hvalues]

theorem Variables.get?_ofSession (namespaceName session name : String) :
    (ofSession namespaceName session).get? name =
      if name = "SESSION_ID" then some session else if name = "NAMESPACE" then some namespaceName else none := by
  have hentries : (ofSession namespaceName session).entries = [("SESSION_ID", session), ("NAMESPACE", namespaceName)] :=
    rfl
  rw [get?, hentries, List.lookup_cons, List.lookup_cons, List.lookup_nil]
  by_cases hsession : name = "SESSION_ID"
  · rw [if_pos hsession, beq_iff_eq.mpr hsession]
  rw [if_neg hsession, beq_eq_false_iff_ne.mpr hsession]
  by_cases hnamespace : name = "NAMESPACE"
  · rw [if_pos hnamespace, beq_iff_eq.mpr hnamespace]
  · rw [if_neg hnamespace, beq_eq_false_iff_ne.mpr hnamespace]

end SessionGate.Template
