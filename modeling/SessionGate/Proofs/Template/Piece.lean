import Mathlib.Data.List.Chain
import SessionGate.Template.Placeholder

/-! # Texts and variables of templates

* `code_of_isVariable`: a name between the delimiters of an output is read as that name.
* `splitOpening_append`: a text in which nothing is opened is left as it is.
* `renderAll_of_isSimple`: texts and variables give their texts one after the other and change nothing.
-/
namespace SessionGate.Template
set_option autoImplicit false

/-! ## Names -/

/-- A name in capital letters; digits and underscores may stand behind the first letter. -/
def isVariable : List Char → Bool
  | [] => false
  | c :: rest => c.isUpper && rest.all fun d => d.isUpper || d.isDigit || d == '_'

variable {c sign : Char} {name rest text : List Char} {fuel : Nat} {vars : Variables} {m : Machine}
  {pieces : List Piece} {piece : Piece}

theorem ne_of_isUpper (h : c.isUpper = true) (hsign : sign.isUpper = false) : c ≠ sign := by
  rintro rfl
  rw [h] at hsign
  cases hsign

theorem isDigit_of_isUpper (h : c.isUpper = true) : c.isDigit = false := by
  have hrange : 'A'.val ≤ c.val ∧ c.val ≤ 'Z'.val := of_decide_eq_true h
  rw [UInt32.le_iff_toNat_le] at hrange
  simp only [Char.isDigit, Bool.and_eq_false_iff, decide_eq_false_iff_not, UInt32.le_iff_toNat_le]
  have hlow : 'A'.val.toNat = 65 := rfl
  have hhigh : '9'.val.toNat = 57 := rfl
  omega

theorem isNameChar_of_isVariable (h : isVariable name = true) : ∀ c ∈ name, isNameChar c = true := by
  have hupper : ∀ c : Char, c.isUpper = true → isNameChar c = true := by
    intro c hc
    have halphanum : c.isAlphanum = (c.isUpper || c.isLower || c.isDigit) := rfl
    rw [isNameChar, halphanum, hc]
    rfl
  cases name with
  | nil => cases h
  | cons first name =>
    rw [isVariable, Bool.and_eq_true, List.all_eq_true] at h
    refine List.forall_mem_cons.mpr ⟨hupper first h.1, fun c hc => ?_⟩
    have hc := h.2 c hc
    rw [Bool.or_eq_true, Bool.or_eq_true] at hc
    rcases hc with (hc | hc) | hc
    · exact hupper c hc
    · have halphanum : c.isAlphanum = (c.isAlpha || c.isDigit) := rfl
      rw [isNameChar, halphanum, hc, Bool.or_true, Bool.true_or]
    · simp [isNameChar, hc]

/-- No sign begins with a capital letter. -/
theorem token_of_isUpper (h : c.isUpper = true) : token c rest =
    .ok (.name (String.ofList (c :: rest.takeWhile isNameChar)), rest.dropWhile isNameChar) := by
  have hlong : longSigns.find? (·.isPrefixOf (c :: rest)) = none := by
    rw [List.find?_eq_none]
    intro sign hsign hbegins
    have hfirst : ∀ sign ∈ longSigns, ∃ first more, sign = first :: more ∧ first.isUpper = false := by
      simp [longSigns]
    obtain ⟨first, more, rfl, hfirst⟩ := hfirst sign hsign
    rw [List.isPrefixOf_iff_prefix, List.cons_prefix_cons] at hbegins
    exact ne_of_isUpper h hfirst hbegins.1.symm
  have hshort : c ∉ shortSigns := by
    intro hmem
    have hsigns : shortSigns.all (!·.isUpper) = true := by decide
    have hc := List.all_eq_true.mp hsigns c hmem
    rw [h] at hc
    cases hc
  have hquote : ¬ (c = '\x27' ∨ c = '"') :=
    not_or.mpr ⟨ne_of_isUpper h (by decide), ne_of_isUpper h (by decide)⟩
  have hname : isNameStart c = true := by
    have halpha : c.isAlpha = (c.isUpper || c.isLower) := rfl
    rw [isNameStart, halpha, h]
    rfl
  rw [token, hlong]
  simp [hshort, hquote, isDigit_of_isUpper h, hname]

/-- A name leaves the brackets of code as they are. -/
theorem code_of_name {close more behind : List Char} {word : String} {tokens : List Token} {trim : Trim}
    (hclose : closing? close (c :: rest) = none) (hblank : isAsciiBlank c = false)
    (htoken : token c rest = .ok (.name word, more)) (hmore : code close fuel 0 more = .ok (tokens, trim, behind)) :
    code close (fuel + 1) 0 (c :: rest) = .ok (.name word :: tokens, trim, behind) := by
  conv =>
    lhs
    whnf
  rw [if_pos rfl, hclose]
  dsimp only
  rw [hblank, htoken]
  simp [bind, Except.bind, hmore, pure, Except.pure]

/-- Code that is a name ends behind the name. -/
theorem code_of_isVariable (h : isVariable name = true) :
    code outputClose (fuel + 2) 0 (name ++ outputClose ++ rest) =
      .ok ([.name (String.ofList name)], .keep, rest) := by
  have hchars := isNameChar_of_isVariable h
  cases name with
  | nil => cases h
  | cons c name =>
    rw [isVariable, Bool.and_eq_true] at h
    have hclose : closing? outputClose (c :: (name ++ outputClose ++ rest)) = none := by
      unfold closing?
      rw [if_neg]
      · split
        · next heq => exact absurd (List.cons.inj heq).1 (ne_of_isUpper h.1 (by decide))
        · next heq => exact absurd (List.cons.inj heq).1 (ne_of_isUpper h.1 (by decide))
        · rfl
      · rw [outputClose, List.isPrefixOf_iff_prefix, List.cons_prefix_cons]
        exact fun hbegins => ne_of_isUpper h.1 (by decide) hbegins.1.symm
    have hblank : isAsciiBlank c = false := by
      have hne : ∀ {sign : Char}, sign.isUpper = false → c ≠ sign := fun hsign => ne_of_isUpper h.1 hsign
      simp [isAsciiBlank, hne]
    have hchars : ∀ d ∈ name, isNameChar d = true := fun d hd => hchars d (List.mem_cons_of_mem c hd)
    have htake : (name ++ outputClose ++ rest).takeWhile isNameChar = name := by
      rw [List.append_assoc, List.takeWhile_append_of_pos hchars, outputClose, List.cons_append,
        List.takeWhile_cons_of_neg (by decide), List.append_nil]
    have hdrop : (name ++ outputClose ++ rest).dropWhile isNameChar = outputClose ++ rest := by
      rw [List.append_assoc, List.dropWhile_append_of_pos hchars, outputClose, List.cons_append,
        List.dropWhile_cons_of_neg (by decide)]
    have htoken : token c (name ++ outputClose ++ rest) =
        .ok (.name (String.ofList (c :: name)), outputClose ++ rest) := by
      rw [token_of_isUpper h.1, htake, hdrop]
    have hend : code outputClose (fuel + 1) 0 (outputClose ++ rest) = .ok ([], .keep, rest) := rfl
    exact code_of_name hclose hblank htoken hend

theorem trimSign_of_isVariable (h : isVariable name = true) : trimSign (name ++ rest) = (.keep, name ++ rest) := by
  cases name with
  | nil => cases h
  | cons c name =>
    rw [isVariable, Bool.and_eq_true] at h
    unfold trimSign
    split
    · next heq => exact absurd (List.cons.inj heq).1 (ne_of_isUpper h.1 (by decide))
    · next heq => exact absurd (List.cons.inj heq).1 (ne_of_isUpper h.1 (by decide))
    · rfl

/-! ## Openings -/

/-- Whether two characters side by side open something. -/
def opens (a b : Char) : Bool := (a == '$' && b == '\x7b') || (a == '\x7b' && (b == '%' || b == '#'))

theorem splitOpening_cons (h : ∀ next ∈ rest.head?, opens c next = false) :
    splitOpening (c :: rest) = (c :: (splitOpening rest).1, (splitOpening rest).2) := by
  have hclosed : ∀ {a b : Char} {more : List Char}, opens a b = true → c :: rest ≠ a :: b :: more := by
    rintro a b more hopens heq
    obtain ⟨rfl, rfl⟩ := List.cons.inj heq
    rw [h b rfl] at hopens
    cases hopens
  rw [splitOpening.eq_def]
  split
  · next heq => cases heq
  · next heq => exact absurd heq (hclosed (by decide))
  · next heq => exact absurd heq (hclosed (by decide))
  · next heq => exact absurd heq (hclosed (by decide))
  · next heq =>
    obtain ⟨rfl, rfl⟩ := List.cons.inj heq
    rfl

/-- A text in which nothing is opened. -/
def IsClear (text : List Char) : Prop := text.IsChain fun a b => opens a b = false

instance : Decidable (IsClear text) := inferInstanceAs (Decidable (text.IsChain fun a b => opens a b = false))

theorem splitOpening_append (h : IsClear text)
    (hjoin : ∀ a ∈ text.getLast?, ∀ b ∈ rest.head?, opens a b = false) :
    splitOpening (text ++ rest) = (text ++ (splitOpening rest).1, (splitOpening rest).2) := by
  induction text with
  | nil => rfl
  | cons c text ih =>
    cases text with
    | nil => exact splitOpening_cons (hjoin c rfl)
    | cons d text =>
      rw [IsClear, List.isChain_cons_cons] at h
      have hnext : ∀ next ∈ (d :: text ++ rest).head?, opens c next = false := by
        rintro next hnext
        obtain rfl := Option.some.inj hnext
        exact h.1
      rw [List.cons_append, splitOpening_cons hnext, ih h.2 (by simpa using hjoin)]
      rfl

/-! ## Statements -/

/-- Nothing else stands for a value that is written like a variable. -/
theorem Expr.parse_of_isVariable (h : isVariable name = true) :
    Expr.parse 0 [.name (String.ofList name)] = .ok (.name (String.ofList name)) := by
  have hword : ∀ word : String, isVariable word.toList = false → String.ofList name ≠ word := by
    rintro word hword rfl
    rw [String.toList_ofList] at hword
    rw [h] at hword
    cases hword
  have hname : Expr.ofName (String.ofList name) = .name (String.ofList name) := by
    rw [Expr.ofName, if_neg (not_or.mpr ⟨hword _ (by decide), hword _ (by decide)⟩),
      if_neg (not_or.mpr ⟨hword _ (by decide), hword _ (by decide)⟩),
      if_neg (not_or.mpr ⟨hword _ (by decide), hword _ (by decide)⟩)]
  have hnot : String.ofList name ≠ "not" := hword _ (by decide)
  generalize String.ofList name = word at hname hnot
  -- one level of operators after the other finds no operator behind the name
  simp [Expr.parse, Expr.read, Expr.fuelFor, Expr.full, Expr.chosen, Expr.choices, Expr.level, Expr.Level.next,
    Expr.compared, Expr.comparison?, Expr.operands, Expr.unary, Expr.signed, enter, nestingLimit, Expr.primary,
    Expr.suffixes, Expr.filters, bind, Except.bind, pure, Except.pure, hname, hnot]

/-- A piece that is a text or a variable. -/
inductive Piece.IsSimple : Piece → Prop where
  | text (content : List Char) : IsSimple (.text content)
  | output {name : List Char} (h : isVariable name = true) : IsSimple (.output [.name (String.ofList name)])

def Piece.statement : Piece → Statement
  | .text content => .text (String.ofList content)
  | .output [.name word] => .output (.name word)
  | _ => .text ""

theorem Statement.readBody_of_isSimple (h : ∀ piece ∈ pieces, piece.IsSimple) (hfuel : pieces.length < fuel) :
    readBody fuel {} [] pieces = .ok (pieces.map Piece.statement, none, []) := by
  induction pieces generalizing fuel with
  | nil =>
    cases fuel with
    | zero => exact absurd hfuel (Nat.not_lt_zero _)
    | succ fuel => rw [readBody, List.map_nil]
  | cons piece pieces ih =>
    cases fuel with
    | zero => exact absurd hfuel (Nat.not_lt_zero _)
    | succ fuel =>
      have hrest := ih (fun piece hpiece => h piece (List.mem_cons_of_mem _ hpiece)) (Nat.lt_of_succ_lt_succ hfuel)
      cases h piece List.mem_cons_self with
      | text content =>
        rw [readBody, hrest]
        rfl
      | output hname =>
        rw [readBody, Expr.parse_of_isVariable hname, hrest]
        rfl

theorem Statement.blocksOf_map (h : ∀ piece ∈ pieces, piece.IsSimple) :
    blocksOf (pieces.map Piece.statement) = [] := by
  induction pieces with
  | nil => rw [List.map_nil, blocksOf]
  | cons piece pieces ih =>
    have hrest := ih fun piece hpiece => h piece (List.mem_cons_of_mem _ hpiece)
    cases h piece List.mem_cons_self with
    | text content => rw [List.map_cons, blocksOf, hrest, Piece.statement, blocks, List.append_nil] <;> simp
    | output hname => rw [List.map_cons, blocksOf, hrest, Piece.statement, blocks, List.append_nil] <;> simp

theorem Statement.parse_of_isSimple (h : ∀ piece ∈ pieces, piece.IsSimple) :
    parse pieces = .ok (pieces.map Piece.statement) := by
  rw [parse, readBody_of_isSimple h (by omega)]
  dsimp only [bind, Except.bind]
  rw [blocksOf_map h]
  rfl

/-! ## Texts of statements -/

/-- What a piece gives. -/
def Piece.filled (vars : Variables) : Piece → List Char
  | .text content => content
  | .output [.name word] => ((vars.get? word).getD "").toList
  | _ => []

theorem Variables.lookup_bindings (vars : Variables) (word : String) :
    vars.bindings.lookup word = (vars.get? word).map .plain := by
  rw [bindings, get?]
  induction vars.entries with
  | nil => rfl
  | cons entry entries ih =>
    rw [List.map_cons, List.lookup_cons, List.lookup_cons]
    split
    · rfl
    · exact ih

theorem Run.bind_eq {α β : Type} {x : Run α} {f : α → Run β} {a : α} {m' : Machine} (h : x m = .ok (a, m')) :
    (x >>= f) m = f a m' := by
  simp [bind, StateT.bind, Except.bind, h]

theorem Run.get_eq : (get : Run Machine) m = .ok (m, m) := rfl

theorem Run.pure_eq {α : Type} {a : α} : (pure a : Run α) m = .ok (a, m) := rfl

/-- The machine at the start of a rendering is over the variables alone, and texts are not escaped. -/
structure Machine.IsOver (vars : Variables) (m : Machine) : Prop where
  frames : m.frames = [{ base := .given vars.bindings }]
  escaping : m.escaping = false

/-- A piece gives its text and changes nothing. -/
theorem render_of_isSimple (h : piece.IsSimple) (hm : m.IsOver vars)
    (hdefined : ∀ word, piece = .output [.name word] → (vars.get? word).isSome) :
    render (fuel + 2) piece.statement m = .ok (String.ofList (piece.filled vars), m) := by
  cases h with
  | text content => rw [Piece.statement, Piece.filled, render, Run.pure_eq]
  | @output name hname =>
    obtain ⟨value, hvalue⟩ := Option.isSome_iff_exists.mp (hdefined _ rfl)
    have hlookup : m.lookup (String.ofList name) = some (.plain value) := by
      have hbinding := vars.lookup_bindings (String.ofList name)
      rw [hvalue] at hbinding
      rw [Machine.lookup, hm.frames, List.findSome?_cons, Machine.inFrame]
      simp [hbinding]
    have heval : eval (fuel + 1) (.name (String.ofList name)) m = .ok (.plain value, m) := by
      rw [eval, Run.bind_eq Run.get_eq, hlookup, Option.getD_some, Run.pure_eq]
    have hemitted : emitted (.plain value) m = .ok (value, m) := by
      have hviewed : viewed (.plain value) m = .ok (.plain value, m) := by
        rw [viewed, Run.bind_eq Run.get_eq]
        rfl
      rw [Value.plain, emitted, ← Value.plain, Run.bind_eq hviewed, Run.bind_eq Run.get_eq, hm.escaping]
      · rfl
      · exact Value.noConfusion
    rw [Piece.statement, render, Run.bind_eq heval, hemitted, Piece.filled, hvalue, Option.getD_some,
      String.ofList_toList]

/-- Pieces give their texts one after the other. -/
theorem renderAll_of_isSimple (h : ∀ piece ∈ pieces, piece.IsSimple) (hm : m.IsOver vars)
    (hdefined : ∀ word, .output [.name word] ∈ pieces → (vars.get? word).isSome) :
    renderAll (fuel + 3) (pieces.map Piece.statement) m =
      .ok (String.ofList (pieces.flatMap (Piece.filled vars)), m) := by
  rw [renderAll]
  have hfrom : ∀ before : String, (pieces.map Piece.statement).foldlM
      (fun text statement => return text ++ (← render (fuel + 2) statement) : String → Statement → Run String)
        before m = .ok (before ++ String.ofList (pieces.flatMap (Piece.filled vars)), m) := by
    induction pieces with
    | nil =>
      intro before
      rw [List.map_nil, List.foldlM_nil, Run.pure_eq, List.flatMap_nil, String.ofList_nil, String.append_empty]
    | cons piece pieces ih =>
      intro before
      have hpiece : render (fuel + 2) piece.statement m = _ := render_of_isSimple (h piece List.mem_cons_self) hm
        fun word hword => hdefined word (hword ▸ List.mem_cons_self)
      have hrest := ih (fun piece hpiece => h piece (List.mem_cons_of_mem _ hpiece))
        (fun word hword => hdefined word (List.mem_cons_of_mem _ hword))
      rw [List.map_cons, List.foldlM_cons, List.flatMap_cons, String.ofList_append, ← String.append_assoc, ← hrest,
        Run.bind_eq]
      rw [Run.bind_eq hpiece, Run.pure_eq]
  rw [hfrom, String.empty_append]

end SessionGate.Template
