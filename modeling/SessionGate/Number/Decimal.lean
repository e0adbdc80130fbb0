import SessionGate.Number.Double

/-!
# Decimal texts of numbers

- `unsigned?` and `integer?` read whole numbers of 64 bits.
- `Double.ofLiteral?` reads a float literal: a sign, digits with at most one point, an exponent, or
  one of the names of infinity and of the number that is none.
- `Double.positional` writes the shortest digits without an exponent.
- `Double.exponential` and `Double.compact` write them with a point or an exponent, so that the text is
  a float again.
-/
namespace SessionGate.Number
set_option autoImplicit false

/-! ## Digits -/

/-- Value of a run of decimal digits. -/
def ofDigits (digits : List Char) : Nat :=
  digits.foldl (fun n c => 10 * n + (c.toNat - '0'.toNat)) 0

/-- Reads an optional sign: `true` stands for minus. -/
def splitSign : List Char → Bool × List Char
  | '-' :: rest => (true, rest)
  | '+' :: rest => (false, rest)
  | rest => (false, rest)

/-- Reads a natural number below `2 ^ 64`; a plus sign may stand in front. -/
def unsigned? (text : String) : Option Nat :=
  let digits :=
    match text.toList with
    | '+' :: rest => rest
    | digits => digits
  if digits.isEmpty || digits.any (!·.isDigit) || twoPow 64 ≤ ofDigits digits then none
  else some (ofDigits digits)

/-- Reads an integer that fits 64 bits, as a natural number or below zero. -/
def integer? (text : String) : Option Int :=
  match text.toList with
  | '-' :: digits =>
    if digits.isEmpty || digits.any (!·.isDigit) || twoPow 63 < ofDigits digits then none
    else some (-(ofDigits digits : Int))
  | _ => (unsigned? text).map Int.ofNat

/-- The digits of a finite number and the place of the point among them: `(d, k)` stands for
`0.d * 10 ^ k`, and zero has no digits. -/
structure Digits where
  digits : List Char
  point : Int
deriving Inhabited

namespace Digits

def dropTrailingZeros (digits : List Char) : List Char :=
  (digits.reverse.dropWhile (· == '0')).reverse

def ofShortest (m : Nat) (q : Int) : Digits :=
  if m = 0 then ⟨[], 0⟩
  else
    let (n, p) := Double.shortest m q
    let digits := Nat.toDigits 10 n
    ⟨dropTrailingZeros digits, p + digits.length⟩

/-- Writes every place up to the last digit, and no point where no fraction follows. -/
def positional (d : Digits) : List Char :=
  let n : Int := d.digits.length
  if d.digits.isEmpty then ['0']
  else if d.point ≤ 0 then
    '0' :: '.' :: (List.replicate (-d.point).toNat '0' ++ d.digits)
  else if n ≤ d.point then d.digits ++ List.replicate (d.point - n).toNat '0'
  else d.digits.take d.point.toNat ++ '.' :: d.digits.drop d.point.toNat

/-- One digit before the point, then the exponent. -/
def scientific (d : Digits) : List Char :=
  let exponent := (toString (d.point - 1)).toList
  match d.digits with
  | [] => ['0', '.', '0']
  | [c] => c :: 'e' :: exponent
  | c :: rest => c :: '.' :: (rest ++ 'e' :: exponent)

end Digits

namespace Double

private def signed (negative : Bool) (text : List Char) : String :=
  String.ofList (if negative then '-' :: text else text)

/-- Shortest digits that read back, without an exponent. -/
def positional (d : Double) : String :=
  match d.view with
  | .nan => "NaN"
  | .infinite negative => signed negative "inf".toList
  | .finite negative m q => signed negative (Digits.ofShortest m q).positional

/-- As `positional`, with a zero after the point of a number that has no fraction. -/
def pointed (d : Double) : String :=
  let text := d.positional
  if d.bits.toNat / twoPow 52 % twoPow 11 = 2047 || text.toList.contains '.' then text else text ++ ".0"

/-- Shortest digits that read back, positional where the point stands behind `low` and at most at
the sixteenth digit. -/
def shortestAbove (low : Int) (d : Double) : String :=
  match d.view with
  | .nan => "NaN"
  | .infinite negative => signed negative "inf".toList
  | .finite negative m q =>
    let digits := Digits.ofShortest m q
    if digits.digits.isEmpty || (low < digits.point && digits.point ≤ 16) then d.pointed
    else signed negative digits.scientific

/-- As `shortestAbove`, positional from five places behind the point on. -/
def exponential (d : Double) : String := d.shortestAbove (-5)

/-- As `shortestAbove`, positional from four places behind the point on. -/
def compact (d : Double) : String := d.shortestAbove (-4)

/-- Reads an exponent part: its value and nothing behind it. -/
private def exponent? : List Char → Option Int
  | [] => some 0
  | e :: rest =>
    if e = 'e' ∨ e = 'E' then
      let (negative, digits) := splitSign rest
      if digits.isEmpty || digits.any (!·.isDigit) then none
      else
        let n : Int := ofDigits digits
        some (if negative then -n else n)
    else none

/-- Reads an unsigned literal. -/
private def magnitude? (negative : Bool) (text : List Char) : Option Double :=
  let word := text.map Char.toLower
  if word = "inf".toList ∨ word = "infinity".toList then some (infinity negative)
  else if word = "nan".toList then some nan
  else
    let whole := text.takeWhile Char.isDigit
    let (fraction, rest) :=
      match text.dropWhile Char.isDigit with
      | '.' :: tail => (tail.takeWhile Char.isDigit, tail.dropWhile Char.isDigit)
      | tail => ([], tail)
    if whole.isEmpty && fraction.isEmpty then none
    else (exponent? rest).map fun e =>
      ofDecimal negative (ofDigits (whole ++ fraction)) (e - fraction.length)

/-- Reads a float literal, rounded to the nearest number. -/
def ofLiteral? (text : String) : Option Double :=
  let (negative, rest) := splitSign text.toList
  magnitude? negative rest

end Double

/-! ## Literals without a sign and without a point -/

/-- Digits, and behind them nothing, or the letter of an exponent and digits. -/
def IsScientific (text : List Char) : Prop :=
  ∃ whole rest, text = whole ++ rest ∧ whole ≠ [] ∧ whole.all Char.isDigit = true ∧
    (rest = [] ∨ ∃ e digits, rest = e :: digits ∧ (e = 'e' ∨ e = 'E') ∧ digits ≠ [] ∧
      digits.all Char.isDigit = true)

theorem splitSign_of_unsigned {text : List Char} (h : ∀ c ∈ text, c ≠ '-' ∧ c ≠ '+') :
    splitSign text = (false, text) := by
  rw [splitSign.eq_def]
  split
  · exact absurd rfl (h '-' List.mem_cons_self).1
  · exact absurd rfl (h '+' List.mem_cons_self).2
  · rfl

theorem toLower_of_isDigit {c : Char} (h : c.isDigit = true) : c.toLower = c := by
  simp only [Char.isDigit, Bool.and_eq_true, decide_eq_true_eq, UInt32.le_iff_toNat_le] at h
  have hnine : '9'.val.toNat = 57 := rfl
  have hupper : ¬ c.val ≥ 'A'.val := by
    rw [ge_iff_le, UInt32.le_iff_toNat_le]
    have hA : 'A'.val.toNat = 65 := rfl
    omega
  exact dif_neg fun hc => hupper hc.1

/-- A word is no number: it has no digit. -/
theorem map_toLower_ne {text : List Char} (word : List Char) (hdigit : text.any Char.isDigit = true)
    (hword : word.any Char.isDigit = false) : text.map Char.toLower ≠ word := by
  rintro rfl
  obtain ⟨c, hc, hd⟩ := List.any_eq_true.mp hdigit
  have hlower : (text.map Char.toLower).any Char.isDigit = true :=
    List.any_eq_true.mpr ⟨c.toLower, List.mem_map_of_mem hc, by rwa [toLower_of_isDigit hd]⟩
  rw [hlower] at hword
  cases hword

theorem all_isDigit_iff {digits : List Char} :
    (digits.isEmpty || digits.any (!·.isDigit)) = false ↔ digits ≠ [] ∧ digits.all Char.isDigit = true := by
  simp [List.all_eq_true]

namespace Double

private theorem exponent?_isSome_iff {rest : List Char} (h : ∀ c ∈ rest, c ≠ '-' ∧ c ≠ '+') :
    (exponent? rest).isSome = true ↔ rest = [] ∨ ∃ e digits, rest = e :: digits ∧ (e = 'e' ∨ e = 'E') ∧
      digits ≠ [] ∧ digits.all Char.isDigit = true := by
  cases rest with
  | nil => simp [exponent?]
  | cons e digits =>
    have hsplit := splitSign_of_unsigned fun c hc => h c (List.mem_cons_of_mem e hc)
    have hgoal : (exponent? (e :: digits)).isSome = true ↔ (e = 'e' ∨ e = 'E') ∧
        (digits.isEmpty || digits.any (!·.isDigit)) = false := by
      rw [exponent?, hsplit]
      by_cases he : e = 'e' ∨ e = 'E'
      · cases hbad : digits.isEmpty || digits.any (!·.isDigit) with
        | true => simp [he, hbad]
        | false => simp [he, hbad]
      · simp [he]
    rw [hgoal, all_isDigit_iff]
    constructor
    · rintro ⟨he, hdigits⟩
      exact .inr ⟨e, digits, rfl, he, hdigits⟩
    · rintro (hnil | ⟨e', digits', heq, he, hdigits⟩)
      · cases hnil
      · obtain ⟨rfl, rfl⟩ := List.cons.inj heq
        exact ⟨he, hdigits⟩

/-- Without a sign and without a point, a text that has a digit is a literal if it is written with digits, and
perhaps an exponent. -/
theorem ofLiteral?_isSome_iff {text : String} (h : ∀ c ∈ text.toList, c ≠ '-' ∧ c ≠ '+' ∧ c ≠ '.')
    (hdigit : text.toList.any Char.isDigit = true) :
    (ofLiteral? text).isSome = true ↔ IsScientific text.toList := by
  have hinf := map_toLower_ne "inf".toList hdigit rfl
  have hinfinity := map_toLower_ne "infinity".toList hdigit rfl
  have hnan := map_toLower_ne "nan".toList hdigit rfl
  have hsigns : ∀ c ∈ text.toList, c ≠ '-' ∧ c ≠ '+' := fun c hc => ⟨(h c hc).1, (h c hc).2.1⟩
  have hsplit := List.takeWhile_append_dropWhile (p := Char.isDigit) (l := text.toList)
  have hwhole : (text.toList.takeWhile Char.isDigit).all Char.isDigit = true := List.all_takeWhile
  have hmem : ∀ c ∈ text.toList.dropWhile Char.isDigit, c ∈ text.toList := fun c hc =>
    (List.dropWhile_sublist _).subset hc
  have hexponent := exponent?_isSome_iff fun c hc => hsigns c (hmem c hc)
  have hmagnitude : (magnitude? false text.toList).isSome = true ↔
      text.toList.takeWhile Char.isDigit ≠ [] ∧ (exponent? (text.toList.dropWhile Char.isDigit)).isSome = true := by
    simp only [magnitude?, hinf, hinfinity, hnan, or_self, if_false]
    split
    · next point hpoint => exact absurd rfl (h '.' (hmem '.' (hpoint ▸ List.mem_cons_self))).2.2
    · cases text.toList.takeWhile Char.isDigit with
      | nil => simp
      | cons c whole => simp
  rw [ofLiteral?, splitSign_of_unsigned hsigns, hmagnitude, hexponent]
  constructor
  · rintro ⟨hne, hrest⟩
    exact ⟨_, _, hsplit.symm, hne, hwhole, hrest⟩
  · rintro ⟨whole, rest, htext, hne, hdigits, hrest⟩
    -- the digits in front end where the exponent starts
    have hend : rest.takeWhile Char.isDigit = [] ∧ rest.dropWhile Char.isDigit = rest := by
      rcases hrest with rfl | ⟨e, digits, rfl, rfl | rfl, -⟩
      · exact ⟨rfl, rfl⟩
      · exact ⟨rfl, rfl⟩
      · exact ⟨rfl, rfl⟩
    have hall := List.all_eq_true.mp hdigits
    rw [htext, List.takeWhile_append_of_pos hall, List.dropWhile_append_of_pos hall, hend.1, hend.2,
      List.append_nil]
    exact ⟨hne, hrest⟩

end Double
end SessionGate.Number
