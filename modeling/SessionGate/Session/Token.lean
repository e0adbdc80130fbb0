/-!
# Session tokens

A token is the id of a session, a non-empty run of id characters.

- `Token.parse?` accepts a text that is a token as a whole.
- `Token.inUrl?` finds the first session path in a URL and takes the whole id behind it.
- `Token.inContext?` looks into a referring page first, then into the forwarded address.
-/
namespace SessionGate.Session
set_option autoImplicit false

/-! ## Characters -/

/-- Letters are compared without their case: beside the ASCII letters, the long s folds to `s` and
the Kelvin sign to `k`. -/
def isIdChar (c : Char) : Bool :=
  c.isAlphanum || c == '\u017f' || c == '\u212a'

/-- Whether a character is `letter` up to its case; `letter` is not an upper-case one. -/
def foldsTo (letter c : Char) : Bool :=
  c == letter || c.toLower == letter || (letter == 's' && c == '\u017f')
    || (letter == 'k' && c == '\u212a')

/-! ## Tokens -/

/-- Whether a text is a non-empty run of id characters. -/
def isId (text : List Char) : Bool := !text.isEmpty && text.all isIdChar

/-- The id of a session. -/
structure Token where
  text : String
  valid : isId text.toList = true
deriving DecidableEq

namespace Token

def parse? (raw : String) : Option Token :=
  if h : isId raw.toList = true then some ⟨raw, h⟩ else none

/-- The path in front of a session's id. -/
def pathLetters : List Char := "/session/carta/".toList

/-- The rest behind a path, letters compared without their case. -/
def afterPath? : (path text : List Char) → Option (List Char)
  | [], text => some text
  | _ :: _, [] => none
  | p :: path, c :: text => if foldsTo p c then afterPath? path text else none

/-- The id at the very start of a text: the path, then the longest run of id characters. -/
def idHere? (text : List Char) : Option (List Char) :=
  match afterPath? pathLetters text with
  | some rest =>
    let id := rest.takeWhile isIdChar
    if id.isEmpty then none else some id
  | none => none

/-- The id of the leftmost session path that has one. -/
def findId? : List Char → Option (List Char)
  | [] => none
  | c :: rest =>
    match idHere? (c :: rest) with
    | some id => some id
    | none => findId? rest

theorem isId_of_idHere? {text id : List Char} (h : idHere? text = some id) : isId id = true := by
  unfold idHere? at h
  split at h
  · next rest _ =>
    by_cases he : (rest.takeWhile isIdChar).isEmpty
    · simp [he] at h
    · simp only [he] at h
      obtain rfl := Option.some.inj h
      simp only [isId, Bool.and_eq_true, List.all_eq_true]
      refine ⟨by simp [he], fun c hc => ?_⟩
      have := List.all_takeWhile (p := isIdChar) (l := rest)
      exact List.all_eq_true.1 this c hc
  · cases h

theorem isId_of_findId? {text id : List Char} (h : findId? text = some id) : isId id = true := by
  induction text with
  | nil => cases h
  | cons c rest ih =>
    unfold findId? at h
    split at h
    · next id' h' => exact Option.some.inj h ▸ isId_of_idHere? h'
    · exact ih h

/-- The token of the first session path in a URL that is followed by an id. -/
def inUrl? (url : String) : Option Token :=
  match h : findId? url.toList with
  | some id => some ⟨String.ofList id, by simpa using isId_of_findId? h⟩
  | none => none

/-- The referring page decides when it carries a session path, else the forwarded address does. -/
def inContext? (referer forwarded : Option String) : Option Token :=
  (referer.bind inUrl?).or (forwarded.bind inUrl?)

end Token

/-! ## Names derived from a session -/

/-- Name of the route that the platform creates for a session. -/
def ingressName (session : String) : String := "skaha-carta-ingress-" ++ session

/-- Path of a session in the match expression of its route. -/
def publicPath (session : String) : String := "/session/carta/" ++ session

/-- Namespace of the session workloads. -/
def defaultNamespace : String := "skaha-workload"

end SessionGate.Session
