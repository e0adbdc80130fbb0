import SessionGate.Proofs.Gateway.Admission

/-! # What a decision reads of a request

Two values count, the first one of the referring page and the first one of the forwarded address.

* `sessionInUtf8?`: the session that the two values name if each is read as UTF-8.
* `session?_inUtf8_iff`: the gateway reads visible ASCII alone. It comes to that session unless the value
  that names it has other characters.
* `route_indifferent`: requests that agree on the two values are decided in the same way.
-/
namespace SessionGate.Gateway
set_option autoImplicit false
open Session (Token LabelNames)
open Utf8 (Bytes)

/-! ## The values that are read -/

namespace Headers

variable {fields : List (Bytes × Bytes)} {headers : Headers} {name text : String} {value : Bytes}

/-- The value of the first field of a name, in whatever case the field writes it. -/
def firstField? (fields : List (Bytes × Bytes)) (name : String) : Option Bytes :=
  (fields.find? fun field => field.1.map lowerByte == Utf8.encode name).map (·.2)

/-- The session that the first value of a name carries, if the value is UTF-8. -/
def sessionOf? (fields : List (Bytes × Bytes)) (name : String) : Option Token :=
  ((firstField? fields name).bind Utf8.decode?).bind Token.inUrl?

/-- The referring page decides when it carries a session path, else the forwarded address does; both are
read as UTF-8. -/
def sessionInUtf8? (fields : List (Bytes × Bytes)) : Option Token :=
  (sessionOf? fields referer).or (sessionOf? fields forwardedUri)

/-- The first value of a name has visible ASCII characters, blanks and tabs alone. -/
def isVisible (fields : List (Bytes × Bytes)) (name : String) : Bool :=
  (firstField? fields name).any (·.all isReadableByte)

theorem lookup_lowered (fields : List (Bytes × Bytes)) (name : String) :
    List.lookup (Utf8.encode name) (fields.map fun (name, value) => (name.map lowerByte, value)) =
      firstField? fields name := by
  induction fields with
  | nil => rfl
  | cons field fields ih =>
    rw [firstField?, List.map_cons, List.lookup_cons, List.find?_cons, BEq.comm]
    cases hname : field.1.map lowerByte == Utf8.encode name with
    | true => rfl
    | false => exact ih

theorem first?_of_fields (h : ofFields? fields = some headers) :
    headers.first? name = firstField? fields name := by
  rw [ofFields?] at h
  split at h
  · obtain rfl := Option.some.inj h
    exact lookup_lowered fields name
  · cases h

theorem toNat_lt_of_isReadableByte {b : UInt8} (h : isReadableByte b = true) : b.toNat < 0x80 := by
  rw [isReadableByte, Bool.or_eq_true, Bool.and_eq_true] at h
  rcases h with ⟨-, hb⟩ | hb
  · have hlt : b.toNat < 0x7f := UInt8.lt_iff_toNat_lt.mp (of_decide_eq_true hb)
    omega
  · obtain rfl := beq_iff_eq.mp hb
    decide

/-- A value that is read is read as UTF-8. -/
theorem readable?_eq (value : Bytes) :
    readable? value = if value.all isReadableByte then Utf8.decode? value else none := by
  rw [readable?]
  split
  · next hvalue =>
    refine (Utf8.decode?_of_ascii fun b hb => ?_).symm
    exact toNat_lt_of_isReadableByte (List.all_eq_true.mp hvalue b hb)
  · rfl

/-- Of the two sessions that UTF-8 would name, the one in a value that is not visible is not seen. -/
theorem bind_text?_of_fields (h : ofFields? fields = some headers) : (headers.text? name).bind Token.inUrl? =
    if isVisible fields name then sessionOf? fields name else none := by
  rw [text?, first?_of_fields h, isVisible, sessionOf?]
  cases hfirst : firstField? fields name with
  | none => rfl
  | some value =>
    rw [Option.bind_some, Option.bind_some, Option.any_some, readable?_eq]
    split <;> rfl

/-- A session is read out of visible values alone. It is the one that the two values name in UTF-8 exactly
when the value that names it is visible, or when the forwarded address, itself visible, names the session
of a referring page that is not. -/
theorem session?_inUtf8_iff (h : ofFields? fields = some headers) :
    headers.session? = (if isVisible fields referer then sessionOf? fields referer else none).or
        (if isVisible fields forwardedUri then sessionOf? fields forwardedUri else none) ∧
      (headers.session? = sessionInUtf8? fields ↔
        (∀ token, sessionOf? fields referer = some token → isVisible fields referer = true ∨
            isVisible fields forwardedUri = true ∧ sessionOf? fields forwardedUri = some token) ∧
          (sessionOf? fields referer = none → ∀ token, sessionOf? fields forwardedUri = some token →
            isVisible fields forwardedUri = true)) := by
  have hsession : headers.session? =
      (if isVisible fields referer then sessionOf? fields referer else none).or
        (if isVisible fields forwardedUri then sessionOf? fields forwardedUri else none) := by
    rw [session?, Token.inContext?, bind_text?_of_fields h, bind_text?_of_fields h]
  refine ⟨hsession, ?_⟩
  rw [hsession, sessionInUtf8?]
  cases hreferer : sessionOf? fields referer with
  | none =>
    rw [ite_self, Option.none_or, Option.none_or]
    cases sessionOf? fields forwardedUri with
    | none => simp
    | some token => simp
  | some token =>
    rw [Option.some_or]
    cases isVisible fields referer with
    | true => simp
    | false => simp

/-- Of two referring pages the first one counts, in whatever case the name is written. -/
def repeatedFields : List (Bytes × Bytes) :=
  [(Utf8.encode "X-Forwarded-Uri", Utf8.encode "/session/carta/second2/"),
    (Utf8.encode "REFERER", Utf8.encode "https://host/session/carta/first1/"),
    (Utf8.encode "Referer", Utf8.encode "https://host/session/carta/third3/caf\u00e9")]

theorem session?_inUtf8_iff_repeated : ∃ headers, ofFields? repeatedFields = some headers ∧
    headers.session? = sessionInUtf8? repeatedFields := by
  have hfields : ofFields? repeatedFields =
      some (repeatedFields.map fun (name, value) => (name.map lowerByte, value)) := by decide +kernel
  have hvisible : isVisible repeatedFields referer = true := by decide +kernel
  have hnames : (sessionOf? repeatedFields referer).isSome = true := by decide +kernel
  refine ⟨_, hfields, (session?_inUtf8_iff hfields).2.mpr ⟨fun _ _ => .inl hvisible, fun hnone => ?_⟩⟩
  rw [hnone] at hnames
  cases hnames

/-- The address of the referring page has an accent. -/
def accentedFields : List (Bytes × Bytes) :=
  [(Utf8.encode "Referer", Utf8.encode "https://host/session/carta/first1/caf\u00e9"),
    (Utf8.encode "X-Forwarded-Uri", Utf8.encode "/session/carta/second2/")]

/-- A referring page that is UTF-8 and carries a session path does not decide. -/
theorem accented_referer_is_passed_over : ∃ headers, ofFields? accentedFields = some headers ∧
    headers.session?.map (·.text) = some "second2" ∧
    (sessionOf? accentedFields referer).map (·.text) = some "first1" ∧
    ¬ ∀ fields headers, ofFields? fields = some headers → headers.session? = sessionInUtf8? fields := by
  have hfields : ofFields? accentedFields =
      some (accentedFields.map fun (name, value) => (name.map lowerByte, value)) := by decide +kernel
  have hsession : (session? (accentedFields.map fun (name, value) => (name.map lowerByte, value))).map
      (·.text) = some "second2" := by decide +kernel
  have hutf8 : (sessionInUtf8? accentedFields).map (·.text) = some "first1" := by decide +kernel
  refine ⟨_, hfields, hsession, by decide +kernel, fun h => ?_⟩
  rw [h _ _ hfields, hutf8] at hsession
  exact absurd hsession (by decide)

end Headers

/-! ## The rest of a request -/

variable {keys : LabelNames} {headers headers' : Headers}

theorem Headers.text?_congr {name : String} (h : headers.first? name = headers'.first? name) :
    headers.text? name = headers'.text? name := by
  rw [text?, text?, h]

/-- Headers with the same two first values are decided in the same way. -/
theorem forwardAuth_congr (hreferer : headers.first? Headers.referer = headers'.first? Headers.referer)
    (hforwarded : headers.first? Headers.forwardedUri = headers'.first? Headers.forwardedUri) :
    forwardAuth keys headers = forwardAuth keys headers' := by
  have hsession : headers.session? = headers'.session? := by
    rw [Headers.session?, Headers.session?, Headers.text?_congr hreferer, Headers.text?_congr hforwarded]
  rw [forwardAuth, forwardAuth, decide, decide, hsession, Headers.text?_congr hreferer,
    Headers.text?_congr hforwarded]

/-- Apart from the health checks, and where the answer has a body, a request is its headers. -/
theorem route_of_other {request : Request} (hmethod : request.method = .other)
    (halive : request.target.path ≠ Utf8.encode alivePath)
    (hready : request.target.path ≠ Utf8.encode readyPath) :
    route keys request = forwardAuth keys request.headers := by
  rw [route, routePath, if_neg halive, if_neg hready, hmethod]
  exact Program.bind_done _

/-- Two requests that agree on the first value of the referring page and on that of the forwarded address
ask the same, write the same and are answered in the same way, whatever else is in them and whatever the
surroundings answer. -/
theorem route_indifferent {first second : Request}
    (hmethods : first.method = .other ∧ second.method = .other)
    (hpaths : ∀ path ∈ [first.target.path, second.target.path],
      path ≠ Utf8.encode alivePath ∧ path ≠ Utf8.encode readyPath)
    (hreferer : first.headers.first? Headers.referer = second.headers.first? Headers.referer)
    (hforwarded : first.headers.first? Headers.forwardedUri = second.headers.first? Headers.forwardedUri) :
    (∀ steps response, (route keys first).Ends steps response ↔ (route keys second).Ends steps response) ∧
      ∀ {σ : Type} (note : Log.Event → σ → σ) (answer : (q : Question) → σ → q.Answer × σ) (s : σ),
        (route keys first).run note answer s = (route keys second).run note answer s := by
  obtain ⟨hfirst, hsecond⟩ := List.forall_mem_cons.mp hpaths
  obtain ⟨halive, hready⟩ := List.forall_mem_singleton.mp hsecond
  have hroute : route keys first = route keys second := by
    rw [route_of_other hmethods.1 hfirst.1 hfirst.2, route_of_other hmethods.2 halive hready]
    exact forwardAuth_congr hreferer hforwarded
  rw [hroute]
  exact ⟨fun _ _ => Iff.rfl, fun _ _ _ => rfl⟩

/-- The request of `pageRequest` with another path, and with headers of a client that would like to be
somebody else. -/
def crowdedRequest : Request :=
  ⟨.other, ⟨Utf8.encode "/session/carta/zz9", Utf8.encode "userid=mallory"⟩,
    (Utf8.encode "carta-auth-token", Utf8.encode "mallory") :: pageRequest.headers ++
      [(Utf8.encode Headers.referer, Utf8.encode "https://portal/session/carta/zz9/"),
        (Utf8.encode "cookie", Utf8.encode "userid=mallory")]⟩

theorem route_indifferent_crowded : Registry.run (route .default pageRequest) ownedRegistry =
    Registry.run (route .default crowdedRequest) ownedRegistry :=
  (route_indifferent ⟨rfl, rfl⟩ (by decide +kernel) (by decide +kernel) (by decide +kernel)).2
    Registry.note Registry.answer ownedRegistry

end SessionGate.Gateway
