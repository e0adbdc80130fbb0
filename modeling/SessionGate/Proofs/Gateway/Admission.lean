import SessionGate.Gateway.Registry
import SessionGate.Proofs.Program.History
import SessionGate.Proofs.Session.Token

/-! # Who is admitted

* `Admits`: the headers name a session, the resolver came to an owner of it, and the owner is fit for a
  header. All three are needed.
* `denial`: the one other answer. It tells a request without a session from one with a session, and
  nothing else.
* `route_decides`: whatever the surroundings answer, a request that is no health check is answered in
  one of these two ways.
-/
namespace SessionGate.Gateway
set_option autoImplicit false
open Session (Token LabelNames)
open Program (Step)

variable {keys : LabelNames} {headers : Headers} {token : Token} {steps : List (Step surroundings)}

/-! ## Sessions that headers name -/

namespace Headers

theorem toNat_ofNat_lt : ∀ n < 0x7f, (Char.ofNat n).toNat < 0x7f := by decide

theorem ascii_of_readable? {value : Utf8.Bytes} {text : String} (h : readable? value = some text)
    {c : Char} (hc : c ∈ text.toList) : c.toNat < 0x7f := by
  rw [readable?] at h
  split at h
  · next hvalue =>
    obtain rfl := Option.some.inj h
    rw [String.toList_ofList] at hc
    obtain ⟨b, hb, rfl⟩ := List.mem_map.mp hc
    have hreadable : isReadableByte b = true := List.all_eq_true.mp hvalue b hb
    have hlt : b.toNat < 0x7f := by
      rw [isReadableByte, Bool.or_eq_true, Bool.and_eq_true] at hreadable
      rcases hreadable with ⟨-, hb⟩ | hb
      · exact UInt8.lt_iff_toNat_lt.mp (of_decide_eq_true hb)
      · obtain rfl := beq_iff_eq.mp hb
        decide
    exact toNat_ofNat_lt b.toNat hlt
  · cases h

/-- The session of a request is a run of ASCII letters and digits. -/
theorem isAlphanum_of_session? (h : headers.session? = some token) {c : Char}
    (hc : c ∈ token.text.toList) : c.isAlphanum = true := by
  obtain ⟨url, hurl, hsub⟩ := Token.mem_of_inContext? h
  have hascii : c.toNat < 0x7f := by
    rcases hurl with hurl | hurl
    · obtain ⟨value, -, hread⟩ := Option.bind_eq_some_iff.mp hurl
      exact ascii_of_readable? hread (hsub c hc)
    · obtain ⟨value, -, hread⟩ := Option.bind_eq_some_iff.mp hurl
      exact ascii_of_readable? hread (hsub c hc)
  exact Token.isAlphanum_of_isIdChar (token.isIdChar_of_mem hc) (by omega)

end Headers

/-! ## Decisions -/

/-- What is decided on what the resolver came to. -/
def verdict (token : Token) : Except Cluster.Error (Option String) → Except Error Admission
  | .ok (some userid) => Admission.make token.text userid
  | .ok none => .error (.identityNotFound token.text)
  | .error e => .error (.cluster e)

theorem conclude_ends {resolved : Except Cluster.Error (Option String)} {r : Except Error Admission}
    (h : (conclude token resolved).Ends steps r) : steps = [] ∧ r = verdict token resolved := by
  rcases resolved with e | _ | userid
  · rw [conclude] at h
    dsimp only at h
    split at h
    · exact h
    · exact h
  · exact h
  · rw [conclude] at h
    rw [verdict]
    cases hmake : Admission.make token.text userid with
    | error e =>
      rw [hmake] at h
      exact h
    | ok admission =>
      rw [hmake] at h
      exact h

theorem decide_ends {r : Except Error Admission} (h : (decide keys headers).Ends steps r) :
    (headers.session? = none ∧ steps = [] ∧ r = .error .missingSession) ∨
      ∃ token resolved, headers.session? = some token ∧ (resolve keys token).Ends steps resolved ∧
        r = verdict token resolved := by
  rw [decide] at h
  cases hsession : headers.session? with
  | none =>
    rw [hsession] at h
    obtain ⟨rfl, rfl⟩ := h
    exact .inl ⟨rfl, rfl, rfl⟩
  | some token =>
    rw [hsession] at h
    obtain ⟨resolved, asked, told, rfl, hresolve, h⟩ := Program.ends_bind.mp h
    obtain ⟨rfl, rfl⟩ := conclude_ends h
    rw [List.append_nil]
    exact .inr ⟨token, resolved, rfl, hresolve, rfl⟩

/-! ## Answers -/

/-- The session has an owner who can be told. -/
structure Admits (keys : LabelNames) (headers : Headers) (steps : List (Step surroundings))
    (token : Token) (userid : String) : Prop where
  session : headers.session? = some token
  resolved : (resolve keys token).Ends steps (.ok (some userid))
  fit : ∀ b ∈ Utf8.encode userid, isValueByte b = true

/-- The answer to a request that is not admitted. -/
def denial (headers : Headers) : Response :=
  .text 403 (if headers.session?.isNone then "missing session id" else "userid not found")

theorem Admission.make_of_fit {session userid : String}
    (h : ∀ b ∈ Utf8.encode userid, isValueByte b = true) : make session userid = .ok ⟨session, userid⟩ := by
  rw [make, if_pos (List.all_eq_true.mpr h)]

theorem Admission.make_of_unfit {session userid : String}
    (h : ¬ ∀ b ∈ Utf8.encode userid, isValueByte b = true) :
    make session userid = .error (.invalidIdentity session) := by
  rw [make, if_neg fun hall => h (List.all_eq_true.mp hall)]

/-- The answer to a decision. -/
def answerTo : Except Error Admission → Response
  | .ok admission => .ofAdmission admission
  | .error e => .ofError e

theorem forwardAuth_ends {response : Response} (h : (forwardAuth keys headers).Ends steps response) :
    ∃ decided, (decide keys headers).Ends steps decided ∧ response = answerTo decided := by
  obtain ⟨decided, asked, told, rfl, hdecide, h⟩ := Program.ends_bind.mp h
  have htold : told = [] ∧ response = answerTo decided := by
    cases decided with
    | ok admission => exact h
    | error e => exact h
  refine ⟨decided, ?_, htold.2⟩
  rwa [htold.1, List.append_nil]

/-- One answer for an admission, one for everything else. -/
theorem forwardAuth_decides {response : Response} (h : (forwardAuth keys headers).Ends steps response) :
    (∃ token userid, Admits keys headers steps token userid ∧
        response = .ofAdmission ⟨token.text, userid⟩) ∨
      (¬ ∃ token userid, Admits keys headers steps token userid) ∧ response = denial headers := by
  obtain ⟨decided, hdecide, rfl⟩ := forwardAuth_ends h
  rcases decide_ends hdecide with ⟨hsession, rfl, rfl⟩ | ⟨token, resolved, hsession, hresolve, rfl⟩
  · right
    constructor
    · rintro ⟨token, userid, hadmits⟩
      cases hsession.symm.trans hadmits.session
    · rw [denial, hsession]
      rfl
  · have hdenial : denial headers = .text 403 "userid not found" := by
      rw [denial, hsession]
      rfl
    -- the resolver came to one result, so only its owner could be admitted
    have hother : (∀ userid, resolved = .ok (some userid) →
        ¬ ∀ b ∈ Utf8.encode userid, isValueByte b = true) →
        ¬ ∃ token userid, Admits keys headers steps token userid := by
      rintro hunfit ⟨token', userid, hadmits⟩
      obtain rfl := Option.some.inj (hsession.symm.trans hadmits.session)
      exact hunfit userid (hresolve.result_unique hadmits.resolved) hadmits.fit
    rcases resolved with e | _ | userid
    · exact .inr ⟨hother (by simp), hdenial.symm⟩
    · exact .inr ⟨hother (by simp), hdenial.symm⟩
    · by_cases hfit : ∀ b ∈ Utf8.encode userid, isValueByte b = true
      · left
        refine ⟨token, userid, ⟨hsession, hresolve, hfit⟩, ?_⟩
        rw [verdict, Admission.make_of_fit hfit]
        rfl
      · right
        refine ⟨hother ?_, ?_⟩
        · rintro other hsame
          obtain rfl := Option.some.inj (Except.ok.inj hsame)
          exact hfit
        · rw [verdict, Admission.make_of_unfit hfit, hdenial]
          rfl

/-- A decision on headers without a session asks nothing. -/
theorem forwardAuth_asks_nothing {response : Response}
    (h : (forwardAuth keys headers).Ends steps response) (hsession : headers.session? = none) :
    steps = [] := by
  obtain ⟨decided, hdecide, -⟩ := forwardAuth_ends h
  rcases decide_ends hdecide with ⟨-, hnil, -⟩ | ⟨token, resolved, htoken, -⟩
  · exact hnil
  · cases hsession.symm.trans htoken

/-! ## Requests -/

@[simp] theorem Response.forMethod_status (response : Response) (method : Method) :
    (response.forMethod method).status = response.status := by
  cases method with
  | head => rfl
  | other => rfl
  | connect =>
    rw [Response.forMethod]
    split <;> rfl

@[simp] theorem Response.forMethod_identity (response : Response) (method : Method) :
    (response.forMethod method).identity = response.identity := by
  cases method with
  | head => rfl
  | other => rfl
  | connect =>
    rw [Response.forMethod]
    split <;> rfl

theorem route_ends {request : Request} {response : Response}
    (h : (route keys request).Ends steps response)
    (halive : request.target.path ≠ Utf8.encode alivePath)
    (hready : request.target.path ≠ Utf8.encode readyPath) :
    ∃ decided, (forwardAuth keys request.headers).Ends steps decided ∧
      response = decided.forMethod request.method := by
  obtain ⟨decided, asked, told, rfl, hpath, rfl, rfl⟩ := Program.ends_bind.mp h
  rw [routePath, if_neg halive, if_neg hready] at hpath
  rw [List.append_nil]
  exact ⟨decided, hpath, rfl⟩

/-- Apart from the health checks a request is admitted, and told the owner byte for byte, or it is
denied in the one way of all that name a session, or in the one way of all that name none. -/
theorem route_decides {request : Request} {response : Response}
    (h : (route keys request).Ends steps response)
    (halive : request.target.path ≠ Utf8.encode alivePath)
    (hready : request.target.path ≠ Utf8.encode readyPath) :
    (response.status = 200 ↔ ∃ token userid, Admits keys request.headers steps token userid) ∧
      (∀ token userid, Admits keys request.headers steps token userid →
        response.identity = some (Utf8.encode userid) ∧
          (request.method = .other → response.body = .json (.object [("ok", .bool true),
            ("session", .string token.text), ("userid", .string userid)]))) ∧
      ((¬ ∃ token userid, Admits keys request.headers steps token userid) →
        response = (denial request.headers).forMethod request.method ∧
          response.status = 403 ∧ response.identity = none ∧
          (request.method = .other → response.body = .text
            (if request.headers.session?.isNone then "missing session id" else "userid not found"))) ∧
      (request.headers.session? = none → steps = []) ∧
      ∀ token, request.headers.session? = some token →
        token.text ≠ "" ∧ ∀ c ∈ token.text.toList, c.isAlphanum = true := by
  obtain ⟨decided, hdecided, rfl⟩ := route_ends h halive hready
  rw [Response.forMethod_status, Response.forMethod_identity]
  have htoken : ∀ token, request.headers.session? = some token →
      token.text ≠ "" ∧ ∀ c ∈ token.text.toList, c.isAlphanum = true := by
    intro token hsession
    exact ⟨token.text_ne_empty, fun c hc => Headers.isAlphanum_of_session? hsession hc⟩
  have hsilent := forwardAuth_asks_nothing hdecided
  rcases forwardAuth_decides hdecided with ⟨token, userid, hadmits, rfl⟩ | ⟨hdenied, rfl⟩
  · refine ⟨⟨fun _ => ⟨token, userid, hadmits⟩, fun _ => rfl⟩, ?_, ?_, hsilent, htoken⟩
    · intro token' userid' hadmits'
      obtain rfl := Option.some.inj (hadmits.session.symm.trans hadmits'.session)
      have hsame := hadmits.resolved.result_unique hadmits'.resolved
      obtain rfl := Option.some.inj (Except.ok.inj hsame)
      refine ⟨rfl, fun hmethod => ?_⟩
      rw [hmethod]
      rfl
    · intro hnone
      exact absurd ⟨token, userid, hadmits⟩ hnone
  · refine ⟨⟨fun hstatus => ?_, fun hadmits => absurd hadmits hdenied⟩, ?_, ?_, hsilent, htoken⟩
    · cases hstatus
    · intro token userid hadmits
      exact absurd ⟨token, userid, hadmits⟩ hdenied
    · intro _
      refine ⟨rfl, rfl, rfl, fun hmethod => ?_⟩
      rw [hmethod]
      rfl

def pageRequest : Request :=
  ⟨.other, ⟨Utf8.encode "/", []⟩,
    [(Utf8.encode Headers.referer, Utf8.encode "https://portal/session/carta/abc123/")]⟩

/-- The Service of the session names its owner. -/
def ownedRegistry : Registry :=
  { Registry.make .default with
    services := [[(LabelNames.default.session, "abc123"), (LabelNames.default.user, "alice")]] }

/-- The owner of a session is told where the Service names one. -/
theorem route_decides_owned : ∃ steps,
    (route .default pageRequest).Ends steps (Registry.run (route .default pageRequest) ownedRegistry).1 ∧
      ∃ token userid, Admits .default pageRequest.headers steps token userid := by
  have hends := Program.ends_run Registry.note Registry.answer (route .default pageRequest) ownedRegistry
  have hstatus : (Registry.run (route .default pageRequest) ownedRegistry).1.status = 200 := by
    decide +kernel
  exact ⟨_, hends, (route_decides hends (by decide +kernel) (by decide +kernel)).1.mp hstatus⟩

end SessionGate.Gateway
