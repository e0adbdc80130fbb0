import Mathlib.Data.List.Forall2
import SessionGate.Gateway.ClusterQuery
import SessionGate.Proofs.Gateway.Admission
import SessionGate.Proofs.Program.Told

/-! # What the gateway reports

* `outcomeNames`: the events that decisions end with. Everything else that is reported on the way to a decision is
  minor (`resolve_reports`, `isMinor_of_queryReports`), and no error.
* `decide_tells`: what a decision reports is what the resolver reports and then one conclusion.
* `Exchange.Accounts`: an event says what came of a request. `Exchange.log_of_decision` has the event for each
  request that is decided, and `Exchange.outcomes_of_served` those of a whole history, in order.
* `exists_exchange`: what is served at a station is such an exchange.
-/
namespace SessionGate.Gateway
set_option autoImplicit false
open Program (Aside Step silent tells_ask_bind tells_bind tells_report)
open Session (Token ObjectKind LabelNames)

variable {keys : LabelNames} {headers : Headers} {token : Token}
  {steps : List (Step surroundings)} {log : List Log.Event} {aside : Aside surroundings}

/-! ## Events on the way to a decision -/

/-- The names of the events that decisions end with. -/
def outcomeNames : List String :=
  ["missing_session", "userid_not_found", "cluster_query_failed", "lookup_failed", "forward_auth_ok"]

def isOutcome (event : Log.Event) : Bool := outcomeNames.contains event.name

/-- Neither the end of a decision nor an error. -/
def IsMinor (event : Log.Event) : Prop := isOutcome event = false ∧ event.level ≠ .error

theorem callWithin_reports {α : Type} (P : Log.Event → Prop) (limit : Duration) (operation : String)
    (request : Option Cluster.Request) (read : String → Except Cluster.RequestError α) :
    (Cluster.Client.callWithin limit operation request read).Reports P := by
  cases request with
  | none => exact .done _
  | some request =>
    rw [Cluster.Client.callWithin]
    refine Program.reports_ask_bind fun answer => ?_
    cases answer with
    | none => exact .done _
    | some reply =>
      dsimp only
      cases reply.read read with
      | ok a => exact .done _
      | error e => exact .done _

theorem labelsFor_reports (settings : QuerySettings) (kind : ObjectKind) (selector : String) :
    (labelsFor settings kind selector).Reports IsMinor := by
  rw [labelsFor, Cluster.Client.listWithin]
  refine Program.Reports.bind (callWithin_reports _ _ _ _ _) fun found => ?_
  cases found with
  | error e => exact .done _
  | ok objects => exact .note ⟨rfl, nofun⟩ (.done _)

theorem probe_reports (settings : QuerySettings) : (probe settings).Reports IsMinor := by
  rw [probe, Cluster.Client.version]
  refine Program.Reports.bind (callWithin_reports _ _ _ _ _) fun answer => ?_
  cases answer with
  | error e => exact .done _
  | ok version => exact .done _

/-- What is reported while the cluster is asked, whatever it answers. The cache reports nothing. -/
def queryReports : Aside surroundings
  | .cached _, _, told => told = []
  | .remember .., _, told => told = []
  | .labels .., _, told => ∀ event ∈ told, IsMinor event
  | .probe, _, told => ∀ event ∈ told, IsMinor event

theorem isMinor_of_queryReports (q : Question) (answer : q.Answer) (told : List Log.Event)
    (h : queryReports q answer told) : ∀ event ∈ told, IsMinor event := by
  cases q with
  | cached token =>
    obtain rfl : told = [] := h
    exact List.forall_mem_nil _
  | remember token userid =>
    obtain rfl : told = [] := h
    exact List.forall_mem_nil _
  | labels kind selector => exact h
  | probe => exact h

theorem lookupIn_reports (kinds : List ObjectKind) : (lookupIn keys token kinds).Reports IsMinor := by
  induction kinds with
  | nil => exact .done _
  | cons kind kinds ih =>
    rw [lookupIn]
    refine Program.reports_ask_bind fun answer => ?_
    rcases answer with e | _ | labels
    · exact .done _
    · exact ih
    · dsimp only
      cases owner? keys labels with
      | some userid => exact .note ⟨rfl, nofun⟩ (.done _)
      | none => exact .note ⟨rfl, nofun⟩ ih

theorem resolve_reports : (resolve keys token).Reports IsMinor := by
  rw [resolve]
  refine Program.reports_ask_bind fun cached => ?_
  cases cached with
  | some userid => exact .note ⟨rfl, nofun⟩ (.done _)
  | none =>
    refine Program.Reports.bind (lookupIn_reports _) fun found => ?_
    rcases found with e | _ | userid
    · exact .done _
    · exact .done _
    · exact Program.reports_ask_bind fun _ => .done _

theorem ready_reports : ready.Reports IsMinor := by
  rw [ready]
  refine Program.reports_ask_bind fun answer => ?_
  cases answer with
  | error e => exact .note ⟨rfl, nofun⟩ (.done _)
  | ok _ => exact .done _

/-! ## Ends of decisions -/

def missingSession (headers : Headers) : Log.Event :=
  .warn "missing_session" [("referer", .text ((headers.text? Headers.referer).getD "")),
    ("x_forwarded_uri", .text ((headers.text? Headers.forwardedUri).getD ""))]

/-- The event that follows on what the resolver came to. -/
def conclusion (token : Token) : Except Cluster.Error (Option String) → Log.Event
  | .ok (some userid) =>
    match Admission.make token.text userid with
    | .error e => .warn "userid_not_found" [("session", .shown token.text), ("error", .shown e.message)]
    | .ok admission => .info "forward_auth_ok" [("session", .shown token.text), ("userid", .shown admission.userid)]
  | .ok none => .warn "userid_not_found" [("session", .shown token.text)]
  | .error e =>
    if e.isUnavailable then
      .error "cluster_query_failed" [("session", .shown token.text), ("error", .shown e.message)]
    else .warn "lookup_failed" [("session", .shown token.text), ("error", .shown e.message)]

theorem conclude_tells {resolved : Except Cluster.Error (Option String)} {r : Except Error Admission}
    (h : (conclude token resolved).Tells aside steps log r) :
    steps = [] ∧ log = [conclusion token resolved] ∧ r = verdict token resolved := by
  rcases resolved with e | _ | userid
  · rw [conclude] at h
    rw [conclusion]
    dsimp only at h
    split at h
    · next hunavailable =>
      rw [if_pos hunavailable]
      exact tells_report.mp h
    · next hother =>
      rw [if_neg hother]
      exact tells_report.mp h
  · exact tells_report.mp h
  · rw [conclude] at h
    rw [conclusion, verdict]
    cases hmake : Admission.make token.text userid with
    | error e =>
      rw [hmake] at h
      exact tells_report.mp h
    | ok admission =>
      rw [hmake] at h
      exact tells_report.mp h

theorem decide_tells {r : Except Error Admission} (h : (decide keys headers).Tells aside steps log r) :
    (headers.session? = none ∧ steps = [] ∧ log = [missingSession headers] ∧ r = .error .missingSession) ∨
      ∃ token resolved early, headers.session? = some token ∧ log = early ++ [conclusion token resolved] ∧
        (resolve keys token).Tells aside steps early resolved ∧ r = verdict token resolved := by
  rw [decide] at h
  cases hsession : headers.session? with
  | none =>
    rw [hsession] at h
    obtain ⟨rfl, rfl, rfl⟩ := tells_report.mp h
    exact .inl ⟨rfl, rfl, rfl, rfl⟩
  | some token =>
    rw [hsession] at h
    obtain ⟨resolved, asked, none, early, late, rfl, rfl, hresolve, h⟩ := tells_bind.mp h
    obtain ⟨rfl, rfl, rfl⟩ := conclude_tells h
    rw [List.append_nil]
    exact .inr ⟨token, resolved, early, rfl, rfl, hresolve, rfl⟩

theorem forwardAuth_tells {response : Response} (h : (forwardAuth keys headers).Tells aside steps log response) :
    ∃ decided, (decide keys headers).Tells aside steps log decided ∧ response = answerTo decided := by
  obtain ⟨decided, asked, none, early, late, rfl, rfl, hdecide, h⟩ := tells_bind.mp h
  have hlate : none = [] ∧ late = [] ∧ response = answerTo decided := by
    cases decided with
    | ok admission => exact Program.tells_done.mp h
    | error e => exact Program.tells_done.mp h
  obtain ⟨rfl, rfl, rfl⟩ := hlate
  rw [List.append_nil, List.append_nil]
  exact ⟨decided, hdecide, rfl⟩

/-! ## Requests that are served -/

/-- A request that was served: what was asked and answered, what was reported, and the answer. -/
structure Exchange where
  request : Request
  steps : List (Step surroundings)
  log : List Log.Event
  response : Response

namespace Exchange

variable {x : Exchange} {history : List Exchange}

def IsServed (keys : LabelNames) (x : Exchange) : Prop :=
  (route keys x.request).Tells queryReports x.steps x.log x.response

/-- The request is no health check. -/
def decides (x : Exchange) : Bool :=
  x.request.target.path != Utf8.encode alivePath && x.request.target.path != Utf8.encode readyPath

/-- What the resolver came to. -/
def Resolves (keys : LabelNames) (x : Exchange) (result : Except Cluster.Error (Option String)) : Prop :=
  ∃ token, x.request.headers.session? = some token ∧ (resolve keys token).Ends x.steps result

/-- The cache had the owner. -/
def Hits (x : Exchange) : Prop := ∃ token userid rest, x.steps = ⟨.cached token, some userid⟩ :: rest

/-- The owner can stand in a header. -/
def IsFit (userid : String) : Prop := ∀ b ∈ Utf8.encode userid, isValueByte b = true

/-- The event says what came of the request. -/
structure Accounts (keys : LabelNames) (x : Exchange) (event : Log.Event) : Prop where
  admitted : event.name = "forward_auth_ok" ↔ x.response.status = 200
  missing : event.name = "missing_session" ↔ x.request.headers.session? = none
  unavailable : event.name = "cluster_query_failed" ↔ ∃ e, x.Resolves keys (.error e) ∧
    ((∃ cause, e = .request cause) ∨ ∃ operation limit, e = .timeout operation limit)
  failed : event.name = "lookup_failed" ↔ ∃ e, x.Resolves keys (.error e) ∧
    ¬ ((∃ cause, e = .request cause) ∨ ∃ operation limit, e = .timeout operation limit)
  unknown : event.name = "userid_not_found" ↔ x.Resolves keys (.ok none) ∨
    ∃ userid, x.Resolves keys (.ok (some userid)) ∧ ¬ IsFit userid
  severe : event.level = .error ↔ event.name = "cluster_query_failed"

theorem isUnavailable_iff {e : Cluster.Error} : e.isUnavailable = true ↔
    (∃ cause, e = .request cause) ∨ ∃ operation limit, e = .timeout operation limit := by
  cases e <;> simp [Cluster.Error.isUnavailable]

theorem answerTo_status {decided : Except Error Admission} :
    (answerTo decided).status = 200 ↔ ∃ admission, decided = .ok admission := by
  rcases decided with e | admission
  · cases e <;> simp [answerTo, Response.ofError, Response.text]
  · simp [answerTo, Response.ofAdmission, Response.json]

theorem accounts_missing (hsession : x.request.headers.session? = none) (hstatus : x.response.status ≠ 200) :
    x.Accounts keys (missingSession x.request.headers) := by
  have hresolves : ∀ result, ¬ x.Resolves keys result := by
    rintro result ⟨token, htoken, -⟩
    cases hsession.symm.trans htoken
  constructor <;> simp [missingSession, Log.Event.warn, hsession, hstatus, hresolves]

theorem resolves_iff {resolved result : Except Cluster.Error (Option String)}
    (hsession : x.request.headers.session? = some token) (hends : (resolve keys token).Ends x.steps resolved) :
    x.Resolves keys result ↔ result = resolved := by
  constructor
  · rintro ⟨other, hother, hresult⟩
    obtain rfl := Option.some.inj (hsession.symm.trans hother)
    exact hresult.result_unique hends
  · rintro rfl
    exact ⟨token, hsession, hends⟩

theorem accounts_conclusion {resolved : Except Cluster.Error (Option String)}
    (hsession : x.request.headers.session? = some token) (hends : (resolve keys token).Ends x.steps resolved)
    (hstatus : x.response.status = 200 ↔ ∃ admission, verdict token resolved = .ok admission) :
    x.Accounts keys (conclusion token resolved) := by
  have hresolves (result : Except Cluster.Error (Option String)) : x.Resolves keys result ↔ result = resolved :=
    resolves_iff hsession hends
  rcases resolved with e | _ | userid
  · by_cases hunavailable : e.isUnavailable = true
    · rw [conclusion, if_pos hunavailable]
      constructor <;>
        simp [Log.Event.error, hsession, hstatus, hresolves, verdict, ← isUnavailable_iff, hunavailable]
    · rw [conclusion, if_neg hunavailable]
      constructor <;>
        simp [Log.Event.warn, hsession, hstatus, hresolves, verdict, ← isUnavailable_iff, hunavailable]
  · constructor <;> simp [conclusion, Log.Event.warn, hsession, hstatus, hresolves, verdict]
  · by_cases hfit : IsFit userid
    · rw [conclusion, Admission.make_of_fit hfit]
      constructor <;>
        simp [Log.Event.info, hsession, hstatus, hresolves, verdict, Admission.make_of_fit hfit, hfit]
    · rw [conclusion, Admission.make_of_unfit hfit]
      constructor <;>
        simp [Log.Event.warn, hsession, hstatus, hresolves, verdict, Admission.make_of_unfit hfit, hfit]

/-! ## Logs of requests -/

theorem filter_of_minor (h : ∀ event ∈ log, IsMinor event) : log.filter isOutcome = [] := by
  refine List.filter_eq_nil_iff.mpr fun event hevent => ?_
  rw [(h event hevent).1]
  exact Bool.false_ne_true

theorem isOutcome_conclusion (token : Token) (resolved : Except Cluster.Error (Option String)) :
    isOutcome (conclusion token resolved) = true := by
  rcases resolved with e | _ | userid
  · rw [conclusion]
    split <;> rfl
  · rfl
  · rw [conclusion]
    split <;> rfl

theorem routePath_tells (h : x.IsServed keys) : ∃ response,
    (routePath keys x.request).Tells queryReports x.steps x.log response ∧
      x.response = response.forMethod x.request.method := by
  obtain ⟨response, asked, none, early, late, hsteps, hlog, hpath, hdone⟩ := tells_bind.mp h
  obtain ⟨rfl, rfl, hresponse⟩ := Program.tells_done.mp hdone
  rw [List.append_nil] at hsteps hlog
  rw [hsteps, hlog]
  exact ⟨response, hpath, hresponse⟩

theorem log_of_health (h : x.IsServed keys) (hdecides : x.decides = false) :
    ∀ event ∈ x.log, IsMinor event := by
  have hpath : (routePath keys x.request).Reports IsMinor := by
    rw [routePath]
    split
    · exact .done _
    · next halive =>
      split
      · exact ready_reports
      · next hready => simp [decides, halive, hready] at hdecides
  have hroute : (route keys x.request).Reports IsMinor := Program.Reports.bind hpath fun _ => .done _
  exact Program.Tells.forall h hroute isMinor_of_queryReports

theorem decision_of_served (h : x.IsServed keys) (hdecides : x.decides = true) : ∃ decided,
    (decide keys x.request.headers).Tells queryReports x.steps x.log decided ∧
      x.response = (answerTo decided).forMethod x.request.method := by
  obtain ⟨halive, hready⟩ := Bool.and_eq_true_iff.mp hdecides
  obtain ⟨response, hpath, hresponse⟩ := routePath_tells h
  rw [routePath, if_neg (bne_iff_ne.mp halive), if_neg (bne_iff_ne.mp hready)] at hpath
  obtain ⟨decided, hdecided, rfl⟩ := forwardAuth_tells hpath
  exact ⟨decided, hdecided, hresponse⟩

/-- A decision ends with its outcome, and nothing in front of that is one. -/
theorem log_of_decision (h : x.IsServed keys) (hdecides : x.decides = true) :
    ∃ early event, x.log = early ++ [event] ∧ (∀ other ∈ early, IsMinor other) ∧ isOutcome event = true ∧
      x.Accounts keys event := by
  obtain ⟨decided, hdecided, hresponse⟩ := decision_of_served h hdecides
  have hstatus : x.response.status = 200 ↔ ∃ admission, decided = .ok admission := by
    rw [hresponse, Response.forMethod_status, answerTo_status]
  rcases decide_tells hdecided with ⟨hsession, -, hlog, rfl⟩ |
    ⟨token, resolved, early, hsession, hlog, hresolve, rfl⟩
  · refine ⟨[], _, hlog, List.forall_mem_nil _, rfl, accounts_missing hsession ?_⟩
    rw [ne_eq, hstatus]
    rintro ⟨admission, ⟨⟩⟩
  · exact ⟨early, _, hlog, Program.Tells.forall hresolve resolve_reports isMinor_of_queryReports,
      isOutcome_conclusion token resolved, accounts_conclusion hsession hresolve.ends hstatus⟩

theorem decides_of_hit (h : x.IsServed keys) (hhits : x.Hits) : x.decides = true := by
  obtain ⟨token, userid, rest, hsteps⟩ := hhits
  obtain ⟨response, hpath, -⟩ := routePath_tells h
  rw [decides, Bool.and_eq_true_iff, bne_iff_ne, bne_iff_ne]
  constructor
  · intro halive
    rw [routePath, if_pos halive] at hpath
    obtain ⟨hnil, -⟩ := Program.tells_done.mp hpath
    rw [hnil] at hsteps
    cases hsteps
  · intro hready
    have halive : x.request.target.path ≠ Utf8.encode alivePath := by
      rw [hready]
      decide +kernel
    rw [routePath, if_neg halive, if_pos hready, ready] at hpath
    obtain ⟨answer, told, asked, later, hprobe, -⟩ := tells_ask_bind.mp hpath
    rw [hprobe] at hsteps
    cases hsteps

/-- A request that the cache answers reports the hit and its outcome, and nothing else. -/
theorem log_of_hit (h : x.IsServed keys) (hhits : x.Hits) : ∃ session userid event,
    x.log = [.debug "cache_hit" [("session", session), ("userid", userid)], event] ∧ isOutcome event = true := by
  obtain ⟨decided, hdecided, -⟩ := decision_of_served h (decides_of_hit h hhits)
  obtain ⟨other, userid, rest, hsteps⟩ := hhits
  rcases decide_tells hdecided with ⟨-, hnil, -, -⟩ | ⟨token, resolved, early, -, hlog, hresolve, -⟩
  · rw [hnil] at hsteps
    cases hsteps
  · rw [resolve] at hresolve
    obtain ⟨cached, told, asked, later, hcached, rfl, htold, hresolve⟩ := tells_ask_bind.mp hresolve
    obtain rfl : told = [] := htold
    obtain ⟨hstep, -⟩ := List.cons.inj (hcached.symm.trans hsteps)
    obtain ⟨hquery, hanswer⟩ := Sigma.mk.inj hstep
    obtain rfl := Question.cached.inj hquery
    obtain rfl := eq_of_heq hanswer
    obtain ⟨-, rfl, -⟩ := tells_report.mp hresolve
    exact ⟨_, _, _, hlog, isOutcome_conclusion token resolved⟩

theorem severe_of_served (h : x.IsServed keys) :
    ∀ event ∈ x.log, event.level = .error → event.name = "cluster_query_failed" := by
  intro event hevent hlevel
  cases hdecides : x.decides with
  | false => exact absurd hlevel (log_of_health h hdecides event hevent).2
  | true =>
    obtain ⟨early, outcome, hlog, hearly, -, haccounts⟩ := log_of_decision h hdecides
    rw [hlog, List.mem_append, List.mem_singleton] at hevent
    rcases hevent with hevent | rfl
    · exact absurd hlevel (hearly event hevent).2
    · exact haccounts.severe.mp hlevel

theorem outcomes_of_served (h : ∀ x ∈ history, x.IsServed keys) :
    List.Forall₂ (Accounts keys) (history.filter (·.decides)) ((history.flatMap (·.log)).filter isOutcome) := by
  induction history with
  | nil => exact .nil
  | cons x history ih =>
    obtain ⟨hserved, hrest⟩ := List.forall_mem_cons.mp h
    rw [List.flatMap_cons, List.filter_append]
    cases hdecides : x.decides with
    | false =>
      rw [List.filter_cons_of_neg (by simp [hdecides]), filter_of_minor (log_of_health hserved hdecides)]
      exact ih hrest
    | true =>
      obtain ⟨early, event, hlog, hearly, houtcome, haccounts⟩ := log_of_decision hserved hdecides
      rw [List.filter_cons_of_pos hdecides, hlog, List.filter_append, filter_of_minor hearly,
        List.filter_cons_of_pos houtcome]
      exact .cons haccounts (ih hrest)

end Exchange

/-! ## Stations -/

theorem log_elapse (span : Nat) (m : Cluster.ServerMoment) : (Cluster.Server.elapse span m).log = m.log := rfl

theorem log_answer (call : Cluster.HttpCall) (m : Cluster.ServerMoment) :
    (Cluster.Server.answer call m).2.log = m.log := by
  cases call with
  | exchange request => rfl
  | exchangeWithin limit request =>
    rw [Cluster.Server.answer]
    split
    · rfl
    · split
      next delay reply after hreceive =>
        have hlog : after.log = m.log := (congrArg (fun received => received.2.log) hreceive).symm
        split
        · exact (log_elapse _ _).trans hlog
        · exact (log_elapse _ _).trans hlog
  | printLine line => rfl

theorem log_run {α : Type} {p : Program Cluster.http α} (h : p.Reports IsMinor) (m : Cluster.ServerMoment) :
    ∃ told, (Cluster.Server.run p m).2.log = m.log ++ told ∧ ∀ event ∈ told, IsMinor event := by
  have hanswer (call : Cluster.HttpCall) (m : Cluster.ServerMoment) :
      ∃ told, (Cluster.Server.answer call m).2.log = m.log ++ told ∧
        (silent : Aside Cluster.http) call (Cluster.Server.answer call m).1 told := by
    refine ⟨[], ?_, rfl⟩
    rw [List.append_nil]
    exact log_answer call m
  have hsilent : ∀ (call : Cluster.HttpCall) (answer : call.Answer) (told : List Log.Event),
      (silent : Aside Cluster.http) call answer told → ∀ event ∈ told, IsMinor event := by
    rintro call answer told rfl
    exact List.forall_mem_nil _
  have htold : ∃ calls told, p.Tells silent calls told (Cluster.Server.run p m).1 ∧
      (Cluster.Server.run p m).2.log = m.log ++ told :=
    Program.tells_run (fun m : Cluster.ServerMoment => m.log) (fun _ _ => rfl) hanswer p m
  obtain ⟨calls, told, htells, hlog⟩ := htold
  exact ⟨told, hlog, Program.Tells.forall htells h hsilent⟩

theorem station_tells (settings : QuerySettings) (q : Question) (s : Station) :
    ∃ told, (Station.answer settings q s).2.moment.log = s.moment.log ++ told ∧
      queryReports q (Station.answer settings q s).1 told := by
  cases q with
  | cached token => exact ⟨[], (List.append_nil _).symm, rfl⟩
  | remember token userid => exact ⟨[], (List.append_nil _).symm, rfl⟩
  | labels kind selector =>
    obtain ⟨told, hlog, hminor⟩ := log_run (labelsFor_reports settings kind selector) s.moment
    rw [Station.answer]
    -- from here on it does not matter what the run is, and it must not be computed
    generalize Cluster.Server.run (labelsFor settings kind selector) s.moment = ran at hlog ⊢
    exact ⟨told, hlog, hminor⟩
  | probe =>
    obtain ⟨told, hlog, hminor⟩ := log_run (probe_reports settings) s.moment
    rw [Station.answer]
    generalize Cluster.Server.run (probe settings) s.moment = ran at hlog ⊢
    exact ⟨told, hlog, hminor⟩

/-- What is served at a station is an exchange, and its log is added to that of the station. -/
theorem exists_exchange (settings : QuerySettings) (keys : LabelNames) (request : Request) (s : Station) :
    ∃ x : Exchange, x.IsServed keys ∧ x.request = request ∧
      x.response = (Station.run settings (route keys request) s).1 ∧
      (Station.run settings (route keys request) s).2.moment.log = s.moment.log ++ x.log := by
  have hnote (event : Log.Event) (s : Station) : (s.note event).moment.log = s.moment.log ++ [event] := rfl
  obtain ⟨steps, log, htells, hlog⟩ :=
    Program.tells_run (·.moment.log) hnote (station_tells settings) (route keys request) s
  exact ⟨⟨request, steps, log, _⟩, htells, rfl, rfl, hlog⟩

/-! ## Histories -/

/-- Whatever the cache and the cluster answer, there is one outcome for each decision, and it is the true one. -/
theorem decisions_logged (settings : QuerySettings) (keys : LabelNames) :
    (∀ (request : Request) (s : Station), ∃ x : Exchange, x.IsServed keys ∧ x.request = request ∧
      x.response = (Station.run settings (route keys request) s).1 ∧
      (Station.run settings (route keys request) s).2.moment.log = s.moment.log ++ x.log) ∧
    ∀ history : List Exchange, (∀ x ∈ history, x.IsServed keys) →
      List.Forall₂ (Exchange.Accounts keys) (history.filter (·.decides))
        ((history.flatMap (·.log)).filter isOutcome) ∧
      (∀ x ∈ history, ∀ event ∈ x.log, event.level = .error → event.name = "cluster_query_failed") ∧
      ∀ x ∈ history, x.Hits → (∃ event ∈ x.log, event.name = "cache_hit") ∧
        ∀ event ∈ x.log, event.name ≠ "map_session_user" := by
  refine ⟨exists_exchange settings keys, fun history h => ⟨Exchange.outcomes_of_served h, fun x hx => ?_,
    fun x hx hhits => ?_⟩⟩
  · exact Exchange.severe_of_served (h x hx)
  · obtain ⟨session, userid, outcome, hlog, houtcome⟩ := Exchange.log_of_hit (h x hx) hhits
    have hother : outcome.name ≠ "map_session_user" := by
      intro hname
      rw [isOutcome, hname] at houtcome
      exact absurd houtcome (by decide)
    have hhit : (Log.Event.debug "cache_hit" [("session", session), ("userid", userid)]).name ≠
        "map_session_user" := by
      simp [Log.Event.debug]
    rw [hlog]
    exact ⟨⟨_, List.mem_cons_self, rfl⟩,
      List.forall_mem_cons.mpr ⟨hhit, List.forall_mem_singleton.mpr hother⟩⟩

def sampleSettings : QuerySettings := ⟨"default", .ofSecs 5⟩

/-- The API server cannot be reached. -/
def cutStation : Station := ⟨.default, .start ⟨[⟨none, none, none, 0, .failed "refused"⟩], []⟩⟩

/-- It need not be, since the owner is known. -/
def knownStation : Station :=
  { cutStation with cache := { Cache.default with entries := [⟨"abc123", "alice", ⟨0⟩⟩] } }

/-- Surroundings where each query of the cluster fails for a reason of its own. -/
def brokenAnswer : (q : Question) → List Log.Event → q.Answer × List Log.Event
  | .cached _, log => (none, log)
  | .remember .., log => ((), log)
  | .labels .., log => (.error (.internal "no labels" "query"), log)
  | .probe, log => (.ok (), log)

theorem brokenAnswer_tells (q : Question) (log : List Log.Event) :
    ∃ told, (brokenAnswer q log).2 = log ++ told ∧ queryReports q (brokenAnswer q log).1 told := by
  refine ⟨[], ?_, ?_⟩
  · rw [List.append_nil]
    cases q <;> rfl
  · cases q with
    | labels kind selector => exact List.forall_mem_nil _
    | probe => exact List.forall_mem_nil _
    | _ => rfl

def brokenLog : List Log.Event :=
  ((route .default pageRequest).run (fun event log => log ++ [event]) brokenAnswer []).2

theorem exists_broken : ∃ x : Exchange, x.IsServed .default ∧ x.log = brokenLog := by
  have hnote (event : Log.Event) (log : List Log.Event) : id (log ++ [event]) = id log ++ [event] := rfl
  obtain ⟨steps, log, htells, hlog⟩ :=
    Program.tells_run id hnote brokenAnswer_tells (route .default pageRequest) []
  exact ⟨⟨pageRequest, steps, log, _⟩, htells, hlog.symm⟩

theorem decisions_logged_in_turn : ∃ history : List Exchange,
    (∀ x ∈ history, x.IsServed .default) ∧
    (history.flatMap (·.log)).map (·.name) =
      ["missing_session", "cluster_query_failed", "cache_hit", "forward_auth_ok", "lookup_failed"] ∧
    List.Forall₂ (Exchange.Accounts .default) (history.filter (·.decides))
      ((history.flatMap (·.log)).filter isOutcome) := by
  obtain ⟨hruns, hlogs⟩ := decisions_logged sampleSettings .default
  obtain ⟨first, hfirst, -, -, hmissing⟩ := hruns { pageRequest with headers := [] } cutStation
  obtain ⟨second, hsecond, -, -, hfailed⟩ := hruns pageRequest cutStation
  obtain ⟨third, hthird, -, -, hknown⟩ := hruns pageRequest knownStation
  obtain ⟨fourth, hfourth, hbroken⟩ := exists_broken
  have hserved : ∀ x ∈ [first, second, third, fourth], x.IsServed .default := by
    simp [hfirst, hsecond, hthird, hfourth]
  have hnames : ([first, second, third, fourth].flatMap (·.log)).map (·.name) =
      ["missing_session", "cluster_query_failed", "cache_hit", "forward_auth_ok", "lookup_failed"] := by
    have hstart : cutStation.moment.log = [] ∧ knownStation.moment.log = [] := ⟨rfl, rfl⟩
    rw [hstart.1, List.nil_append] at hmissing hfailed
    rw [hstart.2, List.nil_append] at hknown
    simp only [List.flatMap_cons, List.flatMap_nil, List.append_nil, ← hmissing, ← hfailed, ← hknown, hbroken]
    decide +kernel
  exact ⟨_, hserved, hnames, (hlogs _ hserved).1⟩

end SessionGate.Gateway
