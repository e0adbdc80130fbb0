import SessionGate.Gateway.State
import SessionGate.Proofs.Program.Result

/-! # How the gateway starts

The library that makes clients is any one.

* `create_eq_ok`, `create_crashed`: a client is made from the settings that are found and whom it is to trust, and
  only the library crashes over it.
* `Crashes`: a call of the library that is reached, or a cache whose lifetime is more than a thousand years.
* `build_crashes_iff`: the gateway crashes over nothing else; it starts, or refuses its configuration.
-/
namespace SessionGate
set_option autoImplicit false
open Cluster (ClientLibrary CallFailure Trust)
open Result (bind_eq_ok bind_eq_error mapError_eq_ok mapError_eq_error map_eq_ok)

variable {File Settings Client : Type}

namespace Cluster.ClientLibrary

variable {library : ClientLibrary File Settings Client} {files : Files} {options : ConnectionOptions}
  {settings : Settings} {source : Source} {client : Client} {text : String}

theorem describe_eq_crashed {cause : String → Error} {failure : CallFailure} :
    failure.describe cause = .crashed text ↔ failure = .crashed text := by
  cases failure <;> simp [CallFailure.describe]

/-- The settings that are found where no file is named: those inside of a cluster, or else those of the
environment. -/
inductive Found (library : ClientLibrary File Settings Client) : Settings → Prop where
  | inCluster {settings : Settings} : library.inCluster = .ok settings → Found library settings
  | inferred {settings : Settings} {reason : String} : library.inCluster = .error (.refused reason) →
      library.inferred = .ok settings → Found library settings

theorem load_eq_ok : (∃ source, (library.load none).2 = .ok (settings, source)) ↔ Found library settings := by
  constructor
  · rintro ⟨source, hload⟩
    cases hinside : library.inCluster with
    | ok inside =>
      simp only [load, hinside, Except.ok.injEq, Prod.mk.injEq] at hload
      exact .inCluster (hload.1 ▸ hinside)
    | error failure =>
      cases failure with
      | crashed text => simp [load, hinside] at hload
      | refused reason =>
        simp only [load, hinside, map_eq_ok, mapError_eq_ok, Prod.mk.injEq] at hload
        obtain ⟨outside, houtside, rfl, -⟩ := hload
        exact .inferred hinside houtside
  · intro hfound
    cases hfound with
    | inCluster hinside => exact ⟨.inCluster, by simp only [load, hinside]⟩
    | inferred hinside houtside =>
      exact ⟨.kubeconfig, by simp [load, hinside, houtside, Except.mapError, Except.map]⟩

theorem load_crashed : (library.load none).2 = .error (.crashed text) ↔
    library.inCluster = .error (.crashed text) ∨
      ∃ reason, library.inCluster = .error (.refused reason) ∧ library.inferred = .error (.crashed text) := by
  cases hinside : library.inCluster with
  | ok inside => simp [load, hinside]
  | error failure =>
    cases failure with
    | crashed text => simp [load, hinside]
    | refused reason =>
      cases houtside : library.inferred with
      | ok outside => simp [load, hinside, houtside, Except.mapError, Except.map]
      | error failure =>
        simp [load, hinside, houtside, Except.mapError, Except.map, describe_eq_crashed]

/-- What comes of making a client, without the events. -/
theorem create_snd : (library.create files options).2 = (do
    let (settings, _) ← (library.load options.kubeconfig).2
    let trust ← (options.tls.resolve files).2.mapError .refused
    (library.make settings ⟨options.connectTimeout, options.readTimeout, trust⟩).mapError (·.describe unmade)) := by
  rw [create]
  rcases library.load options.kubeconfig with ⟨log, failure | ⟨settings, source⟩⟩
  · rfl
  · rcases options.tls.resolve files with ⟨warnings, e | trust⟩
    · rfl
    · cases hmake : library.make settings ⟨options.connectTimeout, options.readTimeout, trust⟩ with
      | error failure => simp [hmake, bind, Except.bind, Except.mapError]
      | ok client => simp [hmake, bind, Except.bind, Except.mapError]

theorem create_eq_ok : (library.create files options).2 = .ok client ↔
    ∃ settings source trust, (library.load options.kubeconfig).2 = .ok (settings, source) ∧
      (options.tls.resolve files).2 = .ok trust ∧
      library.make settings ⟨options.connectTimeout, options.readTimeout, trust⟩ = .ok client := by
  simp only [create_snd, bind_eq_ok, mapError_eq_ok, Prod.exists, exists_and_left]

/-- What is wrong with a bundle is refused, so only the library crashes. -/
theorem create_crashed : (library.create files options).2 = .error (.crashed text) ↔
    (library.load options.kubeconfig).2 = .error (.crashed text) ∨
      ∃ settings source trust, (library.load options.kubeconfig).2 = .ok (settings, source) ∧
        (options.tls.resolve files).2 = .ok trust ∧
        library.make settings ⟨options.connectTimeout, options.readTimeout, trust⟩ = .error (.crashed text) := by
  simp only [create_snd, bind_eq_error, mapError_eq_ok, mapError_eq_error, describe_eq_crashed, exists_eq_right,
    reduceCtorEq, and_false, exists_false, false_or, Prod.exists, exists_and_left]

end Cluster.ClientLibrary

namespace Gateway
open Cluster.ClientLibrary (Found load_eq_ok load_crashed)

variable {library : ClientLibrary File Settings Client} {files : Files} {config : Config} {trust : Trust}
  {client : Client} {text : String}

/-- Whom the client of the gateway trusts: dev mode goes before a bundle, and a bundle before the authority of the
cluster. -/
inductive Trusts (files : Files) (config : Config) : Trust → Prop where
  | anyone : config.devMode = true → Trusts files config .anyone
  | bundle {path : String} {certificates : List Utf8.Bytes} : config.devMode = false → config.caFile = some path →
      Cluster.authorities files path = .ok certificates → Trusts files config (.only certificates)
  | cluster {certificates : List Utf8.Bytes} : config.devMode = false → config.caFile = none → config.prod = true →
      Cluster.authorities files "/var/run/secrets/kubernetes.io/serviceaccount/ca.crt" = .ok certificates →
      Trusts files config (.only certificates)
  | configured : config.devMode = false → config.caFile = none → config.prod = false →
      Trusts files config .configured

theorem resolve_eq_ok : (config.tls.resolve files).2 = .ok trust ↔ Trusts files config trust := by
  constructor
  · intro h
    cases hdev : config.devMode with
    | true =>
      simp only [Config.tls, hdev, if_true, Cluster.ServerTrust.resolve, Except.ok.injEq] at h
      exact h ▸ .anyone hdev
    | false =>
      cases hfile : config.caFile with
      | some path =>
        simp only [Config.tls, hdev, hfile, Bool.false_eq_true, if_false, Cluster.ServerTrust.resolve,
          map_eq_ok] at h
        obtain ⟨certificates, hread, rfl⟩ := h
        exact .bundle hdev hfile hread
      | none =>
        cases hprod : config.prod with
        | true =>
          simp only [Config.tls, hdev, hfile, hprod, Bool.false_eq_true, if_false, if_true,
            Cluster.ServerTrust.resolve, map_eq_ok] at h
          obtain ⟨certificates, hread, rfl⟩ := h
          exact .cluster hdev hfile hprod hread
        | false =>
          simp only [Config.tls, hdev, hfile, hprod, Bool.false_eq_true, if_false,
            Cluster.ServerTrust.resolve, Except.ok.injEq] at h
          exact h ▸ .configured hdev hfile hprod
  · intro h
    cases h with
    | anyone hdev => simp [Config.tls, hdev, Cluster.ServerTrust.resolve]
    | bundle hdev hfile hread => simp [Config.tls, hdev, hfile, Cluster.ServerTrust.resolve, hread, Except.map]
    | cluster hdev hfile hprod hread =>
      simp [Config.tls, hdev, hfile, hprod, Cluster.ServerTrust.resolve, Config.serviceAccountBundle, hread,
        Except.map]
    | configured hdev hfile hprod => simp [Config.tls, hdev, hfile, hprod, Cluster.ServerTrust.resolve]

/-- What comes of the call that makes the client, where it is reached. -/
def MakesClient (library : ClientLibrary File Settings Client) (files : Files) (config : Config)
    (outcome : Except CallFailure Client) : Prop :=
  ∃ settings trust, Found library settings ∧ Trusts files config trust ∧
    library.make settings ⟨.ofSecs config.queryTimeout, .ofSecs 30, trust⟩ = outcome

/-- The ways in which the gateway crashes, with what it says. -/
inductive Crashes (library : ClientLibrary File Settings Client) (files : Files) (config : Config) :
    String → Prop where
  | inCluster {text : String} : library.inCluster = .error (.crashed text) → Crashes library files config text
  | inferred {reason text : String} : library.inCluster = .error (.refused reason) →
      library.inferred = .error (.crashed text) → Crashes library files config text
  | client {text : String} : MakesClient library files config (.error (.crashed text)) →
      Crashes library files config text
  /-- There is a client, but the cache is to keep owners for more than a thousand years. -/
  | lifetime {client : Client} : MakesClient library files config (.ok client) → 31536000000 < config.cacheTtl →
      Crashes library files config "time_to_live is longer than 1000 years"

theorem makesClient_iff {outcome : Except CallFailure Client} : MakesClient library files config outcome ↔
    ∃ settings source trust, (library.load none).2 = .ok (settings, source) ∧
      (config.connection.tls.resolve files).2 = .ok trust ∧
      library.make settings ⟨config.connection.connectTimeout, config.connection.readTimeout, trust⟩ = outcome := by
  constructor
  · rintro ⟨settings, trust, hfound, htrust, hmake⟩
    obtain ⟨source, hload⟩ := load_eq_ok.mpr hfound
    exact ⟨settings, source, trust, hload, resolve_eq_ok.mpr htrust, hmake⟩
  · rintro ⟨settings, source, trust, hload, htrust, hmake⟩
    exact ⟨settings, trust, load_eq_ok.mp ⟨source, hload⟩, resolve_eq_ok.mp htrust, hmake⟩

theorem create_eq_ok : (library.create files config.connection).2 = .ok client ↔
    MakesClient library files config (.ok client) := by
  rw [Cluster.ClientLibrary.create_eq_ok, makesClient_iff]
  rfl

theorem create_crashed : (library.create files config.connection).2 = .error (.crashed text) ↔
    (library.load none).2 = .error (.crashed text) ∨ MakesClient library files config (.error (.crashed text)) := by
  rw [Cluster.ClientLibrary.create_crashed, makesClient_iff]
  rfl

theorem crashes_iff : Crashes library files config text ↔
    (library.create files config.connection).2 = .error (.crashed text) ∨
      text = Cache.tooLong ∧ 31536000000 < config.cacheTtl ∧
        ∃ client, (library.create files config.connection).2 = .ok client := by
  simp only [create_crashed, create_eq_ok, load_crashed]
  constructor
  · intro h
    cases h with
    | inCluster hinside => exact .inl (.inl (.inl hinside))
    | inferred hinside houtside => exact .inl (.inl (.inr ⟨_, hinside, houtside⟩))
    | client hmake => exact .inl (.inr hmake)
    | lifetime hmake hlong => exact .inr ⟨rfl, hlong, _, hmake⟩
  · rintro (((hinside | ⟨reason, hinside, houtside⟩) | hmake) | ⟨rfl, hlong, client, hmake⟩)
    · exact .inCluster hinside
    · exact .inferred hinside houtside
    · exact .client hmake
    · exact .lifetime hmake hlong

theorem make_cache (config : Config) : Cache.make config.lifetime config.cacheSize =
    if 31536000000 < config.cacheTtl then .error Cache.tooLong
    else .ok ⟨config.lifetime, config.cacheSize, []⟩ := by
  have hlimit : Cache.maxLifetime.nanos < config.lifetime.nanos ↔ 31536000000 < config.cacheTtl := by
    simp only [Cache.maxLifetime, Config.lifetime, Duration.ofSecs, Duration.nanosPerSecond]
    omega
  simp only [Cache.make, hlimit]

/-- Starting is making a client, and then the cache. -/
theorem start_eq (library : ClientLibrary File Settings Client) (files : Files) (config : Config) :
    (State.start library files config).2 = match (library.create files config.connection).2 with
      | .error (.refused e) => .error (.refused (.config ("kube client: " ++ e.message)))
      | .error (.crashed text) => .error (.crashed text)
      | .ok client =>
        if 31536000000 < config.cacheTtl then .error (.crashed Cache.tooLong)
        else .ok ⟨client, ⟨config.namespaceName, config.timeout⟩, config.keys,
          ⟨config.lifetime, config.cacheSize, []⟩⟩ := by
  rw [State.start, make_cache]
  rcases library.create files config.connection with ⟨log, ⟨e | text⟩ | client⟩
  · rfl
  · rfl
  · by_cases hlong : 31536000000 < config.cacheTtl
    · simp only [if_pos hlong]
    · simp only [if_neg hlong]

/-- The gateway crashes in four ways; it starts with a client that was made, where the lifetime is no longer than a
thousand years; and otherwise it says what is wrong with its configuration. -/
theorem build_crashes_iff (library : ClientLibrary File Settings Client) (files : Files) (config : Config) :
    (∀ text, (State.start library files config).2 = .error (.crashed text) ↔ Crashes library files config text) ∧
    (∀ client, (∃ state, (State.start library files config).2 = .ok state ∧ state.client = client) ↔
      MakesClient library files config (.ok client) ∧ config.cacheTtl ≤ 31536000000) ∧
    ((∀ text, ¬ Crashes library files config text) →
      (∃ state, (State.start library files config).2 = .ok state) ∨
        ∃ message, (State.start library files config).2 = .error (.refused (.config message))) := by
  rw [start_eq]
  simp only [crashes_iff, ← create_eq_ok]
  cases (library.create files config.connection).2 with
  | error failure =>
    cases failure with
    | refused e => exact ⟨by simp, by simp, fun _ => .inr ⟨_, rfl⟩⟩
    | crashed text => exact ⟨by simp, by simp, fun hnone => absurd (.inl rfl) (hnone text)⟩
  | ok client =>
    by_cases hlong : 31536000000 < config.cacheTtl
    · have hnot : ¬ config.cacheTtl ≤ 31536000000 := by omega
      refine ⟨fun text => ?_, fun _ => by simp [hlong, hnot],
        fun hnone => absurd (.inr ⟨rfl, hlong, client, rfl⟩) (hnone Cache.tooLong)⟩
      simp [hlong, eq_comm]
    · have hle : config.cacheTtl ≤ 31536000000 := by omega
      exact ⟨by simp [hlong], fun _ => by simp [hlong, hle], fun _ => .inl ⟨_, if_neg hlong⟩⟩

/-! ## The longest lifetime -/

def clusterFile : String :=
  "apiVersion: v1\nkind: Config\nclusters:\n- name: c\n  cluster:\n    server: https://192.0.2.1:6443\n" ++
    "contexts:\n- name: x\n  context: \x7bcluster: c, user: u\x7d\ncurrent-context: x\n" ++
    "users:\n- name: u\n  user: \x7btoken: t\x7d\n"

def clusterFiles : Files := fun path =>
  if path = "/config" then .ok (Utf8.encode clusterFile) else .error .notFound

def clusterEnvironment : CommandLine.Environment := [("KUBECONFIG", "/config")]

/-- The library outside of a cluster. -/
def outside : ClientLibrary Cluster.Kubeconfig Cluster.Kubeconfig.Access Cluster.Connection :=
  Cluster.Host.bare.library clusterEnvironment clusterFiles

theorem outside_makes (ttl : Nat) : MakesClient outside clusterFiles { cacheTtl := ttl } (.ok ⟨"default"⟩) := by
  have hcreated : (outside.create clusterFiles (Config.connection {})).2 = .ok ⟨"default"⟩ :=
    Result.toOption_eq_some.mp (by decide +kernel)
  exact create_eq_ok.mp hcreated

/-- The files of a program inside of a cluster. -/
def podFiles : Files := fun path =>
  if path = Cluster.accountFile "namespace" then .ok (Utf8.encode "carta")
  else if path = Cluster.accountFile "ca.crt" then .ok []
  else if path = Cluster.accountFile "token" then .ok (Utf8.encode "t")
  else .error .notFound

def podEnvironment : CommandLine.Environment :=
  [("KUBERNETES_SERVICE_HOST", "192.0.2.1"), ("KUBERNETES_SERVICE_PORT", "443")]

/-- The library inside of a cluster. -/
def inside : ClientLibrary Cluster.Kubeconfig Cluster.Kubeconfig.Access Cluster.Connection :=
  Cluster.Host.bare.library podEnvironment podFiles

theorem inside_makes (ttl : Nat) : MakesClient inside podFiles { cacheTtl := ttl } (.ok ⟨"carta"⟩) := by
  have hcreated : (inside.create podFiles (Config.connection {})).2 = .ok ⟨"carta"⟩ :=
    Result.toOption_eq_some.mp (by decide +kernel)
  exact create_eq_ok.mp hcreated

/-- A thousand years are the longest lifetime, outside of a cluster as well as inside of one. -/
theorem build_crashes_iff_limit :
    (∃ state, (State.start outside clusterFiles { cacheTtl := 31536000000 }).2 = .ok state ∧
      state.client = ⟨"default"⟩) ∧
    ((∃ state, (State.start outside clusterFiles { cacheTtl := 31536000000 }).2 = .ok state) ∨
      ∃ message, (State.start outside clusterFiles { cacheTtl := 31536000000 }).2 =
        .error (.refused (.config message))) ∧
    (State.start inside podFiles { cacheTtl := 31536000001 }).2 =
      .error (.crashed "time_to_live is longer than 1000 years") := by
  obtain ⟨-, hstarts, hclean⟩ := build_crashes_iff outside clusterFiles { cacheTtl := 31536000000 }
  refine ⟨(hstarts _).mpr ⟨outside_makes _, by decide⟩, hclean fun text hcrashes => ?_, ?_⟩
  · rcases crashes_iff.mp hcrashes with hcrashed | ⟨-, hlong, -⟩
    · cases (create_eq_ok.mpr (outside_makes _)).symm.trans hcrashed
    · exact absurd hlong (by decide)
  · exact ((build_crashes_iff _ _ _).1 _).mpr (.lifetime (inside_makes _) (by decide))

/-- One second more is accepted as an argument, and the gateway crashes over it. -/
theorem overlong_lifetime_crashes : ∃ config,
    Config.ofArguments clusterEnvironment ["--cache-ttl-seconds", "31536000001"] = .ok config ∧
    (State.build clusterEnvironment clusterFiles config).2 =
      .error (.crashed "time_to_live is longer than 1000 years") ∧
    ¬ ((∃ state, (State.build clusterEnvironment clusterFiles config).2 = .ok state) ∨
      ∃ message, (State.build clusterEnvironment clusterFiles config).2 = .error (.refused (.config message))) := by
  have hcrashed : (State.build clusterEnvironment clusterFiles { cacheTtl := 31536000001 }).2 =
      .error (.crashed "time_to_live is longer than 1000 years") := by
    have hcreated : (outside.create clusterFiles (Config.connection { cacheTtl := 31536000001 })).2 =
        .ok ⟨"default"⟩ := create_eq_ok.mpr (outside_makes _)
    have hstart := start_eq outside clusterFiles { cacheTtl := 31536000001 }
    rw [hcreated] at hstart
    exact hstart
  refine ⟨{ cacheTtl := 31536000001 }, Result.toOption_eq_some.mp (by decide +kernel), hcrashed, ?_⟩
  rw [hcrashed]
  rintro (⟨state, ⟨⟩⟩ | ⟨message, ⟨⟩⟩)

end Gateway
end SessionGate
