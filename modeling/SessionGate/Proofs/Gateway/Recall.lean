import SessionGate.Proofs.Gateway.Isolation
import SessionGate.Proofs.Gateway.Lookup

/-! # What a resolution remembers

* `Makes`: a resolution at a desk. While it asks the cluster time passes, and the cluster may change.
* `Makes.outcome`: it is a hit, which changes nothing, or a look-up, which puts the owner that it finds.
* `Past`: resolutions one after the other, of any tokens, over one cache. `LastFound` is the newest of them
  that had an owner of a token from the cluster.
* `Past.remembers`: the cache finds exactly what was found last, while less than the lifetime has passed.
* `resolve_recalls`: so a resolution asks the cluster exactly where no owner was found less than the
  lifetime ago, and a failure is not remembered.
-/
namespace SessionGate.Gateway
set_option autoImplicit false
open Session (Token ObjectKind Labels LabelNames)
open Program (Step Along)

variable {keys : LabelNames} {token : Token} {userid : String}

/-! ## Resolutions in time -/

namespace Desk

def Waits (d d' : Desk) : Prop := d'.cache = d.cache ∧ d.now.nanos ≤ d'.now.nanos

/-- A question, the answer and the desk after it. The cluster takes its time, and answers in the end. -/
def Answers (d : Desk) : Step surroundings → Desk → Prop
  | ⟨.cached token, found⟩, d' => found = d.cache.get? d.now token ∧ d' = d
  | ⟨.remember token userid, _⟩, d' => d' = { d with cache := d.cache.put d.now token userid }
  | ⟨.labels kind selector, found⟩, d' => d.Waits d' ∧ found = d'.view.labels kind selector
  | ⟨.probe, found⟩, d' => d.Waits d' ∧ found = d'.view.probe

theorem Waits.refl (d : Desk) : d.Waits d := ⟨rfl, Nat.le_refl _⟩

theorem Waits.trans {d d' d'' : Desk} (h : d.Waits d') (h' : d'.Waits d'') : d.Waits d'' :=
  ⟨h'.1.trans h.1, Nat.le_trans h.2 h'.2⟩

theorem answers_answer (d : Desk) (q : Question) : d.Answers ⟨q, (answer q d).1⟩ (answer q d).2 := by
  cases q with
  | cached token => exact ⟨rfl, rfl⟩
  | remember token userid => rfl
  | labels kind selector => exact ⟨Waits.refl d, rfl⟩
  | probe => exact ⟨Waits.refl d, rfl⟩

theorem along_run {α : Type} (d : Desk) (p : Program surroundings α) :
    Along Answers d (d.steps p) (d.run p).2 := by
  refine Program.along_history (r := some (d.run p).1) (fun _ d => d) _ id (fun _ _ => rfl) ?_ ?_ ?_
  · rintro q s a s' h
    obtain ⟨ha, rfl⟩ := Prod.mk.inj h
    obtain rfl := Option.some.inj ha
    exact answers_answer s q
  · rintro q s s' h
    cases (Prod.mk.inj h).1
  · exact Program.runUntil_answered _ _ p d

end Desk

/-- A resolution that was made, with what it asked and came to, and the instant at its end. -/
structure Call where
  token : Token
  steps : List (Step surroundings)
  result : Except Cluster.Error (Option String)
  instant : Duration

structure Makes (keys : LabelNames) (d : Desk) (call : Call) (d' : Desk) : Prop where
  ends : (resolve keys call.token).Ends call.steps call.result
  along : Along Desk.Answers d call.steps d'
  instant : call.instant = d'.now

namespace Call

def Queries (call : Call) : Prop :=
  ∃ kind selector answer, (⟨.labels kind selector, answer⟩ : Step surroundings) ∈ call.steps

/-- The owner was had from the cluster. -/
def Finds (call : Call) (userid : String) : Prop := call.Queries ∧ call.result = .ok (some userid)

def Fails (call : Call) : Prop := ∀ userid, call.result ≠ .ok (some userid)

def written (token : Token) : Except Cluster.Error (Option String) → List (Step surroundings)
  | .ok (some userid) => [⟨.remember token userid, ()⟩]
  | _ => []

/-- The cache had nothing, and the result is that of one look-up. -/
def LooksUp (keys : LabelNames) (call : Call) : Prop :=
  ∃ asked, (lookup keys call.token).Ends asked call.result ∧
    call.steps = ⟨.cached call.token, none⟩ :: (asked ++ written call.token call.result)

end Call

theorem resolve_ends_iff {steps : List (Step surroundings)} {result : Except Cluster.Error (Option String)} :
    (resolve keys token).Ends steps result ↔
      (∃ userid, steps = [⟨.cached token, some userid⟩] ∧ result = .ok (some userid)) ∨
        ∃ asked, (lookup keys token).Ends asked result ∧
          steps = ⟨.cached token, none⟩ :: (asked ++ Call.written token result) := by
  rw [resolve]
  constructor
  · intro h
    obtain ⟨answer, rest, rfl, hrest⟩ := Program.ends_ask_bind.mp h
    cases answer with
    | some userid =>
      obtain ⟨rfl, rfl⟩ := hrest
      exact .inl ⟨userid, rfl, rfl⟩
    | none =>
      obtain ⟨found, asked, told, rfl, hasked, htold⟩ := Program.ends_bind.mp hrest
      right
      rcases found with e | _ | userid
      · obtain ⟨rfl, rfl⟩ := htold
        exact ⟨asked, hasked, rfl⟩
      · obtain ⟨rfl, rfl⟩ := htold
        exact ⟨asked, hasked, rfl⟩
      · obtain ⟨_, _, rfl, rfl, rfl⟩ := htold
        exact ⟨asked, hasked, rfl⟩
  · rintro (⟨userid, rfl, rfl⟩ | ⟨asked, hasked, rfl⟩)
    · exact Program.ends_ask_bind.mpr ⟨_, _, rfl, rfl, rfl⟩
    · refine Program.ends_ask_bind.mpr ⟨_, _, rfl, Program.ends_bind.mpr ⟨_, asked, _, rfl, hasked, ?_⟩⟩
      rcases result with e | _ | userid
      · exact ⟨rfl, rfl⟩
      · exact ⟨rfl, rfl⟩
      · exact ⟨(), [], rfl, rfl, rfl⟩

/-! ## One resolution -/

variable {start d d' : Desk} {call last : Call} {calls : List Call} {keep : CacheEntry → Bool}

/-- What a resolution comes to, and what it leaves behind. -/
inductive Outcome (keys : LabelNames) (d : Desk) (call : Call) (d' : Desk) : Prop where
  | hit (userid : String) : d.cache.get? d.now call.token = some userid → ¬ call.Queries →
    call.result = .ok (some userid) → d' = d → Outcome keys d call d'
  | found (userid : String) (m : Desk) : d.cache.get? d.now call.token = none → call.LooksUp keys →
    call.result = .ok (some userid) → d.Waits m →
    d' = { m with cache := m.cache.put m.now call.token userid } → Outcome keys d call d'
  | failed : d.cache.get? d.now call.token = none → call.LooksUp keys → call.Fails → d.Waits d' →
    Outcome keys d call d'

theorem Search.waits {kinds : List ObjectKind} {steps : List (Step surroundings)}
    {result : Except Cluster.Error (Option String)} (h : Search keys token kinds steps result)
    (halong : Along Desk.Answers d steps d') : d.Waits d' := by
  induction h generalizing d with
  | exhausted =>
    rw [Program.along_nil.mp halong]
    exact Desk.Waits.refl d
  | failed | found =>
    obtain ⟨m, hstep, hrest⟩ := Program.along_cons.mp halong
    rw [Program.along_nil.mp hrest]
    exact hstep.1
  | passed kind hownerless hsearch ih =>
    obtain ⟨m, hstep, hrest⟩ := Program.along_cons.mp halong
    exact hstep.1.trans (ih hrest)

theorem Call.LooksUp.queries (h : call.LooksUp keys) : call.Queries := by
  obtain ⟨asked, hasked, hsteps⟩ := h
  obtain ⟨answer, hmem⟩ := Search.exists_posed (lookupIn_ends_iff.mp hasked)
  refine ⟨.service, keys.selector call.token, answer, ?_⟩
  rw [hsteps]
  exact List.mem_cons_of_mem _ (List.mem_append_left _ hmem)

theorem Call.Fails.written (h : call.Fails) : Call.written token call.result = [] := by
  rw [Call.Fails] at h
  cases hresult : call.result with
  | error e => rfl
  | ok found =>
    cases found with
    | none => rfl
    | some userid => exact absurd hresult (h userid)

theorem Makes.outcome (h : Makes keys d call d') : Outcome keys d call d' := by
  have halong := h.along
  rcases resolve_ends_iff.mp h.ends with ⟨userid, hsteps, hresult⟩ | ⟨asked, hasked, hsteps⟩
  · rw [hsteps] at halong
    obtain ⟨m, ⟨hfound, rfl⟩, hrest⟩ := Program.along_cons.mp halong
    refine .hit userid hfound.symm ?_ hresult (Program.along_nil.mp hrest)
    rintro ⟨kind, selector, answer, hmem⟩
    rw [hsteps] at hmem
    cases List.mem_singleton.mp hmem
  · have hlooks : call.LooksUp keys := ⟨asked, hasked, hsteps⟩
    rw [hsteps] at halong
    obtain ⟨m, ⟨hnone, rfl⟩, hrest⟩ := Program.along_cons.mp halong
    obtain ⟨m', hasks, hwrites⟩ := Program.along_append.mp hrest
    have hwaits : Desk.Waits m m' := (lookupIn_ends_iff.mp hasked).waits hasks
    by_cases hfails : call.Fails
    · rw [hfails.written] at hwrites
      obtain rfl := Program.along_nil.mp hwrites
      exact .failed hnone.symm hlooks hfails hwaits
    · obtain ⟨userid, hresult⟩ : ∃ userid, call.result = .ok (some userid) := by
        simpa [Call.Fails] using hfails
      rw [hresult] at hwrites
      obtain ⟨m'', rfl, hnil⟩ := Program.along_cons.mp hwrites
      exact .found userid m' hnone.symm hlooks hresult hwaits (Program.along_nil.mp hnil)

theorem Makes.queries_iff (h : Makes keys d call d') :
    call.Queries ↔ d.cache.get? d.now call.token = none := by
  cases h.outcome with
  | hit userid hget hquiet => simp [hget, hquiet]
  | found _ _ hget hlooks => simp [hget, hlooks.queries]
  | failed hget hlooks => simp [hget, hlooks.queries]

theorem Makes.looksUp (h : Makes keys d call d') (hqueries : call.Queries) : call.LooksUp keys := by
  cases h.outcome with
  | hit _ _ hquiet => exact absurd hqueries hquiet
  | found _ _ _ hlooks => exact hlooks
  | failed _ hlooks => exact hlooks

/-! ## The last owner that was found -/

/-- Of the calls, the newest first, the first that had an owner of the token from the cluster. -/
def LastFound (token : Token) (calls : List Call) (last : Call) (userid : String) : Prop :=
  ∃ newer older, calls = newer ++ last :: older ∧ last.token = token ∧ last.Finds userid ∧
    ∀ other ∈ newer, other.token = token → ∀ found, ¬ other.Finds found

theorem lastFound_cons_self (hfinds : call.Finds userid) {found : String} :
    LastFound call.token (call :: calls) last found ↔ last = call ∧ found = userid := by
  constructor
  · rintro ⟨_ | ⟨first, newer⟩, older, hcalls, -, hlast, hnewer⟩
    · obtain ⟨rfl, rfl⟩ := List.cons.inj hcalls
      exact ⟨rfl, Option.some.inj (Except.ok.inj (hlast.2.symm.trans hfinds.2))⟩
    · obtain ⟨rfl, rfl⟩ := List.cons.inj hcalls
      exact absurd hfinds (hnewer call (List.mem_cons_self ..) rfl userid)
  · rintro ⟨rfl, rfl⟩
    exact ⟨[], calls, rfl, rfl, hfinds, by simp⟩

theorem lastFound_cons_of_not (hnot : call.token = token → ∀ found, ¬ call.Finds found) :
    LastFound token (call :: calls) last userid ↔ LastFound token calls last userid := by
  constructor
  · rintro ⟨_ | ⟨first, newer⟩, older, hcalls, htoken, hlast, hnewer⟩
    · obtain ⟨rfl, rfl⟩ := List.cons.inj hcalls
      exact absurd hlast (hnot htoken userid)
    · obtain ⟨rfl, rfl⟩ := List.cons.inj hcalls
      exact ⟨newer, older, rfl, htoken, hlast, (List.forall_mem_cons.mp hnewer).2⟩
  · rintro ⟨newer, older, rfl, htoken, hlast, hnewer⟩
    exact ⟨call :: newer, older, rfl, htoken, hlast, List.forall_mem_cons.mpr ⟨hnot, hnewer⟩⟩

theorem exists_lastFound (h : call ∈ calls) (hfinds : call.Finds userid) :
    ∃ last found, LastFound call.token calls last found := by
  induction calls with
  | nil => cases h
  | cons first calls ih =>
    by_cases hfirst : first.token = call.token ∧ ∃ found, first.Finds found
    · obtain ⟨htoken, found, hfound⟩ := hfirst
      refine ⟨first, found, ?_⟩
      rw [← htoken, lastFound_cons_self hfound]
      exact ⟨rfl, rfl⟩
    · have hnot : first.token = call.token → ∀ found, ¬ first.Finds found :=
        fun htoken found hfound => hfirst ⟨htoken, found, hfound⟩
      rcases List.mem_cons.mp h with rfl | h
      · exact absurd hfinds (hnot rfl userid)
      · obtain ⟨last, found, hlast⟩ := ih h
        exact ⟨last, found, (lastFound_cons_of_not hnot).mpr hlast⟩

theorem LastFound.newest (h : LastFound token calls last userid)
    (horder : calls.Pairwise fun newer older => older.instant.nanos ≤ newer.instant.nanos)
    (hmem : call ∈ calls) (htoken : call.token = token) {found : String} (hfinds : call.Finds found) :
    call.instant.nanos ≤ last.instant.nanos := by
  obtain ⟨newer, older, rfl, -, -, hnewer⟩ := h
  rcases List.mem_append.mp hmem with hmem | hmem
  · exact absurd hfinds (hnewer call hmem htoken found)
  · rcases List.mem_cons.mp hmem with rfl | hmem
    · exact Nat.le_refl _
    · exact (List.pairwise_cons.mp (List.pairwise_append.mp horder).2.1).1 call hmem

/-! ## Histories -/

/-- Resolutions made one after the other from a desk on, the newest first. Between them time passes, the
cluster changes and the cache drops entries; it holds no more than its capacity. -/
inductive Past (keys : LabelNames) (start : Desk) : List Call → Desk → Prop where
  | nil : Past keys start [] start
  | call {calls : List Call} {d d' : Desk} {call : Call} :
    Past keys start calls d → Makes keys d call d' → d'.Fits → Past keys start (call :: calls) d'
  | wait {calls : List Call} {d d' : Desk} : Past keys start calls d → d.Waits d' → Past keys start calls d'
  | drop {calls : List Call} {d : Desk} (keep : CacheEntry → Bool) :
    Past keys start calls d → d.MayDrop keep → Past keys start calls (d.sweep keep)

def Call.Within (call : Call) (span now : Duration) : Prop := now.nanos < call.instant.nanos + span.nanos

/-- From now on the cache finds exactly the owners that were found last, for its lifetime. -/
structure Remembers (start : Desk) (calls : List Call) (d : Desk) : Prop where
  lifetime : d.cache.lifetime = start.cache.lifetime
  capacity : d.cache.capacity = start.cache.capacity
  tidy : d.cache.Tidy
  fits : d.Fits
  past : ∀ call ∈ calls, call.instant.nanos ≤ d.now.nanos
  order : calls.Pairwise fun newer older => older.instant.nanos ≤ newer.instant.nanos
  found (token : Token) (later : Duration) : d.now.nanos ≤ later.nanos → ∀ userid,
    d.cache.get? later token = some userid ↔
      ∃ last, LastFound token calls last userid ∧ last.Within start.cache.lifetime later

namespace Remembers

theorem nil (hempty : start.cache.entries = []) : Remembers start [] start where
  lifetime := rfl
  capacity := rfl
  tidy := by
    refine ⟨?_, fun _ => hempty⟩
    rw [hempty]
    exact List.nodup_nil
  fits := by
    rw [Desk.Fits, hempty]
    exact Nat.zero_le _
  past := List.forall_mem_nil _
  order := .nil
  found token later _ userid := by
    constructor
    · intro h
      rw [Cache.get?, hempty] at h
      cases h
    · rintro ⟨last, ⟨newer, older, hnil, -⟩, -⟩
      simp at hnil

theorem wait (h : Remembers start calls d) (hwaits : d.Waits d') : Remembers start calls d' := by
  obtain ⟨hcache, hnow⟩ := hwaits
  refine ⟨?_, ?_, ?_, ?_, fun call hcall => ?_, h.order, fun token later hlater => ?_⟩
  · rw [hcache, h.lifetime]
  · rw [hcache, h.capacity]
  · rw [hcache]
    exact h.tidy
  · rw [Desk.Fits, hcache]
    exact h.fits
  · exact Nat.le_trans (h.past call hcall) hnow
  · rw [hcache]
    exact h.found token later (Nat.le_trans hnow hlater)

theorem drop (h : Remembers start calls d) (hdrop : d.MayDrop keep) :
    Remembers start calls (d.sweep keep) := by
  refine ⟨h.lifetime, h.capacity, h.tidy.sweep, ?_, h.past, h.order, fun token later hlater userid => ?_⟩
  · exact Nat.le_trans (List.length_filter_le ..) h.fits
  · have hsweep : (d.cache.sweep keep).get? later token = d.cache.get? later token := by
      refine Cache.get?_sweep h.tidy fun entry hentry hkeep => ?_
      rcases hdrop entry hentry hkeep with hexpired | hfull
      · exact Nat.le_trans hexpired (Nat.sub_le_sub_right hlater _)
      · exact absurd h.fits hfull
    change (d.cache.sweep keep).get? later token = some userid ↔ _
    rw [hsweep]
    exact h.found token later hlater userid

theorem order_cons (h : Remembers start calls d) (hinstant : call.instant = d.now) :
    (call :: calls).Pairwise fun newer older => older.instant.nanos ≤ newer.instant.nanos := by
  refine List.pairwise_cons.mpr ⟨fun older holder => ?_, h.order⟩
  rw [hinstant]
  exact h.past older holder

theorem past_cons (h : Remembers start calls d) (hinstant : call.instant = d.now) :
    ∀ other ∈ call :: calls, other.instant.nanos ≤ d.now.nanos := by
  have hnow : call.instant.nanos ≤ d.now.nanos := Nat.le_of_eq (congrArg Duration.nanos hinstant)
  exact List.forall_mem_cons.mpr ⟨hnow, h.past⟩

theorem cons_of_not (h : Remembers start calls d) (hinstant : call.instant = d.now)
    (hnot : ∀ userid, ¬ call.Finds userid) : Remembers start (call :: calls) d := by
  refine { h with past := h.past_cons hinstant, order := h.order_cons hinstant, found := ?_ }
  intro token later hlater userid
  rw [h.found token later hlater userid]
  simp only [lastFound_cons_of_not fun _ => hnot]

theorem put (h : Remembers start calls d) (hcapacity : start.cache.capacity ≠ 0)
    (hinstant : call.instant = d.now) (hfinds : call.Finds userid)
    (hfits : Desk.Fits { d with cache := d.cache.put d.now call.token userid }) :
    Remembers start (call :: calls) { d with cache := d.cache.put d.now call.token userid } where
  lifetime := (Cache.put_lifetime ..).trans h.lifetime
  capacity := Cache.put_capacity.trans h.capacity
  tidy := h.tidy.put
  fits := hfits
  past := h.past_cons hinstant
  order := h.order_cons hinstant
  found token later hlater found := by
    have hpos : d.cache.capacity ≠ 0 := by rwa [h.capacity]
    dsimp only at hlater ⊢
    by_cases htoken : call.token = token
    · subst htoken
      simp only [lastFound_cons_self hfinds, Cache.get?_put_self hpos, Option.ite_none_right_eq_some,
        Option.some.injEq, Call.Within, h.lifetime]
      constructor
      · rintro ⟨hspan, rfl⟩
        refine ⟨call, ⟨rfl, rfl⟩, ?_⟩
        rw [hinstant]
        omega
      · rintro ⟨last, ⟨rfl, rfl⟩, hspan⟩
        rw [hinstant] at hspan
        exact ⟨by omega, rfl⟩
    · rw [Cache.get?_put_ne htoken, h.found token later hlater found]
      simp only [lastFound_cons_of_not fun htoken' => absurd htoken' htoken]

theorem cons (h : Remembers start calls d) (hcapacity : start.cache.capacity ≠ 0)
    (hmakes : Makes keys d call d') (hfits : d'.Fits) : Remembers start (call :: calls) d' := by
  have hinstant : call.instant = d'.now := hmakes.instant
  cases hmakes.outcome with
  | hit userid _ hquiet _ hd =>
    subst hd
    exact h.cons_of_not hinstant fun _ hfinds => hquiet hfinds.1
  | found userid m _ hlooks hresult hwaits hd =>
    subst hd
    exact (h.wait hwaits).put hcapacity hinstant ⟨hlooks.queries, hresult⟩ hfits
  | failed _ _ hfails hwaits =>
    exact (h.wait hwaits).cons_of_not hinstant fun userid hfinds => hfails userid hfinds.2

end Remembers

theorem Past.remembers (h : Past keys start calls d) (hempty : start.cache.entries = [])
    (hcapacity : start.cache.capacity ≠ 0) : Remembers start calls d := by
  induction h with
  | nil => exact .nil hempty
  | call _ hmakes hfits ih => exact ih.cons hcapacity hmakes hfits
  | wait _ hwaits ih => exact ih.wait hwaits
  | drop keep _ hdrop ih => exact ih.drop hdrop

theorem Makes.now_le (h : Makes keys d call d') : d.now.nanos ≤ d'.now.nanos := by
  cases h.outcome with
  | hit _ _ _ _ hd =>
    subst hd
    exact Nat.le_refl _
  | found userid m _ _ _ hwaits hd =>
    rw [hd]
    exact hwaits.2
  | failed _ _ _ hwaits => exact hwaits.2

theorem Past.split {newer older : List Call} (h : Past keys start (newer ++ last :: older) d) :
    ∃ m m', Past keys start older m ∧ Makes keys m last m' ∧ m.now.nanos ≤ d.now.nanos := by
  generalize hcalls : newer ++ last :: older = calls at h
  induction h generalizing newer with
  | nil => simp at hcalls
  | @call calls d d' call hpast hmakes _ ih =>
    rcases newer with _ | ⟨first, newer⟩
    · obtain ⟨rfl, rfl⟩ := List.cons.inj hcalls
      exact ⟨d, d', hpast, hmakes, hmakes.now_le⟩
    · obtain ⟨-, hcalls⟩ := List.cons.inj hcalls
      obtain ⟨m, m', holder, hlast, hnow⟩ := ih hcalls
      exact ⟨m, m', holder, hlast, Nat.le_trans hnow hmakes.now_le⟩
  | wait _ hwaits ih =>
    obtain ⟨m, m', holder, hlast, hnow⟩ := ih hcalls
    exact ⟨m, m', holder, hlast, Nat.le_trans hnow hwaits.2⟩
  | drop _ _ _ ih => exact ih hcalls

/-! ## Every resolution of a history -/

/-- The label queries were answered from one state of the cluster. -/
def Call.Sees (call : Call) (view : ClusterView) : Prop :=
  ∀ kind selector answer, (⟨.labels kind selector, answer⟩ : Step surroundings) ∈ call.steps →
    answer = view.labels kind selector

/-- In this state of the cluster a look-up comes to the owner. -/
def ClusterView.Shows (view : ClusterView) (keys : LabelNames) (token : Token) (userid : String) : Prop :=
  ∃ steps, (lookup keys token).Ends steps (.ok (some userid)) ∧
    ∀ kind answer, posed keys token kind answer ∈ steps → answer = view.labels kind (keys.selector token)

structure Recalled (keys : LabelNames) (start : Desk) (calls : List Call) (d : Desk) (call : Call)
    (d' : Desk) : Prop where
  quiet : ¬ call.Queries ↔ ∃ earlier ∈ calls, earlier.token = call.token ∧
    (∃ userid, earlier.Finds userid) ∧ earlier.Within start.cache.lifetime d.now
  hit : ¬ call.Queries → d' = d ∧ ∃ last userid, LastFound call.token calls last userid ∧
    last.Within start.cache.lifetime d.now ∧ call.result = .ok (some userid)
  looks : call.Queries → call.LooksUp keys
  failed : call.Fails → call.LooksUp keys ∧ d'.cache = d.cache
  again (newer : List Call) (last : Call) (older : List Call) : calls = newer ++ last :: older →
    (∀ other ∈ newer, other.token ≠ call.token) → last.token = call.token → last.Fails → call.Queries
  shown (view : ClusterView) (userid : String) : call.Queries → call.Sees view →
    view.Shows keys call.token userid → call.result = .ok (some userid)

theorem Past.quiet_iff (h : Past keys start calls d) (hempty : start.cache.entries = [])
    (hcapacity : start.cache.capacity ≠ 0) (hmakes : Makes keys d call d') :
    ¬ call.Queries ↔ ∃ earlier ∈ calls, earlier.token = call.token ∧
      (∃ userid, earlier.Finds userid) ∧ earlier.Within start.cache.lifetime d.now := by
  have hremembers : Remembers start calls d := h.remembers hempty hcapacity
  have hfound := hremembers.found call.token d.now (Nat.le_refl _)
  rw [hmakes.queries_iff, ← ne_eq, Option.ne_none_iff_exists']
  constructor
  · rintro ⟨userid, hget⟩
    obtain ⟨last, ⟨newer, older, rfl, htoken, hfinds, -⟩, hwithin⟩ := (hfound userid).mp hget
    exact ⟨last, by simp, htoken, ⟨userid, hfinds⟩, hwithin⟩
  · rintro ⟨earlier, hmem, htoken, ⟨_, hfinds⟩, hwithin⟩
    -- the entry is that of the last find, which is no older than this one
    obtain ⟨last, userid, hlast⟩ := exists_lastFound hmem hfinds
    rw [htoken] at hlast
    have hnewest : earlier.instant.nanos ≤ last.instant.nanos :=
      hlast.newest hremembers.order hmem htoken hfinds
    exact ⟨userid, (hfound userid).mpr ⟨last, hlast, by rw [Call.Within] at *; omega⟩⟩

theorem Call.Fails.looksUp (hfails : call.Fails) (h : Makes keys d call d') :
    call.LooksUp keys ∧ d'.cache = d.cache := by
  cases h.outcome with
  | hit userid _ _ hresult => exact absurd hresult (hfails userid)
  | found userid _ _ _ hresult => exact absurd hresult (hfails userid)
  | failed _ hlooks _ hwaits => exact ⟨hlooks, hwaits.1⟩

theorem Past.queries_again {newer older : List Call} (h : Past keys start (newer ++ last :: older) d)
    (hempty : start.cache.entries = []) (hcapacity : start.cache.capacity ≠ 0)
    (hnewer : ∀ other ∈ newer, other.token ≠ call.token) (htoken : last.token = call.token)
    (hfails : last.Fails) (hmakes : Makes keys d call d') : call.Queries := by
  obtain ⟨m, m', holder, hlast, hnow⟩ := h.split
  have hqueries : last.Queries := (hfails.looksUp hlast).1.queries
  by_contra hquiet
  obtain ⟨earlier, hmem, hearlier, ⟨userid, hfinds⟩, hwithin⟩ :=
    (h.quiet_iff hempty hcapacity hmakes).mp hquiet
  rcases List.mem_append.mp hmem with hmem | hmem
  · exact hnewer earlier hmem hearlier
  · rcases List.mem_cons.mp hmem with rfl | hmem
    · exact hfails userid hfinds.2
    · -- what is remembered now was remembered before the last resolution
      refine (holder.quiet_iff hempty hcapacity hlast).mpr ⟨earlier, hmem, ?_, ⟨userid, hfinds⟩, ?_⟩ hqueries
      · rw [hearlier, htoken]
      · exact Nat.lt_of_le_of_lt hnow hwithin

theorem Call.LooksUp.shown {view : ClusterView} (h : call.LooksUp keys) (hsees : call.Sees view)
    (hshows : view.Shows keys call.token userid) : call.result = .ok (some userid) := by
  obtain ⟨asked, hasked, hsteps⟩ := h
  obtain ⟨steps, hends, hshown⟩ := hshows
  refine (lookupIn_ends_iff.mp hasked).result_unique (lookupIn_ends_iff.mp hends) ?_
  intro kind answer answer' hmem hmem'
  rw [hshown kind answer' hmem']
  refine hsees kind _ answer ?_
  rw [hsteps]
  exact List.mem_cons_of_mem _ (List.mem_append_left _ hmem)

theorem Past.recalled (h : Past keys start calls d) (hempty : start.cache.entries = [])
    (hcapacity : start.cache.capacity ≠ 0) (hmakes : Makes keys d call d') :
    Recalled keys start calls d call d' where
  quiet := h.quiet_iff hempty hcapacity hmakes
  hit hquiet := by
    cases hmakes.outcome with
    | hit userid hget _ hresult hd =>
      obtain ⟨last, hlast, hwithin⟩ :=
        ((h.remembers hempty hcapacity).found call.token d.now (Nat.le_refl _) userid).mp hget
      exact ⟨hd, last, userid, hlast, hwithin, hresult⟩
    | found _ _ _ hlooks => exact absurd hlooks.queries hquiet
    | failed _ hlooks => exact absurd hlooks.queries hquiet
  looks := hmakes.looksUp
  failed hfails := hfails.looksUp hmakes
  again newer last older hcalls hnewer htoken hfails := by
    subst hcalls
    exact h.queries_again hempty hcapacity hnewer htoken hfails hmakes
  shown view userid hqueries hsees hshows := (hmakes.looksUp hqueries).shown hsees hshows

def Desk.instantly (keys : LabelNames) (d : Desk) (token : Token) : Call where
  token := token
  steps := d.steps (resolve keys token)
  result := (d.run (resolve keys token)).1
  instant := (d.run (resolve keys token)).2.now

theorem Desk.makes_instantly (keys : LabelNames) (d : Desk) (token : Token) :
    Makes keys d (d.instantly keys token) (d.run (resolve keys token)).2 where
  ends := by
    have hends := Program.ends_run (fun _ d => d) Desk.answer (resolve keys token) d
    exact hends
  along := Desk.along_run d (resolve keys token)
  instant := rfl

/-- After any history of resolutions within the capacity of the cache there is a resolution of every token,
and it asks the cluster exactly where it must. Those that failed had asked too. -/
theorem resolve_recalls (hempty : start.cache.entries = []) (hcapacity : start.cache.capacity ≠ 0)
    (hpast : Past keys start calls d) :
    (∀ token, ∃ call d', call.token = token ∧ Makes keys d call d') ∧
      (∀ earlier ∈ calls, earlier.Fails → earlier.LooksUp keys) ∧
        ∀ call d', Makes keys d call d' → Recalled keys start calls d call d' := by
  refine ⟨fun token => ⟨_, _, rfl, Desk.makes_instantly keys d token⟩, fun earlier hmem hfails => ?_,
    fun call d' hmakes => hpast.recalled hempty hcapacity hmakes⟩
  obtain ⟨newer, older, rfl⟩ := List.append_of_mem hmem
  obtain ⟨m, m', -, hmakes, -⟩ := hpast.split
  exact (hfails.looksUp hmakes).1

def earlyDesk : Desk := { smallDesk with view := ⟨fun _ _ => .ok none, .ok ()⟩ }

def ownedDesk : Desk := { earlyDesk with now := .ofSecs 5, view := ownedView }

/-- One second before the owner is forgotten. -/
def laterDesk : Desk := { (ownedDesk.run (resolve .default sampleToken)).2 with now := .ofSecs 64 }

def earlyCalls : List Call :=
  [ownedDesk.instantly .default sampleToken, earlyDesk.instantly .default sampleToken]

/-- The first resolution fails, the second one finds the owner, and the third one is a hit. -/
theorem resolve_recalls_early : Past .default earlyDesk earlyCalls laterDesk ∧
    (earlyDesk.instantly .default sampleToken).LooksUp .default ∧
    ∃ call d', Makes .default laterDesk call d' ∧ call.token = sampleToken ∧ ¬ call.Queries ∧
      d' = laterDesk := by
  have hearly : Past .default earlyDesk [earlyDesk.instantly .default sampleToken] _ :=
    Past.nil.call (Desk.makes_instantly .default earlyDesk sampleToken) (by decide +kernel)
  have hwaits : (earlyDesk.run (resolve .default sampleToken)).2.Waits ownedDesk := ⟨rfl, by decide +kernel⟩
  have howned : Past .default earlyDesk earlyCalls (ownedDesk.run (resolve .default sampleToken)).2 :=
    (hearly.wait hwaits).call (Desk.makes_instantly .default ownedDesk sampleToken) (by decide +kernel)
  have hlater : Past .default earlyDesk earlyCalls laterDesk := howned.wait ⟨rfl, by decide +kernel⟩
  have hfails : (earlyDesk.instantly .default sampleToken).Fails := by
    intro userid hresult
    have hnone : (earlyDesk.instantly .default sampleToken).result = .ok none := rfl
    rw [hnone] at hresult
    cases hresult
  have hfinds : (ownedDesk.instantly .default sampleToken).Finds "alice" := by
    have hasked : posed .default sampleToken .service (.ok (some [(LabelNames.default.user, "alice")])) ∈
        (ownedDesk.instantly .default sampleToken).steps :=
      List.mem_cons_of_mem _ (List.mem_cons_self ..)
    exact ⟨⟨_, _, _, hasked⟩, rfl⟩
  obtain ⟨hmakes, hfailed, hrecalled⟩ := resolve_recalls rfl (by decide) hlater
  obtain ⟨call, d', htoken, hcall⟩ := hmakes sampleToken
  have hquiet : ¬ call.Queries := by
    refine (hrecalled call d' hcall).quiet.mpr ⟨_, List.mem_cons_self .., htoken.symm, ⟨"alice", hfinds⟩, ?_⟩
    rw [Call.Within]
    decide +kernel
  refine ⟨hlater, hfailed _ (by simp [earlyCalls]) hfails, call, d', hcall, htoken, hquiet, ?_⟩
  exact ((hrecalled call d' hcall).hit hquiet).1

end SessionGate.Gateway
