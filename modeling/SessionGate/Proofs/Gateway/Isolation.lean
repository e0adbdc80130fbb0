import SessionGate.Proofs.Gateway.Traffic

/-! # Sessions do not see each other

* `Desk`: a cache at an instant, before a cluster. An `Act` resolves, reads or writes a token, lets time
  pass or changes what the cluster answers.
* `Runs`: acts in their order. Between two of them the cache may drop entries, of those that have not
  expired only while it holds more than its capacity.
* `Alike`: two desks that a token cannot tell apart, neither now nor later. Acts on the token keep them so
  (`Alike.act_own`), and so do acts on other tokens at one of the two (`Alike.act_other`).
* `resolve_isolated`: a resolution asks the same and comes to the same as if the other tokens had never
  been there.
-/
namespace SessionGate.Gateway
set_option autoImplicit false
open Session (Token LabelNames)
open Program (Step Respects)

variable {keys : LabelNames} {token other : Token} {userid : String} {now later : Duration} {cache : Cache}
  {keep : CacheEntry → Bool}

/-! ## What a cache finds -/

namespace Cache

/-- Each token has one entry, and without capacity there is none. -/
structure Tidy (cache : Cache) : Prop where
  distinct : (cache.entries.map (·.token)).Nodup
  empty : cache.capacity = 0 → cache.entries = []

/-- Drops all entries but some. -/
def sweep (cache : Cache) (keep : CacheEntry → Bool) : Cache :=
  { cache with entries := cache.entries.filter keep }

theorem put_of_zero (h : cache.capacity = 0) : cache.put now token userid = cache := if_pos h

theorem put_of_pos (h : cache.capacity ≠ 0) : cache.put now token userid = { cache with
    entries := ⟨token.text, userid, now⟩ :: cache.entries.filter (·.token != token.text) } := if_neg h

theorem put_capacity : (cache.put now token userid).capacity = cache.capacity := by
  rw [put]
  split <;> rfl

theorem get?_put_self (h : cache.capacity ≠ 0) : (cache.put now token userid).get? later token =
    if later.nanos - now.nanos < cache.lifetime.nanos then some userid else none := by
  simp [put_of_pos h, get?]

theorem get?_put_ne (h : other ≠ token) :
    (cache.put now other userid).get? later token = cache.get? later token := by
  have htext : other.text ≠ token.text := fun htext => h (Token.eq_of_text htext)
  by_cases hcapacity : cache.capacity = 0
  · rw [put_of_zero hcapacity]
  · have hfind : List.find? (·.token == token.text) (cache.entries.filter (·.token != other.text)) =
        cache.entries.find? (·.token == token.text) := by
      rw [List.find?_filter]
      congr 1
      funext entry
      by_cases hentry : entry.token = token.text
      · simp [hentry, htext.symm]
      · simp [hentry]
    rw [put_of_pos hcapacity, get?, List.find?_cons_of_neg (by simpa using htext), hfind]
    rfl

/-- Among distinct tokens nothing stands behind an entry that is dropped. -/
theorem find?_filter_of_distinct {entries : List CacheEntry} (h : (entries.map (·.token)).Nodup)
    (text : String) : (entries.filter keep).find? (·.token == text) =
      (entries.find? (·.token == text)).filter keep := by
  induction entries with
  | nil => rfl
  | cons entry entries ih =>
    obtain ⟨hnotin, hrest⟩ := List.nodup_cons.mp h
    rw [List.find?_cons, List.filter_cons]
    cases hentry : entry.token == text with
    | true =>
      have hnone : (entries.filter keep).find? (·.token == text) = none := by
        refine List.find?_eq_none.mpr fun e he htext => hnotin (List.mem_map.mpr ⟨e, ?_, ?_⟩)
        · exact (List.mem_filter.mp he).1
        · exact (beq_iff_eq.mp htext).trans (beq_iff_eq.mp hentry).symm
      rw [Option.filter_some]
      split
      · rw [List.find?_cons, hentry]
      · exact hnone
    | false =>
      dsimp only
      rw [← ih hrest]
      split
      · rw [List.find?_cons, hentry]
      · rfl

/-- A cache that drops expired entries finds the same as before. -/
theorem get?_sweep (h : cache.Tidy) (hexpired : ∀ entry ∈ cache.entries, keep entry = false →
      cache.lifetime.nanos ≤ later.nanos - entry.putAt.nanos) :
    (cache.sweep keep).get? later token = cache.get? later token := by
  rw [get?, get?, sweep, find?_filter_of_distinct h.distinct]
  cases hfind : cache.entries.find? (·.token == token.text) with
  | none => rfl
  | some entry =>
    rw [Option.filter_some]
    cases hkeep : keep entry with
    | true => rfl
    | false =>
      have hold := hexpired entry (List.mem_of_find?_eq_some hfind) hkeep
      exact (if_neg (Nat.not_lt.mpr hold)).symm

theorem Tidy.put (h : cache.Tidy) : (cache.put now token userid).Tidy := by
  by_cases hcapacity : cache.capacity = 0
  · rwa [put_of_zero hcapacity]
  · rw [put_of_pos hcapacity]
    refine ⟨List.nodup_cons.mpr ⟨?_, ?_⟩, fun hzero => absurd hzero hcapacity⟩
    · intro hmem
      obtain ⟨entry, hentry, htext⟩ := List.mem_map.mp hmem
      simpa [htext] using (List.mem_filter.mp hentry).2
    · exact h.distinct.sublist (List.filter_sublist.map _)

theorem Tidy.sweep (h : cache.Tidy) : (cache.sweep keep).Tidy := by
  refine ⟨h.distinct.sublist (List.filter_sublist.map _), fun hzero => ?_⟩
  rw [Cache.sweep, h.empty hzero]
  rfl

end Cache

/-! ## Acts -/

/-- A cache at an instant, before a cluster. -/
structure Desk where
  cache : Cache
  now : Duration
  view : ClusterView

inductive Act where
  | resolve (token : Token)
  | get (token : Token)
  | put (token : Token) (userid : String)
  | elapse (span : Duration)
  | change (view : ClusterView)

/-- The token that an act is on, if it is on one. -/
def Act.token? : Act → Option Token
  | .resolve token | .get token | .put token _ => some token
  | .elapse _ | .change _ => none

/-- The act is on no other token. -/
def Act.isFor (token : Token) (act : Act) : Bool := act.token?.all (· == token)

/-- The question does not touch the entry of another token. -/
def Question.IsFor (token : Token) : Question → Prop
  | .cached other | .remember other _ => other = token
  | .labels .. | .probe => True

namespace Desk

def answer : (q : Question) → Desk → q.Answer × Desk
  | .cached token, d => (d.cache.get? d.now token, d)
  | .remember token userid, d => ((), { d with cache := d.cache.put d.now token userid })
  | .labels kind selector, d => (d.view.labels kind selector, d)
  | .probe, d => (d.view.probe, d)

variable {α : Type}

/-- Runs a program; what it reports is not kept. -/
def run (d : Desk) (p : Program surroundings α) : α × Desk := p.run (fun _ d => d) answer d

/-- What a program asks and is answered. -/
def steps (d : Desk) (p : Program surroundings α) : List (Step surroundings) :=
  p.history (fun _ d => d) (fun q d => (some (answer q d).1, (answer q d).2)) d

def act (keys : LabelNames) (d : Desk) : Act → Desk
  | .resolve token => (d.run (resolve keys token)).2
  | .get token => (d.run (askCached token)).2
  | .put token userid => (d.run (remember token userid)).2
  | .elapse span => { d with now := ⟨d.now.nanos + span.nanos⟩ }
  | .change view => { d with view }

/-- One act after the other, and nothing is dropped. -/
def perform (keys : LabelNames) (d : Desk) (acts : List Act) : Desk := acts.foldl (act keys) d

/-- The cached tokens, each of which has one entry, are no more than the capacity. -/
def Fits (d : Desk) : Prop := d.cache.entries.length ≤ d.cache.capacity

instance (d : Desk) : Decidable d.Fits := inferInstanceAs (Decidable (_ ≤ _))

/-- An entry may be dropped when it has expired, or when the cache holds more than its capacity. -/
def MayDrop (d : Desk) (keep : CacheEntry → Bool) : Prop :=
  ∀ entry ∈ d.cache.entries, keep entry = false →
    d.cache.lifetime.nanos ≤ d.now.nanos - entry.putAt.nanos ∨ ¬ d.Fits

instance (d : Desk) (keep : CacheEntry → Bool) : Decidable (d.MayDrop keep) :=
  inferInstanceAs (Decidable (∀ entry ∈ d.cache.entries, _ → _))

def sweep (d : Desk) (keep : CacheEntry → Bool) : Desk := { d with cache := d.cache.sweep keep }

end Desk

/-- The acts lead from a desk to another one, and `ok` holds all the way. Entries may be dropped before each
act and at the end. -/
inductive Runs (keys : LabelNames) (ok : Desk → Prop) : Desk → List Act → Desk → Prop where
  | done {d : Desk} : ok d → Runs keys ok d [] d
  | act {d d' : Desk} {acts : List Act} (act : Act) :
    ok d → Runs keys ok (d.act keys act) acts d' → Runs keys ok d (act :: acts) d'
  | drop {d d' : Desk} {acts : List Act} (keep : CacheEntry → Bool) :
    ok d → d.MayDrop keep → Runs keys ok (d.sweep keep) acts d' → Runs keys ok d acts d'

/-- There is a run of any acts. -/
theorem Runs.perform (d : Desk) (acts : List Act) :
    Runs keys (fun _ => True) d acts (d.perform keys acts) := by
  induction acts generalizing d with
  | nil => exact .done trivial
  | cons act acts ih => exact .act act trivial (ih _)

/-! ## What acts touch -/

theorem resolve_isFor (keys : LabelNames) (token : Token) :
    (resolve keys token).Respects (fun _ => Question.IsFor token) (fun _ _ => True) [] := by
  refine (resolve_respects keys token).imp (fun past q hq => ?_) fun _ _ _ => trivial
  cases q with
  | cached other => exact hq
  | remember other userid => exact hq.1
  | labels | probe => trivial

variable {P : Desk → Prop} {d d' : Desk}

/-- What the answers to a program's questions keep is kept by its run. -/
theorem Desk.run_keeps {α : Type} {p : Program surroundings α} {past : List (Step surroundings)}
    {allowed : Question → Prop} (hanswer : ∀ q d, allowed q → P d → P (answer q d).2)
    (hp : p.Respects (fun _ => allowed) (fun _ _ => True) past) (hd : P d) : P (d.run p).2 := by
  induction p generalizing past d with
  | done result => exact hd
  | note event next ih => exact ih hp hd
  | ask q next ih => exact ih _ (hp.2 _) (hanswer q d hp.1 hd)

/-- What every answer about the token of an act keeps, and the passing of time and changes of the cluster
too, is kept by the act. -/
theorem Desk.act_keeps (act : Act)
    (hanswer : ∀ token, act.token? = some token → ∀ q d, q.IsFor token → P d → P (answer q d).2)
    (hidle : act.token? = none → P d → P (d.act keys act)) (hd : P d) : P (d.act keys act) := by
  cases act with
  | resolve token => exact run_keeps (hanswer token rfl) (resolve_isFor keys token) hd
  | get token => exact hanswer token rfl (.cached token) d rfl hd
  | put token userid => exact hanswer token rfl (.remember token userid) d rfl hd
  | elapse | change => exact hidle rfl hd

/-! ## Desks that a token cannot tell apart -/

/-- Whenever the token is looked up, from now on, the two caches find the same, and all else is the same. -/
structure Alike (token : Token) (d d' : Desk) : Prop where
  now : d'.now = d.now
  view : d'.view = d.view
  lifetime : d'.cache.lifetime = d.cache.lifetime
  capacity : d'.cache.capacity = d.cache.capacity
  found : ∀ later, d.now.nanos ≤ later.nanos → d'.cache.get? later token = d.cache.get? later token

namespace Alike

theorem refl (d : Desk) : Alike token d d := ⟨rfl, rfl, rfl, rfl, fun _ _ => rfl⟩

theorem symm (h : Alike token d d') : Alike token d' d :=
  ⟨h.now.symm, h.view.symm, h.lifetime.symm, h.capacity.symm,
    fun later hlater => (h.found later (h.now ▸ hlater)).symm⟩

theorem trans {d'' : Desk} (h : Alike token d d') (h' : Alike token d' d'') : Alike token d d'' :=
  ⟨h'.now.trans h.now, h'.view.trans h.view, h'.lifetime.trans h.lifetime, h'.capacity.trans h.capacity,
    fun later hlater => (h'.found later (h.now.symm ▸ hlater)).trans (h.found later hlater)⟩

/-! ### Questions -/

/-- A question about the token is answered in the same way at both. -/
theorem answer_own (h : Alike token d d') {q : Question} (hq : q.IsFor token) :
    (Desk.answer q d').1 = (Desk.answer q d).1 ∧ Alike token (Desk.answer q d).2 (Desk.answer q d').2 := by
  cases q with
  | cached other =>
    obtain rfl : other = token := hq
    refine ⟨?_, h⟩
    change d'.cache.get? d'.now other = d.cache.get? d.now other
    rw [h.now]
    exact h.found d.now (Nat.le_refl _)
  | remember other userid =>
    obtain rfl : other = token := hq
    refine ⟨rfl, h.now, h.view, ?_, ?_, fun later hlater => ?_⟩
    · exact (Cache.put_lifetime ..).trans (h.lifetime.trans (Cache.put_lifetime ..).symm)
    · exact Cache.put_capacity.trans (h.capacity.trans Cache.put_capacity.symm)
    · change (d'.cache.put d'.now other userid).get? later other =
        (d.cache.put d.now other userid).get? later other
      by_cases hzero : d.cache.capacity = 0
      · rw [Cache.put_of_zero hzero, Cache.put_of_zero (h.capacity.trans hzero)]
        exact h.found later hlater
      · have hpos : d'.cache.capacity ≠ 0 := fun hzero' => hzero (h.capacity.symm.trans hzero')
        rw [Cache.get?_put_self hzero, Cache.get?_put_self hpos, h.now, h.lifetime]
  | labels kind selector =>
    refine ⟨?_, h⟩
    change d'.view.labels kind selector = d.view.labels kind selector
    rw [h.view]
  | probe =>
    refine ⟨?_, h⟩
    change d'.view.probe = d.view.probe
    rw [h.view]

/-- A question about another token changes nothing for this one. -/
theorem answer_other (hne : other ≠ token) {q : Question} (hq : q.IsFor other) (h : Alike token d d') :
    Alike token (Desk.answer q d).2 d' := by
  cases q with
  | remember asked userid =>
    obtain rfl : asked = other := hq
    refine ⟨h.now, h.view, ?_, ?_, fun later hlater => ?_⟩
    · exact h.lifetime.trans (Cache.put_lifetime ..).symm
    · exact h.capacity.trans Cache.put_capacity.symm
    · exact (h.found later hlater).trans (Cache.get?_put_ne hne).symm
  | cached | labels | probe => exact h

/-- A program that asks about the token alone asks the same at both and comes to the same. -/
theorem run_own {α : Type} {p : Program surroundings α} {past : List (Step surroundings)}
    (hp : p.Respects (fun _ => Question.IsFor token) (fun _ _ => True) past) (h : Alike token d d') :
    (d'.run p).1 = (d.run p).1 ∧ d'.steps p = d.steps p ∧ Alike token (d.run p).2 (d'.run p).2 := by
  induction p generalizing past d d' with
  | done result => exact ⟨rfl, rfl, h⟩
  | note event next ih => exact ih hp h
  | ask q next ih =>
    obtain ⟨hask, hnext⟩ := hp
    obtain ⟨hanswer, halike⟩ := h.answer_own hask
    obtain ⟨hresult, hsteps, hends⟩ := ih _ (hnext (Desk.answer q d).1) halike
    refine ⟨?_, ?_, ?_⟩
    · change ((Desk.answer q d').2.run (next (Desk.answer q d').1)).1 = _
      rw [hanswer]
      exact hresult
    · change ⟨q, (Desk.answer q d').1⟩ :: (Desk.answer q d').2.steps (next (Desk.answer q d').1) = _
      rw [hanswer, hsteps]
      rfl
    · change Alike token _ ((Desk.answer q d').2.run (next (Desk.answer q d').1)).2
      rw [hanswer]
      exact hends

/-! ### Acts -/

theorem act_own {act : Act} (hact : act.isFor token = true) (h : Alike token d d') :
    Alike token (d.act keys act) (d'.act keys act) := by
  have htoken : ∀ other, act.token? = some other → other = token := by
    intro other hother
    rw [Act.isFor, hother] at hact
    exact beq_iff_eq.mp hact
  cases act with
  | resolve other =>
    obtain rfl := htoken other rfl
    exact (h.run_own (resolve_isFor keys other)).2.2
  | get other => exact h
  | put other userid => exact (h.answer_own (q := .remember other userid) (htoken other rfl)).2
  | elapse span =>
    refine { h with now := congrArg (fun t : Duration => Duration.mk (t.nanos + span.nanos)) h.now, found := ?_ }
    intro later hlater
    exact h.found later (Nat.le_of_add_right_le hlater)
  | change view => exact { h with view := rfl }

theorem act_other {act : Act} (hact : act.isFor token = false) (h : Alike token d d') :
    Alike token (d.act keys act) d' := by
  refine Desk.act_keeps (P := (Alike token · d')) act ?_ ?_ h
  · intro other hother q d hq
    rw [Act.isFor, hother] at hact
    exact answer_other (beq_eq_false_iff_ne.mp hact) hq
  · intro hnone
    rw [Act.isFor, hnone] at hact
    cases hact

theorem act (h : Alike token d d') (act : Act) : Alike token (d.act keys act) (d'.act keys act) := by
  cases hact : act.isFor token with
  | true => exact h.act_own hact
  | false => exact ((h.act_other hact).symm.act_other hact).symm

/-- Acts on other tokens can be left out. -/
theorem perform_filter (h : Alike token d d') (acts : List Act) :
    Alike token (d.perform keys acts) (d'.perform keys (acts.filter (Act.isFor token))) := by
  induction acts generalizing d d' with
  | nil => exact h
  | cons act acts ih =>
    cases hact : act.isFor token with
    | true =>
      rw [List.filter_cons_of_pos hact]
      exact ih (h.act_own hact)
    | false =>
      rw [List.filter_cons_of_neg (by simp [hact])]
      exact ih (h.act_other hact)

/-- A cache within its capacity drops what no look-up would find. -/
theorem sweep (h : Alike token d d') (htidy : d.cache.Tidy) (hfits : d.Fits) (hdrop : d.MayDrop keep) :
    Alike token (d.sweep keep) d' := by
  refine ⟨h.now, h.view, h.lifetime, h.capacity, fun later hlater => ?_⟩
  refine (h.found later hlater).trans (Cache.get?_sweep htidy fun entry hentry hkeep => ?_).symm
  rcases hdrop entry hentry hkeep with hexpired | hfull
  · exact Nat.le_trans hexpired (Nat.sub_le_sub_right hlater _)
  · exact absurd hfits hfull

end Alike

/-! ## Runs within the capacity -/

namespace Desk

theorem tidy_act (act : Act) (h : d.cache.Tidy) : (d.act keys act).cache.Tidy := by
  refine act_keeps (P := fun d => d.cache.Tidy) act (fun _ _ q d _ h => ?_) (fun hidle h => ?_) h
  · cases q with
    | remember token userid => exact h.put
    | cached | labels | probe => exact h
  · cases act with
    | elapse | change => exact h
    | resolve | get | put => cases hidle

/-- Nothing is cached but the owner of one token. -/
def HoldsOnly (token : Token) (d : Desk) : Prop := ∀ entry ∈ d.cache.entries, entry.token = token.text

theorem holdsOnly_act {act : Act} (hact : act.isFor token = true) (h : HoldsOnly token d) :
    HoldsOnly token (d.act keys act) := by
  refine act_keeps act (fun other hother q d hq h => ?_) (fun hidle h => ?_) h
  · rw [Act.isFor, hother] at hact
    obtain rfl : other = token := beq_iff_eq.mp hact
    cases q with
    | remember asked userid =>
      obtain rfl : asked = other := hq
      intro entry hentry
      rcases Cache.mem_put hentry with rfl | hentry
      · rfl
      · exact h entry hentry
    | cached | labels | probe => exact h
  · cases act with
    | elapse | change => exact h
    | resolve | get | put => cases hidle

theorem HoldsOnly.fits (h : HoldsOnly token d) (htidy : d.cache.Tidy) : d.Fits := by
  by_cases hzero : d.cache.capacity = 0
  · rw [Fits, htidy.empty hzero]
    exact Nat.zero_le _
  · have htokens : d.cache.entries.map (·.token) = List.replicate d.cache.entries.length token.text := by
      rw [List.eq_replicate_iff]
      refine ⟨List.length_map _, fun text htext => ?_⟩
      obtain ⟨entry, hentry, rfl⟩ := List.mem_map.mp htext
      exact h entry hentry
    have hone : d.cache.entries.length ≤ 1 := by
      rw [← List.nodup_replicate (a := token.text), ← htokens]
      exact htidy.distinct
    exact Nat.le_trans hone (Nat.one_le_iff_ne_zero.mpr hzero)

end Desk

variable {ok : Desk → Prop} {acts : List Act} {start : Desk}

/-- Acts on one token fit into every cache. -/
theorem Runs.fits (h : Runs keys ok d acts d') (hacts : ∀ act ∈ acts, act.isFor token = true)
    (htidy : d.cache.Tidy) (honly : d.HoldsOnly token) : Runs keys Desk.Fits d acts d' := by
  induction h with
  | done => exact .done (honly.fits htidy)
  | act act _ _ ih =>
    obtain ⟨hact, hrest⟩ := List.forall_mem_cons.mp hacts
    exact .act act (honly.fits htidy) (ih hrest (Desk.tidy_act act htidy) (Desk.holdsOnly_act hact honly))
  | drop keep _ hdrop _ ih =>
    refine .drop keep (honly.fits htidy) hdrop (ih hacts htidy.sweep fun entry hentry => ?_)
    exact honly entry (List.mem_filter.mp hentry).1

/-- Within the capacity nothing that is dropped is missed. -/
theorem Runs.alike (h : Runs keys Desk.Fits d acts d') (htidy : d.cache.Tidy) {e : Desk}
    (halike : Alike token d e) : Alike token d' (e.perform keys acts) := by
  induction h generalizing e with
  | done => exact halike
  | act act _ _ ih => exact ih (Desk.tidy_act act htidy) (halike.act act)
  | drop keep hfits hdrop _ ih => exact ih htidy.sweep (halike.sweep htidy hfits hdrop)

/-! ## Isolation -/

/-- After acts that stayed within the capacity of a cache, a resolution comes to the same as after those
of the acts that are on its own token or on none, and asks the same questions, of the cache and of the
cluster. -/
theorem resolve_isolated (hempty : start.cache.entries = []) (hall : Runs keys Desk.Fits start acts d)
    (hown : Runs keys (fun _ => True) start (acts.filter (Act.isFor token)) d') :
    (d'.run (resolve keys token)).1 = (d.run (resolve keys token)).1 ∧
      d'.steps (resolve keys token) = d.steps (resolve keys token) := by
  have htidy : start.cache.Tidy := by
    refine ⟨?_, fun _ => hempty⟩
    rw [hempty]
    exact List.nodup_nil
  have honly : start.HoldsOnly token := by
    rw [Desk.HoldsOnly, hempty]
    exact List.forall_mem_nil _
  have hfits := hown.fits (fun act hact => (List.mem_filter.mp hact).2) htidy honly
  -- each run is like the one in which nothing is dropped, and these two are alike
  have halike : Alike token d d' :=
    (hall.alike htidy (.refl start)).trans
      (((Alike.refl start).perform_filter acts).trans (hfits.alike htidy (.refl start)).symm)
  obtain ⟨hresult, hsteps, -⟩ := halike.run_own (resolve_isFor keys token)
  exact ⟨hresult, hsteps⟩

/-- The session of `sampleToken`, but for the case of its letters. -/
def upperToken : Token := ⟨"ABC123", by decide⟩

def smallDesk : Desk := ⟨⟨.ofSecs 60, 2, []⟩, ⟨0⟩, ownedView⟩

/-- Both sessions are cached and expire, and the cluster loses its objects. -/
def crossingActs : List Act :=
  [.put upperToken "mallory", .resolve sampleToken, .elapse (.ofSecs 61), .resolve upperToken,
    .change ⟨fun _ _ => .ok none, .ok ()⟩]

/-- Of the two entries that have expired one is dropped. -/
theorem resolve_isolated_crossing : ∃ d d', Runs .default Desk.Fits smallDesk crossingActs d ∧
    Runs .default (fun _ => True) smallDesk (crossingActs.filter (Act.isFor sampleToken)) d' ∧
    (d'.run (resolve .default sampleToken)).1 = (d.run (resolve .default sampleToken)).1 ∧
    d'.steps (resolve .default sampleToken) = d.steps (resolve .default sampleToken) := by
  have hall : Runs .default Desk.Fits smallDesk crossingActs _ :=
    .act _ (by decide +kernel) (.act _ (by decide +kernel) (.act _ (by decide +kernel)
      (.drop (·.token == sampleToken.text) (by decide +kernel) (by decide +kernel)
        (.act _ (by decide +kernel) (.act _ (by decide +kernel) (.done (by decide +kernel)))))))
  have hown : Runs .default (fun _ => True) smallDesk (crossingActs.filter (Act.isFor sampleToken)) _ :=
    Runs.perform _ _
  exact ⟨_, _, hall, hown, resolve_isolated rfl hall hown⟩

end SessionGate.Gateway
