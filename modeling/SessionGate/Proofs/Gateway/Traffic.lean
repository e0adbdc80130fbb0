import SessionGate.Gateway.Cache
import SessionGate.Proofs.Gateway.Resolving

/-! # Resolutions that overlap

* `Traffic`: any number of resolutions over one cache, before a cluster that changes as it likes. A
  `Move` starts one, takes one a step further, changes what the cluster answers, lets time pass or
  drops entries of the cache.
* `Explains`: what a step of the past rests on. A read of the cache rests on a write under the same
  token that is younger than the lifetime, a write on an object that its own resolution was returned.
* `Sound` is kept by every move (`Sound.step`, `Sound.run`).
* `resolved_by_cluster`: an owner that any resolution comes to was returned to a query for its token.
-/
namespace SessionGate.Gateway
set_option autoImplicit false
open Session (Token ObjectKind Labels LabelNames)
open Program (Step Respects)

/-! ## Traffic -/

/-- What the cluster answers at present. -/
structure ClusterView where
  labels : (kind : ObjectKind) → (selector : String) → Except Cluster.Error (Option Labels)
  probe : Except Cluster.Error Unit

/-- A resolution and what is left of it. -/
structure Flight where
  token : Token
  rest : Program surroundings (Except Cluster.Error (Option String))

/-- A step of a resolution, and when it was made. -/
structure Incident where
  flight : Nat
  token : Token
  step : Step surroundings
  instant : Duration

structure Traffic where
  cache : Cache
  now : Duration
  view : ClusterView
  flights : List Flight
  /-- The newest first. -/
  past : List Incident

inductive Move where
  | start (token : Token)
  | advance (flight : Nat)
  | change (view : ClusterView)
  | elapse (span : Duration)
  | evict (keep : CacheEntry → Bool)

namespace Traffic

/-- Nothing has been resolved. -/
def quiet (cache : Cache) (now : Duration) (view : ClusterView) : Traffic := ⟨cache, now, view, [], []⟩

def answer (t : Traffic) : (q : Question) → q.Answer
  | .cached token => t.cache.get? t.now token
  | .remember .. => ()
  | .labels kind selector => t.view.labels kind selector
  | .probe => t.view.probe

def cacheAfter (t : Traffic) : Question → Cache
  | .remember token userid => t.cache.put t.now token userid
  | _ => t.cache

/-- Takes a resolution a step further. -/
def goOn (t : Traffic) (i : Nat) (flight : Flight) : Traffic :=
  match flight.rest with
  | .done _ => t
  | .note _ next => { t with flights := t.flights.set i { flight with rest := next } }
  | .ask q next =>
    { t with
      cache := t.cacheAfter q
      flights := t.flights.set i { flight with rest := next (t.answer q) }
      past := ⟨i, flight.token, ⟨q, t.answer q⟩, t.now⟩ :: t.past }

def step (keys : LabelNames) (t : Traffic) : Move → Traffic
  | .start token => { t with flights := t.flights ++ [⟨token, resolve keys token⟩] }
  | .advance i =>
    match t.flights[i]? with
    | some flight => t.goOn i flight
    | none => t
  | .change view => { t with view }
  | .elapse span => { t with now := ⟨t.now.nanos + span.nanos⟩ }
  | .evict keep => { t with cache := { t.cache with entries := t.cache.entries.filter keep } }

def run (keys : LabelNames) (moves : List Move) (t : Traffic) : Traffic := moves.foldl (step keys) t

end Traffic

/-! ## What the past rests on -/

/-- The steps of one resolution, the newest first. -/
def ownSteps (i : Nat) (past : List Incident) : List (Step surroundings) :=
  (past.filter (·.flight == i)).map (·.step)

variable {keys : LabelNames} {lifetime : Duration} {past older : List Incident} {x : Incident} {i : Nat}

theorem ownSteps_cons_self (x : Incident) (past : List Incident) (h : x.flight = i) :
    ownSteps i (x :: past) = x.step :: ownSteps i past := by
  rw [ownSteps, List.filter_cons_of_pos (by simpa using h)]
  rfl

theorem ownSteps_cons_ne (x : Incident) (past : List Incident) (h : x.flight ≠ i) :
    ownSteps i (x :: past) = ownSteps i past := by
  rw [ownSteps, List.filter_cons_of_neg (by simpa using h)]
  rfl

theorem mem_ownSteps {s : Step surroundings} :
    s ∈ ownSteps i past ↔ ∃ x ∈ past, x.flight = i ∧ x.step = s := by
  simp only [ownSteps, List.mem_map, List.mem_filter, beq_iff_eq]
  constructor
  · rintro ⟨x, ⟨hmem, hflight⟩, hstep⟩
    exact ⟨x, hmem, hflight, hstep⟩
  · rintro ⟨x, hmem, hflight, hstep⟩
    exact ⟨x, ⟨hmem, hflight⟩, hstep⟩

/-- What a step rests on among the older ones. -/
structure Explains (keys : LabelNames) (lifetime : Duration) (older : List Incident) (x : Incident) :
    Prop where
  query (kind : ObjectKind) (selector : String) (answer : Except Cluster.Error (Option Labels)) :
    x.step = ⟨.labels kind selector, answer⟩ → selector = keys.selector x.token
  write (token : Token) (userid : String) :
    x.step = ⟨.remember token userid, ()⟩ → token = x.token ∧ ∃ source ∈ older,
      source.flight = x.flight ∧ source.token = token ∧ Named keys token userid source.step
  read (token : Token) (userid : String) :
    x.step = ⟨.cached token, some userid⟩ → token = x.token ∧ ∃ write ∈ older,
      write.step = ⟨.remember token userid, ()⟩ ∧ write.instant.nanos ≤ x.instant.nanos ∧
        x.instant.nanos < write.instant.nanos + lifetime.nanos

/-- Every step of the past rests on older ones. -/
def Explained (keys : LabelNames) (lifetime : Duration) : List Incident → Prop
  | [] => True
  | x :: older => Explains keys lifetime older x ∧ Explained keys lifetime older

theorem Explained.at_mem (h : Explained keys lifetime past) (hx : x ∈ past) :
    ∃ older, (x :: older).Sublist past ∧ Explains keys lifetime older x ∧ Explained keys lifetime older := by
  induction past with
  | nil => cases hx
  | cons newest past ih =>
    rcases List.mem_cons.mp hx with rfl | hx
    · exact ⟨past, List.Sublist.refl _, h⟩
    · obtain ⟨older, hsub, hexplains⟩ := ih h.2 hx
      exact ⟨older, hsub.cons newest, hexplains⟩

/-! ## The cache -/

theorem Cache.get?_eq_some {cache : Cache} {now : Duration} {token : Token} {userid : String}
    (h : cache.get? now token = some userid) : ∃ entry ∈ cache.entries, entry.token = token.text ∧
      entry.userid = userid ∧ now.nanos - entry.putAt.nanos < cache.lifetime.nanos := by
  rw [Cache.get?] at h
  split at h
  · next entry hentry =>
    split at h
    · next hyoung =>
      refine ⟨entry, List.mem_of_find?_eq_some hentry, ?_, Option.some.inj h, hyoung⟩
      simpa using List.find?_some hentry
    · cases h
  · cases h

theorem Cache.mem_put {cache : Cache} {now : Duration} {token : Token} {userid : String}
    {entry : CacheEntry} (h : entry ∈ (cache.put now token userid).entries) :
    entry = ⟨token.text, userid, now⟩ ∨ entry ∈ cache.entries := by
  rw [Cache.put] at h
  split at h
  · exact .inr h
  · exact (List.mem_cons.mp h).imp_right fun h => (List.mem_filter.mp h).1

theorem Cache.put_lifetime (cache : Cache) (now : Duration) (token : Token) (userid : String) :
    (cache.put now token userid).lifetime = cache.lifetime := by
  rw [Cache.put]
  split <;> rfl

theorem Traffic.cacheAfter_lifetime (t : Traffic) (q : Question) :
    (t.cacheAfter q).lifetime = t.cache.lifetime := by
  cases q with
  | remember token userid => exact Cache.put_lifetime _ _ _ _
  | _ => rfl

/-- Only a write puts an entry in. -/
theorem Traffic.mem_cacheAfter {t : Traffic} {q : Question} {entry : CacheEntry}
    (h : entry ∈ (t.cacheAfter q).entries) : entry ∈ t.cache.entries ∨
      ∃ token userid, q = .remember token userid ∧ entry = ⟨token.text, userid, t.now⟩ := by
  cases q with
  | remember token userid =>
    rcases Cache.mem_put h with rfl | h
    · exact .inr ⟨token, userid, rfl, rfl⟩
    · exact .inl h
  | _ => exact .inl h

/-! ## The invariant -/

/-- The resolutions keep to their rule, and the cache and the past rest on older steps. -/
structure Sound (keys : LabelNames) (lifetime : Duration) (t : Traffic) : Prop where
  lasting : t.cache.lifetime = lifetime
  rule (i : Nat) (flight : Flight) : t.flights[i]? = some flight →
    flight.rest.Respects (MayAsk keys flight.token) (MayAnswer keys flight.token) (ownSteps i t.past)
  owner (x : Incident) : x ∈ t.past →
    ∃ flight, t.flights[x.flight]? = some flight ∧ flight.token = x.token
  clock (x : Incident) : x ∈ t.past → x.instant.nanos ≤ t.now.nanos
  cached (entry : CacheEntry) : entry ∈ t.cache.entries → ∃ write ∈ t.past, ∃ token,
    write.step = ⟨.remember token entry.userid, ()⟩ ∧ token.text = entry.token ∧
      write.instant = entry.putAt
  explained : Explained keys lifetime t.past

variable {t : Traffic} {flight : Flight}

theorem Sound.quiet (keys : LabelNames) {cache : Cache} (hempty : cache.entries = []) (now : Duration)
    (view : ClusterView) : Sound keys cache.lifetime (.quiet cache now view) where
  lasting := rfl
  rule i flight h := by cases h
  owner x h := by cases h
  clock x h := by cases h
  cached entry h := by
    change entry ∈ cache.entries at h
    rw [hempty] at h
    cases h
  explained := trivial

/-! ### Steps of one resolution -/

/-- What a resolution asks by its rule rests on the past. -/
theorem Sound.explains (hs : Sound keys lifetime t) (hflight : t.flights[i]? = some flight) {q : Question}
    (hask : MayAsk keys flight.token (ownSteps i t.past) q) :
    Explains keys lifetime t.past ⟨i, flight.token, ⟨q, t.answer q⟩, t.now⟩ where
  query kind selector answer hstep := by
    obtain ⟨rfl, -⟩ := Sigma.mk.inj hstep
    exact hask
  write token userid hstep := by
    obtain ⟨rfl, -⟩ := Sigma.mk.inj hstep
    obtain ⟨rfl, step, hstep, hnamed⟩ := hask
    obtain ⟨source, hsource, rfl, rfl⟩ := mem_ownSteps.mp hstep
    obtain ⟨other, hother, htoken⟩ := hs.owner source hsource
    obtain rfl := Option.some.inj (hflight.symm.trans hother)
    exact ⟨rfl, source, hsource, rfl, htoken.symm, hnamed⟩
  read token userid hstep := by
    obtain ⟨rfl, hanswer⟩ := Sigma.mk.inj hstep
    obtain rfl := hask
    obtain ⟨entry, hentry, htext, rfl, hyoung⟩ := Cache.get?_eq_some (eq_of_heq hanswer)
    obtain ⟨write, hwrite, token, hput, hsame, hinstant⟩ := hs.cached entry hentry
    obtain rfl : token = flight.token := Token.eq_of_text (hsame.trans htext)
    refine ⟨rfl, write, hwrite, hput, hs.clock write hwrite, ?_⟩
    have hclock := hs.clock write hwrite
    rw [hs.lasting, ← hinstant] at hyoung
    change t.now.nanos < _
    omega

theorem getElem?_set_flight {flights : List Flight}
    {rest : Program surroundings (Except Cluster.Error (Option String))} {j : Nat} {other : Flight}
    (hflight : flights[i]? = some flight)
    (h : (flights.set i { flight with rest })[j]? = some other) :
    j = i ∧ other = { flight with rest } ∨ j ≠ i ∧ flights[j]? = some other := by
  by_cases hj : j = i
  · left
    rw [hj, List.getElem?_set_self (List.getElem?_eq_some_iff.mp hflight).1] at h
    exact ⟨hj, (Option.some.inj h).symm⟩
  · right
    rw [List.getElem?_set_ne (Ne.symm hj)] at h
    exact ⟨hj, h⟩

/-- Every resolution keeps its token. -/
theorem exists_set_flight {flights : List Flight} {j : Nat} {other : Flight}
    (rest : Program surroundings (Except Cluster.Error (Option String)))
    (hflight : flights[i]? = some flight) (h : flights[j]? = some other) :
    ∃ other', (flights.set i { flight with rest })[j]? = some other' ∧ other'.token = other.token := by
  by_cases hj : j = i
  · rw [hj] at h ⊢
    obtain rfl := Option.some.inj (hflight.symm.trans h)
    exact ⟨_, List.getElem?_set_self (List.getElem?_eq_some_iff.mp hflight).1, rfl⟩
  · exact ⟨other, by rw [List.getElem?_set_ne (Ne.symm hj), h], rfl⟩

theorem Sound.goOn (hs : Sound keys lifetime t) (hflight : t.flights[i]? = some flight) :
    Sound keys lifetime (t.goOn i flight) := by
  have hrule := hs.rule i flight hflight
  rw [Traffic.goOn]
  cases hrest : flight.rest with
  | done result => exact hs
  | note event next =>
    rw [hrest] at hrule
    refine { hs with rule := ?_, owner := ?_ }
    · intro j other hother
      rcases getElem?_set_flight hflight hother with ⟨rfl, rfl⟩ | ⟨-, hother⟩
      · exact hrule
      · exact hs.rule j other hother
    · intro x hx
      obtain ⟨other, hother, htoken⟩ := hs.owner x hx
      obtain ⟨other', hother', hsame⟩ := exists_set_flight next hflight hother
      exact ⟨other', hother', hsame.trans htoken⟩
  | ask q next =>
    rw [hrest] at hrule
    obtain ⟨hask, hnext⟩ := hrule
    -- one step more in front of the past, and only this flight and the cache have changed
    constructor
    · exact (t.cacheAfter_lifetime q).trans hs.lasting
    · intro j other hother
      rcases getElem?_set_flight hflight hother with ⟨rfl, rfl⟩ | ⟨hj, hother⟩
      · have hown := ownSteps_cons_self ⟨j, flight.token, ⟨q, t.answer q⟩, t.now⟩ t.past rfl
        exact hown ▸ hnext (t.answer q)
      · have hown := ownSteps_cons_ne ⟨i, flight.token, ⟨q, t.answer q⟩, t.now⟩ t.past (Ne.symm hj)
        exact hown ▸ hs.rule j other hother
    · intro x hx
      rcases List.mem_cons.mp hx with rfl | hx
      · exact ⟨_, List.getElem?_set_self (List.getElem?_eq_some_iff.mp hflight).1, rfl⟩
      · obtain ⟨other, hother, htoken⟩ := hs.owner x hx
        obtain ⟨other', hother', hsame⟩ := exists_set_flight (next (t.answer q)) hflight hother
        exact ⟨other', hother', hsame.trans htoken⟩
    · intro x hx
      rcases List.mem_cons.mp hx with rfl | hx
      · exact Nat.le_refl _
      · exact hs.clock x hx
    · intro entry hentry
      rcases Traffic.mem_cacheAfter hentry with hentry | ⟨token, userid, rfl, rfl⟩
      · obtain ⟨write, hwrite, hput⟩ := hs.cached entry hentry
        exact ⟨write, List.mem_cons_of_mem _ hwrite, hput⟩
      · exact ⟨_, List.mem_cons_self .., token, rfl, rfl, rfl⟩
    · exact ⟨hs.explains hflight hask, hs.explained⟩

/-! ### Moves -/

/-- A new resolution has made no steps. -/
theorem Sound.ownSteps_new (hs : Sound keys lifetime t) : ownSteps t.flights.length t.past = [] := by
  refine List.eq_nil_iff_forall_not_mem.mpr fun step hstep => ?_
  obtain ⟨x, hx, hflight, -⟩ := mem_ownSteps.mp hstep
  obtain ⟨flight, hget, -⟩ := hs.owner x hx
  have hlt := (List.getElem?_eq_some_iff.mp hget).1
  omega

theorem Sound.start (hs : Sound keys lifetime t) (token : Token) :
    Sound keys lifetime (t.step keys (.start token)) := by
  refine { hs with rule := ?_, owner := ?_ }
  · intro i flight hflight
    change (t.flights ++ [⟨token, resolve keys token⟩])[i]? = some flight at hflight
    by_cases hi : i < t.flights.length
    · rw [List.getElem?_append_left hi] at hflight
      exact hs.rule i flight hflight
    · have hlast : i = t.flights.length := by
        have hlt := (List.getElem?_eq_some_iff.mp hflight).1
        rw [List.length_append, List.length_singleton] at hlt
        omega
      rw [hlast, List.getElem?_concat_length] at hflight
      obtain rfl := Option.some.inj hflight
      change Respects _ _ _ (ownSteps i t.past)
      rw [hlast, hs.ownSteps_new]
      exact resolve_respects keys token
  · intro x hx
    obtain ⟨flight, hflight, htoken⟩ := hs.owner x hx
    refine ⟨flight, ?_, htoken⟩
    change (t.flights ++ [⟨token, resolve keys token⟩])[x.flight]? = some flight
    rw [List.getElem?_append_left (List.getElem?_eq_some_iff.mp hflight).1, hflight]

/-- Every move keeps the invariant. -/
theorem Sound.step (hs : Sound keys lifetime t) (move : Move) : Sound keys lifetime (t.step keys move) := by
  cases move with
  | start token => exact hs.start token
  | advance i =>
    rw [Traffic.step]
    cases hflight : t.flights[i]? with
    | none => exact hs
    | some flight => exact hs.goOn hflight
  | change view => exact { hs with }
  | elapse span =>
    refine { hs with clock := ?_ }
    intro x hx
    have hclock := hs.clock x hx
    change x.instant.nanos ≤ t.now.nanos + span.nanos
    omega
  | evict keep =>
    refine { hs with cached := ?_ }
    intro entry hentry
    exact hs.cached entry (List.mem_filter.mp hentry).1

theorem Sound.run (hs : Sound keys lifetime t) (moves : List Move) :
    Sound keys lifetime (t.run keys moves) := by
  induction moves generalizing t with
  | nil => exact hs
  | cons move moves ih => exact ih (hs.step move)

/-! ## Provenance -/

/-- A hit of the cache: a resolution of the token was returned its owner, wrote it, and less than the
lifetime later it was read. -/
structure Relays (keys : LabelNames) (lifetime : Duration) (token : Token) (userid : String)
    (past : List Incident) (read write source : Incident) : Prop where
  order : [read, write, source].Sublist past
  writer : write.token = token
  written : write.step = ⟨.remember token userid, ()⟩
  returned : Named keys token userid source.step
  own : source.flight = write.flight ∧ source.token = token
  young : write.instant.nanos ≤ read.instant.nanos ∧
    read.instant.nanos < write.instant.nanos + lifetime.nanos

/-- A hit of a sound traffic goes back to an object that the cluster returned. -/
theorem Sound.relays (hs : Sound keys lifetime t) {read : Incident} (hmem : read ∈ t.past) {token : Token}
    {userid : String} (hstep : read.step = ⟨.cached token, some userid⟩) :
    read.token = token ∧ ∃ write source, Relays keys lifetime token userid t.past read write source := by
  obtain ⟨older, hsub, hexplains, holder⟩ := hs.explained.at_mem hmem
  obtain ⟨rfl, write, hwrite, hput, hyoung⟩ := hexplains.read token userid hstep
  obtain ⟨older', hsub', hexplains', -⟩ := holder.at_mem hwrite
  obtain ⟨hwriter, source, hsource, hflight, htoken, hnamed⟩ := hexplains'.write read.token userid hput
  have horder : [read, write, source].Sublist t.past := by
    have hlast : [write, source].Sublist (write :: older') :=
      List.Sublist.cons_cons write (List.singleton_sublist.mpr hsource)
    exact (List.Sublist.cons_cons read (hlast.trans hsub')).trans hsub
  exact ⟨rfl, write, source, horder, hwriter.symm, hput, hnamed, ⟨hflight, htoken⟩, hyoung⟩

/-- In every traffic that began with an empty cache, the owner that a resolution came to was returned
to a query for its token. If the resolution had it from the cache, it was written under the token by
such a resolution, less than the lifetime before. Another token has another query. -/
theorem resolved_by_cluster (keys : LabelNames) (cache : Cache) (hempty : cache.entries = [])
    (now : Duration) (view : ClusterView) (moves : List Move) {i : Nat} {flight : Flight}
    {userid : String}
    (hflight : ((Traffic.quiet cache now view).run keys moves).flights[i]? = some flight)
    (hresult : flight.rest = .done (.ok (some userid))) :
    (∃ source ∈ ((Traffic.quiet cache now view).run keys moves).past,
        source.token = flight.token ∧ Named keys flight.token userid source.step) ∧
      (∀ read ∈ ((Traffic.quiet cache now view).run keys moves).past, read.flight = i →
        ∀ token found, read.step = ⟨.cached token, some found⟩ →
          token = flight.token ∧ found = userid ∧ ∃ write source,
            Relays keys cache.lifetime flight.token userid
              ((Traffic.quiet cache now view).run keys moves).past read write source) ∧
      ∀ other, other ≠ flight.token → keys.selector other ≠ keys.selector flight.token := by
  have hs := (Sound.quiet keys hempty now view).run moves
  generalize (Traffic.quiet cache now view).run keys moves = t at *
  have hanswer : MayAnswer keys flight.token (ownSteps i t.past) (.ok (some userid)) := by
    have hrule := hs.rule i flight hflight
    rw [hresult] at hrule
    exact hrule
  have howner : ∀ x ∈ t.past, x.flight = i → x.token = flight.token := by
    rintro x hx rfl
    obtain ⟨other, hother, htoken⟩ := hs.owner x hx
    obtain rfl := Option.some.inj (hflight.symm.trans hother)
    exact htoken.symm
  refine ⟨?_, ?_, fun other hne hsame => hne (selector_injective hsame)⟩
  · rcases hanswer.source userid rfl with hhit | ⟨step, hstep, hnamed⟩
    · obtain ⟨read, hread, -, hstep⟩ := mem_ownSteps.mp hhit
      obtain ⟨-, write, source, hrelays⟩ := hs.relays hread hstep
      exact ⟨source, hrelays.order.subset (by simp), hrelays.own.2, hrelays.returned⟩
    · obtain ⟨source, hsource, hsame, rfl⟩ := mem_ownSteps.mp hstep
      exact ⟨source, hsource, howner source hsource hsame, hnamed⟩
  · intro read hread hsame token found hstep
    obtain ⟨rfl, write, source, hrelays⟩ := hs.relays hread hstep
    rw [howner read hread hsame] at hstep hrelays
    have hhit := hanswer.hit found (mem_ownSteps.mpr ⟨read, hread, hsame, hstep⟩)
    obtain rfl := Option.some.inj (Except.ok.inj hhit)
    exact ⟨howner read hread hsame, rfl, write, source, hrelays⟩

def sampleToken : Token := ⟨"abc123", by decide⟩

/-- Every Service is owned by `alice`. -/
def ownedView : ClusterView :=
  ⟨fun _ _ => .ok (some [(LabelNames.default.user, "alice")]), .ok ()⟩

/-- The second resolution is answered by the cache. -/
def relayedMoves : List Move :=
  .start sampleToken :: List.replicate 4 (.advance 0) ++
    [.elapse (.ofSecs 60), .start sampleToken, .advance 1, .advance 1]

theorem resolved_by_cluster_relayed :
    ∃ source ∈ ((Traffic.quiet .default ⟨0⟩ ownedView).run .default relayedMoves).past,
      source.token = sampleToken ∧ Named .default sampleToken "alice" source.step := by
  have hflight : ((Traffic.quiet .default ⟨0⟩ ownedView).run .default relayedMoves).flights[1]? =
      some ⟨sampleToken, .done (.ok (some "alice"))⟩ := by rfl
  exact (resolved_by_cluster .default .default rfl ⟨0⟩ ownedView relayedMoves hflight rfl).1

end SessionGate.Gateway
