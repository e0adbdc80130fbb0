import SessionGate.Gateway.Resolver
import SessionGate.Proofs.Program.History
import SessionGate.Proofs.Session.Token

/-! # What a resolution asks and comes to

* `Named`: an object that the cluster returned to the query for a token bears its owner.
* `MayAsk` and `MayAnswer` are the rule of a resolution: it reads and writes the cache under its own
  token alone, asks with the selector of its own token alone, and writes and answers nothing but what
  it read.
* `resolve_respects`: the rule holds whatever is answered.
-/
namespace SessionGate.Gateway
set_option autoImplicit false
open Session (Token ObjectKind Labels LabelNames)
open Program (Step Respects)

variable {keys : LabelNames} {token : Token} {userid : String} {past : List (Step surroundings)}

/-! ## The rule -/

/-- The step returned an object of the token's session with this owner. -/
def Named (keys : LabelNames) (token : Token) (userid : String) (step : Step surroundings) : Prop :=
  ∃ kind labels, step = ⟨.labels kind (keys.selector token), .ok (some labels)⟩ ∧
    List.lookup keys.user labels = some userid ∧ userid ≠ ""

/-- What a resolution may ask after these steps. -/
def MayAsk (keys : LabelNames) (token : Token) (past : List (Step surroundings)) : Question → Prop
  | .cached other => other = token
  | .labels _ selector => selector = keys.selector token
  | .remember other userid => other = token ∧ ∃ step ∈ past, Named keys token userid step
  | .probe => False

/-- What a resolution may come to after these steps: what the cache had, or what it was told. -/
structure MayAnswer (keys : LabelNames) (token : Token) (past : List (Step surroundings))
    (result : Except Cluster.Error (Option String)) : Prop where
  hit (userid : String) : ⟨.cached token, some userid⟩ ∈ past → result = .ok (some userid)
  source (userid : String) : result = .ok (some userid) →
    ⟨.cached token, some userid⟩ ∈ past ∨ ∃ step ∈ past, Named keys token userid step

/-- No two tokens have one selector. -/
theorem selector_injective {other : Token} (h : keys.selector other = keys.selector token) :
    other = token := by
  have hlist := congrArg String.toList h
  simp only [LabelNames.selector, String.toList_append, List.append_cancel_left_eq] at hlist
  exact Token.eq_of_text (String.toList_inj.mp hlist)

theorem owner?_eq_some {labels : Labels} (h : owner? keys labels = some userid) :
    List.lookup keys.user labels = some userid ∧ userid ≠ "" := by
  rw [owner?] at h
  split at h
  · next found hfound =>
    split at h
    · cases h
    · next hne =>
      obtain rfl := Option.some.inj h
      refine ⟨hfound, ?_⟩
      rintro rfl
      exact hne rfl
  · cases h

/-! ## The rule holds -/

/-- What a look-up may come to after these steps, none of which was a hit. -/
structure MayFind (keys : LabelNames) (token : Token) (past : List (Step surroundings))
    (result : Except Cluster.Error (Option String)) : Prop where
  missed (userid : String) : ⟨.cached token, some userid⟩ ∉ past
  source (userid : String) : result = .ok (some userid) → ∃ step ∈ past, Named keys token userid step

theorem lookupIn_respects (kinds : List ObjectKind)
    (hmissed : ∀ userid, (⟨.cached token, some userid⟩ : Step surroundings) ∉ past) :
    (lookupIn keys token kinds).Respects (MayAsk keys token) (MayFind keys token) past := by
  induction kinds generalizing past with
  | nil => exact ⟨hmissed, by simp⟩
  | cons kind kinds ih =>
    refine Program.respects_ask_bind.mpr ⟨rfl, fun answer => ?_⟩
    have hmissed' : ∀ userid, (⟨.cached token, some userid⟩ : Step surroundings) ∉
        (⟨.labels kind (keys.selector token), answer⟩ : Step surroundings) :: past := by
      intro userid hmem
      rcases List.mem_cons.mp hmem with hmem | hmem
      · cases hmem
      · exact hmissed userid hmem
    rcases answer with e | _ | labels
    · exact ⟨hmissed', by simp⟩
    · exact ih hmissed'
    · dsimp only
      cases howner : owner? keys labels with
      | none => exact ih hmissed'
      | some userid =>
        refine ⟨hmissed', fun found hfound => ?_⟩
        obtain rfl := Option.some.inj (Except.ok.inj hfound)
        exact ⟨_, List.mem_cons_self .., kind, labels, rfl, owner?_eq_some howner⟩

/-- A resolution keeps to the rule. -/
theorem resolve_respects (keys : LabelNames) (token : Token) :
    (resolve keys token).Respects (MayAsk keys token) (MayAnswer keys token) [] := by
  refine ⟨rfl, fun answer => ?_⟩
  cases answer with
  | some userid =>
    refine ⟨fun other hother => ?_, fun other hother => ?_⟩
    · cases List.mem_singleton.mp hother
      rfl
    · obtain rfl := Option.some.inj (Except.ok.inj hother)
      exact .inl (List.mem_singleton_self _)
  | none =>
    have hmissed : ∀ userid, (⟨.cached token, some userid⟩ : Step surroundings) ∉
        [(⟨.cached token, none⟩ : Step surroundings)] := by
      intro userid hmem
      cases List.mem_singleton.mp hmem
    change Respects _ _ ((lookup keys token).bind _) _
    refine Respects.bind (lookupIn_respects ObjectKind.order hmissed) fun past found hfound => ?_
    rcases found with e | _ | userid
    · exact ⟨fun other hother => absurd hother (hfound.missed other), by simp⟩
    · exact ⟨fun other hother => absurd hother (hfound.missed other), by simp⟩
    · refine ⟨⟨rfl, hfound.source userid rfl⟩, fun _ => ⟨fun other hother => ?_, fun other hother => ?_⟩⟩
      · rcases List.mem_cons.mp hother with hother | hother
        · cases hother
        · exact absurd hother (hfound.missed other)
      · obtain rfl := Option.some.inj (Except.ok.inj hother)
        obtain ⟨step, hstep, hnamed⟩ := hfound.source userid rfl
        exact .inr ⟨step, List.mem_cons_of_mem _ hstep, hnamed⟩

end SessionGate.Gateway
