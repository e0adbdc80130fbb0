import SessionGate.Number.Duration
import SessionGate.Session.Token

/-!
# Cache of session owners

An entry holds the last owner put under a token; it is found while less than the lifetime has passed
since it was put. A cache without capacity holds nothing. Which entries leave a full cache is left
open: none does here.
-/
namespace SessionGate.Gateway
set_option autoImplicit false
open Session (Token)

/-- A cached owner and when it was put. -/
structure CacheEntry where
  token : String
  userid : String
  putAt : Duration
deriving DecidableEq, Inhabited

structure Cache where
  lifetime : Duration
  capacity : Nat
  entries : List CacheEntry
deriving DecidableEq, Inhabited

namespace Cache

/-- Longest lifetime: a thousand years of 365 days. -/
def maxLifetime : Duration := .ofSecs (1000 * 365 * 24 * 3600)

def tooLong : String := "time_to_live is longer than 1000 years"

/-- An empty cache, unless its lifetime is too long. -/
def make (lifetime : Duration) (capacity : Nat) : Except String Cache :=
  if maxLifetime.nanos < lifetime.nanos then .error tooLong else .ok ⟨lifetime, capacity, []⟩

def default : Cache := ⟨.ofSecs 3600, 4096, []⟩

/-- The owner put under a token less than the lifetime ago. -/
def get? (cache : Cache) (now : Duration) (token : Token) : Option String :=
  match cache.entries.find? (·.token == token.text) with
  | some entry =>
    if now.nanos - entry.putAt.nanos < cache.lifetime.nanos then some entry.userid else none
  | none => none

/-- Puts an owner under a token, in place of an earlier one. -/
def put (cache : Cache) (now : Duration) (token : Token) (userid : String) : Cache :=
  if cache.capacity = 0 then cache
  else
    { cache with
      entries := ⟨token.text, userid, now⟩ :: cache.entries.filter (·.token != token.text) }

end Cache
end SessionGate.Gateway
