import LiveKitRust.Base.Maps
import Mathlib.Algebra.Group.Nat.Defs

/-!
# Region failover (`region.rs`, `services/failover.rs`)

A request to the server API that fails for reasons of the server or of the network is made again, at
another region. The regions are asked from the server and kept for a while, by the host that was
asked.

What the crate `url` makes of a string is not fixed here: `parse` is an argument wherever it is
called. Times are in milliseconds.
-/

namespace LiveKit.Services

structure Url where
  scheme : String
  hostStr : Option String
  /-- Not there if it is the one that the scheme stands for. -/
  port : Option UInt16
  path : String
  deriving DecidableEq

namespace Url

def portOrKnownDefault (self : Url) : Option UInt16 :=
  match self.port with
  | some port => some port
  | none =>
    if self.scheme = "http" ∨ self.scheme = "ws" then some 80
    else if self.scheme = "https" ∨ self.scheme = "wss" then some 443
    else if self.scheme = "ftp" then some 21
    else none

def setPath (self : Url) (path : String) : Url := { self with path := path }

end Url

/-- What follows `text` in a string that begins with it (`str::strip_prefix`). -/
def strip (text s : String) : Option String :=
  if text.toList <+: s.toList then some (String.ofList (s.toList.drop text.length)) else none

/-- Header names with their values. -/
abbrev HeaderMap := Map String (List String)

/-! ### Regions (`region.rs`) -/

/-- Reports whether `host` belongs to a LiveKit Cloud project. -/
def isCloudHost (host : String) : Bool :=
  ".livekit.cloud".toList <:+ host.toList || ".livekit.run".toList <:+ host.toList

structure CachedRegions where
  urls : List String
  fetchedAt : ℕ
  ttl : ℕ
  deriving DecidableEq

inductive Cached where
  | fresh (urls : List String)
  | stale (urls : List String)
  | miss
  deriving DecidableEq

/-- Process-wide region-list cache keyed by host. -/
structure RegionCache where
  entries : Map String CachedRegions
  defaultTtl : ℕ

namespace RegionCache

def DEFAULT_TTL : ℕ := 5000

def new (defaultTtl : ℕ) : RegionCache := ⟨∅, defaultTtl⟩

def get (self : RegionCache) (now : ℕ) (host : String) : Cached :=
  match self.entries.lookup host with
  | some entry =>
    if now - entry.fetchedAt < entry.ttl then .fresh entry.urls else .stale entry.urls
  | none => .miss

def insert (self : RegionCache) (now : ℕ) (host : String) (urls : List String)
    (maxAge : Option ℕ) : RegionCache :=
  { self with entries := self.entries.insert host ⟨urls, now, maxAge.getD self.defaultTtl⟩ }

/-- Removes `failedUrl` from the list. An emptied list is dropped, forcing a re-fetch. -/
def markFailed (self : RegionCache) (host failedUrl : String) : RegionCache :=
  match self.entries.lookup host with
  | some entry =>
    let urls := entry.urls.filter (· ≠ failedUrl)
    { self with entries :=
        if urls.isEmpty then self.entries.erase host
        else self.entries.insert host { entry with urls := urls } }
  | none => self

def invalidate (self : RegionCache) (host : String) : RegionCache :=
  { self with entries := self.entries.erase host }

def clear (self : RegionCache) : RegionCache := { self with entries := ∅ }

end RegionCache

/-! ### Failover -/

/-- Total attempts (the original request plus fallback regions). -/
def MAX_ATTEMPTS : ℕ := 3

def BACKOFF_BASE : ℕ := 200

def DEFAULT_REQUEST_TIMEOUT : ℕ := 10000

/-- Below this per-request timeout a retry is unlikely to help. -/
def MIN_FAILOVER_TIMEOUT : ℕ := 5000

structure FailoverConfig where
  enabled : Bool := true
  /-- Bypasses the cloud-host check. -/
  force : Bool := false
  backoffBase : ℕ := BACKOFF_BASE

/-- Total request attempts for a host; 1 means no failover. -/
def FailoverConfig.attempts (self : FailoverConfig) (host : Option String) (timeout : ℕ) : ℕ :=
  if !(self.enabled && (self.force || (host.map isCloudHost).getD false)) then 1
  else if timeout < MIN_FAILOVER_TIMEOUT then 1
  else MAX_ATTEMPTS

variable (s : FailoverConfig)

lemma FailoverConfig.attempts_pos (host : Option String) (timeout : ℕ) :
    0 < s.attempts host timeout := by
  unfold attempts
  split
  · exact Nat.one_pos
  · split
    · exact Nat.one_pos
    · decide

lemma FailoverConfig.attempts_le (host : Option String) (timeout : ℕ) :
    s.attempts host timeout ≤ MAX_ATTEMPTS := by
  unfold attempts
  split
  · decide
  · split
    · decide
    · exact Nat.le_refl _

/-- Normalizes a region URL to an http(s) scheme (ws -> http, wss -> https). -/
def toHttpUrl (url : String) : String :=
  match strip "ws" url with
  | some rest => "http" ++ rest
  | none => url

/-- A stable key identifying a host (including port) for dedup across attempts. -/
def hostKey (url : Url) : String :=
  url.hostStr.getD "" ++ ":" ++ toString ((url.portOrKnownDefault.getD 0).toNat)

def pickNext (parse : String → Option Url) (regionUrls attempted : List String) : Option Url :=
  match regionUrls with
  | [] => none
  | raw :: rest =>
    match parse raw with
    | none => pickNext parse rest attempted
    | some url =>
      if url.hostStr.isNone then pickNext parse rest attempted
      else if hostKey url ∈ attempted then pickNext parse rest attempted
      else some url

lemma pickNext_eq_some {parse regionUrls attempted url}
    (h : pickNext parse regionUrls attempted = some url) :
    (∃ raw ∈ regionUrls, parse raw = some url) ∧ hostKey url ∉ attempted := by
  induction regionUrls with
  | nil => cases h
  | cons raw rest ih =>
    -- passed over, so that it is one of the rest
    have hla (h : pickNext parse rest attempted = some url) :
        (∃ raw' ∈ raw :: rest, parse raw' = some url) ∧ hostKey url ∉ attempted := by
      obtain ⟨⟨raw', hm, hparse⟩, hnew⟩ := ih h
      exact ⟨⟨raw', List.mem_cons_of_mem raw hm, hparse⟩, hnew⟩
    unfold pickNext at h
    split at h
    · exact hla h
    next hparse =>
      split at h
      · exact hla h
      · split at h
        · exact hla h
        next hnew =>
          cases h
          exact ⟨⟨raw, .head _, hparse⟩, hnew⟩

/-- The discovery response carries `wss://` region URLs. -/
def normalize (regions : List String) : List String :=
  (regions.filter fun url => !url.isEmpty).map toHttpUrl

/-- The caller's headers minus body-specific ones. -/
def forwardHeaders (headers : HeaderMap) : HeaderMap :=
  (headers.erase "content-type").erase "content-length"

/-- How `/settings/regions` would be answered: the URLs of the regions, and the `max-age`. -/
structure Discovery where
  now : ℕ
  answer : Option (List String × Option ℕ)
  /-- The time when it has come. -/
  answeredAt : ℕ

/-- The alternative region URLs for `base`, what is kept of them, and whether
`/settings/regions` was fetched. -/
def regionUrls (cache : RegionCache) (discovery : Discovery) (base : Url) :
    List String × RegionCache × Bool :=
  let key := hostKey base
  match cache.get discovery.now key with
  | .fresh urls => (urls, cache, false)
  | .stale urls => fetched key (some urls)
  | .miss => fetched key none
where
  fetched (key : String) (stale : Option (List String)) : List String × RegionCache × Bool :=
    match discovery.answer with
    | some (regions, maxAge) =>
      let urls := normalize regions
      -- a zero max-age means "do not cache"
      if maxAge ≠ some 0 then (urls, cache.insert discovery.answeredAt key urls maxAge, true)
      else (urls, cache, true)
    | none => (stale.getD [], cache, true)

end LiveKit.Services
