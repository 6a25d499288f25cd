import LiveKitRust.Base.Monitor
import LiveKitRust.Services.Failover

/-!
# The regions of a host (`signal_client/region_url_provider.rs`)

When a connection fails, `SignalClient::connect` asks the provider for the regions of the host,
tries them in turn and marks those that it cannot connect to. The lists are kept in a cache that
all connections share. A call that has looked at a stale entry keeps what it saw over the awaits
of the fetch lock and of the server, and falls back on it if the server does not answer, whatever
was marked in the meantime.
-/

open Machine Monitor LiveKit.Services

namespace LiveKit.SignalClient

/-- A call of `fetch_region_urls`, with the stale list that it has seen. -/
inductive FetchCall where
  | waiting (host : String) (stale : Option (List String))
  /-- It has the lock and waits for the server. -/
  | fetching (host : String) (stale : Option (List String))
  | returned
  deriving DecidableEq

namespace FetchCall

def isFetching (host : String) : FetchCall → Bool
  | fetching host' _ => host' = host
  | _ => false

def fallback (host : String) : FetchCall → Option (List String)
  | waiting host' stale | fetching host' stale => if host' = host then stale else none
  | returned => none

end FetchCall

inductive RegionEvent where
  | fetched (host : String) (urls : List String)
  | failed (host url : String)
  /-- A call returns; without a list if it fails. -/
  | returned (host : String) (result : Option (List String))
  deriving DecidableEq

structure RegionUrlProvider where
  cache : RegionCache := .new RegionCache.DEFAULT_TTL
  calls : List FetchCall := []

namespace RegionUrlProvider

variable (self : RegionUrlProvider)

inductive Action where
  /-- A call, as far as the fetch lock. -/
  | fetchRegionUrls (host : String) (now : ℕ)
  | lock (call now : ℕ)
  /-- The answer of the server: the URLs, and the `max-age`. -/
  | answer (call now : ℕ) (answer : Option (List String × Option ℕ))
  | markFailed (host failedUrl : String)
  | invalidate (host : String)
  | clear

def step : Action → RegionUrlProvider × List RegionEvent
  | .fetchRegionUrls host now =>
    if isCloudHost host then
      match self.cache.get now host with
      | .fresh urls => ({ self with calls := self.calls ++ [.returned] }, [.returned host urls])
      | .stale urls => ({ self with calls := self.calls ++ [.waiting host urls] }, [])
      | .miss => ({ self with calls := self.calls ++ [.waiting host none] }, [])
    -- direct hosts have no regions
    else ({ self with calls := self.calls ++ [.returned] }, [.returned host (some [])])
  | .lock call now =>
    match self.calls[call]? with
    | some (.waiting host stale) =>
      if self.calls.any (·.isFetching host) then (self, [])
      else
        match self.cache.get now host with
        | .fresh urls => ({ self with calls := self.calls.set call .returned },
            [.returned host urls])
        | _ => ({ self with calls := self.calls.set call (.fetching host stale) }, [])
    | _ => (self, [])
  | .answer call now answer =>
    match self.calls[call]? with
    | some (.fetching host stale) =>
      let calls := self.calls.set call .returned
      match answer with
      | some (urls, maxAge) => (⟨self.cache.insert now host urls maxAge, calls⟩,
          [.fetched host urls, .returned host urls])
      | none => (⟨self.cache, calls⟩, [.returned host stale])
    | _ => (self, [])
  | .markFailed host failedUrl =>
    ({ self with cache := self.cache.markFailed host failedUrl }, [.failed host failedUrl])
  | .invalidate host => ({ self with cache := self.cache.invalidate host }, [])
  | .clear => ({ self with cache := self.cache.clear }, [])

/-- The regions of a host when its settings were fetched last, and those that have been marked
since. -/
structure Seen where
  listed : List String := []
  failed : List String := []

def Seen.Exhausted (seen : Seen) : Prop := seen.listed ≠ [] ∧ seen.listed ⊆ seen.failed

/-- No failed region is among the URLs, and there are none if all have failed. -/
def Seen.Offers (seen : Seen) (urls : List String) : Prop :=
  (∀ url ∈ urls, url ∉ seen.failed) ∧ (seen.Exhausted → urls = [])

instance (seen : Seen) (urls : List String) : Decidable (seen.Offers urls) := by
  unfold Seen.Offers Seen.Exhausted
  infer_instance

def observe (host : String) (seen : Seen) : RegionEvent → Option Seen
  | .fetched host' urls => some (if host' = host then ⟨urls, []⟩ else seen)
  | .failed host' url => some (if host' = host then ⟨seen.listed, url :: seen.failed⟩ else seen)
  | .returned host' result =>
    if host' = host → seen.Offers (result.getD []) then some seen else none

/-- No region is marked while a call has a stale list of the host to fall back on. -/
def Unobserved (self : RegionUrlProvider) : Action → Prop
  | .markFailed host _ => ∀ call ∈ self.calls, call.fallback host = none
  | _ => True

instance (a : Action) : Decidable (self.Unobserved a) := by
  unfold Unobserved
  split <;> infer_instance

/-- The cached regions are listed and have not failed, and so for those of a stale list, unless
the settings have been fetched again. -/
structure Sound (host : String) (provider : RegionUrlProvider) (seen : Seen) : Prop where
  cached : ∀ entry, provider.cache.entries.lookup host = some entry →
    ∀ url ∈ entry.urls, url ∈ seen.listed ∧ url ∉ seen.failed
  offered : ∀ call ∈ provider.calls, ∀ urls, call.fallback host = some urls → seen.Offers urls

variable {self} {host : String} {seen : Seen} {urls : List String} {now : ℕ}

lemma lookup_markFailed {cache : RegionCache} {host' url : String} {entry : CachedRegions}
    (h : (cache.markFailed host' url).entries.lookup host = some entry) :
    ∃ entry', cache.entries.lookup host = some entry' ∧
      ∀ u ∈ entry.urls, u ∈ entry'.urls ∧ (host' = host → u ≠ url) := by
  unfold RegionCache.markFailed at h
  split at h
  next entry₀ hl =>
    by_cases heq : host' = host
    · subst heq
      refine ⟨entry₀, hl, ?_⟩
      dsimp only at h
      split at h
      · simp at h
      · rw [AList.lookup_insert] at h
        cases h
        simp
    · refine ⟨entry, ?_, fun u hm => ⟨hm, fun heq' => absurd heq' heq⟩⟩
      dsimp only at h
      split at h
      · rwa [AList.lookup_erase_ne (Ne.symm heq)] at h
      · rwa [AList.lookup_insert_ne (Ne.symm heq)] at h
  next hl =>
    exact ⟨entry, h, fun u hm => ⟨hm, by rintro rfl; cases hl.symm.trans h⟩⟩

namespace Sound

variable (h : Sound host self seen) {calls : List FetchCall} {host' : String}
include h

lemma offers
    (hget : self.cache.get now host = .fresh urls ∨ self.cache.get now host = .stale urls) :
    seen.Offers urls := by
  obtain ⟨entry, hl, rfl⟩ : ∃ entry, self.cache.entries.lookup host = some entry ∧
      entry.urls = urls := by
    grind [RegionCache.get]
  refine ⟨fun url hm => (h.cached entry hl url hm).2, fun hex => ?_⟩
  rw [List.eq_nil_iff_forall_not_mem]
  intro url hm
  have hc := h.cached entry hl url hm
  exact hc.2 (hex.2 hc.1)

lemma withCalls (hcalls : ∀ call ∈ calls, call ∈ self.calls ∨
      ∀ urls, call.fallback host = some urls → seen.Offers urls) :
    Sound host { self with calls := calls } seen := by
  refine ⟨h.cached, fun call hm urls hf => ?_⟩
  rcases hcalls call hm with hold | hnew
  · exact h.offered call hold urls hf
  · exact hnew urls hf

section

variable (hcalls : ∀ call ∈ calls, call ∈ self.calls ∨ call = .returned)
include hcalls

lemma ended : Sound host { self with calls := calls } seen := by
  refine h.withCalls fun call hm => (hcalls call hm).imp_right ?_
  rintro rfl urls hf
  cases hf

lemma returned {result} (hoffers : host' = host → seen.Offers (result.getD [])) :
    Passes (observe host) seen [.returned host' result] (Sound host { self with calls := calls }) :=
  .single (if_pos hoffers) (h.ended hcalls)

lemma fetched {maxAge} :
    Passes (observe host) seen [.fetched host' urls, .returned host' urls]
      (Sound host ⟨self.cache.insert now host' urls maxAge, calls⟩) := by
  by_cases heq : host' = host
  · subst heq
    have hoffers (urls' : List String) : Seen.Offers ⟨urls, []⟩ urls' :=
      ⟨fun _ _ => List.not_mem_nil, fun hex => absurd (List.subset_nil.mp hex.2) hex.1⟩
    refine ⟨⟨urls, []⟩, by simp [watch, observe, hoffers], ?_, fun _ _ _ _ => hoffers _⟩
    rintro entry hl url hm
    rw [RegionCache.insert, AList.lookup_insert] at hl
    cases hl
    exact ⟨hm, List.not_mem_nil⟩
  · refine ⟨seen, by simp [watch, observe, heq], ?_, (h.ended hcalls).offered⟩
    rw [RegionCache.insert, AList.lookup_insert_ne (Ne.symm heq)]
    exact h.cached

end

lemma passes_step {a : Action} (hunobserved : self.Unobserved a) :
    Passes (observe host) seen (self.step a).2 (Sound host (self.step a).1) := by
  cases a with
  | fetchRegionUrls host' now =>
    rw [step]
    have hcalls : ∀ call ∈ self.calls ++ [.returned], call ∈ self.calls ∨ call = .returned := by
      simp
    split
    · split
      next urls hget =>
        refine h.returned hcalls ?_
        rintro rfl
        exact h.offers (.inl hget)
      next urls hget =>
        refine .nil (h.withCalls ?_)
        have hoffers : host' = host → seen.Offers urls := by
          rintro rfl
          exact h.offers (.inr hget)
        grind [FetchCall.fallback]
      next hget =>
        refine .nil (h.withCalls ?_)
        grind [FetchCall.fallback]
    · exact h.returned hcalls fun _ => ⟨nofun, fun _ => rfl⟩
  | lock call now =>
    rw [step]
    split
    next host' stale hcall =>
      split
      · exact .nil h
      · split
        next urls hget =>
          refine h.returned (fun _ hm => List.mem_or_eq_of_mem_set hm) ?_
          rintro rfl
          exact h.offers (.inl hget)
        · refine .nil (h.withCalls fun call' hm => ?_)
          refine (List.mem_or_eq_of_mem_set hm).imp_right ?_
          rintro rfl
          exact h.offered (.waiting host' stale) (List.mem_of_getElem? hcall)
    · exact .nil h
  | answer call now answer =>
    rw [step]
    split
    next host' stale hcall =>
      have hcalls (call' : FetchCall) (hm : call' ∈ self.calls.set call .returned) :=
        List.mem_or_eq_of_mem_set hm
      cases answer with
      | some answer => exact h.fetched hcalls
      | none =>
        -- what it falls back on
        refine h.returned hcalls ?_
        rintro rfl
        cases stale with
        | none => exact ⟨nofun, fun _ => rfl⟩
        | some urls => exact h.offered _ (List.mem_of_getElem? hcall) urls (if_pos rfl)
    · exact .nil h
  | markFailed host' url =>
    refine .single rfl ?_
    split
    next heq =>
      refine ⟨fun entry hl u hm => ?_, fun call hm urls hf => ?_⟩
      · obtain ⟨entry', hl', hurls⟩ := lookup_markFailed hl
        have hc := h.cached entry' hl' u (hurls u hm).1
        refine ⟨hc.1, ?_⟩
        rw [List.mem_cons, not_or]
        exact ⟨(hurls u hm).2 heq, hc.2⟩
      · subst heq
        cases (hunobserved call hm).symm.trans hf
    · refine ⟨fun entry hl u hm => ?_, h.offered⟩
      obtain ⟨entry', hl', hurls⟩ := lookup_markFailed hl
      exact h.cached entry' hl' u (hurls u hm).1
  | invalidate host' =>
    refine .nil ⟨fun entry hl => h.cached entry ?_, h.offered⟩
    grind [step, RegionCache.invalidate, AList.lookup_erase_ite]
  | clear => exact .nil ⟨nofun, h.offered⟩

end Sound

/-- **A failed region is not handed out again.** In a run in which no region is marked while a
call has a stale list of the host to fall back on, no call returns a region that was marked since
the settings of the host were fetched last, and none returns regions once all have failed. -/
theorem regions_offered {actions : List Action} (h : Along step Unobserved {} actions)
    (host : String) : (watch (observe host) {} (outputs step {} actions)).isSome := by
  have hinit : Sound host {} {} := ⟨nofun, nofun⟩
  exact (Passes.along h hinit fun s a seen hun hs => hs.passes_step hun).isSome

/-- A region is marked, and then all are. -/
theorem regions_offered_marked :
    (watch (observe "p.livekit.cloud") {} (outputs step {} [.fetchRegionUrls "p.livekit.cloud" 0,
      .lock 0 0, .answer 0 0 (some (["a", "b"], none)), .markFailed "p.livekit.cloud" "a",
      .fetchRegionUrls "p.livekit.cloud" 1, .markFailed "p.livekit.cloud" "b"])).isSome :=
  regions_offered (by decide +kernel) _

/-- A region is marked between the look of a call and the failure of its fetch. -/
theorem failed_region_offered :
    let outs := outputs step {} [.fetchRegionUrls "p.livekit.cloud" 0, .lock 0 0,
      .answer 0 0 (some (["a"], none)), .fetchRegionUrls "p.livekit.cloud" 6000, .lock 1 6000,
      .markFailed "p.livekit.cloud" "a", .answer 1 6001 none]
    outs = [.fetched "p.livekit.cloud" ["a"], .returned "p.livekit.cloud" (some ["a"]),
        .failed "p.livekit.cloud" "a", .returned "p.livekit.cloud" (some ["a"])] ∧
      watch (observe "p.livekit.cloud") {} outs = none := by
  decide +kernel

end RegionUrlProvider

end LiveKit.SignalClient
