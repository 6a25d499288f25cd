import LiveKitRust.Base.Outcome
import LiveKitRust.Services.Failover

/-!
# Requests to the server API (`services/twirp_client.rs`)

`request_with_timeout` posts a request, and posts it again to other regions as long as it fails for
reasons of the server or of the network and there are attempts left. The regions are asked for at
the first such failure.

`FailsOver` is the law of what a request does: how often and where it is posted, what ends it, and
what is returned. The induction in `request_fails_over` is over the attempts that are left; the
hosts tried so far and whether the regions are known already are what it has to be told of the ones
before (`Continues`).
-/

open Rust List

namespace LiveKit.Services

structure ServerErrorCode where
  code : String
  msg : String
  /-- Extra key/value context the server attached. -/
  metadata : List (String × String)
  deriving DecidableEq

/-- The errors of the HTTP client and of `prost` are their texts. -/
inductive ServerError where
  | request (error : String)
  | twirp (code : ServerErrorCode)
  | url
  | prost (error : String)
  deriving DecidableEq

structure Response where
  status : ℕ
  /-- The body, unless it cannot be read. -/
  bytes : Except String (List UInt8)
  json : Except String ServerErrorCode

abbrev Answer := Except String Response

structure Request where
  url : Url
  headers : HeaderMap
  body : List UInt8
  timeout : ℕ

inductive Event where
  | post (request : Request) (answer : Answer)
  /-- `/settings/regions` is fetched. -/
  | fetch (url : Url) (headers : HeaderMap)
  | sleep (duration : ℕ)

/-- What the client meets outside: the crates, the network and the server. -/
structure World (R : Type) where
  parse : String → Option Url
  decode : List UInt8 → Except String R
  /-- By the number of the attempt. -/
  send : ℕ → Answer
  discovery : Discovery

structure TwirpClient where
  host : String
  pkg : String
  pathPrefix : String
  failover : FailoverConfig
  requestTimeout : ℕ

/-- LiveKit URLs are commonly `wss://` (or `ws://`); the server APIs are Twirp over HTTP. -/
def normalizeHost (host : String) : String :=
  match strip "wss://" host with
  | some rest => "https://" ++ rest
  | none =>
    match strip "ws://" host with
    | some rest => "http://" ++ rest
    | none => host

def DEFAULT_PREFIX : String := "/twirp"

def USER_AGENT_VALUE : String := "livekit-server-sdk-rust/0.5.5"

/-- What stays the same in all the attempts of a request. -/
structure Call where
  original : Url
  path : String
  headers : HeaderMap
  /-- Headers for the discovery fetch. -/
  forward : HeaderMap
  body : List UInt8
  timeout : ℕ
  maxAttempts : ℕ

/-- What is posted to a region. -/
def Call.request (self : Call) (url : Url) : Request :=
  ⟨url.setPath self.path, self.headers, self.body, self.timeout⟩

/-- The variables of the loop, and the process-wide cache. -/
structure Attempts where
  attempted : List String
  regionUrls : Option (List String)
  current : Url
  cache : RegionCache

inductive Flow (R : Type) where
  | returned (result : Outcome ServerError R)
  | failOver (next : Url)

namespace TwirpClient

def new (host pkg : String) (pathPrefix : Option String) : TwirpClient where
  host := normalizeHost host
  pkg := pkg
  pathPrefix := pathPrefix.getD DEFAULT_PREFIX
  failover := {}
  requestTimeout := DEFAULT_REQUEST_TIMEOUT

variable {R : Type} (world : World R)

/-- `Ok(R::decode(resp.bytes().await?)?)` -/
def success (resp : Response) : Outcome ServerError R :=
  match resp.bytes with
  | .error error => .err (.request error)
  | .ok bytes =>
    match world.decode bytes with
    | .error error => .err (.prost error)
    | .ok result => .ok result

/-- Surface the server's error (needs the body). -/
def failure (resp : Response) : Outcome ServerError R :=
  match resp.json with
  | .error error => .err (.request error)
  | .ok code => .err (.twirp code)

/-- Resolves the next untried region, fetching the region list lazily on the first retryable
failure and reusing it thereafter. -/
def nextRegion (call : Call) (vars : Attempts) : Option Url × Attempts × List Event :=
  match vars.regionUrls with
  | some urls => (pickNext world.parse urls vars.attempted, vars, [])
  | none =>
    let regions := regionUrls vars.cache world.discovery call.original
    (pickNext world.parse regions.1 vars.attempted,
      { vars with regionUrls := some regions.1, cache := regions.2.1 },
      if regions.2.2 then
        [.fetch (call.original.setPath "/settings/regions") (forwardHeaders call.forward)]
      else [])

/-- Go on with the region that was found. If there is none, surface the error. -/
def failOverOr (posted : Event) (error : Outcome ServerError R) :
    Option Url × Attempts × List Event → Attempts × List Event × Flow R
  | (some next, vars, fetched) => (vars, posted :: fetched, .failOver next)
  | (none, vars, fetched) => (vars, posted :: fetched, .returned error)

/-- One round of the loop up to the decision where to go on, if anywhere. -/
def sendAttempt (call : Call) (attempt : ℕ) (vars : Attempts) : Attempts × List Event × Flow R :=
  let isLast := call.maxAttempts ≤ attempt + 1
  let posted : Event := .post (call.request vars.current) (world.send attempt)
  match world.send attempt with
  | .ok resp =>
    if resp.status = 200 then (vars, [posted], .returned (success world resp))
    else
      -- 4xx is terminal; only 5xx is retryable
      failOverOr posted (failure resp) <|
        if isLast ∨ resp.status < 500 then (none, vars, []) else nextRegion world call vars
  | .error error =>
    failOverOr posted (.err (.request error)) <|
      if isLast then (none, vars, []) else nextRegion world call vars

variable (self : TwirpClient)

def backoff (attempt : ℕ) : ℕ := self.failover.backoffBase * 2 ^ attempt

def sleep (duration : ℕ) : List Event := if duration = 0 then [] else [.sleep duration]

def requestLoop (self : TwirpClient) (call : Call) :
    List ℕ → Attempts → RegionCache × List Event × Outcome ServerError R
  -- "failover loop always returns within the attempt budget"
  | [], vars => (vars.cache, [], .panic)
  | attempt :: rest, vars =>
    match sendAttempt world call attempt vars with
    | (vars, events, .returned result) => (vars.cache, events, result)
    | (vars, events, .failOver next) =>
      let (cache, later, result) := requestLoop self call rest
        { vars with attempted := vars.attempted ++ [hostKey next], current := next }
      (cache, events ++ sleep (self.backoff attempt) ++ later, result)

/-- What the loop is given: the URL and headers made up from the arguments. -/
def call (original : Url) (service method : String) (body : List UInt8)
    (headers : HeaderMap) (timeout : ℕ) : Call :=
  let headers := headers.insert "user-agent" [USER_AGENT_VALUE]
  { original := original
    path := self.pathPrefix ++ "/" ++ self.pkg ++ "." ++ service ++ "/" ++ method
    headers := headers.insert "content-type" ["application/protobuf"]
    forward := headers
    body := body
    timeout := timeout
    maxAttempts := self.failover.attempts original.hostStr timeout }

/-- Like `request` but with an explicit per-attempt timeout. -/
def requestWithTimeout (cache : RegionCache) (service method : String)
    (body : List UInt8) (headers : HeaderMap) (timeout : ℕ) :
    RegionCache × List Event × Outcome ServerError R :=
  match world.parse self.host with
  | none => (cache, [], .err .url)
  | some original =>
    let call := self.call original service method body headers timeout
    requestLoop world self call (List.range call.maxAttempts)
      ⟨[hostKey original], none, original, cache⟩

/-- Issues a Twirp request, failing over to alternative regions on retryable errors. -/
def request (cache : RegionCache) (service method : String) (body : List UInt8)
    (headers : HeaderMap) : RegionCache × List Event × Outcome ServerError R :=
  requestWithTimeout world self cache service method body headers self.requestTimeout

/-! ### One attempt -/

/-- A failure for which another region is tried: of the network, or of the server. -/
def Retryable : Answer → Prop
  | .error _ => True
  | .ok resp => 500 ≤ resp.status

instance : DecidablePred Retryable
  | .error _ => inferInstanceAs (Decidable True)
  | .ok resp => inferInstanceAs (Decidable (500 ≤ resp.status))

def outcome : Answer → Outcome ServerError R
  | .error error => .err (.request error)
  | .ok resp => if resp.status = 200 then success world resp else failure resp

inductive Fetched (vars : Attempts) : List Event → Prop where
  | known : Fetched vars []
  | asked (url : Url) (headers : HeaderMap) (h : vars.regionUrls = none) :
    Fetched vars [.fetch url headers]

variable (call : Call) {attempt : ℕ} (duration : ℕ)

lemma nextRegion_spec (vars) :
    ∃ urls cache fetched, nextRegion world call vars = (pickNext world.parse urls vars.attempted,
          { vars with regionUrls := some urls, cache := cache }, fetched) ∧
      Fetched vars fetched := by
  unfold nextRegion
  split
  next urls hkn =>
    refine ⟨urls, vars.cache, [], ?_, .known⟩
    rw [← hkn]
  next hunknown =>
    refine ⟨_, _, _, rfl, ?_⟩
    generalize (regionUrls vars.cache world.discovery call.original).2.2 = asked
    cases asked with
    | true => exact .asked _ _ hunknown
    | false => exact .known

/-- How an attempt may go: its answer is returned, or there is another region for it. -/
inductive Sends (call : Call) (attempt : ℕ) (vars : Attempts) :
    Attempts × List Event × Flow R → Prop where
  | answered (h : Retryable (world.send attempt) → call.maxAttempts ≤ attempt + 1) :
    Sends call attempt vars (vars, [.post (call.request vars.current) (world.send attempt)],
        .returned (outcome world (world.send attempt)))
  | exhausted (urls : List String) (cache : RegionCache) (fetched : List Event)
    (h : Retryable (world.send attempt)) (h_fetched : Fetched vars fetched) :
    Sends call attempt vars ({ vars with regionUrls := some urls, cache := cache },
        .post (call.request vars.current) (world.send attempt) :: fetched,
        .returned (outcome world (world.send attempt)))
  | failOver (urls : List String) (cache : RegionCache) (fetched : List Event) (next : Url)
    (h : Retryable (world.send attempt)) (h_left : attempt + 1 < call.maxAttempts)
    (h_fetched : Fetched vars fetched) (h_next : hostKey next ∉ vars.attempted) :
    Sends call attempt vars ({ vars with regionUrls := some urls, cache := cache },
        .post (call.request vars.current) (world.send attempt) :: fetched, .failOver next)

variable {call} {vars : Attempts} {left : ℕ} {ans : Answer} {fetched evs : List Event}

lemma sends_nextRegion {error} (h : Retryable (world.send attempt))
    (hleft : attempt + 1 < call.maxAttempts) (herror : error = outcome world (world.send attempt)) :
    Sends world call attempt vars
      (failOverOr (.post (call.request vars.current) (world.send attempt)) error
        (nextRegion world call vars)) := by
  obtain ⟨urls, cache, fetched, hregion, hfetched⟩ := nextRegion_spec world call vars
  rw [hregion, herror]
  cases hpick : pickNext world.parse urls vars.attempted with
  | none => exact .exhausted urls cache fetched h hfetched
  | some next =>
    exact .failOver urls cache fetched next h hleft hfetched (pickNext_eq_some hpick).2

lemma sends_sendAttempt (call attempt vars) :
    Sends world call attempt vars (sendAttempt world call attempt vars) := by
  unfold sendAttempt
  dsimp only
  split
  next resp hsend =>
    split
    next hok =>
      have houtcome : outcome world (world.send attempt) = success world resp := by
        rw [hsend]
        exact if_pos hok
      rw [← houtcome]
      refine .answered fun hre => ?_
      rw [hsend, Retryable, hok] at hre
      exact absurd hre (by decide)
    next hstatus =>
      have houtcome : failure resp = outcome world (world.send attempt) := by
        rw [hsend]
        exact (if_neg hstatus).symm
      split
      next hend =>
        rw [houtcome]
        refine .answered fun hre => ?_
        rw [hsend, Retryable] at hre
        exact hend.resolve_right (Nat.not_lt.mpr hre)
      next hn =>
        rw [not_or, Nat.not_le, Nat.not_lt] at hn
        exact sends_nextRegion world (by rw [hsend]; exact hn.2) hn.1 houtcome
  next error hsend =>
    have houtcome : .err (.request error) = outcome world (world.send attempt) := by
      rw [hsend]
      rfl
    split
    next hlast =>
      rw [houtcome]
      exact .answered fun _ => hlast
    next hleft =>
      exact sends_nextRegion world (by rw [hsend]; trivial) (Nat.not_le.mp hleft) houtcome

/-! ### All attempts -/

def posts (events : List Event) : List Request :=
  events.filterMap fun
    | .post request _ => some request
    | .fetch .. | .sleep _ => none

@[simp] lemma posts_cons_post (req ans evs) : posts (.post req ans :: evs) = req :: posts evs := rfl

lemma posts_append (evs events') :
    posts (evs ++ events') = posts evs ++ posts events' := filterMap_append

@[simp] lemma posts_sleep : posts (sleep duration) = [] := by
  unfold sleep
  split <;> rfl

lemma Fetched.posts_eq_nil (h : Fetched vars fetched) : posts fetched = [] := by
  cases h <;> rfl

structure Continues (call : Call) (vars : Attempts) (left : ℕ) (events : List Event)
    (result : Outcome ServerError R) : Prop where
  /-- It posts the request to the current region, and fetches the regions if this fails. -/
  first : ∃ answer fetched rest,
    events = .post (call.request vars.current) answer :: (fetched ++ rest) ∧
      Fetched vars fetched ∧ (fetched ≠ [] → Retryable answer) ∧
        ∀ url headers, Event.fetch url headers ∉ rest
  length_le : (posts events).length ≤ left
  /-- Every further region is a new one. -/
  fresh : ∀ request ∈ (posts events).tail, hostKey request.url ∉ vars.attempted
  distinct : ((posts events).tail.map fun request => hostKey request.url).Nodup
  same : ∀ request ∈ posts events, ∃ url, request = call.request url
  ends : ∀ before request answer after, events = before ++ .post request answer :: after →
    ¬ Retryable answer → after = []
  last : ∃ before request answer after, events = before ++ .post request answer :: after ∧
    posts after = [] ∧ result = outcome world answer

lemma continues_returned (hleft : 0 < left) (hfetched : Fetched vars fetched)
    (hre : fetched ≠ [] → Retryable ans) :
    Continues world call vars left (.post (call.request vars.current) ans :: fetched)
      (outcome world ans) := by
  have hposts : posts (.post (call.request vars.current) ans :: fetched) =
      [call.request vars.current] := by
    rw [posts_cons_post, hfetched.posts_eq_nil]
  refine ⟨⟨ans, fetched, [], by rw [append_nil], hfetched, hre, by simp⟩, ?_, ?_, ?_,
    ?_, ?_, ⟨[], _, ans, fetched, rfl, hfetched.posts_eq_nil, rfl⟩⟩
  · rw [hposts]
    exact hleft
  · rw [hposts]
    exact nofun
  · rw [hposts]
    exact nodup_nil
  · rw [hposts]
    exact forall_mem_singleton.mpr ⟨vars.current, rfl⟩
  · intro pre req answer' after heq hfinal
    cases pre with
    | nil =>
      cases heq
      -- nothing is fetched after such an answer
      exact not_not.mp fun hne => hfinal (hre hne)
    | cons _ pre =>
      -- there is no second request
      have hfetched_eq : fetched = pre ++ .post req answer' :: after := (cons.inj heq).2
      have hm : req ∈ posts fetched := by
        rw [hfetched_eq, posts_append]
        exact mem_append_right _ (.head _)
      rw [hfetched.posts_eq_nil] at hm
      cases hm

lemma eq_append_of_not_mem {α : Type} {first second pre after : List α} {x : α}
    (h : first ++ second = pre ++ x :: after) (hm : x ∉ first) :
    ∃ between, pre = first ++ between ∧ second = between ++ x :: after := by
  rcases append_eq_append_iff.mp h with ⟨between, hbef, hsecond⟩ | ⟨rest, hf, hr⟩
  · exact ⟨between, hbef, hsecond⟩
  · cases rest with
    | nil => exact ⟨[], by rw [hf, append_nil, append_nil], hr.symm⟩
    | cons =>
      cases (cons.inj hr).1
      exact absurd (hf ▸ mem_append_right _ (.head _)) hm

lemma not_mem_of_posts_eq_nil (h : posts evs = []) (req ans) : Event.post req ans ∉ evs := by
  intro hm
  have hpost : req ∈ posts evs := mem_filterMap.mpr ⟨_, hm, rfl⟩
  rw [h] at hpost
  cases hpost

lemma fetch_not_mem_sleep (url : Url) (headers : HeaderMap) :
    Event.fetch url headers ∉ sleep duration := by
  unfold sleep
  split <;> simp

lemma continues_failOver {vars' : Attempts} {duration : ℕ} {later : List Event} {next : Url}
    {result : Outcome ServerError R} (hfetched : Fetched vars fetched) (hre : Retryable ans)
    (hn : hostKey next ∉ vars.attempted)
    (hkn : vars'.regionUrls ≠ none) (hcur : vars'.current = next)
    (hattempted : vars'.attempted = vars.attempted ++ [hostKey next])
    (hla : Continues world call vars' left later result) : Continues world call vars (left + 1)
      (.post (call.request vars.current) ans :: fetched ++ sleep duration ++ later) result := by
  have hquiet : posts (fetched ++ sleep duration) = [] := by
    rw [posts_append, hfetched.posts_eq_nil, posts_sleep, append_nil]
  have hposts : posts (.post (call.request vars.current) ans :: fetched ++ sleep duration ++
      later) = call.request vars.current :: posts later := by
    rw [cons_append, cons_append, posts_cons_post, posts_append, hquiet, nil_append]
  obtain ⟨_, fetched', _, heq, hfetched', -, hr⟩ := hla.first
  have hfetched'_nil : fetched' = [] := by
    cases hfetched' with
    | known => rfl
    | asked _ _ hunknown => exact absurd hunknown hkn
  have hlater_posts : posts later = call.request next :: (posts later).tail := by
    rw [heq, posts_cons_post, hcur]
    rfl
  refine ⟨⟨ans, fetched, sleep duration ++ later, ?_, hfetched, fun _ => hre, ?_⟩, ?_, ?_, ?_,
    ?_, ?_, ?_⟩
  · rw [append_assoc, cons_append]
  · intro url headers hm
    rcases mem_append.mp hm with hm | hm
    · exact fetch_not_mem_sleep duration url headers hm
    · rw [heq, hfetched'_nil] at hm
      rcases mem_cons.mp hm with hm | hm
      · cases hm
      · exact hr url headers hm
  · rw [hposts]
    exact Nat.succ_le_succ hla.length_le
  · rw [hposts, tail_cons, hlater_posts]
    refine forall_mem_cons.mpr ⟨hn, fun req hm hold => hla.fresh req hm ?_⟩
    rw [hattempted]
    exact mem_append_left _ hold
  · rw [hposts, tail_cons, hlater_posts, map_cons, nodup_cons]
    refine ⟨fun hm => ?_, hla.distinct⟩
    obtain ⟨req, hm, hkey⟩ := mem_map.mp hm
    have hnew := hla.fresh req hm
    rw [hattempted, hkey] at hnew
    exact hnew (mem_append_right _ (mem_singleton_self _))
  · rw [hposts]
    exact forall_mem_cons.mpr ⟨⟨_, rfl⟩, hla.same⟩
  · intro pre req answer'' after heq' hfinal
    cases pre with
    | nil =>
      cases heq'
      exact absurd hre hfinal
    | cons _ pre =>
      have htail : (fetched ++ sleep duration) ++ later =
          pre ++ .post req answer'' :: after := (cons.inj heq').2
      obtain ⟨between, -, hsplit⟩ :=
        eq_append_of_not_mem htail (not_mem_of_posts_eq_nil hquiet req answer'')
      exact hla.ends between req answer'' after hsplit hfinal
  · obtain ⟨pre, req, answer'', after, hsplit, ha, hres⟩ := hla.last
    refine ⟨.post (call.request vars.current) ans :: fetched ++ sleep duration ++ pre, req,
      answer'', after, ?_, ha, hres⟩
    rw [hsplit, append_assoc _ pre]

lemma continues_requestLoop (s call) {left} (hleft : 0 < left)
    (hmax : attempt + left = call.maxAttempts) (vars) :
    Continues world call vars left (requestLoop world s call (range' attempt left) vars).2.1
      (requestLoop world s call (range' attempt left) vars).2.2 := by
  induction left generalizing attempt vars with
  | zero => exact absurd hleft (Nat.lt_irrefl 0)
  | succ left ih =>
    have hsends := sends_sendAttempt world call attempt vars
    rw [range'_succ, requestLoop]
    generalize sendAttempt world call attempt vars = sent at hsends
    cases hsends with
    | answered => exact continues_returned world (Nat.succ_pos _) .known fun h => absurd rfl h
    | exhausted _ _ _ hre hfetched =>
      exact continues_returned world (Nat.succ_pos _) hfetched fun _ => hre
    | failOver urls cache _ next hre _ hfetched hn =>
      have hpos : 0 < left := by omega
      have hr : attempt + 1 + left = call.maxAttempts := by omega
      have hla := ih hpos hr { vars with
          regionUrls := some urls, cache := cache
          attempted := vars.attempted ++ [hostKey next], current := next }
      exact continues_failOver world hfetched hre hn (by simp) rfl rfl hla

/-! ### The law -/

/-- **The law of failover**, for what a request does and what it returns. -/
structure FailsOver (call : Call) (events : List Event) (result : Outcome ServerError R) :
    Prop where
  original : ∃ answer rest, events = .post (call.request call.original) answer :: rest
  atMost : (posts events).length ≤ MAX_ATTEMPTS
  /-- No host gets it twice. -/
  distinct : ((posts events).map fun request => hostKey request.url).Nodup
  /-- The attempts differ in the host alone. -/
  same : ∀ request ∈ posts events, request.headers = call.headers ∧ request.body = call.body ∧
    request.timeout = call.timeout ∧ request.url.path = call.path
  /-- Nothing comes after an answer that is not retryable. -/
  ends : ∀ before request answer after, events = before ++ .post request answer :: after →
    ¬ Retryable answer → after = []
  /-- The regions are fetched after the first attempt, if it is retryable, and not again. -/
  fetched : ∀ before url headers after, events = before ++ .fetch url headers :: after →
    ∃ request answer, before = [.post request answer] ∧ Retryable answer
  /-- What is returned is the answer to the last attempt. -/
  last : ∃ before request answer after, events = before ++ .post request answer :: after ∧
    posts after = [] ∧ result = outcome world answer

lemma Continues.fetches {res} (h : Continues world call vars left evs res) {pre after url headers}
    (heq : evs = pre ++ .fetch url headers :: after) :
    ∃ req answer, pre = [.post req answer] ∧ Retryable answer := by
  obtain ⟨answer, _, rest, hf, hfetched, hre, hr⟩ := h.first
  cases pre with
  | nil => cases hf.symm.trans heq
  | cons ev pre =>
    obtain ⟨rfl, htail⟩ := cons.inj (hf.symm.trans heq)
    cases hfetched with
    | known =>
      have hrest_eq : rest = pre ++ .fetch url headers :: after := htail
      exact absurd (hrest_eq ▸ mem_append_right _ (.head _)) (hr url headers)
    | asked =>
      refine ⟨call.request vars.current, answer, ?_, hre (cons_ne_nil _ _)⟩
      cases pre with
      | nil => rfl
      | cons _ pre =>
        have hrest_eq : rest = pre ++ .fetch url headers :: after := (cons.inj htail).2
        exact absurd (hrest_eq ▸ mem_append_right _ (.head _)) (hr url headers)

lemma Continues.failsOver {cache result}
    (h : Continues world call ⟨[hostKey call.original], none, call.original, cache⟩ left evs
      result) (hleft : left ≤ MAX_ATTEMPTS) : FailsOver world call evs result := by
  obtain ⟨ans, _, _, hf, -⟩ := h.first
  refine ⟨⟨ans, _, hf⟩, Nat.le_trans h.length_le hleft, ?_, ?_, h.ends,
    fun _ _ _ _ heq => h.fetches world heq, h.last⟩
  · have hposts : posts evs = call.request call.original :: (posts evs).tail := by
      rw [hf]
      rfl
    rw [hposts, map_cons, nodup_cons]
    refine ⟨fun hm => ?_, h.distinct⟩
    obtain ⟨req, hm, hkey⟩ := mem_map.mp hm
    refine h.fresh req hm ?_
    rw [hkey]
    exact mem_singleton_self _
  · intro req hm
    obtain ⟨_, rfl⟩ := h.same req hm
    exact ⟨rfl, rfl, rfl, rfl⟩

/-- **A request keeps to the law of failover**, whatever the attempts come to, whatever regions
the server names and whatever is kept of earlier ones. -/
theorem request_fails_over (self : TwirpClient) (cache : RegionCache) (service method : String)
    (body : List UInt8) (headers : HeaderMap) (timeout : ℕ) {original : Url}
    (h_parse : world.parse self.host = some original) :
    FailsOver world (self.call original service method body headers timeout)
      (requestWithTimeout world self cache service method body headers timeout).2.1
      (requestWithTimeout world self cache service method body headers timeout).2.2 := by
  unfold requestWithTimeout
  rw [h_parse]
  have hatt := self.failover.attempts_pos original.hostStr timeout
  have hcontinues := continues_requestLoop world self
    (self.call original service method body headers timeout) hatt (Nat.zero_add _)
    ⟨[hostKey original], none, original, cache⟩
  rw [← range_eq_range'] at hcontinues
  exact hcontinues.failsOver world (self.failover.attempts_le original.hostStr timeout)

def sampleUrl (host : String) : Url := ⟨"https", some (host ++ ".livekit.cloud"), none, "/"⟩

/-- The server is down, a region cannot be reached, and another one answers. The regions named
are the original host, the same region twice, and one more. -/
def sampleWorld : World Unit where
  parse raw :=
    if raw = "https://my" then some (sampleUrl "my")
    else if raw = "https://r1" then some (sampleUrl "r1")
    else if raw = "https://r2" then some (sampleUrl "r2")
    else none
  decode _ := .ok ()
  send
    | 0 => .ok ⟨503, .error "", .error ""⟩
    | 1 => .error "unreachable"
    | _ => .ok ⟨200, .ok [], .error ""⟩
  discovery := ⟨0, some (["wss://my", "wss://r1", "", "wss://r1", "wss://r2"], none), 0⟩

def sampleClient : TwirpClient := .new "wss://my" "livekit" none

theorem request_fails_over_thrice : sampleWorld.parse sampleClient.host = some (sampleUrl "my") ∧
      (posts (request sampleWorld sampleClient (.new RegionCache.DEFAULT_TTL) "RoomService"
          "CreateRoom" [] ∅).2.1).map (fun request => hostKey request.url) =
        ["my.livekit.cloud:443", "r1.livekit.cloud:443", "r2.livekit.cloud:443"] ∧
      FailsOver sampleWorld (sampleClient.call (sampleUrl "my") "RoomService" "CreateRoom" [] ∅
          sampleClient.requestTimeout)
        (request sampleWorld sampleClient (.new RegionCache.DEFAULT_TTL) "RoomService"
          "CreateRoom" [] ∅).2.1
        (request sampleWorld sampleClient (.new RegionCache.DEFAULT_TTL) "RoomService"
          "CreateRoom" [] ∅).2.2 := by
  have hparse : sampleWorld.parse sampleClient.host = some (sampleUrl "my") := by decide +kernel
  exact ⟨hparse, by decide +kernel, request_fails_over sampleWorld sampleClient _ _ _ _ _ _ hparse⟩

end TwirpClient

end LiveKit.Services
