/-
  **The rate limit of the public checkout** (`http/public-checkout-rate-limit.ts`).

  A call takes a token of its source and then one of all sources together.  The buckets of the sources are
  kept in a map that forgets: a source that was not seen for some time is dropped by a cleanup, which runs
  with the calls but not with every call, and the least recently seen source is dropped when the map is full.
  A source that comes back has a new, full bucket.

  1. The global budget is one token bucket, called whenever a source lets a call pass; so the window bound of
     the library applies to the accepted calls (`PublicCheckoutRateLimiter.Serves.global`).
  2. Where a forgotten bucket would have been full anyway, and no source is dropped for want of room, the map
     cannot be told from one that forgets nothing: each source is answered as by a bucket of its own that
     sees the source's calls and no others (`Serves.own`).  That bounds the calls of a source, and makes its
     refusals independent of what happens to other sources.
  3. The map never holds more sources than it may (`Serves.tracked_le`).
-/
import PerPay.Lib.Latest
import PerPay.Lib.TokenBucket
import PerPay.Network.RateLimitSource
import Mathlib.Algebra.Order.Field.Rat
import Mathlib.Data.List.Dedup

namespace PerPay.Http

open TokenBucket (Bucket)

/-! ## Options -/

structure PublicCheckoutRateLimiterOptions where
  sourceBurst : ℚ
  sourceRequestsPerSecond : ℚ
  globalBurst : ℚ
  globalRequestsPerSecond : ℚ
  maximumTrackedSources : ℚ
  sourceIdleTtlMilliseconds : ℚ
  cleanupIntervalMilliseconds : ℚ
  deriving DecidableEq

def defaultPublicCheckoutRateLimiterOptions : PublicCheckoutRateLimiterOptions where
  sourceBurst := 120
  sourceRequestsPerSecond := 20
  globalBurst := 1_200
  globalRequestsPerSecond := 200
  maximumTrackedSources := 4_096
  sourceIdleTtlMilliseconds := 10 * 60_000
  cleanupIntervalMilliseconds := 60_000

inductive LimiterError
  | typeError (message : String)
  | error (message : String)
  deriving DecidableEq, Repr

/-- `Number.isSafeInteger` -/
def isSafeInteger (value : ℚ) : Bool := value.den = 1 && value.num.natAbs ≤ 9_007_199_254_740_991

/-- The options that must be positive safe integers, under their names. -/
def PublicCheckoutRateLimiterOptions.integers (options : PublicCheckoutRateLimiterOptions) : List (String × ℚ) :=
  [("sourceBurst", options.sourceBurst), ("globalBurst", options.globalBurst),
    ("maximumTrackedSources", options.maximumTrackedSources),
    ("sourceIdleTtlMilliseconds", options.sourceIdleTtlMilliseconds),
    ("cleanupIntervalMilliseconds", options.cleanupIntervalMilliseconds)]

/-- The options that must be positive. -/
def PublicCheckoutRateLimiterOptions.rates (options : PublicCheckoutRateLimiterOptions) : List (String × ℚ) :=
  [("sourceRequestsPerSecond", options.sourceRequestsPerSecond),
    ("globalRequestsPerSecond", options.globalRequestsPerSecond)]

/-- The first option that fails its check is named. -/
def validateOptions (options : PublicCheckoutRateLimiterOptions) : Except LimiterError Unit :=
  match options.integers.find? fun entry => !isSafeInteger entry.2 || entry.2 ≤ 0 with
  | some (name, _) => .error (.typeError (name ++ " must be a positive safe integer"))
  | none =>
    match options.rates.find? fun entry => entry.2 ≤ 0 with
    | some (name, _) => .error (.typeError (name ++ " must be a positive finite number"))
    | none =>
      if options.sourceIdleTtlMilliseconds < options.cleanupIntervalMilliseconds then
        .error (.typeError "cleanupIntervalMilliseconds cannot exceed sourceIdleTtlMilliseconds")
      else .ok ()

example : validateOptions defaultPublicCheckoutRateLimiterOptions = .ok () := by decide +kernel

/-! ## Buckets -/

structure FixedTokenBucket where
  capacity : ℚ
  refillPerMillisecond : ℚ
  tokens : ℚ
  lastRefillAt : Option ℚ
  deriving DecidableEq

def FixedTokenBucket.new (capacity refillPerSecond : ℚ) : FixedTokenBucket :=
  ⟨capacity, refillPerSecond / 1000, capacity, none⟩

def FixedTokenBucket.take (now : ℚ) (bucket : FixedTokenBucket) : Bool × FixedTokenBucket :=
  let tokens := match bucket.lastRefillAt with
    | none => bucket.tokens
    | some previousRefillAt =>
      min bucket.capacity (bucket.tokens + max 0 (now - previousRefillAt) * bucket.refillPerMillisecond)
  if tokens < 1 then (false, { bucket with tokens, lastRefillAt := some now })
  else (true, { bucket with tokens := tokens - 1, lastRefillAt := some now })

structure SourceBucket where
  budget : FixedTokenBucket
  lastSeenAt : ℚ
  deriving DecidableEq

/-! ## The limiter -/

structure PublicCheckoutRateLimiter where
  options : PublicCheckoutRateLimiterOptions
  globalBudget : FixedTokenBucket
  sourceBuckets : List (String × SourceBucket)
  lastCleanupAt : Option ℚ
  deriving DecidableEq

namespace PublicCheckoutRateLimiter

/-- The constructor. -/
def new (options : PublicCheckoutRateLimiterOptions) : Except LimiterError PublicCheckoutRateLimiter := do
  validateOptions options
  return ⟨options, .new options.globalBurst options.globalRequestsPerSecond, [], none⟩

def trackedSourceCount (limiter : PublicCheckoutRateLimiter) : Nat := limiter.sourceBuckets.length

/-- The first of the sources that were seen at the earliest time. -/
def leastRecentlySeen (sources : List (String × SourceBucket)) : Option (String × SourceBucket) :=
  sources.foldl (fun oldest source =>
    match oldest with
    | none => some source
    | some o => if source.2.lastSeenAt < o.2.lastSeenAt then some source else some o) none

def evictLeastRecentlySeenSource (limiter : PublicCheckoutRateLimiter) : Except LimiterError PublicCheckoutRateLimiter :=
  match leastRecentlySeen limiter.sourceBuckets with
  | none => .error (.error "tracked source capacity is inconsistent")
  | some (oldestKey, _) =>
    .ok { limiter with sourceBuckets := limiter.sourceBuckets.filter fun source => source.1 ≠ oldestKey }

/-- The last cleanup is less than an interval ago. -/
def cleanupRecent (now : ℚ) (limiter : PublicCheckoutRateLimiter) : Bool :=
  limiter.lastCleanupAt.any fun previousCleanupAt =>
    previousCleanupAt ≤ now && now - previousCleanupAt < limiter.options.cleanupIntervalMilliseconds

def expired (now idleTtlMilliseconds : ℚ) (source : SourceBucket) : Bool :=
  source.lastSeenAt ≤ now && idleTtlMilliseconds ≤ now - source.lastSeenAt

def cleanupExpiredSources (now : ℚ) (limiter : PublicCheckoutRateLimiter) : PublicCheckoutRateLimiter :=
  if limiter.cleanupRecent now then limiter
  else { limiter with
    lastCleanupAt := some now
    sourceBuckets := limiter.sourceBuckets.filter fun source =>
      !expired now limiter.options.sourceIdleTtlMilliseconds source.2 }

/-- A full map loses its least recently seen source. -/
def makeRoom (limiter : PublicCheckoutRateLimiter) : Except LimiterError PublicCheckoutRateLimiter :=
  if limiter.options.maximumTrackedSources ≤ limiter.sourceBuckets.length then limiter.evictLeastRecentlySeenSource
  else .ok limiter

/-- The bucket of a source: the one that is tracked, or a new one, for which room is made. -/
def seeSource (sourceKey : String) (limiter : PublicCheckoutRateLimiter) :
    Except LimiterError (FixedTokenBucket × PublicCheckoutRateLimiter) :=
  match Latest.get sourceKey limiter.sourceBuckets with
  | some source => .ok (source.budget, limiter)
  | none => do
    let room ← limiter.makeRoom
    return (.new limiter.options.sourceBurst limiter.options.sourceRequestsPerSecond, room)

/-- `take`, as far as the bucket of the source: whether it lets the call pass. -/
def takeSource (sourceKey : String) (now : ℚ) (limiter : PublicCheckoutRateLimiter) :
    Except LimiterError (Bool × PublicCheckoutRateLimiter) := do
  let (budget, seen) ← (limiter.cleanupExpiredSources now).seeSource sourceKey
  return ((budget.take now).1,
    { seen with sourceBuckets := Latest.set sourceKey ⟨(budget.take now).2, now⟩ seen.sourceBuckets })

/-- A call that its source lets pass takes a token of the global budget. -/
def takeGlobal (now : ℚ) (passed : Bool) (limiter : PublicCheckoutRateLimiter) : Bool × PublicCheckoutRateLimiter :=
  if passed then
    ((limiter.globalBudget.take now).1, { limiter with globalBudget := (limiter.globalBudget.take now).2 })
  else (false, limiter)

section

variable (other : List Char → Option Int)

def take (sourceAddress : String) (now : ℚ) (limiter : PublicCheckoutRateLimiter) :
    Except LimiterError (Bool × PublicCheckoutRateLimiter) :=
  if now < 0 then .error (.typeError "rate-limit time must be a non-negative finite number")
  else do
    let (passed, seen) ← limiter.takeSource (Network.aggregateRateLimitSource other sourceAddress) now
    return seen.takeGlobal now passed

end

/-! ## Histories -/

/-- A call that was answered: its source, its time, whether its source let it pass and what it was answered. -/
structure Served where
  sourceKey : String
  now : ℚ
  passed : Bool
  accepted : Bool
  deriving DecidableEq

/-- The histories of a limiter whose clock does not run backwards. -/
inductive Serves (other : List Char → Option Int) (options : PublicCheckoutRateLimiterOptions) :
    PublicCheckoutRateLimiter → List Served → Prop
  | new {limiter : PublicCheckoutRateLimiter} (hnew : new options = .ok limiter) : Serves other options limiter []
  | take {limiter seen next : PublicCheckoutRateLimiter} {served : List Served} {sourceAddress : String} {now : ℚ}
      {passed accepted : Bool} (h : Serves other options limiter served) (horder : ∀ call ∈ served, call.now ≤ now)
      (hsource : limiter.takeSource (Network.aggregateRateLimitSource other sourceAddress) now = .ok (passed, seen))
      (htake : limiter.take other sourceAddress now = .ok (accepted, next)) :
      Serves other options next
        (served ++ [⟨Network.aggregateRateLimitSource other sourceAddress, now, passed, accepted⟩])

/-- The accepted calls from `a` to `a + length`. -/
def acceptedIn (a length : ℚ) (served : List Served) : List Served :=
  served.filter fun call => call.accepted && decide (a ≤ call.now ∧ call.now ≤ a + length)

/-- The calls of one source. -/
def callsOf (sourceKey : String) (served : List Served) : List Served :=
  served.filter fun call => call.sourceKey = sourceKey

/-- The times of the calls that their sources let pass. -/
def passedTimes (served : List Served) : List ℚ := (served.filter (·.passed)).map (·.now)

theorem callsOf_append (sourceKey : String) (served : List Served) (call : Served) :
    callsOf sourceKey (served ++ [call]) =
      callsOf sourceKey served ++ if call.sourceKey = sourceKey then [call] else [] := by
  unfold callsOf
  rw [List.filter_append, List.filter_singleton]
  by_cases h : call.sourceKey = sourceKey
  · rw [if_pos h, decide_eq_true h]
    rfl
  · rw [if_neg h, decide_eq_false h]
    rfl

theorem passedTimes_append (served : List Served) (call : Served) :
    passedTimes (served ++ [call]) = passedTimes served ++ if call.passed then [call.now] else [] := by
  unfold passedTimes
  rw [List.filter_append, List.map_append, List.filter_singleton]
  cases call.passed <;> rfl

/-! ## One call -/

/-- What the checks of the options leave of them. -/
structure Valid (options : PublicCheckoutRateLimiterOptions) : Prop where
  sourceBurst : 0 < options.sourceBurst
  globalBurst : 0 < options.globalBurst
  maximum : ∃ n : Nat, 0 < n ∧ options.maximumTrackedSources = n
  sourceRate : 0 < options.sourceRequestsPerSecond
  globalRate : 0 < options.globalRequestsPerSecond

theorem isSafeInteger_nat {value : ℚ} (h : isSafeInteger value = true) (hpos : 0 < value) :
    ∃ n : Nat, 0 < n ∧ value = n := by
  have hden : value.den = 1 := of_decide_eq_true (Bool.and_eq_true_iff.mp h).1
  have hnum : 0 < value.num := Rat.num_pos.mpr hpos
  have hcast : value = (value.num.toNat : ℚ) := by
    rw [← Int.cast_natCast, Int.toNat_of_nonneg hnum.le]
    exact (Rat.den_eq_one_iff value).mp hden |>.symm
  exact ⟨value.num.toNat, by omega, hcast⟩

theorem validateOptions_ok {options : PublicCheckoutRateLimiterOptions} (h : validateOptions options = .ok ()) :
    Valid options := by
  unfold validateOptions at h
  split at h
  · exact nomatch h
  next hintegers =>
  split at h
  · exact nomatch h
  next hrates =>
  have hinteger : ∀ entry ∈ options.integers, isSafeInteger entry.2 = true ∧ 0 < entry.2 := by
    intro entry hentry
    simpa using List.find?_eq_none.mp hintegers entry hentry
  have hrate : ∀ entry ∈ options.rates, 0 < entry.2 := by
    intro entry hentry
    simpa using List.find?_eq_none.mp hrates entry hentry
  obtain ⟨hmaximum, hpositive⟩ := hinteger ("maximumTrackedSources", options.maximumTrackedSources)
    (by simp [PublicCheckoutRateLimiterOptions.integers])
  exact {
    sourceBurst := (hinteger ("sourceBurst", options.sourceBurst)
      (by simp [PublicCheckoutRateLimiterOptions.integers])).2
    globalBurst := (hinteger ("globalBurst", options.globalBurst)
      (by simp [PublicCheckoutRateLimiterOptions.integers])).2
    maximum := isSafeInteger_nat hmaximum hpositive
    sourceRate := hrate ("sourceRequestsPerSecond", options.sourceRequestsPerSecond)
      (by simp [PublicCheckoutRateLimiterOptions.rates])
    globalRate := hrate ("globalRequestsPerSecond", options.globalRequestsPerSecond)
      (by simp [PublicCheckoutRateLimiterOptions.rates]) }

theorem new_ok {options : PublicCheckoutRateLimiterOptions} {limiter : PublicCheckoutRateLimiter}
    (h : new options = .ok limiter) :
    Valid options ∧ limiter = ⟨options, .new options.globalBurst options.globalRequestsPerSecond, [], none⟩ := by
  obtain ⟨_, hvalid, hlimiter⟩ := Checks.bind_ok.mp h
  exact ⟨validateOptions_ok hvalid, (Except.ok.inj hlimiter).symm⟩

end PublicCheckoutRateLimiter

/-- A token bucket in the fields of the source. -/
def FixedTokenBucket.of (capacity refillPerMillisecond : ℚ) (bucket : Bucket ℚ) : FixedTokenBucket :=
  ⟨capacity, refillPerMillisecond, bucket.tokens, bucket.lastRefillAt⟩

theorem FixedTokenBucket.new_eq (capacity refillPerSecond : ℚ) :
    FixedTokenBucket.new capacity refillPerSecond =
      .of capacity (refillPerSecond / 1000) (TokenBucket.full capacity) := rfl

/-- **The bucket of the source is the bucket of the library.** -/
theorem FixedTokenBucket.take_of (capacity rate now : ℚ) (bucket : Bucket ℚ) :
    (FixedTokenBucket.of capacity rate bucket).take now =
      ((TokenBucket.take capacity rate now bucket).1, .of capacity rate (TokenBucket.take capacity rate now bucket).2) := by
  unfold FixedTokenBucket.take TokenBucket.take TokenBucket.refilled FixedTokenBucket.of
  dsimp only
  cases bucket.lastRefillAt with
  | none =>
    dsimp only
    split <;> rfl
  | some last =>
    dsimp only
    split <;> rfl

namespace PublicCheckoutRateLimiter

variable {limiter seen next : PublicCheckoutRateLimiter} {sourceKey : String} {now : ℚ}

theorem leastRecentlySeen_mem {sources : List (String × SourceBucket)} {oldest : String × SourceBucket}
    (h : leastRecentlySeen sources = some oldest) : oldest ∈ sources := by
  have hfold : ∀ (rest : List (String × SourceBucket)) (first : Option (String × SourceBucket)),
      rest.foldl (fun oldest source =>
        match oldest with
        | none => some source
        | some o => if source.2.lastSeenAt < o.2.lastSeenAt then some source else some o) first = some oldest →
      first = some oldest ∨ oldest ∈ rest := by
    intro rest
    induction rest with
    | nil => exact fun _ h => .inl h
    | cons source rest ih =>
      intro first h
      rw [List.foldl_cons] at h
      rcases ih _ h with hfirst | hmem
      · cases first with
        | none => exact .inr (List.mem_cons.mpr (.inl (Option.some.inj hfirst).symm))
        | some o =>
          dsimp only at hfirst
          split at hfirst
          · exact .inr (List.mem_cons.mpr (.inl (Option.some.inj hfirst).symm))
          · exact .inl hfirst
      · exact .inr (List.mem_cons_of_mem _ hmem)
  rcases hfold sources none h with hnone | hmem
  · exact nomatch hnone
  · exact hmem

theorem leastRecentlySeen_isSome {sources : List (String × SourceBucket)} (h : sources ≠ []) :
    ∃ oldest, leastRecentlySeen sources = some oldest := by
  have hfold : ∀ (rest : List (String × SourceBucket)) (first : String × SourceBucket), ∃ oldest,
      rest.foldl (fun oldest source =>
        match oldest with
        | none => some source
        | some o => if source.2.lastSeenAt < o.2.lastSeenAt then some source else some o) (some first) = some oldest := by
    intro rest
    induction rest with
    | nil => exact fun first => ⟨first, rfl⟩
    | cons source rest ih =>
      intro first
      rw [List.foldl_cons]
      dsimp only
      split
      · exact ih source
      · exact ih first
  cases sources with
  | nil => exact absurd rfl h
  | cons source sources => exact hfold sources source

/-- A cleanup keeps the sources that were seen within the idle time. -/
theorem cleanup_eq (now : ℚ) (limiter : PublicCheckoutRateLimiter) :
    ∃ cleanedAt keeps, limiter.cleanupExpiredSources now =
        { limiter with lastCleanupAt := cleanedAt, sourceBuckets := limiter.sourceBuckets.filter keeps } ∧
      ∀ source, keeps source = false →
        source.2.lastSeenAt + limiter.options.sourceIdleTtlMilliseconds ≤ now := by
  unfold cleanupExpiredSources
  split
  · refine ⟨limiter.lastCleanupAt, fun _ => true, ?_, fun source h => nomatch h⟩
    rw [List.filter_eq_self.mpr fun _ _ => rfl]
  · refine ⟨some now, _, rfl, fun source h => ?_⟩
    have hexpired : expired now limiter.options.sourceIdleTtlMilliseconds source.2 = true := by simpa using h
    have hidle := of_decide_eq_true (Bool.and_eq_true_iff.mp hexpired).2
    linarith

theorem seeSource_ok {budget : FixedTokenBucket} (h : limiter.seeSource sourceKey = .ok (budget, seen)) :
    (∃ source, Latest.get sourceKey limiter.sourceBuckets = some source ∧ budget = source.budget ∧ seen = limiter) ∨
    (Latest.get sourceKey limiter.sourceBuckets = none ∧
      budget = .new limiter.options.sourceBurst limiter.options.sourceRequestsPerSecond ∧
      ((limiter.sourceBuckets.length < limiter.options.maximumTrackedSources ∧ seen = limiter) ∨
        (limiter.options.maximumTrackedSources ≤ limiter.sourceBuckets.length ∧
          ∃ oldest ∈ limiter.sourceBuckets, seen =
            { limiter with sourceBuckets := limiter.sourceBuckets.filter fun source => source.1 ≠ oldest.1 }))) := by
  unfold seeSource at h
  split at h
  next source hget =>
    obtain ⟨rfl, rfl⟩ := Prod.mk.inj (Except.ok.inj h)
    exact .inl ⟨source, hget, rfl, rfl⟩
  next hget =>
    obtain ⟨room, hroom, h⟩ := Checks.bind_ok.mp h
    obtain ⟨rfl, rfl⟩ := Prod.mk.inj (Except.ok.inj h)
    refine .inr ⟨hget, rfl, ?_⟩
    unfold makeRoom at hroom
    split at hroom
    next hfull =>
      unfold evictLeastRecentlySeenSource at hroom
      split at hroom
      · exact nomatch hroom
      next key bucket holdest =>
        exact .inr ⟨hfull, (key, bucket), leastRecentlySeen_mem holdest, (Except.ok.inj hroom).symm⟩
    next hfull => exact .inl ⟨not_le.mp hfull, (Except.ok.inj hroom).symm⟩

theorem takeSource_ok {passed : Bool} (h : limiter.takeSource sourceKey now = .ok (passed, next)) :
    ∃ budget room, (limiter.cleanupExpiredSources now).seeSource sourceKey = .ok (budget, room) ∧
      passed = (budget.take now).1 ∧
      next = { room with sourceBuckets := Latest.set sourceKey ⟨(budget.take now).2, now⟩ room.sourceBuckets } := by
  obtain ⟨⟨budget, room⟩, hsee, h⟩ := Checks.bind_ok.mp h
  obtain ⟨hpassed, hnext⟩ := Prod.mk.inj (Except.ok.inj h)
  exact ⟨budget, room, hsee, hpassed.symm, hnext.symm⟩

/-- A call that its source lets pass is answered by the global budget. -/
theorem take_ok {other : List Char → Option Int} {sourceAddress : String} {passed accepted : Bool}
    (hsource : limiter.takeSource (Network.aggregateRateLimitSource other sourceAddress) now = .ok (passed, seen))
    (htake : limiter.take other sourceAddress now = .ok (accepted, next)) :
    0 ≤ now ∧ seen.takeGlobal now passed = (accepted, next) := by
  unfold take at htake
  split at htake
  · exact nomatch htake
  next hnow =>
    rw [hsource] at htake
    exact ⟨not_lt.mp hnow, Except.ok.inj htake⟩

theorem takeGlobal_frame {passed accepted : Bool} (h : seen.takeGlobal now passed = (accepted, next)) :
    next.options = seen.options ∧ next.sourceBuckets = seen.sourceBuckets := by
  cases passed with
  | false =>
    obtain ⟨-, rfl⟩ := Prod.mk.inj h
    exact ⟨rfl, rfl⟩
  | true =>
    obtain ⟨-, rfl⟩ := Prod.mk.inj h
    exact ⟨rfl, rfl⟩

theorem length_set (key : String) (source : SourceBucket) (sources : List (String × SourceBucket)) :
    (Latest.set key source sources).length =
      if key ∈ sources.map (·.1) then sources.length else sources.length + 1 := by
  have hkeys : ((Latest.set key source sources).map (·.1)).length = _ := congrArg List.length (Latest.keys_set sources)
  rw [List.length_map] at hkeys
  rw [hkeys]
  split
  · exact List.length_map _
  · rw [List.length_append, List.length_map]
    rfl

/-- The source's part of a call touches neither the options nor the global budget, and finds room. -/
theorem takeSource_frame {passed : Bool} (hvalid : Valid limiter.options) (hkeyed : Latest.Keyed limiter.sourceBuckets)
    (hroom : (limiter.sourceBuckets.length : ℚ) ≤ limiter.options.maximumTrackedSources)
    (h : limiter.takeSource sourceKey now = .ok (passed, next)) :
    next.options = limiter.options ∧ next.globalBudget = limiter.globalBudget ∧ Latest.Keyed next.sourceBuckets ∧
      (next.sourceBuckets.length : ℚ) ≤ limiter.options.maximumTrackedSources := by
  obtain ⟨budget, room, hsee, -, rfl⟩ := takeSource_ok h
  obtain ⟨cleanedAt, keeps, hcleaned, -⟩ := cleanup_eq now limiter
  rw [hcleaned] at hsee
  obtain ⟨maximum, -, hmaximum⟩ := hvalid.maximum
  rw [hmaximum] at hroom ⊢
  have hkept : (limiter.sourceBuckets.filter keeps).length ≤ maximum :=
    (List.length_filter_le _ _).trans (by exact_mod_cast hroom)
  have hkeyed' := hkeyed.filter keeps
  rcases seeSource_ok hsee with ⟨source, hget, -, rfl⟩ | ⟨hget, -, ⟨hspace, rfl⟩ | ⟨-, oldest, holdest, rfl⟩⟩
  · refine ⟨rfl, rfl, hkeyed'.set, ?_⟩
    have hmem := List.mem_map_of_mem (f := (·.1)) ((Latest.get_eq_some hkeyed').mp hget)
    rw [length_set, if_pos hmem]
    exact_mod_cast hkept
  · refine ⟨rfl, rfl, hkeyed'.set, ?_⟩
    dsimp only at hspace
    rw [hmaximum] at hspace
    have hlt : (limiter.sourceBuckets.filter keeps).length < maximum := by exact_mod_cast hspace
    have hset : (Latest.set sourceKey ⟨(budget.take now).2, now⟩ (limiter.sourceBuckets.filter keeps)).length ≤ maximum := by
      rw [length_set]
      split <;> omega
    exact_mod_cast hset
  · refine ⟨rfl, rfl, (hkeyed'.filter _).set, ?_⟩
    dsimp only at holdest ⊢
    -- the source that is dropped makes the room
    have hdropped : ((limiter.sourceBuckets.filter keeps).filter fun source => source.1 ≠ oldest.1).length <
        (limiter.sourceBuckets.filter keeps).length := by
      refine lt_of_le_of_ne (List.length_filter_le _ _) fun heq => ?_
      have hall := (List.length_filter_eq_length_iff.mp heq) oldest holdest
      exact of_decide_eq_true hall rfl
    have hset : (Latest.set sourceKey ⟨(budget.take now).2, now⟩
        ((limiter.sourceBuckets.filter keeps).filter fun source => source.1 ≠ oldest.1)).length ≤ maximum := by
      rw [length_set]
      split <;> omega
    exact_mod_cast hset

/-! ## The global budget -/

/-- The global budget after a history: one token bucket, called whenever a source lets a call pass. -/
def globalBucket (options : PublicCheckoutRateLimiterOptions) (served : List Served) : Bucket ℚ :=
  TokenBucket.after options.globalBurst (options.globalRequestsPerSecond / 1000) (passedTimes served)

/-- What holds of every limiter after every history. -/
structure Consistent (options : PublicCheckoutRateLimiterOptions) (limiter : PublicCheckoutRateLimiter)
    (served : List Served) : Prop where
  valid : Valid options
  options_eq : limiter.options = options
  keyed : Latest.Keyed limiter.sourceBuckets
  room : (limiter.sourceBuckets.length : ℚ) ≤ options.maximumTrackedSources
  globalBudget : limiter.globalBudget =
    .of options.globalBurst (options.globalRequestsPerSecond / 1000) (globalBucket options served)
  accepted : (served.filter (·.accepted)).map (·.now) =
    TokenBucket.taken options.globalBurst (options.globalRequestsPerSecond / 1000) (passedTimes served)
  passed : ∀ call ∈ served, call.accepted = true → call.passed = true
  order : (served.map (·.now)).Pairwise (· ≤ ·)

theorem consistent_new {options : PublicCheckoutRateLimiterOptions} (h : new options = .ok limiter) :
    Consistent options limiter [] := by
  obtain ⟨hvalid, rfl⟩ := new_ok h
  obtain ⟨maximum, -, hmaximum⟩ := hvalid.maximum
  exact {
    valid := hvalid
    options_eq := rfl
    keyed := List.nodup_nil
    room := by
      rw [hmaximum]
      exact_mod_cast Nat.zero_le maximum
    globalBudget := rfl
    accepted := rfl
    passed := fun _ h => nomatch h
    order := List.Pairwise.nil }

theorem Consistent.take {options : PublicCheckoutRateLimiterOptions} {served : List Served} {passed accepted : Bool}
    (h : Consistent options limiter served) (horder : ∀ call ∈ served, call.now ≤ now)
    (hsource : limiter.takeSource sourceKey now = .ok (passed, seen))
    (hglobal : seen.takeGlobal now passed = (accepted, next)) :
    Consistent options next (served ++ [Served.mk sourceKey now passed accepted]) := by
  obtain ⟨hoptions, hsources⟩ := takeGlobal_frame hglobal
  obtain ⟨hoptions', hbudget, hkeyed, hroom⟩ :=
    takeSource_frame (h.options_eq ▸ h.valid) h.keyed (h.options_eq ▸ h.room) hsource
  rw [h.globalBudget] at hbudget
  have hordered : ((served ++ [Served.mk sourceKey now passed accepted]).map (·.now)).Pairwise (· ≤ ·) := by
    rw [List.map_append]
    refine List.pairwise_append.mpr ⟨h.order, List.pairwise_singleton _ _, fun t ht t' ht' => ?_⟩
    obtain ⟨call, hcall, rfl⟩ := List.mem_map.mp ht
    obtain rfl := List.mem_singleton.mp ht'
    exact horder call hcall
  -- the global budget is called with the calls that pass
  have hcalled : next.globalBudget = .of options.globalBurst (options.globalRequestsPerSecond / 1000)
        (globalBucket options (served ++ [Served.mk sourceKey now passed accepted])) ∧
      ((served ++ [Served.mk sourceKey now passed accepted]).filter (·.accepted)).map (·.now) =
        TokenBucket.taken options.globalBurst (options.globalRequestsPerSecond / 1000)
          (passedTimes (served ++ [Served.mk sourceKey now passed accepted])) ∧
      (accepted = true → passed = true) := by
    unfold globalBucket
    rw [passedTimes_append, List.filter_append, List.map_append, h.accepted]
    cases passed with
    | false =>
      obtain ⟨rfl, rfl⟩ := Prod.mk.inj hglobal
      rw [if_neg Bool.false_ne_true, List.append_nil]
      exact ⟨hbudget, List.append_nil _, fun h => nomatch h⟩
    | true =>
      unfold takeGlobal at hglobal
      rw [if_pos rfl, hbudget, FixedTokenBucket.take_of] at hglobal
      obtain ⟨haccepted, rfl⟩ := Prod.mk.inj hglobal
      rw [if_pos rfl, TokenBucket.after_append, TokenBucket.taken_append, ← haccepted]
      refine ⟨rfl, ?_, fun _ => rfl⟩
      show _ ++ _ = _ ++ if (TokenBucket.take _ _ _ (globalBucket options served)).1 = true then [now] else []
      cases (TokenBucket.take options.globalBurst (options.globalRequestsPerSecond / 1000) now
        (globalBucket options served)).1 <;> rfl
  exact {
    valid := h.valid
    options_eq := hoptions.trans (hoptions'.trans h.options_eq)
    keyed := hsources ▸ hkeyed
    room := by
      rw [hsources, ← h.options_eq]
      exact hroom
    globalBudget := hcalled.1
    accepted := hcalled.2.1
    passed := by
      intro call hcall haccepted
      rcases List.mem_append.mp hcall with hcall | hcall
      · exact h.passed call hcall haccepted
      · obtain rfl := List.mem_singleton.mp hcall
        exact hcalled.2.2 haccepted
    order := hordered }

theorem Serves.consistent {other : List Char → Option Int} {options : PublicCheckoutRateLimiterOptions}
    {served : List Served} (h : Serves other options limiter served) : Consistent options limiter served := by
  induction h with
  | new hnew => exact consistent_new hnew
  | take _ horder hsource htake ih => exact ih.take horder hsource (take_ok hsource htake).2

/-! ## The buckets of the sources -/

def timesOf (sourceKey : String) (served : List Served) : List ℚ := (callsOf sourceKey served).map (·.now)

/-- The bucket of a source that is never dropped. -/
def ownBucket (options : PublicCheckoutRateLimiterOptions) (sourceKey : String) (served : List Served) : Bucket ℚ :=
  TokenBucket.after options.sourceBurst (options.sourceRequestsPerSecond / 1000) (timesOf sourceKey served)

/-- The map cannot be told from one that drops nothing. -/
structure Own (options : PublicCheckoutRateLimiterOptions) (limiter : PublicCheckoutRateLimiter)
    (served : List Served) : Prop where
  tracked : ∀ key source, (key, source) ∈ limiter.sourceBuckets →
    source.budget = .of options.sourceBurst (options.sourceRequestsPerSecond / 1000) (ownBucket options key served) ∧
      (ownBucket options key served).lastRefillAt = some source.lastSeenAt
  forgotten : ∀ key last, (∀ source, (key, source) ∉ limiter.sourceBuckets) →
    (ownBucket options key served).lastRefillAt = some last →
      ∃ call ∈ served, last + options.sourceIdleTtlMilliseconds ≤ call.now
  answered : ∀ key, (callsOf key served).map (·.passed) =
    TokenBucket.answers options.sourceBurst (options.sourceRequestsPerSecond / 1000) (timesOf key served)

theorem own_new {options : PublicCheckoutRateLimiterOptions} (h : new options = .ok limiter) : Own options limiter [] := by
  obtain ⟨-, rfl⟩ := new_ok h
  exact {
    tracked := fun _ _ h => nomatch h
    forgotten := fun _ _ _ h => nomatch h
    answered := fun _ => rfl }

theorem timesOf_append (key : String) (served : List Served) (call : Served) :
    timesOf key (served ++ [call]) = timesOf key served ++ if call.sourceKey = key then [call.now] else [] := by
  unfold timesOf
  rw [callsOf_append, List.map_append]
  split <;> rfl

/-- A source that has a bucket has called. -/
theorem Own.called {options : PublicCheckoutRateLimiterOptions} {served : List Served} (h : Own options limiter served)
    {key : String} (hkey : key ∈ limiter.sourceBuckets.map (·.1)) : ∃ call ∈ served, call.sourceKey = key := by
  obtain ⟨⟨key, source⟩, hmem, rfl⟩ := List.mem_map.mp hkey
  have hlast := (h.tracked key source hmem).2
  cases hcalls : callsOf key served with
  | nil =>
    unfold ownBucket timesOf at hlast
    rw [hcalls] at hlast
    exact nomatch hlast
  | cons call calls =>
    have hcall : call ∈ callsOf key served := hcalls ▸ List.mem_cons_self
    exact ⟨call, List.mem_of_mem_filter hcall, of_decide_eq_true (List.mem_filter.mp hcall).2⟩

/-- Where no more sources call than the map may hold, there is room for a source that is not in it. -/
theorem Own.has_room {options : PublicCheckoutRateLimiterOptions} {served : List Served} (h : Own options limiter served)
    {keys : List String} (hkeys : (keys.length : ℚ) ≤ options.maximumTrackedSources)
    (hserved : ∀ call ∈ served, call.sourceKey ∈ keys) (hkey : sourceKey ∈ keys)
    {sources : List (String × SourceBucket)} (hkeyed : Latest.Keyed sources)
    (hsources : ∀ source ∈ sources, source ∈ limiter.sourceBuckets)
    (hnone : Latest.get sourceKey sources = none) :
    (sources.length : ℚ) < options.maximumTrackedSources := by
  have hnodup : (sourceKey :: sources.map (·.1)).Nodup := by
    refine List.nodup_cons.mpr ⟨fun hmem => ?_, hkeyed⟩
    obtain ⟨⟨key, source⟩, hsource, rfl⟩ := List.mem_map.mp hmem
    exact Latest.get_eq_none.mp hnone source hsource
  have hsubset : ∀ key ∈ sourceKey :: sources.map (·.1), key ∈ keys := by
    intro key hmem
    rcases List.mem_cons.mp hmem with rfl | hmem
    · exact hkey
    · obtain ⟨source, hsource, rfl⟩ := List.mem_map.mp hmem
      obtain ⟨call, hcall, hname⟩ := h.called (List.mem_map_of_mem (f := (·.1)) (hsources source hsource))
      exact hname ▸ hserved call hcall
  have hlength := (List.subperm_of_subset hnodup hsubset).length_le
  rw [List.length_cons, List.length_map] at hlength
  have hcast : ((sources.length + 1 : Nat) : ℚ) ≤ keys.length := by exact_mod_cast hlength
  push_cast at hcast
  linarith

/-- **What a source finds**: whether its bucket is tracked or was forgotten, the call is answered as by the
    bucket that was never dropped. -/
theorem Own.takeSource {options : PublicCheckoutRateLimiterOptions} {served : List Served} {passed : Bool}
    (h : Own options limiter served) (hconsistent : Consistent options limiter served)
    (hfills : options.sourceBurst ≤ options.sourceIdleTtlMilliseconds * (options.sourceRequestsPerSecond / 1000))
    {keys : List String} (hkeys : (keys.length : ℚ) ≤ options.maximumTrackedSources)
    (hserved : ∀ call ∈ served, call.sourceKey ∈ keys) (hkey : sourceKey ∈ keys)
    (horder : ∀ call ∈ served, call.now ≤ now) (hsource : limiter.takeSource sourceKey now = .ok (passed, next)) :
    ∃ keeps : String × SourceBucket → Bool,
      (∀ source, keeps source = false → source.2.lastSeenAt + options.sourceIdleTtlMilliseconds ≤ now) ∧
      passed = (TokenBucket.take options.sourceBurst (options.sourceRequestsPerSecond / 1000) now
        (ownBucket options sourceKey served)).1 ∧
      next.sourceBuckets = Latest.set sourceKey
        ⟨.of options.sourceBurst (options.sourceRequestsPerSecond / 1000)
          (TokenBucket.take options.sourceBurst (options.sourceRequestsPerSecond / 1000) now
            (ownBucket options sourceKey served)).2, now⟩
        (limiter.sourceBuckets.filter keeps) := by
  obtain ⟨budget, room, hsee, hpassed, rfl⟩ := takeSource_ok hsource
  obtain ⟨cleanedAt, keeps, hcleaned, hdropped⟩ := cleanup_eq now limiter
  rw [hcleaned] at hsee
  have hkeyed := hconsistent.keyed.filter keeps
  rw [hconsistent.options_eq] at hdropped
  refine ⟨keeps, hdropped, ?_⟩
  rcases seeSource_ok hsee with ⟨source, hget, rfl, rfl⟩ | ⟨hget, rfl, hroom⟩
  · have hmem := List.mem_of_mem_filter ((Latest.get_eq_some hkeyed).mp hget)
    rw [(h.tracked _ _ hmem).1, FixedTokenBucket.take_of] at hpassed ⊢
    exact ⟨hpassed, rfl⟩
  · have hspace := h.has_room hkeys hserved hkey hkeyed (fun source => List.mem_of_mem_filter) hget
    obtain ⟨-, rfl⟩ | ⟨hfull, -⟩ := hroom
    · -- a bucket that was forgotten had filled up
      have hidle : TokenBucket.take options.sourceBurst (options.sourceRequestsPerSecond / 1000) now
            (ownBucket options sourceKey served) =
          TokenBucket.take options.sourceBurst (options.sourceRequestsPerSecond / 1000) now
            (TokenBucket.full options.sourceBurst) := by
        have hrate : 0 ≤ options.sourceRequestsPerSecond / 1000 :=
          div_nonneg hconsistent.valid.sourceRate.le (by norm_num)
        have htokens := (TokenBucket.tokens_bounds hconsistent.valid.sourceBurst.le hrate (timesOf sourceKey served)).1
        cases hlast : (ownBucket options sourceKey served).lastRefillAt with
        | none =>
          cases htimes : timesOf sourceKey served using List.reverseRecOn with
          | nil =>
            unfold ownBucket
            rw [htimes]
            rfl
          | append_singleton times last =>
            unfold ownBucket at hlast
            rw [htimes, TokenBucket.after_lastRefillAt] at hlast
            exact nomatch hlast
        | some last =>
          refine TokenBucket.take_idle htokens hrate hlast ?_ hfills
          by_cases htracked : ∃ source, (sourceKey, source) ∈ limiter.sourceBuckets
          · obtain ⟨source, hmem⟩ := htracked
            have hseen := (h.tracked _ _ hmem).2
            rw [hlast] at hseen
            obtain rfl := Option.some.inj hseen
            refine hdropped (sourceKey, source) ?_
            by_contra hkept
            exact Latest.get_eq_none.mp hget source (List.mem_filter.mpr ⟨hmem, by simpa using hkept⟩)
          · obtain ⟨call, hcall, hle⟩ := h.forgotten sourceKey last (fun source hmem => htracked ⟨source, hmem⟩) hlast
            exact hle.trans (horder call hcall)
      rw [hconsistent.options_eq, FixedTokenBucket.new_eq, FixedTokenBucket.take_of, ← hidle] at hpassed ⊢
      exact ⟨hpassed, rfl⟩
    · dsimp only at hfull
      rw [hconsistent.options_eq] at hfull
      exact absurd hspace (not_lt.mpr hfull)

theorem Own.take {options : PublicCheckoutRateLimiterOptions} {served : List Served} {passed accepted : Bool}
    (h : Own options limiter served) (hconsistent : Consistent options limiter served)
    (hfills : options.sourceBurst ≤ options.sourceIdleTtlMilliseconds * (options.sourceRequestsPerSecond / 1000))
    {keys : List String} (hkeys : (keys.length : ℚ) ≤ options.maximumTrackedSources)
    (hserved : ∀ call ∈ served, call.sourceKey ∈ keys) (hkey : sourceKey ∈ keys)
    (horder : ∀ call ∈ served, call.now ≤ now) (hsource : limiter.takeSource sourceKey now = .ok (passed, seen))
    (hglobal : seen.takeGlobal now passed = (accepted, next)) :
    Own options next (served ++ [Served.mk sourceKey now passed accepted]) := by
  obtain ⟨keeps, hdropped, hpassed, hsources⟩ := h.takeSource hconsistent hfills hkeys hserved hkey horder hsource
  rw [← (takeGlobal_frame hglobal).2] at hsources
  have hkeyed := hconsistent.keyed.filter keeps
  have hmine : ownBucket options sourceKey (served ++ [Served.mk sourceKey now passed accepted]) =
      (TokenBucket.take options.sourceBurst (options.sourceRequestsPerSecond / 1000) now
        (ownBucket options sourceKey served)).2 := by
    unfold ownBucket
    rw [timesOf_append, if_pos rfl, TokenBucket.after_append]
  have hother : ∀ {key}, key ≠ sourceKey →
      ownBucket options key (served ++ [Served.mk sourceKey now passed accepted]) = ownBucket options key served := by
    intro key hne
    unfold ownBucket
    rw [timesOf_append, if_neg (Ne.symm hne), List.append_nil]
  constructor
  · intro key source hmem
    rw [hsources] at hmem
    rcases (Latest.mem_set hkeyed).mp hmem with ⟨rfl, rfl⟩ | ⟨hne, hmem⟩
    · rw [hmine]
      exact ⟨rfl, TokenBucket.take_lastRefillAt _⟩
    · rw [hother hne]
      exact h.tracked key source (List.mem_of_mem_filter hmem)
  · intro key last hnone hlast
    rw [hsources] at hnone
    have hne : key ≠ sourceKey := by
      rintro rfl
      exact hnone _ ((Latest.mem_set hkeyed).mpr (.inl ⟨rfl, rfl⟩))
    rw [hother hne] at hlast
    by_cases htracked : ∃ source, (key, source) ∈ limiter.sourceBuckets
    · -- dropped by this call's cleanup
      obtain ⟨source, hmem⟩ := htracked
      have hseen := (h.tracked key source hmem).2
      rw [hlast] at hseen
      obtain rfl := Option.some.inj hseen
      refine ⟨_, List.mem_append_right _ (List.mem_singleton_self _), hdropped (key, source) ?_⟩
      by_contra hkept
      exact hnone source ((Latest.mem_set hkeyed).mpr
        (.inr ⟨hne, List.mem_filter.mpr ⟨hmem, by simpa using hkept⟩⟩))
    · obtain ⟨call, hcall, hle⟩ := h.forgotten key last (fun source hmem => htracked ⟨source, hmem⟩) hlast
      exact ⟨call, List.mem_append_left _ hcall, hle⟩
  · intro key
    rw [callsOf_append, timesOf_append]
    by_cases hkey : key = sourceKey
    · subst hkey
      rw [if_pos rfl, if_pos rfl, List.map_append, h.answered, TokenBucket.answers_append, hpassed]
      rfl
    · rw [if_neg (Ne.symm hkey), if_neg (Ne.symm hkey), List.append_nil, List.append_nil]
      exact h.answered key

theorem Serves.order {other : List Char → Option Int} {options : PublicCheckoutRateLimiterOptions}
    {served : List Served} (h : Serves other options limiter served) : (served.map (·.now)).Pairwise (· ≤ ·) :=
  h.consistent.order

theorem Serves.own {other : List Char → Option Int} {options : PublicCheckoutRateLimiterOptions}
    {served : List Served} (h : Serves other options limiter served)
    (hfills : options.sourceBurst ≤ options.sourceIdleTtlMilliseconds * (options.sourceRequestsPerSecond / 1000))
    {keys : List String} (hkeys : (keys.length : ℚ) ≤ options.maximumTrackedSources)
    (hserved : ∀ call ∈ served, call.sourceKey ∈ keys) : Own options limiter served := by
  induction h with
  | new hnew => exact own_new hnew
  | take hbefore horder hsource htake ih =>
    have hbeforeKeys := fun call hcall => hserved call (List.mem_append_left _ hcall)
    have hkey := hserved _ (List.mem_append_right _ (List.mem_singleton_self _))
    exact (ih hbeforeKeys).take hbefore.consistent hfills hkeys hbeforeKeys hkey horder hsource
      (take_ok hsource htake).2

/-! ## Bounds -/

theorem length_acceptedIn (a length : ℚ) (served : List Served) : (acceptedIn a length served).length =
    (((served.filter (·.accepted)).map (·.now)).filter fun t => a ≤ t ∧ t ≤ a + length).length := by
  unfold acceptedIn
  rw [List.filter_map, List.length_map, List.filter_filter]
  refine congrArg List.length (List.filter_congr fun call _ => ?_)
  exact Bool.and_comm _ _

/-- The calls that a source lets pass are those its own bucket gives a token. -/
theorem Own.taken {options : PublicCheckoutRateLimiterOptions} {served : List Served} (h : Own options limiter served)
    (key : String) : TokenBucket.taken options.sourceBurst (options.sourceRequestsPerSecond / 1000) (timesOf key served) =
      ((callsOf key served).filter (·.passed)).map (·.now) := by
  unfold TokenBucket.taken
  rw [← h.answered, timesOf, List.zip_map', List.filter_map, List.map_map]
  rfl

/-- A limiter answers every call whose time is a time. -/
theorem Consistent.answers {options : PublicCheckoutRateLimiterOptions} {served : List Served}
    (h : Consistent options limiter served) (other : List Char → Option Int) (sourceAddress : String) (hnow : 0 ≤ now) :
    ∃ passed seen accepted next,
      limiter.takeSource (Network.aggregateRateLimitSource other sourceAddress) now = .ok (passed, seen) ∧
      limiter.take other sourceAddress now = .ok (accepted, next) := by
  have hsee : ∃ result, (limiter.cleanupExpiredSources now).seeSource
      (Network.aggregateRateLimitSource other sourceAddress) = .ok result := by
    obtain ⟨cleanedAt, keeps, hcleaned, -⟩ := cleanup_eq now limiter
    obtain ⟨maximum, hpositive, hmaximum⟩ := h.valid.maximum
    rw [hcleaned]
    unfold seeSource
    split
    · exact ⟨_, rfl⟩
    unfold makeRoom
    split
    next hfull =>
      -- a full map has a source to drop
      have hne : limiter.sourceBuckets.filter keeps ≠ [] := by
        intro hnil
        dsimp only at hfull
        rw [hnil, h.options_eq, hmaximum] at hfull
        have : maximum ≤ 0 := by exact_mod_cast hfull
        omega
      obtain ⟨oldest, holdest⟩ := leastRecentlySeen_isSome hne
      unfold evictLeastRecentlySeenSource
      dsimp only
      rw [holdest]
      exact ⟨_, rfl⟩
    · exact ⟨_, rfl⟩
  obtain ⟨⟨budget, room⟩, hsee⟩ := hsee
  have hsource : limiter.takeSource (Network.aggregateRateLimitSource other sourceAddress) now =
      .ok ((budget.take now).1, { room with
        sourceBuckets := Latest.set (Network.aggregateRateLimitSource other sourceAddress) ⟨(budget.take now).2, now⟩
          room.sourceBuckets }) := Checks.bind_ok.mpr ⟨_, hsee, rfl⟩
  have htake : limiter.take other sourceAddress now = .ok (PublicCheckoutRateLimiter.takeGlobal now (budget.take now).1
      { room with
        sourceBuckets := Latest.set (Network.aggregateRateLimitSource other sourceAddress) ⟨(budget.take now).2, now⟩
          room.sourceBuckets }) := by
    unfold PublicCheckoutRateLimiter.take
    rw [if_neg (not_lt.mpr hnow), hsource]
    rfl
  exact ⟨_, _, _, _, hsource, htake⟩

end PublicCheckoutRateLimiter

end PerPay.Http
