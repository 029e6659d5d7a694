import Mathlib.Algebra.Order.Ring.Rat
import Mathlib.Tactic.Linarith
import Mathlib.Tactic.NormNum
import Pactline.Model.RateLimit

/-!
# Calls in a window

The level of a bucket is what it would hold if it were refilled at a time (`level`). A call takes
one token off the level of its bucket, if there is one, and leaves the other levels alone. Pruning
does not touch levels at all: what is pruned has been full for a while (`Invisible`). So in a window
no more calls are allowed than the level at its beginning and the refill in its course give.
-/

set_option autoImplicit false

namespace Pactline.RateLimit

variable {prune prune' : Int → Buckets → Buckets} {buckets buckets' : Buckets} {id : Id}
  {bucket : TokenBucket} {stored : Option TokenBucket} {now : Int} {s t b : ℚ}
  {calls : List (Id × Int)}

/-- The tokens that come in so many nanoseconds. -/
def gain (n : ℚ) : ℚ := n / 10 ^ 9 * rateLimitRefillPerSec

theorem gain_nonneg (h : 0 ≤ t) : 0 ≤ gain t := by
  unfold gain rateLimitRefillPerSec
  linarith

def level (stored : Option TokenBucket) (t : ℚ) : ℚ :=
  stored.elim rateLimitCapacity fun bucket =>
    min rateLimitCapacity (bucket.tokens + gain (t - bucket.updated))

theorem level_le : level stored t ≤ rateLimitCapacity := by
  cases stored with
  | none => exact le_rfl
  | some bucket => exact min_le_left _ _

/-- What is known of a bucket at a time after its last use. -/
structure Fits (bucket : TokenBucket) (t : ℚ) : Prop where
  nonneg : 0 ≤ bucket.tokens
  full : bucket.tokens ≤ rateLimitCapacity
  updated : bucket.updated ≤ t
  seen : bucket.lastSeen = bucket.updated

def AllFit (buckets : Buckets) (t : ℚ) : Prop :=
  ∀ id bucket, buckets id = some bucket → Fits bucket t

theorem AllFit.mono (h : AllFit buckets s) (hle : s ≤ t) : AllFit buckets t := by
  intro id bucket hbucket
  have hfits := h id bucket hbucket
  exact ⟨hfits.nonneg, hfits.full, hfits.updated.trans hle, hfits.seen⟩

theorem level_nonneg (h : ∀ bucket, stored = some bucket → Fits bucket t) : 0 ≤ level stored t := by
  have hcapacity : 0 ≤ rateLimitCapacity := by decide
  cases stored with
  | none => exact hcapacity
  | some bucket =>
    have hfits := h bucket rfl
    have hgain := gain_nonneg (sub_nonneg.mpr hfits.updated)
    exact le_min hcapacity (by linarith [hfits.nonneg])

theorem level_le_add (hle : s ≤ t) : level stored t ≤ level stored s + gain (t - s) := by
  have hgain := gain_nonneg (sub_nonneg.mpr hle)
  cases stored with
  | none => exact le_add_of_nonneg_right hgain
  | some bucket =>
    have hsum : gain (t - bucket.updated) = gain (s - bucket.updated) + gain (t - s) := by
      unfold gain
      ring
    unfold level
    simp only [Option.elim_some, hsum, ← min_add_add_right]
    exact min_le_min (le_add_of_nonneg_right hgain) (by linarith)

theorem gain_of_long (h : 15 * 10 ^ 9 ≤ t) : rateLimitCapacity ≤ gain t := by
  unfold gain rateLimitRefillPerSec rateLimitCapacity
  linarith

/-- The code's refill gives the level. -/
theorem refill_eq (h : Fits bucket now) :
    bucket.refill now = { bucket with tokens := level (some bucket) now, updated := now } := by
  have hupdated : bucket.updated ≤ now := by exact_mod_cast h.updated
  unfold TokenBucket.refill level
  simp only [Option.elim_some]
  rcases hupdated.eq_or_lt with heq | hlt
  · have hzero : sub now bucket.updated = 0 := by simp [sub, heq]
    have hsame : min rateLimitCapacity (bucket.tokens + gain (now - bucket.updated)) =
        bucket.tokens := by
      simpa [gain, heq] using h.full
    rw [if_neg (by omega), hsame, ← heq]
  · have hpositive : 0 < sub now bucket.updated := by
      unfold sub
      omega
    rw [if_pos hpositive]
    congr 1
    -- a difference that saturates fills the bucket, as the exact one does
    by_cases hlong : now - bucket.updated ≤ 2 ^ 63 - 1
    · have hexact : sub now bucket.updated = now - bucket.updated := by
        unfold sub
        omega
      rw [hexact, Int.cast_sub]
      rfl
    · have hfull : 15 * 10 ^ 9 ≤ sub now bucket.updated ∧ 15 * 10 ^ 9 ≤ now - bucket.updated := by
        unfold sub
        omega
      have hcode : rateLimitCapacity ≤ gain (sub now bucket.updated) :=
        gain_of_long (by exact_mod_cast hfull.1)
      have hlevel : rateLimitCapacity ≤ gain (now - bucket.updated) :=
        gain_of_long (by exact_mod_cast hfull.2)
      have hsum : ∀ n, n ≤ bucket.tokens + n := fun n => le_add_of_nonneg_left h.nonneg
      exact (min_eq_left (hcode.trans (hsum _))).trans (min_eq_left (hlevel.trans (hsum _))).symm

/-- The way to prune leaves a bucket alone, or removes one that is full from now on. -/
def Invisible (prune : Int → Buckets → Buckets) : Prop :=
  ∀ buckets (now : Int), AllFit buckets now → ∀ id, prune now buckets id = buckets id ∨
    prune now buckets id = none ∧ ∀ t : ℚ, now ≤ t → level (buckets id) t = rateLimitCapacity

theorem Invisible.level (h : Invisible prune) (hfit : AllFit buckets now) (hle : now ≤ t) :
    level (prune now buckets id) t = level (buckets id) t := by
  rcases h buckets now hfit id with hsame | ⟨hnone, hfull⟩
  · rw [hsame]
  · rw [hnone, hfull t hle]
    rfl

theorem invisible_pruneLocked : Invisible pruneLocked := by
  intro buckets now hfit id
  unfold pruneLocked
  cases hbucket : buckets id with
  | none => exact .inl rfl
  | some bucket =>
    rw [Option.filter_some]
    split
    case isTrue => exact .inl rfl
    case isFalse hidle =>
      have hfits := hfit id bucket hbucket
      simp only [decide_not, Bool.not_eq_true', decide_eq_false_iff_not, not_not, hfits.seen,
        rateLimitBucketIdleTTL] at hidle
      refine .inr ⟨rfl, fun t hle => min_eq_left ?_⟩
      have hlong : (15 * 10 ^ 9 : ℚ) ≤ now - bucket.updated := by
        have hint : 15 * 10 ^ 9 ≤ now - bucket.updated := by omega
        exact_mod_cast hint
      have hgain : rateLimitCapacity ≤ gain (t - bucket.updated) := gain_of_long (by linarith)
      linarith [hfits.nonneg]

theorem invisible_none : Invisible fun _ buckets => buckets := fun _ _ _ _ => .inl rfl

/-- What a call leaves of a level. -/
def left (n : ℚ) : ℚ := if 1 ≤ n then n - 1 else n

theorem counted_add_left_le (n : ℚ) (counts : Prop) [Decidable counts] :
    (if 1 ≤ n ∧ counts then 1 else 0) + left n ≤ n := by
  by_cases henough : 1 ≤ n
  · by_cases hcounts : counts <;> simp [left, henough, hcounts]
  · simp [left, henough]

/-- A call takes a token off its level, if there is one. -/
theorem allowWith_eq (hprune : Invisible prune) (hfit : AllFit buckets now) :
    (allowWith prune buckets id now).1.allowed = decide (1 ≤ level (buckets id) now) ∧
      (allowWith prune buckets id now).2 = Function.update (prune now buckets) id
        (some ⟨left (level (buckets id) now), now, now⟩) := by
  have hfits : Fits ((prune now buckets id).getD ⟨rateLimitCapacity, now, now⟩) now ∧
      level (some ((prune now buckets id).getD ⟨rateLimitCapacity, now, now⟩)) now =
        level (buckets id) now := by
    rw [← hprune.level hfit le_rfl]
    have hcapacity : 0 ≤ rateLimitCapacity := by decide
    have hnew : Fits ⟨rateLimitCapacity, now, now⟩ now := ⟨hcapacity, le_rfl, le_rfl, rfl⟩
    rcases hprune buckets now hfit id with hsame | ⟨hnone, -⟩
    · rw [hsame]
      cases hbucket : buckets id with
      | none => exact ⟨hnew, by simp [level, gain]⟩
      | some bucket => exact ⟨hfit id bucket hbucket, rfl⟩
    · rw [hnone]
      exact ⟨hnew, by simp [level, gain]⟩
  simp only [allowWith, refill_eq hfits.1, hfits.2, left, decide_eq_true_eq, true_and]
  by_cases henough : 1 ≤ level (buckets id) now <;> simp only [henough, if_true, if_false]

variable {a : ℚ} {k : Id}

/-- The levels after a call. -/
theorem level_allowWith (hprune : Invisible prune) (hfit : AllFit buckets now) (hle : now ≤ t) :
    level ((allowWith prune buckets id now).2 k) t = if k = id then
      min rateLimitCapacity (left (level (buckets id) now) + gain (t - now))
    else level (buckets k) t := by
  rw [(allowWith_eq hprune hfit).2, Function.update_apply]
  split
  · rfl
  · exact hprune.level hfit hle

theorem allFit_allowWith (id : Id) (hprune : Invisible prune) (hfit : AllFit buckets now) :
    AllFit (allowWith prune buckets id now).2 now := by
  rw [(allowWith_eq hprune hfit).2]
  intro k bucket hbucket
  rw [Function.update_apply] at hbucket
  split at hbucket
  · obtain rfl := Option.some.inj hbucket
    have hnonneg := level_nonneg (hfit id)
    have hle : level (buckets id) now ≤ rateLimitCapacity := level_le
    refine ⟨?_, ?_, le_rfl, rfl⟩ <;> dsimp only [left] <;> split <;> linarith
  · rcases hprune buckets now hfit k with hsame | ⟨hnone, -⟩
    · exact hfit k bucket (hsame ▸ hbucket)
    · rw [hnone] at hbucket
      cases hbucket

/-- Calls from a time on, one after the other. -/
def From (t : ℚ) (calls : List (Id × Int)) : Prop :=
  (∀ call ∈ calls, t ≤ call.2) ∧ calls.Pairwise fun x y => x.2 ≤ y.2

theorem From.cons (h : From t ((id, now) :: calls)) : t ≤ now ∧ From now calls := by
  obtain ⟨hfrom, hsorted⟩ := h
  rw [List.pairwise_cons] at hsorted
  refine ⟨hfrom _ List.mem_cons_self, fun call hcall => ?_, hsorted.2⟩
  exact_mod_cast hsorted.1 call hcall

/-- Where the levels are the same, so are the answers. -/
theorem answers_congr (hprune : Invisible prune) (hprune' : Invisible prune')
    (hfit : AllFit buckets t) (hfit' : AllFit buckets' t) (hcalls : From t calls)
    (hlevel : ∀ k (u : ℚ), t ≤ u → level (buckets k) u = level (buckets' k) u) :
    answers prune buckets calls = answers prune' buckets' calls := by
  induction calls generalizing buckets buckets' t with
  | nil => rfl
  | cons call calls ih =>
    obtain ⟨id, now⟩ := call
    obtain ⟨hle, hrest⟩ := hcalls.cons
    have hnow := hlevel id now hle
    have hfit := hfit.mono hle
    have hfit' := hfit'.mono hle
    unfold answers
    dsimp only
    congr 1
    · rw [(allowWith_eq hprune hfit).1, (allowWith_eq hprune' hfit').1, hnow]
    · apply ih (allFit_allowWith id hprune hfit) (allFit_allowWith id hprune' hfit') hrest
      intro k u hu
      rw [level_allowWith hprune hfit hu, level_allowWith hprune' hfit' hu, hnow,
        hlevel k u (hle.trans hu)]

/-- The allowed calls of a token in a closed interval. -/
def allowedIn (prune : Int → Buckets → Buckets) (buckets : Buckets) (calls : List (Id × Int))
    (id : Id) (a b : ℚ) : Nat :=
  (calls.zip (answers prune buckets calls)).countP fun call =>
    call.2 ∧ call.1.1 = id ∧ a ≤ call.1.2 ∧ call.1.2 ≤ b

theorem allowedIn_cons {call : Id × Int} : (allowedIn prune buckets (call :: calls) id a b : ℚ) =
    allowedIn prune (allowWith prune buckets call.1 call.2).2 calls id a b +
      if (allowWith prune buckets call.1 call.2).1.allowed ∧ call.1 = id ∧ a ≤ call.2 ∧ call.2 ≤ b
      then 1 else 0 := by
  obtain ⟨k, now⟩ := call
  simp only [allowedIn, answers, List.zip_cons_cons, List.countP_cons, decide_eq_true_eq]
  push_cast
  rfl

/-- What the calls from a time on may take of a window: nothing after it, in its course what there
is and what comes, and before it any level. -/
def bound (stored : Option TokenBucket) (a b s : ℚ) : ℚ :=
  if s < a then rateLimitCapacity + gain (b - a)
  else if s ≤ b then level stored s + gain (b - s) else 0

theorem gain_add (s t u : ℚ) : gain (u - s) = gain (u - t) + gain (t - s) := by
  unfold gain
  ring

theorem bound_nonneg (hle : a ≤ b) (h : ∀ bucket, stored = some bucket → Fits bucket s) :
    0 ≤ bound stored a b s := by
  have hcapacity : 0 ≤ rateLimitCapacity := by decide
  have hwindow := gain_nonneg (sub_nonneg.mpr hle)
  unfold bound
  split
  · linarith
  · split
    case isTrue hs => linarith [level_nonneg h, gain_nonneg (sub_nonneg.mpr hs)]
    case isFalse => exact le_rfl

theorem level_le_bound (hs : s ≤ t) (ha : a ≤ t) (hb : t ≤ b) :
    level stored t + gain (b - t) ≤ bound stored a b s := by
  unfold bound
  split
  · have hlevel : level stored t ≤ rateLimitCapacity := level_le
    linarith [gain_add a t b, gain_nonneg (sub_nonneg.mpr ha)]
  · rw [if_pos (hs.trans hb), gain_add s t b]
    have hlater : level stored t ≤ level stored s + gain (t - s) := level_le_add hs
    linarith

theorem allowedIn_le (hprune : Invisible prune) (hle : a ≤ b) (hfit : AllFit buckets s)
    (hcalls : From s calls) :
    (allowedIn prune buckets calls id a b : ℚ) ≤ bound (buckets id) a b s := by
  induction calls generalizing buckets s with
  | nil => simpa [allowedIn] using bound_nonneg hle (hfit id)
  | cons call calls ih =>
    obtain ⟨k, now⟩ := call
    obtain ⟨hs, hrest⟩ := hcalls.cons
    have hnow := hfit.mono hs
    have htail := ih (allFit_allowWith k hprune hnow) hrest
    simp only [allowedIn_cons, (allowWith_eq hprune hnow).1, decide_eq_true_eq]
    by_cases hbefore : now < a
    · rw [if_neg fun hcounted => absurd hcounted.2.2.1 (not_le.mpr hbefore), add_zero]
      rw [bound, if_pos hbefore] at htail
      rwa [bound, if_pos (hs.trans_lt hbefore)]
    by_cases hlate : b < now
    · rw [if_neg fun hcounted => absurd hcounted.2.2.2 (not_le.mpr hlate), add_zero]
      rw [bound, if_neg hbefore, if_neg (not_le.mpr hlate)] at htail
      exact htail.trans (bound_nonneg hle (hfit id))
    · refine le_trans ?_ (level_le_bound hs (not_lt.mp hbefore) (not_lt.mp hlate))
      rw [bound, if_neg hbefore, if_pos (not_lt.mp hlate),
        level_allowWith hprune hnow le_rfl] at htail
      by_cases hk : id = k
      · subst hk
        rw [if_pos rfl, sub_self, show gain 0 = 0 by simp [gain], add_zero] at htail
        have hmin := min_le_right rateLimitCapacity (left (level (buckets id) now))
        have hspent := counted_add_left_le (level (buckets id) now) (id = id ∧ a ≤ now ∧ now ≤ b)
        linarith
      · rw [if_neg hk] at htail
        rwa [if_neg fun hcounted => hk hcounted.2.1.symm, add_zero]

theorem allFit_empty (t : ℚ) : AllFit (fun _ => none) t := by
  intro id bucket hbucket
  cases hbucket

/-- **No window sees more than the burst and its refill**, and pruning cannot be seen at all. -/
theorem allowed_calls_bounded (calls : List (Id × Int)) (h : calls.Pairwise fun x y => x.2 ≤ y.2) :
    (∀ id (a b : ℚ), a ≤ b → (allowedIn pruneLocked (fun _ => none) calls id a b : ℚ) ≤
      rateLimitCapacity + rateLimitRefillPerSec * ((b - a) / 10 ^ 9)) ∧
      answers pruneLocked (fun _ => none) calls =
        answers (fun _ buckets => buckets) (fun _ => none) calls := by
  have hfrom : ∃ t : ℚ, From t calls := by
    cases calls with
    | nil => exact ⟨0, fun call hcall => (List.not_mem_nil hcall).elim, h⟩
    | cons call calls =>
      refine ⟨call.2, fun x hx => ?_, h⟩
      rcases List.mem_cons.mp hx with rfl | hx
      · exact le_rfl
      · exact_mod_cast (List.pairwise_cons.mp h).1 x hx
  obtain ⟨t, hfrom⟩ := hfrom
  constructor
  · intro id a b hle
    have hearly : From (min t (a - 1)) calls :=
      ⟨fun call hcall => (min_le_left _ _).trans (hfrom.1 call hcall), h⟩
    have hbound : (allowedIn pruneLocked (fun _ => none) calls id a b : ℚ) ≤ _ :=
      allowedIn_le invisible_pruneLocked hle (allFit_empty _) hearly
    rw [bound, if_pos ((min_le_right _ _).trans_lt (sub_one_lt a)), gain, mul_comm] at hbound
    exact hbound
  · exact answers_congr invisible_pruneLocked invisible_none (allFit_empty t) (allFit_empty t) hfrom
      fun _ _ _ => rfl

/-- Two calls at once, and one when their bucket is idle. -/
def idleCalls : List (Id × Int) := [(1, 0), (1, 0), (1, 10 ^ 12)]

theorem idle_calls_bounded : (idleCalls.Pairwise fun x y => x.2 ≤ y.2) ∧
    (allowedIn pruneLocked (fun _ => none) idleCalls 1 0 0 : ℚ) ≤
      rateLimitCapacity + rateLimitRefillPerSec * ((0 - 0) / 10 ^ 9) :=
  ⟨by decide, (allowed_calls_bounded idleCalls (by decide)).1 1 0 0 le_rfl⟩

end Pactline.RateLimit
