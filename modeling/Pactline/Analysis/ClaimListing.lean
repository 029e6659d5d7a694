import Pactline.Analysis.ClaimClients
import Pactline.Concurrency.Alone
import Pactline.Model.ClaimListing

/-!
# What the listing of Claims does

The listing is determined by the rows of `task_stage_claims`, in whichever order they are stored
(`Db.ownedClaims_congr`). A request changes those rows only by ending the Claims of its page that
are past their deadline (`serveClaimPage_ok`).
-/

set_option autoImplicit false

namespace Pactline

open ReadCommitted Listing TaskStageClaim Service Txn List

variable {d : Db} {c : Cmd} {reply : Reply} {expired : Bool}

variable {k : TaskStageClaim} {claims : List TaskStageClaim} {now : Time}

/-! ## The rows -/

theorem Db.mem_claims : k ∈ d.claims ↔ ∃ t r, d.task t = some r ∧ k ∈ r.claims := by
  unfold Db.claims
  rw [mem_flatMap]
  constructor
  · rintro ⟨⟨t, r⟩, hmem, hk⟩
    exact ⟨t, r, AList.mem_lookup_iff.mpr hmem, hk⟩
  · rintro ⟨t, r, hr, hk⟩
    exact ⟨⟨t, r⟩, AList.mem_lookup_iff.mp hr, hk⟩

theorem Db.ClaimsUnique.nodup_ids (h : d.ClaimsUnique) : (d.claims.map (·.id)).Nodup := by
  unfold Db.claims
  rw [map_flatMap, nodup_flatMap]
  constructor
  · rintro ⟨t, r⟩ hmem
    exact h.once t r (AList.mem_lookup_iff.mpr hmem)
  · have hkeys : d.tasks.entries.Pairwise fun e e' => e.1 ≠ e'.1 :=
      pairwise_map.mp d.tasks.nodupKeys
    apply hkeys.imp_of_mem
    rintro ⟨t, r⟩ ⟨t', r'⟩ hmem hmem' hne
    intro id hid hid'
    exact hne (h.apart t r t' r' (AList.mem_lookup_iff.mpr hmem) (AList.mem_lookup_iff.mpr hmem') id
      (mem_map.mp hid) (mem_map.mp hid'))

theorem TaskStageClaim.id_eq_of_listKey_eq {k' : TaskStageClaim} (h : k.listKey = k'.listKey) :
    k.id = k'.id :=
  congrArg (fun key => (ofLex (OrderDual.ofDual key)).2) h

theorem nodup_listKey {l : List TaskStageClaim} (h : (l.map (·.id)).Nodup) :
    (l.map listKey).Nodup := by
  rw [List.Nodup, pairwise_map] at h ⊢
  exact h.imp fun hne heq => hne (id_eq_of_listKey_eq heq)

section Rows

variable {d' : Db} {q : ClaimFilter}

theorem Db.ClaimsUnique.nodup_keys (h : d.ClaimsUnique) :
    ((d.claims.filter q.Admits).map listKey).Nodup :=
  (filter_sublist.map _).nodup (nodup_listKey h.nodup_ids)

theorem Db.mem_ownedClaims : k ∈ d.ownedClaims q ↔ k ∈ d.claims ∧ q.Admits k := by
  unfold Db.ownedClaims
  rw [mem_sortBy, mem_filter, decide_eq_true_eq]

theorem Db.ClaimsUnique.nodup_owned (h : d.ClaimsUnique) :
    ((d.ownedClaims q).map (·.id)).Nodup := by
  unfold Db.ownedClaims
  rw [(perm_sortBy.map _).nodup_iff]
  exact (filter_sublist.map _).nodup h.nodup_ids

/-- The listing after the rows have been changed one by one, by a change that no key sees. -/
theorem Db.ClaimsUnique.ownedClaims_map (h : d.ClaimsUnique) (h' : d'.ClaimsUnique)
    {f} (hf : ∀ k, (f k).listKey = k.listKey)
    (hmem : ∀ k', k' ∈ d'.claims ↔ ∃ k ∈ d.claims, f k = k')
    (hout : ∀ k ∈ d.claims, ¬ q.Admits k → ¬ q.Admits (f k)) :
    d'.ownedClaims q = ((d.ownedClaims q).map f).filter q.Admits := by
  symm
  unfold Db.ownedClaims
  apply eq_sortBy h'.nodup_keys
  · apply List.Pairwise.filter
    rw [pairwise_map]
    exact (pairwise_sortBy h.nodup_keys).imp fun hlt => by rwa [hf, hf]
  · intro k'
    simp only [mem_filter, mem_map, mem_sortBy, decide_eq_true_eq, hmem]
    constructor
    · rintro ⟨⟨k, ⟨hk, -⟩, rfl⟩, hadmits⟩
      exact ⟨⟨k, hk, rfl⟩, hadmits⟩
    · rintro ⟨⟨k, hk, rfl⟩, hadmits⟩
      refine ⟨⟨k, ⟨hk, ?_⟩, rfl⟩, hadmits⟩
      by_contra hnot
      exact hout k hk hnot hadmits

end Rows

/-! ## Databases the commands lead to -/

/-- Commits of the system lead from the empty database to this one. -/
def Reached (platform : Platform) (d : Db) : Prop := ∃ log, History platform Db.empty log d

section Reached

variable {platform : Platform} {d' : Db} {t : TaskId} {r : TaskRecord}

theorem Reached.of_runFrom {es} {cfg : SystemConfig}
    (h : runFrom platform Db.empty es = some cfg) : Reached platform cfg.db :=
  ⟨cfg.log, history_of_runFrom lawful_empty h⟩

theorem Reached.commit (h : Reached platform d) {held}
    (hc : (prog platform c).Commits Rely.alone [] d reply held d') : Reached platform d' := by
  obtain ⟨log, hlog⟩ := h
  exact ⟨⟨c, reply, held, d, d'⟩ :: log, rfl, hc.amid, hlog⟩

theorem Reached.exec (h : Reached platform d) (hc : (prog platform c).exec d = .ok (reply, d')) :
    Reached platform d' := by
  obtain ⟨held, hcommits⟩ : ∃ held, (prog platform c).Commits Rely.alone [] d reply held d' :=
    commits_of_exec hc
  exact h.commit hcommits

theorem Reached.claimsUnique (h : Reached platform d) : d.ClaimsUnique := by
  obtain ⟨log, hlog⟩ := h
  exact hlog.claimsUnique

theorem Reached.claim_task (h : Reached platform d) (hr : d.task t = some r) (hk : k ∈ r.claims) :
    k.taskNumber = t := by
  obtain ⟨log, hlog⟩ := h
  exact hlog.claim_task hr hk

/-- An active Claim is the one through which its Task is worked on. -/
theorem Reached.working (h : Reached platform d) (hr : d.task t = some r) (hk : k ∈ r.claims)
    (hactive : k.status = .active) :
    r.row.lifecycle.activity = .working ∧ r.activeClaim = some k := by
  obtain ⟨log, hlog⟩ := h
  obtain ⟨w, hw⟩ := hlog.doing hr
  have hmem : k ∈ w.claims := by
    rw [← hw.claims]
    exact mem_filter.mpr ⟨hk, decide_eq_true hactive⟩
  have hclaimed : w = .claimed k := by
    cases w with
    | idle => cases hmem
    | blocked => cases hmem
    | claimed c => exact congrArg _ (mem_singleton.mp hmem).symm
  subst hclaimed
  refine ⟨hw.working_iff.mpr ⟨k, rfl⟩, ?_⟩
  rw [TaskRecord.activeClaim_eq_head?, hw.claims]
  rfl

end Reached

/-! ## Ending one Claim -/

namespace TaskStageClaim

/-- The Claim after its deadline has been acted on. -/
def expire (k : TaskStageClaim) (now : Time) : TaskStageClaim := k.ended .deadlineElapsed now

theorem not_due_expire {now'} : ¬ (k.expire now).Due now' := fun h => by cases h.1

end TaskStageClaim

section Ending

variable {platform : Platform} {d' : Db} {operation : OperationActor} {fresh : Nat → Id}
  {held : List (Lock Row)}

/-- `ExpireDueClaim` on the Task of a Claim that is due ends this Claim and touches no other. -/
theorem Reached.expireDueClaim (h : Reached platform d) (hk : k ∈ d.claims) (hdue : k.Due now)
    (hc : (expireDueClaim k.taskNumber operation now fresh).Commits Rely.alone [] d expired held
      d') :
    expired = true ∧
      ∀ k', k' ∈ d'.claims ↔ ∃ x ∈ d.claims, (if x = k then k.expire now else x) = k' := by
  obtain ⟨t, r, hr, hkr⟩ := Db.mem_claims.mp hk
  have ht : k.taskNumber = t := h.claim_task hr hkr
  obtain ⟨hworking, hactive⟩ := h.working hr hkr hdue.1
  rw [ht] at hc
  obtain ⟨r₀, r', hon, hstep, hkept⟩ := expireDueClaim_refines (isolates_rely False) hc.amid
  obtain rfl : r = r₀ := Option.some.inj (hr.symm.trans hon.before)
  -- The Task is worked on through `k`, which is due.
  have hnot : ¬ r.NotDue now := by
    intro hnotDue
    obtain ⟨claim, hclaim, hlater⟩ := hnotDue hworking
    obtain rfl : k = claim := Option.some.inj (hactive.symm.trans hclaim)
    exact absurd hlater (not_lt.mpr hdue.2)
  have hexpired : expired = true := by
    cases expired with
    | true => rfl
    | false => exact absurd (hkept rfl).2 hnot
  have hclaims : r'.claims = r.claims.map fun x => if x = k then k.expire now else x := by
    cases hstep with
    | keepClaim hnotDue => exact absurd hnotDue hnot
    | @expireDueClaim _ _ _ _ _ claim _ _ hclaim =>
      obtain rfl : k = claim := Option.some.inj (hactive.symm.trans hclaim)
      apply map_congr_left
      intro x hx
      by_cases hxk : x = k
      · subst hxk
        simp [expire, ended]
      · have hid : x.id ≠ k.id := fun heq =>
          hxk (h.claimsUnique.eq hr hkr hr hx heq).2
        simp [hxk, hid]
  refine ⟨hexpired, fun k' => ?_⟩
  constructor
  · intro hk'
    obtain ⟨t', r₁, hr₁, hmem⟩ := Db.mem_claims.mp hk'
    by_cases htt : t' = t
    · subst htt
      obtain rfl : r' = r₁ := Option.some.inj (hon.after.symm.trans hr₁)
      rw [hclaims] at hmem
      obtain ⟨x, hx, hxk⟩ := mem_map.mp hmem
      exact ⟨x, Db.mem_claims.mpr ⟨t', r, hr, hx⟩, hxk⟩
    · rw [hon.other t' htt] at hr₁
      have hne : k' ≠ k := by
        rintro rfl
        exact htt (h.claimsUnique.eq hr hkr hr₁ hmem rfl).1
      exact ⟨k', Db.mem_claims.mpr ⟨t', r₁, hr₁, hmem⟩, if_neg hne⟩
  · rintro ⟨x, hx, rfl⟩
    obtain ⟨t', r₁, hr₁, hmem⟩ := Db.mem_claims.mp hx
    by_cases htt : t' = t
    · subst htt
      obtain rfl : r = r₁ := Option.some.inj (hr.symm.trans hr₁)
      refine Db.mem_claims.mpr ⟨t', r', hon.after, ?_⟩
      rw [hclaims]
      exact mem_map.mpr ⟨x, hmem, rfl⟩
    · have hne : x ≠ k := by
        rintro rfl
        exact htt (h.claimsUnique.eq hr hkr hr₁ hmem rfl).1
      rw [if_neg hne]
      refine Db.mem_claims.mpr ⟨t', r₁, ?_, hmem⟩
      rw [hon.other t' htt]
      exact hr₁

end Ending

/-! ## Ending the Claims of a page -/

/-- What `expireDueClaims` does to the rows when it is given `claims`. -/
def expiring (claims : List TaskStageClaim) (now : Time) (k : TaskStageClaim) : TaskStageClaim :=
  if k ∈ claims ∧ k.Due now then k.expire now else k

theorem expiring_of_due (hk : k ∈ claims) (hdue : k.Due now) :
    expiring claims now k = k.expire now :=
  if_pos ⟨hk, hdue⟩

theorem expiring_of_not_due (h : k ∈ claims → ¬ k.Due now) : expiring claims now k = k :=
  if_neg fun hboth => h hboth.1 hboth.2

theorem listKey_expiring (claims : List TaskStageClaim) (now : Time) (k : TaskStageClaim) :
    (expiring claims now k).listKey = k.listKey := by
  unfold expiring
  split <;> rfl

/-- The first Claim of the page, and then the others. -/
theorem expiring_cons {c : TaskStageClaim} (hc : c ∉ claims) (hdue : c.Due now) :
    expiring claims now (if k = c then c.expire now else k) = expiring (c :: claims) now k := by
  by_cases hkc : k = c
  · subst hkc
    rw [if_pos rfl, expiring_of_due mem_cons_self hdue]
    exact expiring_of_not_due fun _ => not_due_expire
  · rw [if_neg hkc]
    unfold expiring
    simp [hkc]

section Handler

variable {platform : Platform} {d' : Db} {codec : TextCodec Nat} {q : ClaimPageRequest}

theorem exec_expireDueClaim {t operation fresh}
    (h : Reached platform d)
    (hexec : (ClaimListing.expireDueClaim t operation now fresh).exec (claimListingProg platform)
      d = (.ok expired, d')) :
    Reached platform d' ∧ ∃ held,
      (expireDueClaim t operation now fresh).Commits Rely.alone [] d expired held d' := by
  obtain ⟨a, ha, hpick⟩ := exec_send_eq_ok hexec
  obtain ⟨held, hcommits⟩ : ∃ held, (claimListingProg platform (.command
      (.expireDueClaim t operation now fresh))).Commits Rely.alone [] d a held d' :=
    commits_of_exec ha
  simp only [claimListingProg, rules] at hcommits
  obtain ⟨reply, _, _, hprog, rfl, rfl, rfl⟩ := hcommits
  refine ⟨h.commit hprog, ?_⟩
  simp only [prog, rules] at hprog
  obtain ⟨b, held', _, hb, rfl, -, rfl⟩ := hprog
  cases hpick
  exact ⟨held', hb⟩

/-- A page of the store, and whether it is the last. -/
theorem exec_ownedPage {filter offset limit rows}
    (hexec : (ClaimListing.ownedPage filter offset limit).exec (claimListingProg platform) d =
      (.ok rows, d')) :
    d' = d ∧ rows = (((d.ownedClaims filter).drop offset).take limit,
      decide (limit < ((d.ownedClaims filter).drop offset).length)) := by
  obtain ⟨a, ha, hpick⟩ := exec_send_eq_ok hexec
  obtain ⟨held, hcommits⟩ : ∃ held, (claimListingProg platform
      (.ownedPage filter offset limit)).Commits Rely.alone [] d a held d' :=
    commits_of_exec ha
  simp only [claimListingProg, listOwnedPage, commits_bind, commits_pure,
    commits_liftM, commits_require, commits_alone_query] at hcommits
  obtain ⟨_, _, _, ⟨_, _, _, ⟨-, rfl, rfl⟩, _, _, _, ⟨-, rfl, rfl⟩, _, _, _, ⟨rfl, rfl, rfl⟩, rfl,
    rfl, rfl⟩, rfl, rfl, rfl⟩ := hcommits
  cases hpick
  exact ⟨rfl, page_take _ _⟩

/-- The loop over a page of Claims that are in the table. -/
theorem exec_expireDueClaims {expiredAny} (h : Reached platform d)
    (hmem : ∀ k ∈ claims, k ∈ d.claims) (hnodup : claims.Nodup)
    (hexec : (q.expireDueClaims expiredAny claims).exec (claimListingProg platform) d =
      (.ok expired, d')) :
    Reached platform d' ∧ expired = (expiredAny || claims.any (·.Due q.now)) ∧
      ∀ k', k' ∈ d'.claims ↔ ∃ k ∈ d.claims, expiring claims q.now k = k' := by
  induction claims generalizing d expiredAny with
  | nil =>
    cases hexec
    refine ⟨h, (Bool.or_false _).symm, fun k' => ?_⟩
    simp [expiring]
  | cons c claims ih =>
    have hrest : ∀ k ∈ claims, k ∈ d.claims := fun k hk => hmem k (mem_cons_of_mem c hk)
    have hnot : c ∉ claims := (nodup_cons.mp hnodup).1
    have htail : claims.Nodup := (nodup_cons.mp hnodup).2
    unfold ClaimPageRequest.expireDueClaims at hexec
    by_cases hdue : c.Due q.now
    · rw [if_neg (not_not.mpr hdue), exec_bind_eq_ok] at hexec
      obtain ⟨first, d₁, hfirst, hloop⟩ := hexec
      obtain ⟨h₁, held, hcommits⟩ := exec_expireDueClaim h hfirst
      obtain ⟨rfl, hclaims⟩ := h.expireDueClaim (hmem c mem_cons_self) hdue hcommits
      -- The others are still there, since only `c` has changed.
      have hmem₁ : ∀ k ∈ claims, k ∈ d₁.claims := by
        intro k hk
        have hne : k ≠ c := by
          rintro rfl
          exact hnot hk
        exact (hclaims k).mpr ⟨k, hrest k hk, if_neg hne⟩
      obtain ⟨h', hexpired, hclaims'⟩ := ih h₁ hmem₁ htail hloop
      refine ⟨h', ?_, fun k' => ?_⟩
      · rw [hexpired]
        simp [hdue]
      · rw [hclaims' k']
        constructor
        · rintro ⟨k₁, hk₁, rfl⟩
          obtain ⟨k, hk, rfl⟩ := (hclaims k₁).mp hk₁
          exact ⟨k, hk, (expiring_cons hnot hdue).symm⟩
        · rintro ⟨k, hk, rfl⟩
          exact ⟨_, (hclaims _).mpr ⟨k, hk, rfl⟩, expiring_cons hnot hdue⟩
    · rw [if_pos hdue] at hexec
      obtain ⟨h', hexpired, hclaims'⟩ := ih h hrest htail hexec
      refine ⟨h', ?_, fun k' => ?_⟩
      · rw [hexpired]
        simp [hdue]
      · rw [hclaims' k']
        have hsame : ∀ k, expiring (c :: claims) q.now k = expiring claims q.now k := by
          intro k
          by_cases hkc : k = c
          · subst hkc
            rw [expiring_of_not_due fun _ => hdue, expiring_of_not_due fun _ => hdue]
          · unfold expiring
            simp [hkc]
        simp only [hsame]

/-- What a successful request has done: it has ended the Claims of its page that were due, and
answers with the page as it is then. -/
theorem serveClaimPage_ok {cursor} {response : ClaimPage} (h : Reached platform d)
    (hserve : serveClaimPage platform codec q cursor d = (.ok response, d')) :
    ∃ offset, decodeClaimCursor codec cursor = .ok offset ∧ Reached platform d' ∧
      d'.ownedClaims q.filter =
        ((d.ownedClaims q.filter).map (expiring
          (((d.ownedClaims q.filter).drop offset).take (q.limit.getD 50)) q.now)).filter
            q.filter.Admits ∧
      response.items = ((d'.ownedClaims q.filter).drop offset).take (q.limit.getD 50) ∧
      response.nextCursor =
        if q.limit.getD 50 < ((d'.ownedClaims q.filter).drop offset).length then
          some (codec.encode (offset + response.items.length))
        else none := by
  unfold serveClaimPage listOwnedTaskStageClaims ClaimPageRequest.claimRows at hserve
  simp only [exec_bind_eq_ok, exec_ofExcept, exec_pure, Prod.mk.injEq] at hserve
  obtain ⟨offset, d₀, ⟨hdecode, hd₀⟩, rows, _, ⟨first, d₁, hfirst, _, _, ⟨-, rfl⟩, expired, d₂,
    hloop, _, d₃, hrows, _, _, ⟨-, rfl⟩, ⟨rfl⟩, rfl⟩, hdone, rfl⟩ := hserve
  subst d₀
  obtain ⟨hd₁, rfl⟩ := exec_ownedPage hfirst
  subst d₁
  set listed := d.ownedClaims q.filter with hlisted
  set page := (listed.drop offset).take (q.limit.getD 50) with hpage
  have hsub : page.Sublist listed := (take_sublist _ _).trans (drop_sublist _ _)
  have hmem : ∀ k ∈ page, k ∈ d.claims ∧ q.filter.Admits k := fun k hk =>
    Db.mem_ownedClaims.mp (hsub.subset hk)
  have hnodup : page.Nodup := hsub.nodup (List.Nodup.of_map _ h.claimsUnique.nodup_owned)
  obtain ⟨h₂, rfl, hclaims⟩ := exec_expireDueClaims h (fun k hk => (hmem k hk).1) hnodup hloop
  have howned : d₂.ownedClaims q.filter = (listed.map (expiring page q.now)).filter
      q.filter.Admits := by
    apply h.claimsUnique.ownedClaims_map h₂.claimsUnique (listKey_expiring page q.now) hclaims
    intro k _ hnot
    rwa [expiring_of_not_due fun hk => absurd (hmem k hk).2 hnot]
  have hread : d₃ = d₂ ∧ rows = (((d₂.ownedClaims q.filter).drop offset).take (q.limit.getD 50),
      decide (q.limit.getD 50 < ((d₂.ownedClaims q.filter).drop offset).length)) := by
    by_cases hany : page.any (·.Due q.now)
    · rw [hany] at hrows
      exact exec_ownedPage hrows
    · have hnone : ∀ k ∈ page, ¬ k.Due q.now := by
        intro k hk hdue
        exact hany (any_eq_true.mpr ⟨k, hk, decide_eq_true hdue⟩)
      rw [Bool.eq_false_iff.mpr hany] at hrows
      cases hrows
      refine ⟨rfl, ?_⟩
      have hsame : d₂.ownedClaims q.filter = listed := by
        rw [howned, map_congr_left fun k _ => expiring_of_not_due (hnone k), map_id']
        exact filter_eq_self.mpr fun k hk => decide_eq_true (Db.mem_ownedClaims.mp hk).2
      rw [hsame]
  obtain ⟨rfl, rfl⟩ := hread
  cases hdone
  refine ⟨offset, hdecode, h₂, howned, rfl, ?_⟩
  simp only [decide_eq_true_eq]

end Handler

end Pactline
