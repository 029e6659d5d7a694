import Pactline.Analysis.ClaimListing
import Pactline.Results.WorkflowState

/-!
# The pages of a caller's Claims

A request for a page ends the Claims on it that are due and reads the page again. If it asks for
active Claims, the ended ones leave the listing and others move up, so the page may show a Claim
that is due as well. The cursor counts Claims: following it returns every Claim once while nobody
disturbs the part of the listing that has been returned.
-/

set_option autoImplicit false

namespace Pactline

open ReadCommitted Listing Relation List

/-! ## The listing around a page -/

section Around

variable {q : ClaimFilter} {now : Time} {listed page : List TaskStageClaim} {offset limit : Nat}

/-- Claims that are not on the page stay as they are. -/
theorem filter_map_expiring_of_notMem (hadmits : ∀ k ∈ listed, q.Admits k)
    (hnot : ∀ k ∈ listed, k ∉ page) :
    (listed.map (expiring page now)).filter q.Admits = listed := by
  have hsame : listed.map (expiring page now) = listed := by
    rw [map_congr_left fun k hk => expiring_of_not_due fun hmem => absurd hmem (hnot k hk)]
    exact map_id' listed
  rw [hsame]
  exact filter_eq_self.mpr fun k hk => decide_eq_true (hadmits k hk)

theorem split_at_page (listed : List TaskStageClaim) (offset limit : Nat) :
    listed.take offset ++ ((listed.drop offset).take limit ++ listed.drop (offset + limit)) =
      listed := by
  rw [← drop_drop, take_append_drop, take_append_drop]

/-- Only the page itself changes. -/
theorem filter_map_expiring (hnodup : listed.Nodup) (hadmits : ∀ k ∈ listed, q.Admits k)
    (hpage : page = (listed.drop offset).take limit) :
    (listed.map (expiring page now)).filter q.Admits =
      listed.take offset ++
        ((page.map (expiring page now)).filter q.Admits ++ listed.drop (offset + limit)) := by
  have hsplit := split_at_page listed offset limit
  rw [← hpage] at hsplit
  rw [← hsplit, nodup_append, nodup_append] at hnodup
  obtain ⟨-, ⟨-, -, hafter⟩, hbefore⟩ := hnodup
  have htake : (((listed.take offset).map (expiring page now)).filter q.Admits) =
      listed.take offset := by
    apply filter_map_expiring_of_notMem fun k hk => hadmits k (mem_of_mem_take hk)
    intro k hk hmem
    exact hbefore k hk k (mem_append_left _ hmem) rfl
  have hdrop : (((listed.drop (offset + limit)).map (expiring page now)).filter q.Admits) =
      listed.drop (offset + limit) := by
    apply filter_map_expiring_of_notMem fun k hk => hadmits k (mem_of_mem_drop hk)
    intro k hk hmem
    exact hafter k hmem k hk rfl
  conv_lhs => rw [← hsplit]
  rw [map_append, map_append, filter_append, filter_append, htake, hdrop]

/-- No Claim of the page is due once the loop has gone over it. -/
theorem not_due_of_mem_expiring {k : TaskStageClaim}
    (h : k ∈ (page.map (expiring page now)).filter q.Admits) : ¬ k.Due now := by
  obtain ⟨x, hx, rfl⟩ := mem_map.mp (mem_of_mem_filter h)
  by_cases hdue : x.Due now
  · rw [expiring_of_due hx hdue]
    exact TaskStageClaim.not_due_expire
  · rwa [expiring_of_not_due fun _ => hdue]

/-- A filter that names no status, or another one than `active`, keeps the page whole. -/
theorem length_expiring_of_ne_active (hadmits : ∀ k ∈ page, q.Admits k)
    (hstatus : q.status ≠ some .active) :
    ((page.map (expiring page now)).filter q.Admits).length = page.length := by
  rw [filter_eq_self.mpr, length_map]
  intro k' hk'
  obtain ⟨k, hk, rfl⟩ := mem_map.mp hk'
  apply decide_eq_true
  by_cases hdue : k.Due now
  · rw [expiring_of_due hk hdue]
    obtain ⟨hsubject, hmethod, htoken, hrun, hnamed, hstage⟩ := hadmits k hk
    refine ⟨hsubject, hmethod, htoken, hrun, fun status hs => ?_, hstage⟩
    -- The Claim was active, so the filter would name `active`.
    have hactive : status = .active := (hnamed status hs).symm.trans hdue.1
    rw [hactive] at hs
    exact absurd hs hstatus
  · rw [expiring_of_not_due fun _ => hdue]
    exact hadmits k hk

/-- A filter for active Claims drops those that were due. -/
theorem length_expiring_of_active (hadmits : ∀ k ∈ page, q.Admits k)
    (hstatus : q.status = some .active) :
    ((page.map (expiring page now)).filter q.Admits).length +
      page.countP (·.Due now) = page.length := by
  have hfilter : (page.map (expiring page now)).filter q.Admits =
      page.filter fun k => ¬ k.Due now := by
    rw [filter_map]
    have hcongr : page.filter ((fun k => decide (q.Admits k)) ∘ expiring page now) =
        page.filter fun k => ¬ k.Due now := by
      apply filter_congr
      intro k hk
      by_cases hdue : k.Due now
      · have hout : ¬ q.Admits (k.expire now) := by
          intro hin
          have hexpired : StageClaimStatus.expired = .active := hin.2.2.2.2.1 .active hstatus
          cases hexpired
        simp [expiring_of_due hk hdue, hout, hdue]
      · simp [expiring_of_not_due fun _ => hdue, hadmits k hk, hdue]
    rw [hcongr]
    rw [map_congr_left fun k hk => expiring_of_not_due fun _ =>
      of_decide_eq_true (mem_filter.mp hk).2]
    exact map_id' _
  rw [hfilter, countP_eq_length_filter]
  have hsum := length_eq_length_filter_add (l := page) fun k => decide (k.Due now)
  simp only [decide_not] at hsum ⊢
  omega

/-- Behind a page that is not full there is nothing. -/
theorem drop_eq_nil_or_length_page (hpage : page = (listed.drop offset).take limit) :
    listed.drop (offset + limit) = [] ∨ page.length = limit := by
  have hlength : page.length = min limit (listed.length - offset) := by
    rw [hpage, length_take, length_drop]
  by_cases hfull : page.length = limit
  · exact .inr hfull
  · left
    apply drop_eq_nil_of_le
    omega

/-- Before the page nothing moves, and what was behind it follows what is left of it. -/
theorem take_drop_around {changed : List TaskStageClaim}
    (hpage : page = (listed.drop offset).take limit) (hchanged : changed.length ≤ page.length) :
    (listed.take offset ++ (changed ++ listed.drop (offset + limit))).take offset =
        listed.take offset ∧
      (listed.take offset ++ (changed ++ listed.drop (offset + limit))).drop offset =
        changed ++ listed.drop (offset + limit) := by
  by_cases hlong : offset ≤ listed.length
  · have hlength : (listed.take offset).length = offset := by
      rw [length_take]
      omega
    exact ⟨take_left' hlength, drop_left' hlength⟩
  · -- The page lies beyond the end of the listing.
    have hempty : page.length = 0 := by
      rw [hpage, length_take, length_drop]
      omega
    have hnil : changed = [] := eq_nil_of_length_eq_zero (by omega)
    have hrest : listed.drop (offset + limit) = [] := drop_eq_nil_of_le (by omega)
    rw [hnil, hrest, append_nil, append_nil, take_take, Nat.min_self]
    refine ⟨rfl, drop_eq_nil_of_le ?_⟩
    rw [length_take]
    omega

end Around

/-! ## What a request makes of the listing -/

section Served

variable {platform : Platform} {codec : TextCodec Nat} {q : ClaimPageRequest} {d d' : Db}
  {cursor : Option String} {offset : Nat} {response : ClaimPage}

/-- The page after its due Claims have been ended: those that the filter still admits. -/
def ClaimPageRequest.settled (q : ClaimPageRequest) (page : List TaskStageClaim) :
    List TaskStageClaim :=
  (page.map (expiring page q.now)).filter q.filter.Admits

theorem ClaimPageRequest.length_settled_le (q : ClaimPageRequest) (page : List TaskStageClaim) :
    (q.settled page).length ≤ page.length := by
  unfold settled
  calc ((page.map (expiring page q.now)).filter q.filter.Admits).length
      ≤ (page.map (expiring page q.now)).length := length_filter_le _ _
    _ = page.length := length_map _

theorem ClaimPageRequest.admits_page (q : ClaimPageRequest) (offset : Nat) (d : Db) :
    ∀ k ∈ ((d.ownedClaims q.filter).drop offset).take (q.limit.getD 50), q.filter.Admits k :=
  fun _ hk => (Db.mem_ownedClaims.mp (mem_of_mem_drop (mem_of_mem_take hk))).2

/-- The listing before and from the page on, after a successful request. -/
theorem Reached.served (h : Reached platform d)
    (hoffset : decodeClaimCursor codec cursor = .ok offset)
    (hserve : serveClaimPage platform codec q cursor d = (.ok response, d')) :
    (d'.ownedClaims q.filter).take offset = (d.ownedClaims q.filter).take offset ∧
      (d'.ownedClaims q.filter).drop offset =
        q.settled (((d.ownedClaims q.filter).drop offset).take (q.limit.getD 50)) ++
          (d.ownedClaims q.filter).drop (offset + q.limit.getD 50) := by
  obtain ⟨offset', hoffset', -, howned, -, -⟩ := serveClaimPage_ok h hserve
  obtain rfl : offset = offset' := Except.ok.inj (hoffset.symm.trans hoffset')
  have hnodup : (d.ownedClaims q.filter).Nodup := List.Nodup.of_map _ h.claimsUnique.nodup_owned
  have hadmits : ∀ k ∈ d.ownedClaims q.filter, q.filter.Admits k := fun k hk =>
    (Db.mem_ownedClaims.mp hk).2
  rw [howned, filter_map_expiring hnodup hadmits rfl]
  exact take_drop_around rfl (q.length_settled_le _)

end Served

/-! ## Claims past their deadline -/

section Due

variable {platform : Platform} {codec : TextCodec Nat} {q : ClaimPageRequest}

/-- The Claims that move up onto the page when the due ones leave it. -/
theorem take_behind_page {page rest : List TaskStageClaim} {limit}
    (hadmits : ∀ k ∈ page, q.filter.Admits k) (hfull : rest = [] ∨ page.length = limit) :
    (q.filter.status = some .active →
      rest.take (limit - (q.settled page).length) = rest.take (page.countP (·.Due q.now))) ∧
    (q.filter.status ≠ some .active → rest.take (limit - (q.settled page).length) = []) := by
  rcases hfull with rfl | hfull
  · simp
  constructor
  · intro hstatus
    have hsum : (q.settled page).length + page.countP (·.Due q.now) = page.length :=
      length_expiring_of_active hadmits hstatus
    have hcount : limit - (q.settled page).length = page.countP (·.Due q.now) := by omega
    rw [hcount]
  · intro hstatus
    have hsame : (q.settled page).length = page.length :=
      length_expiring_of_ne_active hadmits hstatus
    have hnone : limit - (q.settled page).length = 0 := by omega
    rw [hnone, take_zero]

/-- A response shows no active Claim past its deadline if and only if the request does not ask for
active Claims, or none of the Claims that move up onto the page is due: as many as the page has due
Claims, from behind the page. -/
theorem due_on_page_iff {es : Schedule} {cfg : SystemConfig}
    (h : runFrom platform Db.empty es = some cfg) {cursor : Option String} {offset : Nat}
    (hoffset : decodeClaimCursor codec cursor = .ok offset) {response : ClaimPage} {d' : Db}
    (hserve : serveClaimPage platform codec q cursor cfg.db = (.ok response, d')) :
    (∀ k ∈ response.items, ¬ (k.status = .active ∧ k.expiresAt ≤ q.now)) ↔
      (q.filter.status = some .active →
        ∀ k ∈ ((cfg.db.ownedClaims q.filter).drop (offset + q.limit.getD 50)).take
            ((((cfg.db.ownedClaims q.filter).drop offset).take (q.limit.getD 50)).countP
              (·.Due q.now)),
          ¬ k.Due q.now) := by
  have hreached : Reached platform cfg.db := .of_runFrom h
  obtain ⟨offset', hoffset', -, -, hitems, -⟩ := serveClaimPage_ok hreached hserve
  obtain rfl : offset = offset' := Except.ok.inj (hoffset.symm.trans hoffset')
  have hdrop := (hreached.served hoffset hserve).2
  have hbehind := take_behind_page (ClaimPageRequest.admits_page q offset cfg.db)
    (drop_eq_nil_or_length_page rfl)
  generalize q.limit.getD 50 = limit at *
  generalize hpage : ((cfg.db.ownedClaims q.filter).drop offset).take limit = page at *
  have hshort : (q.settled page).length ≤ limit := by
    have hle := q.length_settled_le page
    have hlength : page.length ≤ limit := by
      rw [← hpage]
      exact length_take_le _ _
    omega
  rw [hitems, hdrop, take_append, take_of_length_le hshort]
  simp only [mem_append]
  constructor
  · intro hnone hstatus k hk
    rw [← hbehind.1 hstatus] at hk
    exact hnone k (.inr hk)
  · intro hmoved k hk
    rcases hk with hkept | hk
    · exact not_due_of_mem_expiring hkept
    · by_cases hstatus : q.filter.status = some .active
      · rw [hbehind.1 hstatus] at hk
        exact hmoved hstatus k hk
      · rw [hbehind.2 hstatus] at hk
        cases hk

/-! ### Two Claims -/

/-- Task `t` is created, marked ready and claimed. -/
def claimedAt (t : TaskId) (now : Time) : List Cmd :=
  [sampleCreate t none [], .markReady t 1 sampleOperation 200 fun n => 2000 + n,
    .claim t 2 sampleActor sampleOperation "cli" "" now fun n => 10 * now + n]

def twoClaimsScript : List Cmd := claimedAt 1 300 ++ claimedAt 2 310

/-- The Claims of the sample user, one on a page. -/
def sampleListing (status : Option StageClaimStatus) (now : Time) : ClaimPageRequest :=
  { filter := ⟨sampleOperation, status, none⟩, limit := some 1, access := fun _ => .ok (), now
    fresh := fun id n => 100000 * id + n }

/-- When the deadlines of both Claims have passed. -/
def bothDue : Time := taskClaimActiveLifetime + 1000

/-- Without a status in the filter, the Claim on the page is shown as it has been ended. -/
theorem due_on_page_iff_ended :
    ∃ cfg response d', runFrom asciiPlatform Db.empty
        (.connect (.script twoClaimsScript) :: advances 0 66) = some cfg ∧
      serveClaimPage asciiPlatform offsetCursor (sampleListing none bothDue) none cfg.db =
        (.ok response, d') ∧
      response.items.map (·.id) = [3101] ∧
      ∀ k ∈ response.items, ¬ (k.status = .active ∧ k.expiresAt ≤ bothDue) := by
  obtain ⟨cfg, hcfg, response, hresponse, hids⟩ : ∃ cfg, runFrom asciiPlatform Db.empty
        (.connect (.script twoClaimsScript) :: advances 0 66) = some cfg ∧
      ∃ response, (serveClaimPage asciiPlatform offsetCursor (sampleListing none bothDue) none
        cfg.db).1.toOption = some response ∧ response.items.map (·.id) = [3101] := by
    decide +kernel
  have hserve : serveClaimPage asciiPlatform offsetCursor (sampleListing none bothDue) none cfg.db =
      (.ok response, _) := Prod.ext (Txn.ok_of_toOption hresponse) rfl
  refine ⟨cfg, response, _, hcfg, hserve, hids, ?_⟩
  refine (due_on_page_iff hcfg rfl hserve).mpr fun hstatus => ?_
  cases hstatus

/-- Both Claims are due. The one on the page is ended, and the other takes its place. -/
theorem due_claim_moves_up :
    ∃ cfg response d' k, runFrom asciiPlatform Db.empty
        (.connect (.script twoClaimsScript) :: advances 0 66) = some cfg ∧
      serveClaimPage asciiPlatform offsetCursor (sampleListing (some .active) bothDue) none cfg.db =
        (.ok response, d') ∧
      k ∈ response.items ∧ k.status = .active ∧ k.expiresAt ≤ bothDue := by
  obtain ⟨cfg, hcfg, response, hresponse, k, hk, hdue⟩ : ∃ cfg, runFrom asciiPlatform Db.empty
        (.connect (.script twoClaimsScript) :: advances 0 66) = some cfg ∧
      ∃ response, (serveClaimPage asciiPlatform offsetCursor (sampleListing (some .active) bothDue)
        none cfg.db).1.toOption = some response ∧
      ∃ k ∈ response.items, k.status = .active ∧ k.expiresAt ≤ bothDue := by decide +kernel
  exact ⟨cfg, response, _, k, hcfg, Prod.ext (Txn.ok_of_toOption hresponse) rfl, hk, hdue⟩

end Due

/-! ## Following the cursors -/

def Db.listedIds (d : Db) (filter : ClaimFilter) : List Id := (d.ownedClaims filter).map (·.id)

theorem decodeClaimCursor_encode (codec : TextCodec Nat) (offset : Nat) :
    decodeClaimCursor codec (some (codec.encode offset)) = .ok offset := by
  unfold decodeClaimCursor
  rw [Option.getD_some, if_neg (codec.encode_ne_empty offset), codec.decode_encode]

/-- A page adds its own length to what has been taken. -/
theorem take_append_page {α : Type} (l : List α) (offset limit : Nat) :
    l.take offset ++ (l.drop offset).take limit =
      l.take (offset + ((l.drop offset).take limit).length) := by
  rw [take_add, length_take]
  congr 1
  rw [take_eq_take_iff]
  omega

namespace ClaimTraversal

variable {platform : Platform} {codec : TextCodec Nat} {filter : ClaimFilter} {limit : Option Nat}
  {s s' : ClaimTraversal}

theorem step_cases {event}
    (h : s.step platform codec filter limit event = some s') :
    s.finished = false ∧
      ((∃ access now fresh response, event = .request access now fresh ∧
        serveClaimPage platform codec ⟨filter, limit, access, now, fresh⟩ s.cursor s.db =
          (.ok response, s'.db) ∧
        s' = ⟨s'.db, response.nextCursor, s.items ++ response.items,
          response.nextCursor.isNone⟩) ∨
      ∃ c reply, event = .commit c ∧ (prog platform c).exec s.db = .ok (reply, s'.db) ∧
        s' = { s with db := s'.db }) := by
  unfold step at h
  split at h
  · cases h
  rename_i hrunning
  refine ⟨Bool.eq_false_iff.mpr hrunning, ?_⟩
  cases event with
  | request access now fresh =>
    left
    dsimp only at h
    split at h
    · rename_i response d hserve
      cases h
      exact ⟨access, now, fresh, response, rfl, hserve, rfl⟩
    · cases h
  | commit c =>
    right
    dsimp only at h
    split at h
    · rename_i reply d hexec
      cases h
      exact ⟨c, reply, rfl, hexec, rfl⟩
    · cases h

variable (platform codec filter limit)

def Step (s s' : ClaimTraversal) : Prop :=
  ∃ event, s.step platform codec filter limit event = some s'

/-- A step that leaves the returned Claims where they are if it is a commit: they are still the
first of the listing, in their order. -/
def SteadyStep (s s' : ClaimTraversal) : Prop :=
  ∃ event, s.step platform codec filter limit event = some s' ∧
    ∀ c, event = .commit c → (s'.db.listedIds filter).take s.items.length =
      (s.db.listedIds filter).take s.items.length

/-- The Claims returned so far are the first of the listing, the cursor counts them, and after the
last page they are the whole listing. -/
structure Returned (s : ClaimTraversal) : Prop where
  reached : Reached platform s.db
  counted : s.finished = false → decodeClaimCursor codec s.cursor = .ok s.items.length
  first : s.items.map (·.id) = (s.db.listedIds filter).take s.items.length
  whole : s.finished = true → s.items.map (·.id) = s.db.listedIds filter

variable {platform codec filter limit}

theorem returned_start {d} (h : Reached platform d) :
    Returned platform codec filter (start d) where
  reached := h
  counted _ := rfl
  first := rfl
  whole hfinished := by cases hfinished

/-- A page continues the listing where the last one ended. -/
theorem Returned.request (h : Returned platform codec filter s) (hrunning : s.finished = false)
    {access now fresh}
    {response : ClaimPage} {d'}
    (hserve : serveClaimPage platform codec ⟨filter, limit, access, now, fresh⟩ s.cursor s.db =
      (.ok response, d')) :
    Returned platform codec filter ⟨d', response.nextCursor, s.items ++ response.items,
      response.nextCursor.isNone⟩ := by
  have hoffset := h.counted hrunning
  obtain ⟨offset, hoffset', hreached, -, hitems, hnext⟩ := serveClaimPage_ok h.reached hserve
  obtain rfl : s.items.length = offset := Except.ok.inj (hoffset.symm.trans hoffset')
  have htake := (h.reached.served hoffset hserve).1
  dsimp only at htake hitems hnext
  generalize limit.getD 50 = limit at *
  -- What was returned before is still the first part of the listing.
  have hfirst : s.items.map (·.id) =
      ((d'.ownedClaims filter).take s.items.length).map (·.id) := by
    rw [htake, h.first, Db.listedIds, map_take]
  constructor
  · exact hreached
  · intro hmore
    rw [Option.isNone_eq_false_iff] at hmore
    obtain ⟨cursor, hcursor⟩ := Option.isSome_iff_exists.mp hmore
    rw [hcursor]
    rw [hcursor] at hnext
    split at hnext
    · cases hnext
      rw [length_append]
      exact decodeClaimCursor_encode codec _
    · cases hnext
  · rw [map_append, hfirst, hitems, ← map_append, take_append_page, Db.listedIds,
      ← map_take, length_append]
  · intro hlast
    rw [Option.isNone_iff_eq_none] at hlast
    rw [hlast] at hnext
    split at hnext
    · cases hnext
    · rename_i hnoMore
      rw [take_eq_of_not_lt hnoMore] at hitems
      rw [map_append, hfirst, hitems, ← map_append, take_append_drop, Db.listedIds]

/-- It stays so when a commit leaves these Claims in place. -/
theorem Returned.commit (h : Returned platform codec filter s) (hrunning : s.finished = false)
    {c reply} {d' : Db} (hexec : (prog platform c).exec s.db = .ok (reply, d'))
    (hsteady : (d'.listedIds filter).take s.items.length =
      (s.db.listedIds filter).take s.items.length) :
    Returned platform codec filter { s with db := d' } where
  reached := h.reached.exec hexec
  counted := h.counted
  first := h.first.trans hsteady.symm
  whole hfinished := by
    rw [hrunning] at hfinished
    cases hfinished

/-- Each step of a steady traversal keeps it. -/
theorem Returned.step (h : Returned platform codec filter s)
    (hstep : SteadyStep platform codec filter limit s s') : Returned platform codec filter s' := by
  obtain ⟨event, hevent, hsteady⟩ := hstep
  obtain ⟨hrunning, hcases⟩ := step_cases hevent
  rcases hcases with ⟨access, now, fresh, response, -, hserve, heq⟩ | ⟨c, reply, hc, hexec, heq⟩
  · rw [heq]
    exact h.request hrunning hserve
  · rw [heq]
    exact h.commit hrunning hexec (hsteady c hc)

/-- So does the whole traversal. -/
theorem Returned.steps (h : Returned platform codec filter s)
    (hsteps : ReflTransGen (SteadyStep platform codec filter limit) s s') :
    Returned platform codec filter s' := by
  induction hsteps with
  | refl => exact h
  | tail _ hstep ih => exact ih.step hstep

theorem steps_of_run {events}
    (h : s.run platform codec filter limit events = some s') :
    ReflTransGen (Step platform codec filter limit) s s' := by
  induction events generalizing s with
  | nil =>
    cases h
    exact .refl
  | cons event events ih =>
    obtain ⟨s₁, hs₁, hrest⟩ := Option.bind_eq_some_iff.mp h
    exact .head ⟨event, hs₁⟩ (ih hrest)

end ClaimTraversal

section Traversal

variable {platform : Platform} {codec : TextCodec Nat} {filter : ClaimFilter} {limit : Option Nat}

/-- A caller follows the cursors while others commit commands between the requests. As long as no
commit moves the Claims that have been returned, none is returned twice, and in the end every Claim
that matches has been returned. -/
theorem traversal_returns_each_once {es : Schedule} {cfg : SystemConfig}
    (h : runFrom platform Db.empty es = some cfg) {s : ClaimTraversal}
    (hsteps : ReflTransGen (ClaimTraversal.SteadyStep platform codec filter limit)
      (.start cfg.db) s) :
    (s.items.map (·.id)).Nodup ∧
      (s.finished = true → ∀ k ∈ s.db.ownedClaims filter, ∃ x ∈ s.items, x.id = k.id) := by
  have hreturned := (ClaimTraversal.returned_start (Reached.of_runFrom h)).steps hsteps
  constructor
  · rw [hreturned.first]
    exact (take_sublist _ _).nodup hreturned.reached.claimsUnique.nodup_owned
  · intro hfinished k hk
    have hmem : k.id ∈ s.items.map (·.id) := by
      rw [hreturned.whole hfinished]
      exact mem_map.mpr ⟨k, hk, rfl⟩
    exact mem_map.mp hmem

/-- The sample user asks for the next page. -/
def sampleVisit (now : Time) : TraversalEvent :=
  .request (sampleListing none now).access now (sampleListing none now).fresh

/-- The two Claims on two pages, while a third Task is created. -/
theorem traversal_returns_each_once_pages :
    ∃ cfg s, runFrom asciiPlatform Db.empty
        (.connect (.script twoClaimsScript) :: advances 0 66) = some cfg ∧
      ReflTransGen (ClaimTraversal.SteadyStep asciiPlatform offsetCursor
        (sampleListing none 0).filter (some 1)) (.start cfg.db) s ∧
      s.finished = true ∧ (s.items.map (·.id)).Nodup ∧
      ∀ k ∈ s.db.ownedClaims (sampleListing none 0).filter, ∃ x ∈ s.items, x.id = k.id := by
  obtain ⟨cfg, hcfg, s₁, hs₁, s₂, hs₂, hsteady, s, hs, hfinished⟩ : ∃ cfg,
      runFrom asciiPlatform Db.empty
        (.connect (.script twoClaimsScript) :: advances 0 66) = some cfg ∧
      ∃ s₁, (ClaimTraversal.start cfg.db).step asciiPlatform offsetCursor
        (sampleListing none 0).filter (some 1) (sampleVisit 400) = some s₁ ∧
      ∃ s₂, s₁.step asciiPlatform offsetCursor (sampleListing none 0).filter (some 1)
        (.commit (sampleCreate 3 none [])) = some s₂ ∧
      (s₂.db.listedIds (sampleListing none 0).filter).take s₁.items.length =
        (s₁.db.listedIds (sampleListing none 0).filter).take s₁.items.length ∧
      ∃ s, s₂.step asciiPlatform offsetCursor (sampleListing none 0).filter (some 1)
        (sampleVisit 420) = some s ∧ s.finished = true := by decide +kernel
  have hsteps : ReflTransGen (ClaimTraversal.SteadyStep asciiPlatform offsetCursor
      (sampleListing none 0).filter (some 1)) (.start cfg.db) s := by
    refine .tail (.tail (.tail .refl ⟨_, hs₁, ?_⟩) ⟨_, hs₂, fun _ _ => hsteady⟩) ⟨_, hs, ?_⟩
    · intro c hc
      cases hc
    · intro c hc
      cases hc
  obtain ⟨hnodup, hwhole⟩ := traversal_returns_each_once hcfg hsteps
  exact ⟨cfg, s, hcfg, hsteps, hfinished, hnodup, hwhole hfinished⟩

/-- A Claim is made between two requests: the second page starts with the Claim that the first one
ended with. -/
theorem new_claim_repeats_old_one :
    ∃ cfg s, runFrom asciiPlatform Db.empty
        (.connect (.script twoClaimsScript) :: advances 0 66) = some cfg ∧
      ReflTransGen (ClaimTraversal.Step asciiPlatform offsetCursor
        (sampleListing none 0).filter (some 1)) (.start cfg.db) s ∧
      s.finished = true ∧ s.items.map (·.id) = [3101, 3101, 3001] := by
  obtain ⟨cfg, hcfg, s, hs, hfinished, hids⟩ : ∃ cfg, runFrom asciiPlatform Db.empty
        (.connect (.script twoClaimsScript) :: advances 0 66) = some cfg ∧
      ∃ s, (ClaimTraversal.start cfg.db).run asciiPlatform offsetCursor
        (sampleListing none 0).filter (some 1) (sampleVisit 400 ::
          (claimedAt 3 320).map .commit ++ [sampleVisit 420, sampleVisit 430]) = some s ∧
      s.finished = true ∧ s.items.map (·.id) = [3101, 3101, 3001] := by decide +kernel
  exact ⟨cfg, s, hcfg, ClaimTraversal.steps_of_run hs, hfinished, hids⟩

end Traversal

end Pactline
