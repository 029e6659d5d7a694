import Pactline.Model.Idempotency

/-!
# The table of idempotency keys

Every transaction of the store writes only rows whose keys it has locked. A claim begins with a
statement that takes no lock and looks for an expired row: it does not overlook one, as long as
nobody inserts rows that have expired by then (`keyRely`). For each operation: what a commit of it
does to the table and what it replies.
-/

set_option autoImplicit false

namespace Pactline.Idempotency

open ReadCommitted Function Txn List Option

variable {now : Time} {u : Unit} {c : Cmd} {reply : Reply}

/-! ## Isolation -/

/-- While a key is locked, its row stays as it is. For one who claims the key `k` at a time, a row
that has expired by then has not appeared only now. -/
def keyRely (k : Key) (claimed : Option Time) : Rely Records Key where
  rel held d d' := (∀ key s, ⟨key, s⟩ ∈ held → d' key = d key) ∧ ∀ now ∈ claimed, ∀ r',
    d' k = some r' → r'.expiresAt ≤ now → ∃ r, d k = some r ∧ r.expiresAt ≤ now
  refl _ _ := ⟨fun _ _ _ => rfl, fun _ _ r' hr' hexpired => ⟨r', hr', hexpired⟩⟩
  trans _ _ _ _ h₁ h₂ := by
    refine ⟨fun key s hl => (h₂.1 key s hl).trans (h₁.1 key s hl),
      fun now hnow r₃ hr₃ hexpired => ?_⟩
    obtain ⟨r₂, hr₂, hexpired₂⟩ := h₂.2 now hnow r₃ hr₃ hexpired
    exact h₁.2 now hnow r₂ hr₂ hexpired₂
  weaken _ _ _ _ hle h := ⟨fun key s hl => h.1 key s (hle hl), h.2⟩

/-- When the command claims the key. -/
def Cmd.claimTime (k : Key) : Cmd → Option Time
  | .claim _ key _ now _ => if key = k then some now else none
  | _ => none

abbrev cmdRely (k : Key) (c : Cmd) : Rely Records Key := keyRely k (c.claimTime k)

variable {k : Key} {claimed : Option Time} {held held' : List (Lock Key)} {d d' : Records}
  {key : Key}

/-- A statement that changes each row by itself, and only rows that are locked. -/
theorem safe_rows (f : Key → Option Record → Option Record)
    (hf : ∀ key, (∃ s, ⟨key, s⟩ ∈ held) ∨ ∀ r, f key r = r) :
    (keyRely k claimed).Safe held fun d key => f key (d key) := by
  intro held' hle d d' hR
  refine ⟨fun key s hl => ?_, fun now hnow r' hr' hexpired => ?_⟩
  · change f key (d' key) = f key (d key)
    rw [hR.1 key s hl]
  · change f k (d' k) = some r' at hr'
    change ∃ r, f k (d k) = some r ∧ _
    rcases hf k with ⟨s, hl⟩ | hsame
    · rw [← hR.1 k s (hle hl)]
      exact ⟨r', hr', hexpired⟩
    · rw [hsame] at hr' ⊢
      exact hR.2 now hnow r' hr' hexpired

/-- A statement that changes one row. -/
theorem safe_update (f : Option Record → Option Record) :
    (keyRely k claimed).Safe (⟨key, .update⟩ :: held) fun d => update d key (f (d key)) := by
  have hrows : (fun d : Records => update d key (f (d key))) =
      fun d key' => if key' = key then f (d key') else d key' := by
    funext d key'
    by_cases hkey : key' = key
    · subst hkey
      rw [update_self, if_pos rfl]
    · rw [update_of_ne hkey, if_neg hkey]
  rw [hrows]
  refine safe_rows (fun key' r => if key' = key then f r else r) fun key' => ?_
  by_cases hkey : key' = key
  · exact .inl ⟨.update, hkey ▸ mem_cons_self⟩
  · exact .inr fun r => if_neg hkey

theorem guarded_prog (c : Cmd) : (prog c).Guarded (keyRely k claimed) [] fun _ _ => True := by
  cases c with
  | claim n key requestHash now expiresAt =>
    have hdelete : ∀ held : List (Lock Key), (keyRely k claimed).Safe (⟨key, .update⟩ :: held)
        fun d => update d key ((d key).filter fun r => now < r.expiresAt) := fun _ =>
      safe_update (fun r => r.filter fun r => now < r.expiresAt)
    have hinsert : ∀ held : List (Lock Key), (keyRely k claimed).Safe (⟨key, .update⟩ :: held)
        fun d => update d key (some ⟨requestHash, .processing, expiresAt⟩) := fun _ =>
      safe_update (fun _ => some ⟨requestHash, .processing, expiresAt⟩)
    simp [prog, claim, deleteExpired, insertRecord, hdelete, hinsert]
  | complete _ key =>
    have hset : ∀ (held : List (Lock Key)) (r : Record),
        (keyRely k claimed).Safe (⟨key, .update⟩ :: held)
          fun d => update d key (some r) := fun _ r => safe_update (fun _ => some r)
    simp only [prog, complete, guarded_bind, guarded_acquire, guarded_query]
    intro d
    split <;> simp [hset]
  | release =>
    simp only [prog, release, guarded_bind, guarded_acquire, guarded_modify, guarded_pure, and_true]
    exact safe_update (fun r => r.filter fun r => r.state ≠ .processing)
  | deleteIdempotencyBefore before keys =>
    simp only [prog, deleteIdempotencyBefore, guarded_bind, guarded_acquireAll,
      guarded_modify, guarded_pure, and_true]
    refine safe_rows (fun key r => if key ∈ keys then r.filter fun r => before ≤ r.expiresAt else r)
      fun key => ?_
    by_cases hkey : key ∈ keys
    · exact .inl ⟨.update, by simpa using hkey⟩
    · exact .inr fun r => if_neg hkey
  | handle | answer => trivial

/-! ## What the operations do -/

/-- A filter that keeps what is there. -/
theorem update_filter_of_keep {p} (h : ∀ r, d key = some r → p r = true) :
    update d key ((d key).filter p) = d := by
  have hkeep : (d key).filter p = d key := by
    cases hr : d key with
    | none => rfl
    | some r => rw [filter_some, if_pos (h r hr)]
  rw [hkeep, update_eq_self]

theorem deleteExpired_commits
    (h : (deleteExpired key now).Commits (keyRely k claimed) held d u held' d') :
    (held' = held ∧ d' = d ∧ (key = k → now ∈ claimed → ∀ r, d key = some r → now < r.expiresAt)) ∨
      held' = ⟨key, .update⟩ :: held ∧ d' = update d key
        ((d key).filter fun r => now < r.expiresAt) := by
  simp only [deleteExpired, rules, commits_ite] at h
  obtain ⟨expired, held₁, d₁, ⟨⟨d₀, hR, rfl⟩, rfl, rfl⟩, h⟩ := h
  rcases h with ⟨-, _, _, _, ⟨rfl, rfl⟩, rfl, rfl⟩ | ⟨hnone, -, rfl, rfl⟩
  · exact .inr ⟨rfl, rfl⟩
  · refine .inl ⟨rfl, rfl, ?_⟩
    rintro rfl hnow r hr
    rw [← Nat.not_le]
    intro hexpired
    obtain ⟨r₀, hr₀, hexpired₀⟩ := hR.2 now hnow r hr hexpired
    simp [hr₀, hexpired₀] at hnone

/-- The row is inserted where there is none. A row that keeps it from being inserted was there when
the statement looked; and still is, if it is locked. -/
theorem insertRecord_commits {record inserted}
    (h : (insertRecord key record).Commits (keyRely k claimed) held d inserted held' d') :
    (inserted = true ∧ held' = ⟨key, .update⟩ :: held ∧ d key = none ∧
      d' = update d key (some record)) ∨
      inserted = false ∧ d' = d ∧ (⟨key, .update⟩ ∈ held → d key ≠ none) := by
  simp only [insertRecord, rules, commits_ite] at h
  obtain ⟨taken, _, _, ⟨⟨d₀, hR, rfl⟩, rfl, rfl⟩, h⟩ := h
  rcases h with ⟨htaken, rfl, -, rfl⟩ |
    ⟨-, _, _, _, ⟨rfl, rfl⟩, _, _, _, ⟨⟨d₁, hR₁, rfl⟩, rfl, rfl⟩, h⟩
  · refine .inr ⟨rfl, rfl, fun hl hnone => ?_⟩
    rw [hR.1 key .update hl] at hnone
    rw [hnone] at htaken
    cases htaken
  have hexact := hR₁.1 key .update mem_cons_self
  rcases h with ⟨htaken, rfl, -, rfl⟩ | ⟨hfree, _, _, _, ⟨rfl, rfl⟩, rfl, rfl, rfl⟩
  · refine .inr ⟨rfl, rfl, fun _ hnone => ?_⟩
    rw [hexact] at hnone
    rw [hnone] at htaken
    cases htaken
  · refine .inl ⟨rfl, rfl, ?_, rfl⟩
    rw [hexact]
    simpa using hfree

/-- A claim that is acquired has found no row, or an expired one. -/
structure Acquires (key : Key) (requestHash : Bytes) (now expiresAt : Time) (d d' : Records) :
    Prop where
  free : ∀ r, d key = some r → r.expiresAt ≤ now
  after : d' = update d key (some ⟨requestHash, .processing, expiresAt⟩)

theorem claim_commits {requestHash expiresAt result}
    (h : (claim key requestHash now expiresAt).Commits (keyRely k claimed) [] d result held' d') :
    (result = .ok .acquired ∧ ⟨key, .update⟩ ∈ held' ∧
      Acquires key requestHash now expiresAt d d') ∨
      d' = d ∧ (d key = none ∧ result = .error .noRows ∨
        ∃ r, d key = some r ∧ (key = k → now ∈ claimed → now < r.expiresAt) ∧
          result = .ok (r.claim requestHash)) := by
  simp only [claim, rules, commits_ite] at h
  obtain ⟨_, held₁, d₁, hdelete, inserted, held₂, d₂, hinsert, h⟩ := h
  rcases h with ⟨rfl, rfl, rfl, rfl⟩ | ⟨hfalse, _, _, _, ⟨rfl, rfl⟩, _, _, _,
      ⟨⟨d₀, hR, rfl⟩, rfl, rfl⟩, rfl, -, rfl⟩
  · -- Inserted: the row was free after the `DELETE`.
    obtain ⟨-, rfl, hnone, rfl⟩ | ⟨hno, -⟩ := insertRecord_commits hinsert
    · refine .inl ⟨rfl, mem_cons_self, ?_⟩
      rcases deleteExpired_commits hdelete with ⟨-, rfl, -⟩ | ⟨-, rfl⟩
      · refine ⟨fun r hr => ?_, rfl⟩
        rw [hnone] at hr
        cases hr
      · refine ⟨fun r hr => ?_, by rw [update_idem]⟩
        rw [update_self, hr] at hnone
        simpa using hnone
    · cases hno
  · obtain ⟨hyes, -⟩ | ⟨-, rfl, htaken⟩ := insertRecord_commits hinsert
    · exact absurd hyes hfalse
    have hsame : d' = d ∧ (key = k → now ∈ claimed → ∀ r, d key = some r → now < r.expiresAt) := by
      rcases deleteExpired_commits hdelete with ⟨-, rfl, hlasts⟩ | ⟨rfl, rfl⟩
      · exact ⟨rfl, hlasts⟩
      · -- What the `DELETE` has removed cannot be in the way of the `INSERT`.
        have hkept := htaken mem_cons_self
        rw [update_self] at hkept
        have hlasts : ∀ r, d key = some r → now < r.expiresAt := by
          intro r hr
          by_contra hexpired
          exact hkept (by rw [hr, filter_some, if_neg (by simpa using hexpired)])
        exact ⟨update_filter_of_keep fun r hr => decide_eq_true (hlasts r hr),
          fun _ _ => hlasts⟩
    obtain ⟨rfl, hlasts⟩ := hsame
    refine .inr ⟨rfl, ?_⟩
    rw [← hR.1 key .share mem_cons_self]
    cases hrow : d' key with
    | none => exact .inl ⟨rfl, rfl⟩
    | some r => exact .inr ⟨r, rfl, fun hkey hnow => hlasts hkey hnow r hrow, rfl⟩

/-- A completion that succeeds has found the row in processing. -/
structure Completes (key : Key) (response : StoredResponse) (d d' : Records) : Prop where
  changes : ∃ r state, d key = some r ∧ r.state = .processing ∧ response.row = some state ∧
    d' = update d key (some { r with state })

theorem complete_commits {response : StoredResponse} {result}
    (h : (complete key response).Commits (keyRely k claimed) [] d result held' d') :
    ⟨key, .update⟩ ∈ held' ∧ (result = .ok () ∧ Completes key response d d' ∨
      d' = d ∧ result ≠ .ok () ∧
        ((∀ r, d key = some r → r.state ≠ .processing) ∨ response.row = none)) := by
  simp only [complete, rules] at h
  obtain ⟨_, _, _, ⟨rfl, rfl⟩, found, _, _, ⟨⟨d₀, hR, rfl⟩, rfl, rfl⟩, h⟩ := h
  rw [← hR.1 key .update mem_cons_self] at h
  split at h
  case h_1 hfound =>
    obtain ⟨rfl, rfl, rfl⟩ := h
    refine ⟨mem_cons_self, .inr ⟨rfl, (fun heq => by cases heq), .inl fun r hr hstate => ?_⟩⟩
    simp [hr, hstate] at hfound
  case h_2 hrow =>
    obtain ⟨rfl, rfl, rfl⟩ := h
    exact ⟨mem_cons_self, .inr ⟨rfl, (fun heq => by cases heq), .inr hrow⟩⟩
  case h_3 r state hfound hrow =>
    simp only [rules] at h
    obtain ⟨_, _, _, ⟨rfl, rfl⟩, rfl, rfl, rfl⟩ := h
    obtain ⟨hr, hstate⟩ := filter_eq_some_iff.mp hfound
    exact ⟨mem_cons_self, .inl ⟨rfl, r, state, hr, of_decide_eq_true hstate, hrow, rfl⟩⟩

theorem release_commits (h : (release key).Commits (keyRely k claimed) [] d u held' d') :
    ⟨key, .update⟩ ∈ held' ∧
      d' = update d key ((d key).filter fun r => r.state ≠ .processing) := by
  simp only [release, rules] at h
  obtain ⟨_, _, _, ⟨rfl, rfl⟩, rfl, rfl⟩ := h
  exact ⟨mem_cons_self, rfl⟩

theorem deleteIdempotencyBefore_commits {before keys}
    (h : (deleteIdempotencyBefore before keys).Commits (keyRely k claimed) [] d u held' d') :
    (∀ k ∈ keys, ⟨k, .update⟩ ∈ held') ∧
      d' = fun k => if k ∈ keys then (d k).filter fun r => before ≤ r.expiresAt else d k := by
  simp only [deleteIdempotencyBefore, rules] at h
  obtain ⟨_, _, _, ⟨rfl, rfl⟩, rfl, rfl⟩ := h
  refine ⟨fun k hk => ?_, rfl⟩
  simpa using hk

/-! ## Serial commits -/

/-- A commit changes only rows it has locked. -/
theorem footprint (h : (prog c).Commits (keyRely k claimed) [] d reply held' d') {row}
    (hrow : ⟨row, .update⟩ ∉ held') : d' row = d row := by
  cases c with
  | claim _ key =>
    obtain ⟨result, -, h⟩ := commits_of_bind_pure h
    rcases claim_commits h with ⟨-, hl, hacquires⟩ | ⟨rfl, -⟩
    · rw [hacquires.after]
      exact update_of_ne (fun heq : row = key => hrow (heq ▸ hl)) _ _
    · rfl
  | complete _ key =>
    obtain ⟨result, -, h⟩ := commits_of_bind_pure h
    obtain ⟨hl, ⟨-, r, state, -, -, -, rfl⟩ | ⟨rfl, -⟩⟩ := complete_commits h
    · exact update_of_ne (fun heq : row = key => hrow (heq ▸ hl)) _ _
    · rfl
  | release n key =>
    obtain ⟨_, -, h⟩ := commits_of_bind_pure h
    obtain ⟨hl, rfl⟩ := release_commits h
    exact update_of_ne (fun heq : row = key => hrow (heq ▸ hl)) _ _
  | deleteIdempotencyBefore =>
    obtain ⟨_, -, h⟩ := commits_of_bind_pure h
    obtain ⟨hl, rfl⟩ := deleteIdempotencyBefore_commits h
    exact if_neg fun hmem => hrow (hl row hmem)
  | handle | answer =>
    obtain ⟨-, -, rfl⟩ := h
    rfl

/-- A claim leaves no row that has expired when the other makes its claim. -/
def Overlap (k : Key) (c c' : Cmd) : Prop :=
  ∀ now' ∈ c'.claimTime k, ∀ n requestHash now expiresAt,
    c = .claim n k requestHash now expiresAt → now' < expiresAt

/-- Rows that have expired by `now` do not come from a commit. -/
theorem expired_before (h : (prog c).Commits (keyRely k claimed) [] d reply held' d')
    (hclaim : ∀ n requestHash now' expiresAt, c = .claim n k requestHash now' expiresAt →
      now < expiresAt) {r' : Record} (hr' : d' k = some r') (hexpired : r'.expiresAt ≤ now) :
    ∃ r, d k = some r ∧ r.expiresAt ≤ now := by
  cases c with
  | claim _ key =>
    obtain ⟨result, -, h⟩ := commits_of_bind_pure h
    rcases claim_commits h with ⟨-, hl, hacquires⟩ | ⟨rfl, -⟩
    · rw [hacquires.after] at hr'
      by_cases hkey : k = key
      · subst hkey
        rw [update_self, some.injEq] at hr'
        subst hr'
        exact absurd hexpired (Nat.not_le.mpr (hclaim _ _ _ _ rfl))
      · rw [update_of_ne hkey] at hr'
        exact ⟨r', hr', hexpired⟩
    · exact ⟨r', hr', hexpired⟩
  | complete _ key =>
    obtain ⟨result, -, h⟩ := commits_of_bind_pure h
    obtain ⟨-, ⟨-, r, state, hr, -, -, rfl⟩ | ⟨rfl, -⟩⟩ := complete_commits h
    · by_cases hkey : k = key
      · subst hkey
        rw [update_self, some.injEq] at hr'
        subst hr'
        exact ⟨r, hr, hexpired⟩
      · rw [update_of_ne hkey] at hr'
        exact ⟨r', hr', hexpired⟩
    · exact ⟨r', hr', hexpired⟩
  | release n key =>
    obtain ⟨_, -, h⟩ := commits_of_bind_pure h
    obtain ⟨-, rfl⟩ := release_commits h
    by_cases hkey : k = key
    · subst hkey
      rw [update_self] at hr'
      exact ⟨r', (filter_eq_some_iff.mp hr').1, hexpired⟩
    · rw [update_of_ne hkey] at hr'
      exact ⟨r', hr', hexpired⟩
  | deleteIdempotencyBefore =>
    obtain ⟨_, -, h⟩ := commits_of_bind_pure h
    obtain ⟨-, rfl⟩ := deleteIdempotencyBefore_commits h
    dsimp only at hr'
    split at hr'
    · exact ⟨r', (filter_eq_some_iff.mp hr').1, hexpired⟩
    · exact ⟨r', hr', hexpired⟩
  | handle | answer =>
    obtain ⟨-, -, rfl⟩ := h
    exact ⟨r', hr', hexpired⟩

theorem protocol (k : Key) : Protocol prog (cmdRely k) (Overlap k) (fun _ => True) where
  guarded c := guarded_prog c
  inv _ _ _ _ _ _ _ := trivial
  guarantee c d a held d' h _ c' held' hoverlap hcompatible := by
    refine ⟨fun key s hl => ?_, fun now hnow r' hr' hexpired => ?_⟩
    · apply footprint h
      intro hupdate
      exact hcompatible.not_locked hupdate s hl
    · exact expired_before h (hoverlap now hnow) hr' hexpired

end Pactline.Idempotency
