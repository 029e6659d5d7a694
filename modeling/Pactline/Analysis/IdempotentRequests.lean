import Pactline.Analysis.Idempotency

/-!
# Requests and their fingerprints

What the middleware makes of a request before it calls the store: which requests share a key
(`Middleware.Shares`), how such a request can be refused, and what two requests with the same
fingerprint have in common (`Middleware.same_of_admission`): everything but the path, of which only
the route pattern enters the key. The fields of a fingerprint can be told apart because none of
those that are ended by a zero byte has one in it.
-/

set_option autoImplicit false

namespace Pactline.Idempotency

open List

variable {s : Bytes} {b : UInt8}

/-! ## White space -/

theorem mem_of_mem_trimLeftSpace (h : b ∈ trimLeftSpace s) : b ∈ s := by
  fun_induction trimLeftSpace s <;> simp_all

theorem mem_of_mem_trimReversedSpace (h : b ∈ trimReversedSpace s) : b ∈ s := by
  fun_induction trimReversedSpace s <;> simp_all

theorem mem_of_mem_trimSpaceBytes (h : b ∈ trimSpaceBytes s) : b ∈ s := by
  have hreversed := mem_of_mem_trimReversedSpace (mem_reverse.mp h)
  exact mem_of_mem_trimLeftSpace (mem_reverse.mp hreversed)

/-! ## Admission -/

section Admission

variable {m : Middleware} {k : Key} {p q : Request} {requestHash : Bytes}

/-- A bearer mutation of this user, with this credential, method, route pattern and
`Idempotency-Key`. -/
structure Middleware.Shares (m : Middleware) (k : Key) (q : Request) : Prop where
  identity : ∃ current, q.identity = some current ∧ current.actorId = k.userId ∧
    current.authenticationMethod = k.credentialKind ∧
      idempotencyCredential current = some k.credentialId
  mutation : requiresIdempotency q.method = true
  method : q.method = k.method
  route : m.route q = k.routePattern
  value : q.idempotencyKeys.head? = some k.value

/-- The request cannot be used as it is: its key is empty or not well formed, it has several keys,
or its body cannot be read. -/
def Request.Unusable (k : Key) (q : Request) : Prop :=
  validIdempotencyKey k.value = false ∨ q.idempotencyKeys.length ≠ 1 ∨ q.body = none

theorem bearer_of_credential {current : RequestIdentity} {id}
    (h : idempotencyCredential current = some id) :
    ¬ (current.authenticationMethod ≠ .apiToken ∧
      current.authenticationMethod ≠ .agentDelegate) := by
  rintro ⟨hapi, hagent⟩
  unfold idempotencyCredential at h
  split at h <;> simp_all

/-- A request that shares a key is admitted with it, or refused because it is unusable or the server
is not set up. -/
theorem Middleware.Shares.admission (h : m.Shares k q) :
    (∃ requestHash, m.admission q = .admitted k requestHash) ∨
      m.admission q = .refused internalError ∨
      q.Unusable k ∧ (m.admission q = .refused keyRequired ∨ m.admission q = .refused invalidKey ∨
        m.admission q = .refused unreadableBody) := by
  obtain ⟨⟨current, hidentity, huser, hkind, hcredential⟩, hmutation, hmethod, hroute, hvalue⟩ := h
  obtain ⟨value, more, hkeys⟩ : ∃ value more, q.idempotencyKeys = value :: more := by
    cases hkeys : q.idempotencyKeys with
    | nil => simp [hkeys] at hvalue
    | cons value more => exact ⟨value, more, rfl⟩
  obtain rfl : value = k.value := by simpa [hkeys] using hvalue
  have hbearer : ¬ ((current.authenticationMethod ≠ .apiToken ∧
      current.authenticationMethod ≠ .agentDelegate) ∨ ¬ requiresIdempotency q.method) := by
    rw [hmutation, not_or]
    exact ⟨bearer_of_credential hcredential, by simp⟩
  simp only [Middleware.admission, hidentity, hcredential, hkeys, if_neg hbearer]
  split
  · exact .inr (.inl rfl)
  split
  case isTrue hempty =>
    exact .inr (.inr ⟨.inl (by rw [hempty]; rfl), .inl rfl⟩)
  split
  case isTrue hinvalid =>
    refine .inr (.inr ⟨?_, .inr (.inl rfl)⟩)
    rcases hinvalid with hmore | hinvalid
    · refine .inr (.inl ?_)
      rw [hkeys, length_cons]
      have := length_pos_iff.mpr hmore
      omega
    · exact .inl (by simpa using hinvalid)
  split
  · exact .inr (.inl rfl)
  split
  case h_1 hbody => exact .inr (.inr ⟨.inr (.inr hbody), .inr (.inr rfl)⟩)
  case h_2 body hbody =>
    refine .inl ⟨m.idempotencyFingerprint q (m.route q) body, ?_⟩
    rw [huser, hkind, hmethod, hroute]

/-- What is admitted shares its key, and has been read. -/
theorem Middleware.shares_of_admission (h : m.admission q = .admitted k requestHash) :
    m.Shares k q ∧ ∃ body, q.body = some body ∧
      requestHash = m.idempotencyFingerprint q k.routePattern body := by
  unfold Middleware.admission at h
  split at h
  · cases h
  case h_2 current hidentity =>
  split at h
  · cases h
  case isFalse hbearer =>
  rw [not_or, not_not] at hbearer
  split at h
  · cases h
  case h_2 credentialId hcredential =>
  split at h
  · cases h
  split at h
  · cases h
  case h_2 value more hkeys =>
  split at h
  · cases h
  split at h
  · cases h
  split at h
  · cases h
  split at h
  · cases h
  case h_2 body hbody =>
  obtain ⟨rfl, rfl⟩ := Admission.admitted.inj h
  exact ⟨⟨⟨current, hidentity, rfl, rfl, hcredential⟩, hbearer.2, rfl, rfl, by rw [hkeys]; rfl⟩,
    body, hbody, rfl⟩

end Admission

/-! ## Fingerprints -/

section Fingerprints

variable {m : Middleware} {k : Key} {p q : Request}

/-- The two requests ask for the same, but perhaps of different resources. -/
structure Request.SameContent (p q : Request) : Prop where
  query : ∀ key, QueryEncoding.values p.query key = QueryEncoding.values q.query key
  contentType : trimSpaceBytes p.contentType = trimSpaceBytes q.contentType
  body : p.body = q.body

theorem zero_not_mem_contentType (q : Request) : 0 ∉ trimSpaceBytes q.contentType :=
  fun h => q.contentType_zero (mem_of_mem_trimSpaceBytes h)

theorem Middleware.content_of_fingerprint (hsha : Function.Injective m.sha256)
    (hmethod : p.method = q.method) {route body body'}
    (h : m.idempotencyFingerprint p route body = m.idempotencyFingerprint q route body') :
    (∀ key, QueryEncoding.values p.query key = QueryEncoding.values q.query key) ∧
      trimSpaceBytes p.contentType = trimSpaceBytes q.contentType ∧ body = body' := by
  have htext := hsha h
  simp only [flatMap_cons, flatMap_nil, append_assoc, cons_append, nil_append, hmethod] at htext
  -- The method and the route are the same; the other fields are read one after the other.
  have hfields := append_cancel_left htext
  have hfields := append_cancel_left (cons.inj hfields).2
  obtain ⟨hquery, hfields⟩ := QueryEncoding.field_injective (QueryEncoding.zero_not_mem_encode _)
    (QueryEncoding.zero_not_mem_encode _) (cons.inj hfields).2
  obtain ⟨hcontentType, hbody⟩ := QueryEncoding.field_injective (zero_not_mem_contentType p)
    (zero_not_mem_contentType q) hfields
  exact ⟨QueryEncoding.values_eq_of_encode_eq hquery, hcontentType, hbody⟩

/-- Requests with the same key and the same hash ask for the same. -/
theorem Middleware.same_of_admission (hsha : Function.Injective m.sha256) {requestHash}
    (hp : m.admission p = .admitted k requestHash) (hq : m.admission q = .admitted k requestHash) :
    p.SameContent q := by
  obtain ⟨hshares, body, hbody, hhash⟩ := Middleware.shares_of_admission hp
  obtain ⟨hshares', body', hbody', hhash'⟩ := Middleware.shares_of_admission hq
  obtain ⟨hquery, hcontentType, heq⟩ := Middleware.content_of_fingerprint hsha
    (hshares.method.trans hshares'.method.symm) (hhash.symm.trans hhash')
  exact ⟨hquery, hcontentType, by rw [hbody, hbody', heq]⟩

end Fingerprints

end Pactline.Idempotency
