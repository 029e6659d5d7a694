import Mathlib.Data.List.Dedup
import Mathlib.Data.List.Sort

/-!
# Query strings

The form encoding of a query: the keys in order, for each key its values as `key=value`, all joined
by `&`, where every byte other than a letter, a digit and `-_.~` is escaped. An encoded query says
for every key which values it has, and in which order (`values_eq_of_encode_eq`): escaping can be
undone (`unescape_escape`), and it leaves no separator in what it escapes.
-/

set_option autoImplicit false

namespace QueryEncoding

open List

variable {s : List UInt8} {x : UInt8} {ls : List (List UInt8)}

/-! ## Escaping -/

/-- The bytes that stand for themselves. -/
def unreserved (b : UInt8) : Bool :=
  (0x30 ≤ b && b ≤ 0x39) || (0x41 ≤ b && b ≤ 0x5A) || (0x61 ≤ b && b ≤ 0x7A) ||
    b = 0x2D || b = 0x2E || b = 0x5F || b = 0x7E

def hexDigit (n : Nat) : UInt8 := if n < 10 then UInt8.ofNat (0x30 + n) else UInt8.ofNat (0x37 + n)

def fromHex (b : UInt8) : Nat := if b ≤ 0x39 then b.toNat - 0x30 else b.toNat - 0x37

/-- A space becomes a plus sign. -/
def escapeByte (b : UInt8) : List UInt8 :=
  if unreserved b then [b]
  else if b = 0x20 then [0x2B]
  else [0x25, hexDigit (b.toNat / 16), hexDigit (b.toNat % 16)]

def escape (s : List UInt8) : List UInt8 := s.flatMap escapeByte

def unescape : List UInt8 → List UInt8
  | 0x25 :: hi :: lo :: rest => UInt8.ofNat (16 * fromHex hi + fromHex lo) :: unescape rest
  | b :: rest => (if b = 0x2B then 0x20 else b) :: unescape rest
  | [] => []

theorem fromHex_hexDigit : ∀ n < 16, fromHex (hexDigit n) = n := by decide

theorem unreserved_hexDigit : ∀ n < 16, unreserved (hexDigit n) = true := by decide

theorem unescape_cons {b} (hb : b ≠ 0x25) (rest : List UInt8) :
    unescape (b :: rest) = (if b = 0x2B then 0x20 else b) :: unescape rest := by
  rw [unescape]
  rintro hi lo rest' rfl
  exact absurd rfl hb

theorem unescape_escapeByte (b : UInt8) (rest : List UInt8) :
    unescape (escapeByte b ++ rest) = b :: unescape rest := by
  unfold escapeByte
  split
  case isTrue h =>
    have hpercent : b ≠ 0x25 := by
      rintro rfl
      exact absurd h (by decide)
    have hplus : b ≠ 0x2B := by
      rintro rfl
      exact absurd h (by decide)
    rw [singleton_append, unescape_cons hpercent, if_neg hplus]
  case isFalse h =>
    split
    case isTrue hspace =>
      subst hspace
      rw [singleton_append, unescape_cons (by decide), if_pos rfl]
    case isFalse =>
      have hlt : b.toNat < 256 := b.toNat_lt
      rw [cons_append, cons_append, cons_append, nil_append, unescape,
        fromHex_hexDigit _ (by omega), fromHex_hexDigit _ (by omega), Nat.div_add_mod,
        UInt8.ofNat_toNat]

theorem unescape_escape (s : List UInt8) : unescape (escape s) = s := by
  induction s with
  | nil => rfl
  | cons b s ih =>
    rw [escape, flatMap_cons, unescape_escapeByte]
    exact congrArg (b :: ·) ih

theorem escape_injective : Function.Injective escape :=
  Function.LeftInverse.injective unescape_escape

/-- What escaping leaves: unreserved bytes, plus signs and percent signs. -/
theorem mem_escape (h : x ∈ escape s) : unreserved x = true ∨ x = 0x2B ∨ x = 0x25 := by
  obtain ⟨b, -, hx⟩ := mem_flatMap.mp h
  have hlt : b.toNat < 256 := b.toNat_lt
  unfold escapeByte at hx
  split at hx
  case isTrue hb =>
    rw [mem_singleton.mp hx]
    exact .inl hb
  case isFalse =>
    split at hx
    case isTrue => exact .inr (.inl (mem_singleton.mp hx))
    case isFalse =>
      simp only [mem_cons, not_mem_nil, or_false] at hx
      rcases hx with rfl | rfl | rfl
      · exact .inr (.inr rfl)
      · exact .inl (unreserved_hexDigit _ (by omega))
      · exact .inl (unreserved_hexDigit _ (by omega))

/-- Neither a separator nor a zero byte is left. -/
theorem not_mem_escape (hx : x = 0x26 ∨ x = 0x3D ∨ x = 0) (s : List UInt8) : x ∉ escape s := by
  intro h
  rcases hx with rfl | rfl | rfl <;> exact absurd (mem_escape h) (by decide)

/-! ## Queries -/

/-- The parameters of a query, in the order in which they stand. -/
abbrev Query := List (List UInt8 × List UInt8)

/-- The values of a key. -/
def values (q : Query) (key : List UInt8) : List (List UInt8) :=
  (q.filter fun p => p.1 = key).map (·.2)

/-- The keys, each once and in order. -/
def keys (q : Query) : List (List UInt8) := (q.map (·.1)).dedup.insertionSort (· ≤ ·)

/-- The parameters in the order of their keys. -/
def sorted (q : Query) : Query := (keys q).flatMap fun key => (values q key).map fun v => (key, v)

def parameter (p : List UInt8 × List UInt8) : List UInt8 := escape p.1 ++ 0x3D :: escape p.2

def encode (q : Query) : List UInt8 := [0x26].intercalate ((sorted q).map parameter)

theorem nodup_keys (q : Query) : (keys q).Nodup :=
  (perm_insertionSort _ _).nodup_iff.mpr (nodup_dedup _)

theorem mem_keys {q key} : key ∈ keys q ↔ ∃ p ∈ q, p.1 = key := by
  rw [keys, (perm_insertionSort _ _).mem_iff, mem_dedup, mem_map]

theorem parameter_injective : Function.Injective parameter := by
  rintro ⟨k, v⟩ ⟨k', v'⟩ h
  obtain ⟨hk, -, hv⟩ := (append_cons_inj_of_notMem (not_mem_escape (by simp) k)
    (not_mem_escape (by simp) v)).mp h
  rw [escape_injective hk, escape_injective hv]

theorem not_mem_parameter (hx : x = 0x26 ∨ x = 0) (p : List UInt8 × List UInt8) :
    x ∉ parameter p := by
  have hseparator : x = 0x26 ∨ x = 0x3D ∨ x = 0 := hx.imp_right .inr
  intro h
  rcases mem_append.mp h with hk | hrest
  · exact not_mem_escape hseparator p.1 hk
  · rcases mem_cons.mp hrest with rfl | hv
    · exact absurd hx (by decide)
    · exact not_mem_escape hseparator p.2 hv

/-- Joined pieces without the separator can be taken apart, unless there are none: and then the
joined text is empty, which a piece is not. -/
theorem intercalate_injective {ls'} (hls : ∀ l ∈ ls, x ∉ l)
    (hls' : ∀ l ∈ ls', x ∉ l) (hne : ∀ l ∈ ls, l ≠ []) (hne' : ∀ l ∈ ls', l ≠ [])
    (h : [x].intercalate ls = [x].intercalate ls') : ls = ls' := by
  have hnil : ∀ ls : List (List UInt8), (∀ l ∈ ls, l ≠ []) → [x].intercalate ls = [] → ls = [] := by
    intro ls hne hempty
    cases ls with
    | nil => rfl
    | cons l ls =>
      refine absurd ?_ (hne l mem_cons_self)
      cases ls with
      | nil => simpa [intercalate] using hempty
      | cons l' ls =>
        simp only [intercalate, intersperse, flatten_cons, append_eq_nil_iff] at hempty
        exact hempty.1
  by_cases hempty : ls = []
  · subst hempty
    exact (hnil ls' hne' h.symm).symm
  by_cases hempty' : ls' = []
  · subst hempty'
    exact hnil ls hne h
  · rw [← splitOn_intercalate x hls hempty, h, splitOn_intercalate x hls' hempty']

theorem sorted_eq_of_encode_eq {q q'} (h : encode q = encode q') : sorted q = sorted q' := by
  have hne : ∀ p, parameter p ≠ [] := fun p => by simp [parameter]
  refine map_injective_iff.mpr parameter_injective
    (intercalate_injective ?_ ?_ ?_ ?_ h) <;>
  · intro l hl
    obtain ⟨p, -, rfl⟩ := mem_map.mp hl
    first | exact not_mem_parameter (.inl rfl) p | exact hne p

/-- Of several blocks, one for each element of a list without repetitions, the block of `a`. -/
theorem flatMap_ite_of_nodup {α β : Type} [DecidableEq α] {l : List α} (hl : l.Nodup) (a : α)
    (f : α → List β) :
    (l.flatMap fun x => if x = a then f x else []) = if a ∈ l then f a else [] := by
  induction l with
  | nil => rfl
  | cons x l ih =>
    rw [nodup_cons] at hl
    rw [flatMap_cons, ih hl.2]
    by_cases hx : x = a
    · subst hx
      rw [if_pos rfl, if_neg hl.1, if_pos mem_cons_self, append_nil]
    · rw [if_neg hx, nil_append]
      simp only [mem_cons, Ne.symm hx, false_or]

/-- Sorting leaves every key its values. -/
theorem values_sorted (q : Query) (key : List UInt8) : values (sorted q) key = values q key := by
  have hblock : ∀ k, ((values q k).map fun v => (k, v)).filter (fun p => p.1 = key) =
      if k = key then (values q k).map fun v => (k, v) else [] := by
    intro k
    split
    case isTrue hk =>
      rw [filter_eq_self]
      intro p hp
      obtain ⟨v, -, rfl⟩ := mem_map.mp hp
      simpa using hk
    case isFalse hk =>
      rw [filter_eq_nil_iff]
      intro p hp
      obtain ⟨v, -, rfl⟩ := mem_map.mp hp
      simpa using hk
  rw [values, sorted, filter_flatMap]
  simp only [hblock]
  rw [flatMap_ite_of_nodup (nodup_keys q)]
  split
  case isTrue =>
    rw [map_map]
    exact map_id _
  case isFalse hkey =>
    -- A key that does not occur has no values.
    symm
    rw [values, map_eq_nil_iff.mpr rfl, map_eq_nil_iff, filter_eq_nil_iff]
    intro p hp
    simpa using fun heq => hkey (mem_keys.mpr ⟨p, hp, heq⟩)

/-- **An encoded query says what its parameters are.** -/
theorem values_eq_of_encode_eq {q q'} (h : encode q = encode q') (key : List UInt8) :
    values q key = values q' key := by
  rw [← values_sorted q, sorted_eq_of_encode_eq h, values_sorted]

theorem mem_intercalate {y} (h : y ∈ [x].intercalate ls) : y = x ∨ ∃ l ∈ ls, y ∈ l := by
  induction ls with
  | nil => cases h
  | cons l ls ih =>
    cases ls with
    | nil => exact .inr ⟨l, mem_cons_self, by simpa [intercalate] using h⟩
    | cons l' ls =>
      rcases mem_append.mp (h : y ∈ l ++ ([x] ++ [x].intercalate (l' :: ls))) with hl | hrest
      · exact .inr ⟨l, mem_cons_self, hl⟩
      · rcases mem_cons.mp hrest with heq | hrest
        · exact .inl heq
        · refine (ih hrest).imp_right fun ⟨piece, hpiece, hy⟩ => ?_
          exact ⟨piece, mem_cons_of_mem l hpiece, hy⟩

/-- A zero byte never occurs in an encoded query. -/
theorem zero_not_mem_encode (q : Query) : 0 ∉ encode q := by
  intro h
  rcases mem_intercalate h with heq | ⟨l, hl, hzero⟩
  · exact absurd heq (by decide)
  · obtain ⟨p, -, rfl⟩ := mem_map.mp hl
    exact not_mem_parameter (.inr rfl) p hzero

/-! ## Fields -/

/-- A field that is ended by a byte which does not occur in it. -/
theorem field_injective {s' rest rest'} (hs : x ∉ s) (hs' : x ∉ s')
    (h : s ++ x :: rest = s' ++ x :: rest') : s = s' ∧ rest = rest' := by
  induction s generalizing s' with
  | nil =>
    cases s' with
    | nil => exact ⟨rfl, (cons.inj h).2⟩
    | cons b s' => exact absurd (cons.inj h).1 fun heq => hs' (heq ▸ mem_cons_self)
  | cons b s ih =>
    cases s' with
    | nil => exact absurd (cons.inj h).1.symm fun heq => hs (heq ▸ mem_cons_self)
    | cons b' s' =>
      obtain ⟨hb, h⟩ := cons.inj h
      obtain ⟨htail, hrest⟩ := ih (fun hmem => hs (mem_cons_of_mem b hmem))
        (fun hmem => hs' (mem_cons_of_mem b' hmem)) h
      exact ⟨by rw [hb, htail], hrest⟩

end QueryEncoding
