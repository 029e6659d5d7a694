import Mathlib.Data.List.Basic
import Mathlib.Tactic.Common

/-!
# Base64

The alphabet for URLs, without padding: three bytes are written as four characters of six bits each.
In reading, line ends are skipped.
-/

set_option autoImplicit false

namespace Base64

open List

variable {bytes ns : List Nat}

/-- The bits of bytes, by six. -/
def sextets : List Nat → List Nat
  | a :: b :: c :: rest =>
    [a / 4, a % 4 * 16 + b / 16, b % 16 * 4 + c / 64, c % 64] ++ sextets rest
  | [a, b] => [a / 4, a % 4 * 16 + b / 16, b % 16 * 4]
  | [a] => [a / 4, a % 4 * 16]
  | [] => []

/-- The bytes of such bits; those that are left over are dropped. -/
def ofSextets : List Nat → Option (List Nat)
  | w :: x :: y :: z :: rest =>
    (ofSextets rest).map ([w * 4 + x / 16, x % 16 * 16 + y / 4, y % 4 * 64 + z] ++ ·)
  | [w, x, y] => some [w * 4 + x / 16, x % 16 * 16 + y / 4]
  | [w, x] => some [w * 4 + x / 16]
  | [_] => none
  | [] => some []

theorem sextets_lt (h : ∀ b ∈ bytes, b < 256) : ∀ n ∈ sextets bytes, n < 64 := by
  fun_induction sextets bytes with
  | case1 a b c rest ih =>
    simp only [forall_mem_cons, cons_append, nil_append] at h ⊢
    exact ⟨by omega, by omega, by omega, by omega, ih h.2.2.2⟩
  | case2 | case3 =>
    simp only [forall_mem_cons, not_mem_nil, false_imp_iff, implies_true, and_true] at h ⊢
    omega
  | case4 => simp

theorem ofSextets_sextets (h : ∀ b ∈ bytes, b < 256) : ofSextets (sextets bytes) = some bytes := by
  fun_induction sextets bytes with
  | case1 a b c rest ih =>
    simp only [forall_mem_cons] at h
    simp only [cons_append, nil_append, ofSextets, ih h.2.2.2, Option.map_some, Option.some.injEq,
      cons.injEq, and_true]
    omega
  | case2 | case3 =>
    simp only [forall_mem_cons] at h
    simp only [ofSextets, Option.some.injEq, cons.injEq, and_true]
    omega
  | case4 => simp [ofSextets]

def alphabet : List Char :=
  "ABCDEFGHIJKLMNOPQRSTUVWXYZabcdefghijklmnopqrstuvwxyz0123456789-_".toList

def symbol (n : Nat) : Char := alphabet.getD n 'A'

def encode (bytes : List Nat) : List Char := (sextets bytes).map symbol

def decode (text : List Char) : Option (List Nat) := do
  ofSextets (← (text.filter (· ∉ ['\n', '\r'])).mapM alphabet.idxOf?)

/-- Each character stands for its six bits, and for no line end. -/
theorem symbol_spec : ∀ n < 64, alphabet.idxOf? (symbol n) = some n ∧ symbol n ∉ ['\n', '\r'] := by
  decide +kernel

theorem mapM_symbol (h : ∀ n ∈ ns, n < 64) :
    ((ns.map symbol).filter (· ∉ ['\n', '\r'])).mapM alphabet.idxOf? = some ns := by
  induction ns with
  | nil => rfl
  | cons n ns ih =>
    obtain ⟨hn, hns⟩ := forall_mem_cons.mp h
    obtain ⟨hread, hkept⟩ := symbol_spec n hn
    rw [map_cons, filter_cons_of_pos (by simpa using hkept), mapM_cons, hread, ih hns]
    rfl

theorem decode_encode (h : ∀ b ∈ bytes, b < 256) : decode (encode bytes) = some bytes := by
  unfold decode encode
  rw [mapM_symbol (sextets_lt h)]
  exact ofSextets_sextets h

theorem encode_ne_nil (h : bytes ≠ []) : encode bytes ≠ [] := by
  unfold encode
  fun_cases sextets bytes <;> simp_all

end Base64
