import Mathlib.Algebra.Ring.Nat
import Mathlib.Data.List.DropRight
import Mathlib.Tactic.Common

/-!
# Dates and times as texts

Days are counted from 1 January of the year 1 in the Gregorian calendar, and times in microseconds
from the start of that day in UTC. A date is written `2006-01-02` and a time
`2006-01-02T15:04:05.999999Z`, with as many digits of the fraction as it needs and no fraction if it
is zero. Reading a text gives back the day or the time it was written for (`readDate_dateText`,
`readTimestamp_timestampText`).
-/

set_option autoImplicit false

namespace IsoText

open List

variable {w n a b m micros : Nat} {c : Char} {cs rest : List Char}

/-! ## Numbers -/

def value (ds : List Char) : Nat := Nat.ofDigitChars 10 ds 0

/-- The digits of a number, at least `w` of them. -/
def padded (w n : Nat) : List Char :=
  replicate (w - (Nat.toDigits 10 n).length) '0' ++ Nat.toDigits 10 n

theorem value_padded (w n : Nat) : value (padded w n) = n := by
  unfold value padded
  rw [Nat.ofDigitChars_append, Nat.ofDigitChars_replicate_zero, Nat.mul_zero]
  exact Nat.ofDigitChars_ten_toDigits

theorem isDigit_of_mem_padded (h : c ∈ padded w n) : c.isDigit := by
  rcases mem_append.mp h with hzero | hdigit
  · rw [eq_of_mem_replicate hzero]
    rfl
  · exact Nat.isDigit_of_mem_toDigits (by omega) (by omega) hdigit

theorem padded_ne_nil (w n : Nat) : padded w n ≠ [] :=
  append_ne_nil_of_right_ne_nil _ Nat.toDigits_ne_nil

theorem length_padded (hw : 0 < w) (hn : n < 10 ^ w) : (padded w n).length = w := by
  have hle : (Nat.toDigits 10 n).length ≤ w :=
    (Nat.length_toDigits_le_iff (by omega) hw).mpr hn
  unfold padded
  rw [length_append, length_replicate]
  omega

/-- The text does not go on with a digit. -/
def Stops (cs : List Char) : Prop := ∀ c ∈ cs.head?, c.isDigit = false

theorem stops_nil : Stops [] := fun _ h => by cases h

theorem stops_cons (h : c.isDigit = false) : Stops (c :: cs) := by
  intro x hx
  cases hx
  exact h

theorem Stops.takeWhile_eq_nil (h : Stops cs) : cs.takeWhile Char.isDigit = [] := by
  cases cs with
  | nil => rfl
  | cons c cs => exact takeWhile_cons_of_neg (by rw [h c rfl]; exact Bool.false_ne_true)

theorem Stops.dropWhile_eq (h : Stops cs) : cs.dropWhile Char.isDigit = cs := by
  cases cs with
  | nil => rfl
  | cons c cs => exact dropWhile_cons_of_neg (by rw [h c rfl]; exact Bool.false_ne_true)

/-- The digits at the start of the text, and the rest of it. -/
def spanDigits (cs : List Char) : List Char × List Char :=
  (cs.takeWhile Char.isDigit, cs.dropWhile Char.isDigit)

theorem spanDigits_append {ds} (hds : ∀ c ∈ ds, c.isDigit) (hrest : Stops rest) :
    spanDigits (ds ++ rest) = (ds, rest) := by
  unfold spanDigits
  rw [takeWhile_append_of_pos hds, dropWhile_append_of_pos hds, hrest.takeWhile_eq_nil,
    hrest.dropWhile_eq, append_nil]

/-- A number, which has at least one digit. -/
def readNumber (cs : List Char) : Option (Nat × List Char) :=
  if (spanDigits cs).1 = [] then none
  else some (value (spanDigits cs).1, (spanDigits cs).2)

theorem readNumber_padded (w n : Nat) (hrest : Stops rest) :
    readNumber (padded w n ++ rest) = some (n, rest) := by
  unfold readNumber
  rw [spanDigits_append (fun _ => isDigit_of_mem_padded) hrest, if_neg (padded_ne_nil w n),
    value_padded]

def readChar (c : Char) : List Char → Option (List Char)
  | [] => none
  | x :: cs => if x = c then some cs else none

@[simp] theorem readChar_cons (c : Char) (cs : List Char) : readChar c (c :: cs) = some cs :=
  if_pos rfl

/-! ## The calendar -/

def isLeap (y : Nat) : Bool := y % 4 = 0 ∧ (y % 100 ≠ 0 ∨ y % 400 = 0)

def monthLengths (y : Nat) : List Nat :=
  [31, if isLeap y then 29 else 28, 31, 30, 31, 30, 31, 31, 30, 31, 30, 31]

theorem sum_monthLengths (y : Nat) : (monthLengths y).sum = if isLeap y then 366 else 365 := by
  unfold monthLengths
  split <;> rfl

/-- The days of the years from 1 on before the year `y`. -/
def daysBeforeYear (y : Nat) : Nat :=
  365 * (y - 1) + (y - 1) / 4 - (y - 1) / 100 + (y - 1) / 400

/-- The year of a day, by the cycles of 400, 100, 4 years and one year that lie before it. The last
century of four and the last year of four are a day longer than the others. -/
def yearOfDay (n : Nat) : Nat :=
  let centuries := min (n % 146097 / 36524) 3
  let inCentury := n % 146097 - 36524 * centuries
  let years := min (inCentury % 1461 / 365) 3
  400 * (n / 146097) + 100 * centuries + 4 * (inCentury / 1461) + years + 1

theorem daysBeforeYear_cycles {c e} (hb : b ≤ 3) (hc : c ≤ 24) (he : e ≤ 3) :
    daysBeforeYear (400 * a + 100 * b + 4 * c + e + 1) =
      146097 * a + 36524 * b + 1461 * c + 365 * e := by
  have h4 : (400 * a + 100 * b + 4 * c + e) / 4 = 100 * a + 25 * b + c := by omega
  have h100 : (400 * a + 100 * b + 4 * c + e) / 100 = 4 * a + b := by omega
  have h400 : (400 * a + 100 * b + 4 * c + e) / 400 = a := by omega
  unfold daysBeforeYear
  rw [Nat.add_sub_cancel, h4, h100, h400]
  omega

theorem isLeap_cycles {c} (hc : c ≤ 24) (h : c < 24 ∨ b = 3) :
    isLeap (400 * a + 100 * b + 4 * c + 3 + 1) = true := by
  unfold isLeap
  rw [decide_eq_true_eq]
  omega

/-- The century of a day in a cycle of 400 years. -/
theorem century_spec (hm : m < 146097) :
    36524 * min (m / 36524) 3 ≤ m ∧ m ≤ 36524 * min (m / 36524) 3 + 36524 ∧
      (min (m / 36524) 3 < 3 → m < 36524 * min (m / 36524) 3 + 36524) := by
  omega

/-- The year of a day in a cycle of four years. -/
theorem year_spec (hm : m < 1461) :
    365 * min (m / 365) 3 ≤ m ∧ m ≤ 365 * min (m / 365) 3 + 365 ∧
      (m = 365 * min (m / 365) 3 + 365 → min (m / 365) 3 = 3) := by
  omega

/-- A day lies in its year. -/
theorem yearOfDay_spec (n : Nat) :
    daysBeforeYear (yearOfDay n) ≤ n ∧
      n < daysBeforeYear (yearOfDay n) + (monthLengths (yearOfDay n)).sum := by
  unfold yearOfDay
  dsimp only
  have hcentury := century_spec (Nat.mod_lt n (by decide : 146097 > 0))
  have hb : min (n % 146097 / 36524) 3 ≤ 3 := Nat.min_le_right _ _
  have hn : 146097 * (n / 146097) + n % 146097 = n := Nat.div_add_mod n 146097
  generalize min (n % 146097 / 36524) 3 = b at *
  generalize n / 146097 = a at *
  have hr : n % 146097 = 36524 * b + (n % 146097 - 36524 * b) := by omega
  generalize n % 146097 - 36524 * b = r at *
  have hyear := year_spec (Nat.mod_lt r (by decide : 1461 > 0))
  have he : min (r % 1461 / 365) 3 ≤ 3 := Nat.min_le_right _ _
  have hc : 1461 * (r / 1461) + r % 1461 = r := Nat.div_add_mod r 1461
  generalize min (r % 1461 / 365) 3 = e at *
  generalize r / 1461 = c at *
  have hc24 : c ≤ 24 := by omega
  rw [daysBeforeYear_cycles hb hc24 he, sum_monthLengths]
  constructor
  · omega
  · by_cases hlast : r % 1461 = 365 * e + 365
    · -- The last day of a leap year.
      have he3 : e = 3 := hyear.2.2 hlast
      subst he3
      have hlong : c < 24 ∨ b = 3 := by omega
      rw [if_pos (isLeap_cycles hc24 hlong)]
      omega
    · split <;> omega

/-- The part in which a place lies, if parts of these lengths follow each other, and how far inside
the part. -/
def locate : List Nat → Nat → Nat × Nat
  | [], n => (0, n)
  | len :: lens, n =>
    if n < len then (0, n) else ((locate lens (n - len)).1 + 1, (locate lens (n - len)).2)

theorem sum_take_locate (lens : List Nat) (n : Nat) :
    (lens.take (locate lens n).1).sum + (locate lens n).2 = n := by
  induction lens generalizing n with
  | nil => simp [locate]
  | cons len lens ih =>
    unfold locate
    split
    · simp
    · have hrest := ih (n - len)
      rw [take_succ_cons, sum_cons]
      omega

theorem locate_lt {lens : List Nat} (h : n < lens.sum) :
    ∃ len, lens[(locate lens n).1]? = some len ∧ (locate lens n).2 < len := by
  induction lens generalizing n with
  | nil => cases h
  | cons len lens ih =>
    unfold locate
    split
    · exact ⟨len, rfl, by assumption⟩
    · rw [sum_cons] at h
      obtain ⟨len', hlen, hlt⟩ := ih (by omega : n - len < lens.sum)
      exact ⟨len', by simpa using hlen, hlt⟩

structure CivilDate where
  year : Nat
  month : Nat
  day : Nat
deriving DecidableEq, Repr

def civilOfDay (n : Nat) : CivilDate :=
  let place := locate (monthLengths (yearOfDay n)) (n - daysBeforeYear (yearOfDay n))
  ⟨yearOfDay n, place.1 + 1, place.2 + 1⟩

/-- The day of a date, if there is such a date. -/
def dayOfCivil (c : CivilDate) : Option Nat :=
  match (monthLengths c.year)[c.month - 1]? with
  | none => none
  | some len =>
    if 1 ≤ c.year ∧ 1 ≤ c.month ∧ 1 ≤ c.day ∧ c.day ≤ len then
      some (daysBeforeYear c.year + ((monthLengths c.year).take (c.month - 1)).sum + (c.day - 1))
    else none

theorem dayOfCivil_civilOfDay (n : Nat) : dayOfCivil (civilOfDay n) = some n := by
  obtain ⟨hle, hlt⟩ := yearOfDay_spec n
  have hpos : 1 ≤ yearOfDay n := Nat.le_add_left 1 _
  have hin : n - daysBeforeYear (yearOfDay n) < (monthLengths (yearOfDay n)).sum := by omega
  obtain ⟨len, hlen, hday⟩ := locate_lt hin
  have hsum := sum_take_locate (monthLengths (yearOfDay n)) (n - daysBeforeYear (yearOfDay n))
  unfold dayOfCivil civilOfDay
  dsimp only
  rw [Nat.add_sub_cancel, hlen]
  dsimp only
  rw [if_pos ⟨hpos, by omega, by omega, by omega⟩, Nat.add_sub_cancel]
  congr 1
  omega

/-! ## Dates -/

def dateText (n : Nat) : List Char :=
  padded 4 (civilOfDay n).year ++ '-' :: (padded 2 (civilOfDay n).month ++
    '-' :: padded 2 (civilOfDay n).day)

def readDate (cs : List Char) : Option (Nat × List Char) := do
  let (year, cs) ← readNumber cs
  let cs ← readChar '-' cs
  let (month, cs) ← readNumber cs
  let cs ← readChar '-' cs
  let (day, cs) ← readNumber cs
  let n ← dayOfCivil ⟨year, month, day⟩
  return (n, cs)

theorem readDate_dateText (n : Nat) (hrest : Stops rest) :
    readDate (dateText n ++ rest) = some (n, rest) := by
  have hdash : ∀ cs, Stops ('-' :: cs) := fun cs => stops_cons rfl
  unfold readDate dateText
  simp only [append_assoc, cons_append, readNumber_padded _ _ (hdash _),
    readNumber_padded _ _ hrest, readChar_cons, Option.bind_eq_bind, Option.bind_some]
  have hday : dayOfCivil ⟨(civilOfDay n).year, (civilOfDay n).month, (civilOfDay n).day⟩ = some n :=
    dayOfCivil_civilOfDay n
  rw [hday]
  rfl

/-! ## Times -/

/-- The fraction of a second, without the zeros at its end. -/
def fractionText (micros : Nat) : List Char :=
  if micros = 0 then [] else '.' :: (padded 6 micros).rdropWhile (· = '0')

/-- A fraction of at most six digits, or none. -/
def readFraction (cs : List Char) : Option (Nat × List Char) :=
  if cs.head? = some '.' then
    let digits := (spanDigits cs.tail).1
    if digits = [] ∨ 6 < digits.length then none
    else some (value (digits ++ replicate (6 - digits.length) '0'), (spanDigits cs.tail).2)
  else some (0, cs)

/-- The zeros that are left out can be put back. -/
theorem rdropWhile_append_zeros (ds : List Char) :
    ds.rdropWhile (· = '0') ++ replicate (ds.length - (ds.rdropWhile (· = '0')).length) '0' =
      ds := by
  induction ds using reverseRecOn with
  | nil => rfl
  | append_singleton ds c ih =>
    by_cases hc : c = '0'
    · subst hc
      rw [rdropWhile_concat_pos _ _ _ (by simp)]
      have hle : (ds.rdropWhile (· = '0')).length ≤ ds.length :=
        ( rdropWhile_prefix _ _).length_le
      have hlength : (ds ++ ['0']).length - (ds.rdropWhile (· = '0')).length =
          ds.length - (ds.rdropWhile (· = '0')).length + 1 := by
        rw [length_append, length_singleton]
        omega
      rw [hlength, replicate_succ', ← append_assoc, ih]
    · rw [rdropWhile_concat_neg _ _ _ (by simpa using hc)]
      simp

theorem readFraction_fractionText (h : micros < 1000000) (hrest : Stops rest)
    (hdot : rest.head? ≠ some '.') :
    readFraction (fractionText micros ++ rest) = some (micros, rest) := by
  unfold fractionText
  split
  · rename_i hzero
    subst hzero
    rw [nil_append]
    exact if_neg hdot
  · rename_i hpos
    have hzeros := rdropWhile_append_zeros (padded 6 micros)
    rw [length_padded (by omega) h] at hzeros
    have hlength : ((padded 6 micros).rdropWhile (· = '0')).length ≤ 6 := by
      have hle := ( rdropWhile_prefix (fun c => decide (c = '0')) (padded 6 micros)).length_le
      rwa [length_padded (by omega) h] at hle
    have hne : (padded 6 micros).rdropWhile (· = '0') ≠ [] := by
      intro hnil
      -- Only zero is written with zeros alone.
      rw [hnil] at hzeros
      have hvalue := value_padded 6 micros
      rw [← hzeros] at hvalue
      exact hpos hvalue.symm
    have hdigits : ∀ c ∈ (padded 6 micros).rdropWhile (· = '0'), c.isDigit := fun c hc =>
      isDigit_of_mem_padded (( rdropWhile_prefix _ _).subset hc)
    rw [cons_append]
    unfold readFraction
    rw [if_pos head?_cons, tail_cons, spanDigits_append hdigits hrest]
    dsimp only
    rw [if_neg (not_or.mpr ⟨hne, by omega⟩), hzeros, value_padded]

def microsPerDay : Nat := 86400000000

/-- The time of day, in microseconds. -/
def clockText (micros : Nat) : List Char :=
  padded 2 (micros / 3600000000) ++ ':' :: (padded 2 (micros / 60000000 % 60) ++
    ':' :: (padded 2 (micros / 1000000 % 60) ++ fractionText (micros % 1000000)))

def readClock (cs : List Char) : Option (Nat × List Char) := do
  let (hour, cs) ← readNumber cs
  let cs ← readChar ':' cs
  let (minute, cs) ← readNumber cs
  let cs ← readChar ':' cs
  let (second, cs) ← readNumber cs
  let (micros, cs) ← readFraction cs
  if hour < 24 ∧ minute < 60 ∧ second < 60 then
    return (3600000000 * hour + 60000000 * minute + 1000000 * second + micros, cs)
  else none

theorem stops_fractionText (hrest : Stops rest) : Stops (fractionText micros ++ rest) := by
  unfold fractionText
  split
  · exact hrest
  · exact stops_cons rfl

theorem readClock_clockText (h : micros < microsPerDay) (hrest : Stops rest)
    (hdot : rest.head? ≠ some '.') :
    readClock (clockText micros ++ rest) = some (micros, rest) := by
  have hcolon : ∀ cs, Stops (':' :: cs) := fun cs => stops_cons rfl
  have hmicros : micros % 1000000 < 1000000 := Nat.mod_lt _ (by omega)
  unfold readClock clockText
  simp only [append_assoc, cons_append, readNumber_padded _ _ (hcolon _),
    readNumber_padded _ _ (stops_fractionText hrest), readChar_cons, Option.bind_eq_bind,
    Option.bind_some, readFraction_fractionText hmicros hrest hdot]
  unfold microsPerDay at h
  rw [if_pos ⟨by omega, by omega, by omega⟩]
  have hsum : 3600000000 * (micros / 3600000000) + 60000000 * (micros / 60000000 % 60) +
      1000000 * (micros / 1000000 % 60) + micros % 1000000 = micros := by omega
  rw [hsum]
  rfl

def timestampText (t : Nat) : List Char :=
  dateText (t / microsPerDay) ++ 'T' :: (clockText (t % microsPerDay) ++ ['Z'])

def readTimestamp (cs : List Char) : Option (Nat × List Char) := do
  let (day, cs) ← readDate cs
  let cs ← readChar 'T' cs
  let (micros, cs) ← readClock cs
  let cs ← readChar 'Z' cs
  return (microsPerDay * day + micros, cs)

theorem readTimestamp_timestampText (t : Nat) : readTimestamp (timestampText t) = some (t, []) := by
  have hT : ∀ cs, Stops ('T' :: cs) := fun cs => stops_cons rfl
  have hZ : Stops ['Z'] := stops_cons rfl
  have hday : t % microsPerDay < microsPerDay := Nat.mod_lt _ (by decide)
  have hclock : readClock (clockText (t % microsPerDay) ++ ['Z']) =
      some (t % microsPerDay, ['Z']) := readClock_clockText hday hZ (by decide)
  unfold readTimestamp timestampText
  simp only [readDate_dateText _ (hT _), readChar_cons, Option.bind_eq_bind, Option.bind_some,
    hclock, Nat.div_add_mod]
  rfl

end IsoText
