import CaseResolution.Lib.Numerals
import CaseResolution.Lib.Unicode

/-!
This module contains timestamps of the civil calendar: dates with the day before and the day after, times
of day with an offset from UTC, their conversion to UTC and how times in UTC are written.
-/

open Unicode

def isLeap (year : Nat) : Bool :=
  year % 4 = 0 ∧ (year % 100 ≠ 0 ∨ year % 400 = 0)

def daysInMonth (year month : Nat) : Nat :=
  match month with
  | 2 => if isLeap year then 29 else 28
  | 4 | 6 | 9 | 11 => 30
  | _ => 31

/--
A day of the years 1 to 9999.
-/
structure CivilDate where
  year : Nat
  month : Nat
  day : Nat
  year_range : 1 ≤ year ∧ year ≤ 9999
  month_range : 1 ≤ month ∧ month ≤ 12
  day_range : 1 ≤ day ∧ day ≤ daysInMonth year month
deriving DecidableEq

namespace CivilDate

def of? (year month day : Nat) : Option CivilDate :=
  if h : (1 ≤ year ∧ year ≤ 9999) ∧ (1 ≤ month ∧ month ≤ 12)
      ∧ (1 ≤ day ∧ day ≤ daysInMonth year month) then
    some { year, month, day, year_range := h.1, month_range := h.2.1, day_range := h.2.2 }
  else
    none

theorem of?_self (d : CivilDate) : of? d.year d.month d.day = some d := by
  unfold of?
  rw [dif_pos ⟨d.year_range, d.month_range, d.day_range⟩]

theorem one_le_daysInMonth (year month : Nat) : 28 ≤ daysInMonth year month := by
  unfold daysInMonth
  split
  . split
    . decide
    . decide
  . decide
  . decide
  . decide
  . decide
  . decide

/--
The day after, unless it is the last one of the calendar.
-/
def next (d : CivilDate) : Option CivilDate :=
  if d.day < daysInMonth d.year d.month then of? d.year d.month (d.day + 1)
  else if d.month < 12 then of? d.year (d.month + 1) 1
  else of? (d.year + 1) 1 1

/--
The day before, unless it is the first one of the calendar.
-/
def prev (d : CivilDate) : Option CivilDate :=
  if 1 < d.day then of? d.year d.month (d.day - 1)
  else if 1 < d.month then of? d.year (d.month - 1) (daysInMonth d.year (d.month - 1))
  else of? (d.year - 1) 12 31

theorem of?_eq_none {year month day : Nat}
    : of? year month day = none
      ↔ ¬ ((1 ≤ year ∧ year ≤ 9999) ∧ (1 ≤ month ∧ month ≤ 12)
        ∧ (1 ≤ day ∧ day ≤ daysInMonth year month)) := by
  unfold of?
  split
  . next h => simp [h]
  . next h => simp [h]

theorem next_eq_none {d : CivilDate}
    : d.next = none ↔ d.year = 9999 ∧ d.month = 12 ∧ d.day = 31 := by
  have hyear := d.year_range
  have hmonth := d.month_range
  have hday := d.day_range
  have hlen := one_le_daysInMonth d.year (d.month + 1)
  have hjanuary : daysInMonth (d.year + 1) 1 = 31 := rfl
  unfold next
  split
  . next h =>
    rw [of?_eq_none]
    constructor
    . intro hnone
      omega
    . rintro ⟨_, hm, hd⟩
      rw [hm, hd] at h
      have hdays : daysInMonth d.year 12 = 31 := rfl
      omega
  . next h =>
    split
    . next hm =>
      rw [of?_eq_none]
      omega
    . next hm =>
      have hm : d.month = 12 := by omega
      have hdays : daysInMonth d.year d.month = 31 := by rw [hm]; rfl
      rw [of?_eq_none]
      omega

theorem prev_eq_none {d : CivilDate}
    : d.prev = none ↔ d.year = 1 ∧ d.month = 1 ∧ d.day = 1 := by
  have hyear := d.year_range
  have hmonth := d.month_range
  have hday := d.day_range
  have hlen := one_le_daysInMonth d.year (d.month - 1)
  have hdecember : daysInMonth (d.year - 1) 12 = 31 := rfl
  unfold prev
  split
  . next h =>
    rw [of?_eq_none]
    omega
  . next h =>
    split
    . next hm =>
      rw [of?_eq_none]
      omega
    . next hm =>
      rw [of?_eq_none]
      omega

end CivilDate

/--
The microseconds of a day.
-/
def ticksPerDay : Nat :=
  86400000000

/--
A date with the microseconds since its midnight.
-/
structure CivilTime where
  date : CivilDate
  ticks : Nat
  ticks_lt : ticks < ticksPerDay
deriving DecidableEq

def CivilTime.of? (date : CivilDate) (ticks : Nat) : Option CivilTime :=
  if ticks_lt : ticks < ticksPerDay then some { date, ticks, ticks_lt } else none

theorem CivilTime.of?_self (t : CivilTime) : CivilTime.of? t.date t.ticks = some t :=
  dif_pos t.ticks_lt

namespace CivilTime

/--
Where a time stands in the calendar.
-/
def position (t : CivilTime) : Nat ×ₗ Nat ×ₗ Nat ×ₗ Nat :=
  toLex (t.date.year, toLex (t.date.month, toLex (t.date.day, t.ticks)))

theorem position_injective : Function.Injective position := by
  rintro ⟨⟨year, month, day, _, _, _⟩, ticks, _⟩ ⟨⟨year', month', day', _, _, _⟩, ticks', _⟩ h
  simp only [position, EmbeddingLike.apply_eq_iff_eq, Prod.mk.injEq] at h
  obtain ⟨rfl, rfl, rfl, rfl⟩ := h
  rfl

instance : LinearOrder CivilTime :=
  LinearOrder.lift' position position_injective

end CivilTime

/--
The microseconds by which a local time is ahead of UTC: less than a day.
-/
structure UtcOffset where
  ticks : Int
  ticks_gt : -ticksPerDay < ticks
  ticks_lt : ticks < ticksPerDay
deriving DecidableEq

def UtcOffset.zero : UtcOffset where
  ticks := 0
  ticks_gt := by decide
  ticks_lt := by decide

/--
A local time, with its offset from UTC unless it is naive.
-/
structure Timestamp where
  time : CivilTime
  offset : Option UtcOffset
deriving DecidableEq

namespace CivilTime

/--
The time in UTC of a local time. Not all of them lie within the calendar.
-/
def toUtc (t : CivilTime) (offset : UtcOffset) : Option CivilTime :=
  let ticks := (t.ticks : Int) - offset.ticks
  if h : ticks < 0 then
    t.date.prev.map fun date =>
      { date
        ticks := (ticks + ticksPerDay).toNat
        ticks_lt := by have := offset.ticks_lt; omega }
  else if h' : ticks < ticksPerDay then
    some { date := t.date, ticks := ticks.toNat, ticks_lt := by omega }
  else
    t.date.next.map fun date =>
      { date
        ticks := (ticks - ticksPerDay).toNat
        ticks_lt := by have := offset.ticks_gt; have := t.ticks_lt; omega }

/--
The time lies within the calendar where it is local but not in UTC: on the first day it is earlier than its
offset, or on the last day it reaches midnight.
-/
def OutOfRange (t : CivilTime) (offset : UtcOffset) : Prop :=
  (t.date.year = 1 ∧ t.date.month = 1 ∧ t.date.day = 1 ∧ (t.ticks : Int) < offset.ticks)
    ∨ (t.date.year = 9999 ∧ t.date.month = 12 ∧ t.date.day = 31
      ∧ offset.ticks + ticksPerDay ≤ t.ticks)

theorem toUtc_eq_none {t : CivilTime} {offset : UtcOffset}
    : t.toUtc offset = none ↔ t.OutOfRange offset := by
  have hgt := offset.ticks_gt
  have hlt := offset.ticks_lt
  unfold toUtc OutOfRange
  dsimp only
  split
  . next h =>
    rw [Option.map_eq_none_iff, CivilDate.prev_eq_none]
    omega
  . next h =>
    split
    . next h' =>
      simp only [reduceCtorEq, false_iff]
      omega
    . next h' =>
      rw [Option.map_eq_none_iff, CivilDate.next_eq_none]
      omega

theorem toUtc_zero (t : CivilTime) : t.toUtc UtcOffset.zero = some t := by
  have hlt := t.ticks_lt
  have hzero : UtcOffset.zero.ticks = 0 := rfl
  unfold toUtc
  dsimp only
  rw [dif_neg (by omega), dif_pos (by omega)]
  simp [hzero]

end CivilTime

/--
A number in decimal digits of a fixed width.
-/
def decimal (width n : Nat) : Codes :=
  (Numerals.digits 10 width n).map fun digit => '0'.toNat + digit

/--
`datetime.isoformat` of a time in UTC. The fraction of a second is only written where it is not zero.
-/
def CivilTime.isoformat (t : CivilTime) : Codes :=
  decimal 4 t.date.year ++ ['-'.toNat] ++ decimal 2 t.date.month ++ ['-'.toNat] ++ decimal 2 t.date.day
    ++ ['T'.toNat] ++ decimal 2 (t.ticks / 3600000000) ++ [':'.toNat]
    ++ decimal 2 (t.ticks / 60000000 % 60) ++ [':'.toNat] ++ decimal 2 (t.ticks / 1000000 % 60)
    ++ (if t.ticks % 1000000 = 0 then [] else ['.'.toNat] ++ decimal 6 (t.ticks % 1000000))
    ++ codes "+00:00"

/--
The texts `datetime.fromisoformat` takes: it is the inverse of `isoformat`, and takes further texts.
-/
class IsoFormat where
  fromisoformat : Codes → Option Timestamp
  fromisoformat_isoformat : ∀ t : CivilTime,
    fromisoformat t.isoformat = some { time := t, offset := some UtcOffset.zero }

/--
The number that decimal digits stand for.
-/
def ofDecimal (text : Codes) : Option Nat :=
  if text.all fun c => '0'.toNat ≤ c ∧ c ≤ '9'.toNat then
    some (Numerals.value 10 (text.map fun c => c - '0'.toNat))
  else
    none

theorem ofDecimal_decimal {width n : Nat} (h : n < 10 ^ width)
    : ofDecimal (decimal width n) = some n := by
  have hdigit : ∀ d ∈ Numerals.digits 10 width n, d < 10 :=
    fun d hd => Numerals.lt_of_mem_digits (by decide) hd
  have hzero : '0'.toNat = 48 := rfl
  have hnine : '9'.toNat = 57 := rfl
  have hall : (decimal width n).all (fun c => '0'.toNat ≤ c ∧ c ≤ '9'.toNat) = true := by
    rw [List.all_eq_true]
    intro c hc
    obtain ⟨d, hd, rfl⟩ := List.mem_map.mp hc
    have := hdigit d hd
    rw [decide_eq_true_eq, hzero, hnine]
    omega
  have hmap : (decimal width n).map (fun c => c - '0'.toNat) = Numerals.digits 10 width n := by
    unfold decimal
    rw [List.map_map]
    apply List.map_id''
    intro d
    exact Nat.add_sub_cancel_left '0'.toNat d
  unfold ofDecimal
  rw [if_pos hall, hmap, Numerals.value_digits h]

namespace ExtendedFormat

/--
A number of a fixed width and what follows it.
-/
def number (width : Nat) (text : Codes) : Option (Nat × Codes) :=
  if width ≤ text.length then
    (ofDecimal (text.take width)).map fun n => (n, text.drop width)
  else
    none

/--
An offset of hours and minutes, or none.
-/
def zone (text : Codes) : Option (Option UtcOffset) :=
  match text with
  | [] => some none
  | sign :: rest => do
    let (hours, rest) ← number 2 rest
    let (minutes, rest) ← number 2 (rest.drop 1)
    let ticks : Int := (hours * 60 + minutes) * 60000000
    let ticks := if sign = '-'.toNat then -ticks else ticks
    if h : rest = [] ∧ -(ticksPerDay : Int) < ticks ∧ ticks < ticksPerDay then
      some (some { ticks, ticks_gt := h.2.1, ticks_lt := h.2.2 })
    else
      none

/--
The fraction of a second, if there is one.
-/
def fraction (text : Codes) : Option (Nat × Codes) :=
  if text.head? = some '.'.toNat then number 6 (text.drop 1) else some (0, text)

/--
The extended format with all its parts.
-/
def parse (text : Codes) : Option Timestamp := do
  let (year, rest) ← number 4 text
  let (month, rest) ← number 2 (rest.drop 1)
  let (day, rest) ← number 2 (rest.drop 1)
  let (hours, rest) ← number 2 (rest.drop 1)
  let (minutes, rest) ← number 2 (rest.drop 1)
  let (seconds, rest) ← number 2 (rest.drop 1)
  let (micros, rest) ← fraction rest
  let offset ← zone rest
  let date ← CivilDate.of? year month day
  let time ← CivilTime.of? date (((hours * 60 + minutes) * 60 + seconds) * 1000000 + micros)
  some { time, offset }

theorem length_decimal {width n : Nat} : (decimal width n).length = width := by
  unfold decimal
  rw [List.length_map, Numerals.length_digits]

theorem number_decimal {width n : Nat} {rest : Codes} (h : n < 10 ^ width)
    : number width (decimal width n ++ rest) = some (n, rest) := by
  have hlength : (decimal width n).length = width := length_decimal
  unfold number
  rw [if_pos (by rw [List.length_append]; omega), List.take_left' hlength, List.drop_left' hlength,
    ofDecimal_decimal h]
  rfl

theorem fraction_decimal (ticks : Nat) (h : ticks < 1000000)
    : fraction ((if ticks = 0 then [] else ['.'.toNat] ++ decimal 6 ticks) ++ codes "+00:00")
      = some (ticks, codes "+00:00") := by
  split
  . next hzero =>
    rw [hzero]
    rfl
  . unfold fraction
    rw [List.append_assoc, List.singleton_append, List.head?_cons, if_pos rfl, List.drop_one,
      List.tail_cons]
    exact number_decimal (by omega)

theorem parse_isoformat (t : CivilTime)
    : parse t.isoformat = some { time := t, offset := some UtcOffset.zero } := by
  have hticks := t.ticks_lt
  have hday : ticksPerDay = 86400000000 := rfl
  have hyear := t.date.year_range
  have hmonth := t.date.month_range
  have hdays : t.date.day ≤ 31 := by
    have hrange := t.date.day_range.2
    unfold daysInMonth at hrange
    split at hrange
    . split at hrange
      . omega
      . omega
    all_goals omega
  have hzone : zone (codes "+00:00") = some (some UtcOffset.zero) := rfl
  have hsum : ((t.ticks / 3600000000 * 60 + t.ticks / 60000000 % 60) * 60 + t.ticks / 1000000 % 60)
      * 1000000 + t.ticks % 1000000 = t.ticks := by
    omega
  have hskip : ∀ (c : Nat) (rest : Codes), ([c] ++ rest).drop 1 = rest := fun _ _ => rfl
  unfold parse CivilTime.isoformat
  simp only [List.append_assoc]
  rw [number_decimal (by omega)]
  simp only [Option.bind_eq_bind, Option.bind_some, hskip]
  rw [number_decimal (by omega)]
  simp only [Option.bind_some, hskip]
  rw [number_decimal (by omega)]
  simp only [Option.bind_some, hskip]
  rw [number_decimal (by omega)]
  simp only [Option.bind_some, hskip]
  rw [number_decimal (by omega)]
  simp only [Option.bind_some, hskip]
  rw [number_decimal (by omega)]
  simp only [Option.bind_some]
  have hfraction := fraction_decimal (t.ticks % 1000000) (by omega)
  simp only [hfraction, Option.bind_some, hzone]
  rw [CivilDate.of?_self, Option.bind_some, hsum, CivilTime.of?_self]
  rfl

end ExtendedFormat

/--
A reader of the extended format.
-/
@[reducible]
def extendedFormat : IsoFormat where
  fromisoformat := ExtendedFormat.parse
  fromisoformat_isoformat := ExtendedFormat.parse_isoformat
