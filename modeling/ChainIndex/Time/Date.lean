/-!
# Calendar dates

Dates of the Gregorian calendar, extended in both directions to the years -262143 to 262142. A date
is given by its fields, so a step to the next or to the previous day is all the arithmetic there is.
-/

set_option autoImplicit false

namespace ChainIndex

def Date.isLeap (year : Int) : Bool := (year % 4 == 0 && year % 100 != 0) || year % 400 == 0

def Date.daysIn (year : Int) (month : Nat) : Nat :=
  if month = 2 then (if Date.isLeap year then 29 else 28)
  else if month = 4 ∨ month = 6 ∨ month = 9 ∨ month = 11 then 30
  else 31

def Date.firstYear : Int := -262143

def Date.lastYear : Int := 262142

structure Date where
  year : Int
  month : Nat
  day : Nat
  year_range : Date.firstYear ≤ year ∧ year ≤ Date.lastYear
  month_range : 1 ≤ month ∧ month ≤ 12
  day_range : 1 ≤ day ∧ day ≤ Date.daysIn year month

namespace Date

instance : DecidableEq Date := fun a b =>
  if h : a.year = b.year ∧ a.month = b.month ∧ a.day = b.day then
    isTrue (by cases a; cases b; simp_all)
  else
    isFalse fun e => h (e ▸ ⟨rfl, rfl, rfl⟩)

/-- The date with these fields, if there is one. -/
def ofFields? (year : Int) (month day : Nat) : Option Date :=
  if h : (firstYear ≤ year ∧ year ≤ lastYear) ∧ (1 ≤ month ∧ month ≤ 12)
      ∧ 1 ≤ day ∧ day ≤ daysIn year month then
    some ⟨year, month, day, h.1, h.2.1, h.2.2⟩
  else none

@[simp] theorem ofFields?_fields (d : Date) : ofFields? d.year d.month d.day = some d := by
  simp [ofFields?, d.year_range, d.month_range, d.day_range]

/-- The day after, unless `d` is the last day of the calendar. -/
def next? (d : Date) : Option Date :=
  if d.day < daysIn d.year d.month then ofFields? d.year d.month (d.day + 1)
  else if d.month < 12 then ofFields? d.year (d.month + 1) 1
  else ofFields? (d.year + 1) 1 1

/-- The day before, unless `d` is the first day of the calendar. -/
def previous? (d : Date) : Option Date :=
  if 1 < d.day then ofFields? d.year d.month (d.day - 1)
  else if 1 < d.month then ofFields? d.year (d.month - 1) (daysIn d.year (d.month - 1))
  else ofFields? (d.year - 1) 12 31

/-- The date `n` days after. -/
def after? : Nat → Date → Option Date
  | 0, d => some d
  | n + 1, d => d.next?.bind (after? n)

end Date

end ChainIndex
