import WikiQuery.Calendar.Date

/- Points in time in UTC, kept as a date, a second of the day and nanoseconds. A leap second is
   kept as the second before it with `10 ^ 9` nanoseconds or more. -/
set_option autoImplicit false

namespace WikiQuery

structure Moment where
  date : Date
  second : Nat
  nano : Nat
deriving DecidableEq

namespace Moment

def daySeconds : Nat := 86400

def ofClock (date : Date) (hour minute second nano : Nat) : Moment :=
  ⟨date, 3600 * hour + 60 * minute + second, nano⟩

def midnight (date : Date) : Moment := ⟨date, 0, 0⟩

-- The instant that a clock `offset` seconds east of UTC shows as this local time.
def ofLocal (clock : Moment) (offset : Int) : Moment :=
  let second : Int := clock.second - offset
  if second < 0 then
    { clock with date := clock.date.previous, second := (second + daySeconds).toNat }
  else if (daySeconds : Int) ≤ second then
    { clock with date := clock.date.next, second := (second - daySeconds).toNat }
  else { clock with second := second.toNat }

def text (t : Moment) : String :=
  t.date.text ++ " " ++ twoDigits (t.second / 3600) ++ ":" ++ twoDigits (t.second / 60 % 60) ++
    ":" ++ twoDigits (t.second % 60 + t.nano / 1000000000)

end Moment

end WikiQuery
