import FareSearch.Calendar.Date

/-!
# Timestamps

A timestamp is a local date and time of day with its offset from universal time. It is compared by
its instant. A leap second is the last second of its minute with a fraction of one second or more.
-/

namespace FareSearch

/-- Seconds since midnight and the fraction in nanoseconds. -/
@[ext]
structure TimeOfDay where
  second : Nat
  nano : Nat
  deriving DecidableEq, Inhabited

/-- A local date and time with an offset in seconds east of universal time. -/
@[ext]
structure Timestamp where
  date : Date
  time : TimeOfDay
  offset : Int
  deriving DecidableEq

namespace Timestamp

/-- Seconds of universal time since the start of 1970. -/
def unixSeconds (stamp : Timestamp) : Int :=
  86400 * stamp.date.number + stamp.time.second - stamp.offset

/-- The day of universal time. -/
def universalDay (date : Date) (time : TimeOfDay) (offset : Int) : Int :=
  (86400 * date.number + time.second - offset) / 86400

/-- The timestamp of a local date and time, if its day in universal time is one that is kept. -/
def ofLocal? (date : Date) (time : TimeOfDay) (offset : Int) : Option Timestamp :=
  let day := universalDay date time offset
  if Date.firstNumber ≤ day && day ≤ Date.lastNumber then some ⟨date, time, offset⟩ else none

/-- The earlier instant. -/
def lt (left right : Timestamp) : Bool :=
  left.unixSeconds < right.unixSeconds ||
    (left.unixSeconds == right.unixSeconds && left.time.nano < right.time.nano)

def le (left right : Timestamp) : Bool :=
  !lt right left

/-- The same instant, at whatever offset. -/
def sameInstant (left right : Timestamp) : Bool :=
  left.unixSeconds == right.unixSeconds && left.time.nano == right.time.nano

/-- Nanoseconds from one instant to a later one. A leap second counts once it is over. -/
def nanosecondsSince (later earlier : Timestamp) : Int :=
  let secondOfDay (stamp : Timestamp) : Int := stamp.unixSeconds % 86400
  let leap : Int :=
    if secondOfDay earlier < secondOfDay later && 1000000000 ≤ earlier.time.nano then 1
    else if secondOfDay later < secondOfDay earlier && 1000000000 ≤ later.time.nano then -1
    else 0
  (later.unixSeconds - earlier.unixSeconds + leap) * 1000000000 +
    (Int.ofNat later.time.nano - Int.ofNat earlier.time.nano)

/-- Whole minutes from one instant to a later one, rounded toward zero. -/
def minutesSince (later earlier : Timestamp) : Int :=
  (later.nanosecondsSince earlier).tdiv 60000000000

/-- The same time of day and offset on another date; unchanged where that is no timestamp. -/
def movedTo (stamp : Timestamp) (date : Date) : Timestamp :=
  (ofLocal? date stamp.time stamp.offset).getD stamp

end Timestamp

end FareSearch
