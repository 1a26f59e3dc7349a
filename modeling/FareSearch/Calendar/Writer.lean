import FareSearch.Calendar.Timestamp
import FareSearch.Json.Value

/-!
# Writing dates and timestamps

Dates are written with two digits for month and day and at least four for the year; a year outside
0 to 9999 carries a sign. Timestamps follow with the time, the fraction that is needed, and the
offset rounded to the minute.
-/

namespace FareSearch.Calendar

/-- A number with zeros before it up to a width. -/
def padded (width n : Nat) : String :=
  let digits := Nat.toDigits 10 n
  String.ofList (List.replicate (width - digits.length) '0' ++ digits)

def yearText (year : Int) : String :=
  if 0 ≤ year && year ≤ 9999 then padded 4 year.toNat
  else if year < 0 then "-" ++ padded 4 year.natAbs
  else "+" ++ padded 4 year.natAbs

def dateText (date : Date) : String :=
  yearText date.year ++ "-" ++ padded 2 date.month ++ "-" ++ padded 2 date.day

/-- Hours, minutes and seconds; a leap second is number 60. -/
def clockText (time : TimeOfDay) : String :=
  let second := time.second % 60 + (if time.nano < 1000000000 then 0 else 1)
  padded 2 (time.second / 3600) ++ ":" ++ padded 2 (time.second / 60 % 60) ++ ":" ++
    padded 2 second

/-- The fraction of a second in the least of no, three, six or nine digits that is exact. -/
def fractionText (time : TimeOfDay) : String :=
  let nano := time.nano % 1000000000
  if nano = 0 then ""
  else if nano % 1000000 = 0 then "." ++ padded 3 (nano / 1000000)
  else if nano % 1000 = 0 then "." ++ padded 6 (nano / 1000)
  else "." ++ padded 9 nano

/-- A signed offset, rounded to the minute. -/
def offsetText (offset : Int) : String :=
  let minutes := (offset.natAbs + 30) / 60
  (if offset < 0 then "-" else "+") ++ padded 2 (minutes / 60) ++ ":" ++ padded 2 (minutes % 60)

/-- A timestamp to the second, as keys have it. -/
def secondsText (stamp : Timestamp) : String :=
  dateText stamp.date ++ "T" ++ clockText stamp.time ++ offsetText stamp.offset

/-- A timestamp with its fraction and a numeric offset. -/
def numericText (stamp : Timestamp) : String :=
  dateText stamp.date ++ "T" ++ clockText stamp.time ++ fractionText stamp.time ++
    offsetText stamp.offset

/-- A timestamp with its fraction; universal time is marked by a letter. -/
def timestampText (stamp : Timestamp) : String :=
  dateText stamp.date ++ "T" ++ clockText stamp.time ++ fractionText stamp.time ++
    (if stamp.offset = 0 then "Z" else offsetText stamp.offset)

def dateToJson (date : Date) : Json :=
  .string (dateText date)

def timestampToJson (stamp : Timestamp) : Json :=
  .string (timestampText stamp)

end FareSearch.Calendar
