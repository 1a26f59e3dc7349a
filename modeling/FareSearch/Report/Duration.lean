/-!
# Durations for display

Hours and minutes, each left out where it is zero.
-/

namespace FareSearch.Report

/-- A positive number of minutes as hours and minutes; any other number shows nothing. -/
def durationText (minutes : Int) : String :=
  if minutes ≤ 0 then ""
  else
    let hours := minutes.toNat / 60
    let rest := minutes.toNat % 60
    if hours = 0 then toString rest ++ "m"
    else if rest = 0 then toString hours ++ "h"
    else toString hours ++ "h " ++ toString rest ++ "m"

end FareSearch.Report
