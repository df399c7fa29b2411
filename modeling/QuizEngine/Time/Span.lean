/-!
# The text of a length of time

`Time.spanText` writes seconds as hours, minutes and seconds, `1h 2m 3s`, and leaves out
the units in front that are zero.
-/

namespace QuizEngine.Time

/-- Hours, minutes and seconds of a number of seconds; below zero counts as zero. -/
def spanText (seconds : Int) : String :=
  let total := seconds.toNat
  let hours := total / 3600
  let minutes := total % 3600 / 60
  let rest := total % 60
  if 0 < hours then toString hours ++ "h " ++ toString minutes ++ "m " ++ toString rest ++ "s"
  else if 0 < minutes then toString minutes ++ "m " ++ toString rest ++ "s"
  else toString rest ++ "s"

end QuizEngine.Time
