/-!
# Durations

Spans of time in whole milliseconds, as limits are given, and their text.
-/

namespace RowScript

structure Duration where
  millis : Nat
  deriving Repr, DecidableEq, Inhabited

/-- Below a second in milliseconds, from there in seconds with up to three places: `0ns`, `250ms`,
`1.5s`. -/
def Duration.text (d : Duration) : String :=
  if d.millis == 0 then "0ns"
  else if d.millis < 1000 then s!"{d.millis}ms"
  else
    let places := Nat.toDigits 10 (1000 + d.millis % 1000) |>.drop 1
    let kept := (places.reverse.dropWhile (· == '0')).reverse
    let whole := toString (d.millis / 1000)
    if kept.isEmpty then whole ++ "s" else whole ++ "." ++ String.ofList kept ++ "s"

end RowScript
