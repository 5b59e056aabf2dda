import ViewAtlas.Text.Basic
/-!
# Instants

The text of an instant of universal time: date and time of day, with a fraction of six digits unless the second is
whole.
-/
namespace ViewAtlas

/-- **An instant**: the microseconds since the start of 1970. -/
structure Instant where
  microseconds : Nat
  deriving DecidableEq, Repr

namespace Instant

/-- The year, month and day of a day, counted from the start of 1970.  Years begin in March here, so that a leap day is
the last day of its year. -/
def civil (day : Nat) : Nat × Nat × Nat :=
  let day := day + 719468
  let era := day / 146097
  let dayOfEra := day % 146097
  let year := (dayOfEra - dayOfEra / 1460 + dayOfEra / 36524 - dayOfEra / 146096) / 365
  let dayOfYear := dayOfEra - (365 * year + year / 4 - year / 100)
  let month := (5 * dayOfYear + 2) / 153
  let date := dayOfYear - (153 * month + 2) / 5 + 1
  let month := if month < 10 then month + 3 else month - 9
  (era * 400 + year + (if month ≤ 2 then 1 else 0), month, date)

def padded (width n : Nat) : Text :=
  let digits := Text.ofNat n
  List.replicate (width - digits.length) '0' ++ digits

def text (t : Instant) : Text :=
  let second := t.microseconds / 1000000
  let fraction := t.microseconds % 1000000
  let (year, month, date) := civil (second / 86400)
  let second := second % 86400
  Text.joinWith ['-'] [padded 4 year, padded 2 month, padded 2 date] ++ 'T' ::
    Text.joinWith [':'] [padded 2 (second / 3600), padded 2 (second / 60 % 60), padded 2 (second % 60)] ++
    (if fraction = 0 then [] else '.' :: padded 6 fraction) ++ "+00:00".toList

end Instant
end ViewAtlas
