/-!
# Dates and times in TOML

A date, a time of day, or both with or without an offset from universal time. They are checked
against the calendar and written again in one form: a capital T between date and time, a capital Z
for universal time, and fractions of a second without trailing zeros. How far hours and offsets go
depends on where a moment stands: as a value of its own, or inside a string.
-/

namespace ScanTool.Toml

/-- How far the hours of a day and the numbers of an offset go. -/
structure MomentLimits where
  /-- The last hour of a day. -/
  hour : Nat
  /-- The greatest hour of an offset. -/
  offsetHour : Nat
  /-- The greatest minute of an offset. -/
  offsetMinute : Nat
  deriving DecidableEq, Repr

namespace MomentLimits

/-- For a moment that is a value of its own. -/
def asValue : MomentLimits := ⟨23, 23, 59⟩

/-- For a moment that a string writes: a day has an hour 24, and the minutes of an offset can be
more than an hour. -/
def inString : MomentLimits := ⟨24, 24, 99⟩

end MomentLimits

/-- The number that two digits write. -/
def twoDigits? (a b : Char) : Option Nat :=
  if a.isDigit && b.isDigit then some (10 * (a.toNat - '0'.toNat) + (b.toNat - '0'.toNat)) else none

/-- A number with two digits. -/
def twoDigits (n : Nat) : List Char := [Nat.digitChar (n / 10), Nat.digitChar (n % 10)]

/-- The number of days of a month. -/
def daysIn (year month : Nat) : Nat :=
  if month = 2 then
    if year % 4 = 0 ∧ (year % 100 ≠ 0 ∨ year % 400 = 0) then 29 else 28
  else if month = 4 ∨ month = 6 ∨ month = 9 ∨ month = 11 then 30
  else 31

/-- A date at the beginning of a text: its written form, and what follows. -/
def date? : List Char → Option (List Char × List Char)
  | y1 :: y2 :: y3 :: y4 :: '-' :: m1 :: m2 :: '-' :: d1 :: d2 :: rest =>
    match twoDigits? y1 y2, twoDigits? y3 y4, twoDigits? m1 m2, twoDigits? d1 d2 with
    | some century, some year, some month, some day =>
      if 1 ≤ month ∧ month ≤ 12 ∧ 1 ≤ day ∧ day ≤ daysIn (100 * century + year) month then
        some ([y1, y2, y3, y4, '-', m1, m2, '-', d1, d2], rest)
      else none
    | _, _, _, _ => none
  | _ => none

/-- The written form of a fraction of a second: nine digits at the most, no trailing zeros, and
nothing at all for zero. -/
def fraction (digits : List Char) : List Char :=
  match ((digits.take 9).reverse.dropWhile (· == '0')).reverse with
  | [] => []
  | kept => '.' :: kept

/-- A time of day at the beginning of a text. -/
def time? (limits : MomentLimits) : List Char → Option (List Char × List Char)
  | h1 :: h2 :: ':' :: m1 :: m2 :: ':' :: s1 :: s2 :: rest =>
    match twoDigits? h1 h2, twoDigits? m1 m2, twoDigits? s1 s2 with
    | some hour, some minute, some second =>
      if hour ≤ limits.hour ∧ minute ≤ 59 ∧ second ≤ 60 then
        let whole := [h1, h2, ':', m1, m2, ':', s1, s2]
        match rest with
        | '.' :: rest =>
          let digits := rest.takeWhile Char.isDigit
          if digits.isEmpty then none
          else some (whole ++ fraction digits, rest.dropWhile Char.isDigit)
        | _ => some (whole, rest)
      else none
    | _, _, _ => none
  | _ => none

/-- The written form of an offset of so many minutes. -/
def offsetText (sign : Char) (minutes : Nat) : List Char :=
  (if minutes = 0 then '+' else sign) :: twoDigits (minutes / 60) ++ ':' :: twoDigits (minutes % 60)

/-- An offset from universal time that is a whole text. It is a day at the most. -/
def offset? (limits : MomentLimits) : List Char → Option (List Char)
  | ['Z'] => some ['Z']
  | ['z'] => some ['Z']
  | [sign, h1, h2, ':', m1, m2] =>
    if sign = '+' ∨ sign = '-' then
      match twoDigits? h1 h2, twoDigits? m1 m2 with
      | some hour, some minute =>
        let total := 60 * hour + minute
        if hour ≤ limits.offsetHour ∧ minute ≤ limits.offsetMinute ∧ total ≤ 24 * 60 then
          some (offsetText sign total)
        else none
      | _, _ => none
    else none
  | _ => none

/-- A time of day, with an offset or without, that is a whole text. -/
def timeAndOffset? (limits : MomentLimits) (cs : List Char) : Option (List Char) :=
  match time? limits cs with
  | none => none
  | some (time, []) => some time
  | some (time, rest) => (offset? limits rest).map (time ++ ·)

/-- A date, a time of day or both that are a whole text. -/
def moment? (limits : MomentLimits) (cs : List Char) : Option (List Char) :=
  match date? cs with
  | some (date, []) => some date
  | some (date, c :: rest) =>
    if c = 'T' ∨ c = 't' ∨ c = ' ' then
      (timeAndOffset? limits rest).map fun time => date ++ 'T' :: time
    else none
  | none =>
    match time? limits cs with
    | some (time, []) => some time
    | _ => none

end ScanTool.Toml
