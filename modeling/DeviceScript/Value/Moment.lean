import DeviceScript.Failure

/-!
# Days and times

A moment is a day, or a day with a time of that day. A time may say how far its clock is ahead of
the universal one; two such times are the same if the universal clock shows the same.
-/

namespace DeviceScript

structure Clock where
  hour : Nat
  minute : Nat
  second : Nat
  microsecond : Nat
  /-- The minutes by which the clock is ahead of the universal one, if that is known. -/
  ahead : Option Int
  deriving DecidableEq, Inhabited

structure Moment where
  year : Nat
  month : Nat
  day : Nat
  clock : Option Clock
  deriving DecidableEq, Inhabited

namespace Moment

/-! ## The calendar -/

def isLeap (year : Nat) : Bool := year % 4 = 0 && (year % 100 ≠ 0 || year % 400 = 0)

def daysOf (year month : Nat) : Nat :=
  if month = 2 then (if isLeap year then 29 else 28)
  else if month = 4 ∨ month = 6 ∨ month = 9 ∨ month = 11 then 30
  else 31

def dayNumber (moment : Moment) : Nat :=
  let years := moment.year - 1
  let months := (List.range (moment.month - 1)).foldl
    (fun total month => total + daysOf moment.year (month + 1)) 0
  years * 365 + years / 4 - years / 100 + years / 400 + months + (moment.day - 1)

/-- The microseconds from the first day to the moment, by the universal clock if the moment tells
how far it is ahead. -/
def instant (moment : Moment) : Int :=
  match moment.clock with
  | none => (moment.dayNumber : Int) * 86400000000
  | some clock =>
    let minutes : Int := (moment.dayNumber * 1440 + clock.hour * 60 + clock.minute : Nat)
    (minutes - clock.ahead.getD 0) * 60000000 + (clock.second * 1000000 + clock.microsecond : Nat)

/-- How two moments can be compared: days with days, and times with times of the same sort of
clock. -/
def scale (moment : Moment) : Nat :=
  match moment.clock with
  | none => 0
  | some clock => if clock.ahead.isSome then 2 else 1

def order? (left right : Moment) : Option Ordering :=
  if left.scale = right.scale then some (compare left.instant right.instant) else none

/-! ## What is no moment -/

def daySeconds : Int := 86400

def spanText (minutes : Int) : String :=
  let days := (minutes * 60) / daySeconds
  let seconds := (minutes * 60) % daySeconds
  let parts :=
    (if days = 0 then [] else ["days=" ++ toString days]) ++
      (if seconds = 0 then [] else ["seconds=" ++ toString seconds])
  "datetime.timedelta(" ++ Text.join ", " (if parts.isEmpty then ["0"] else parts) ++ ")"

/-- Refuses a clock that is ahead or behind by a day or more. -/
def checkAhead (minutes : Int) : Except Failure Unit :=
  if minutes.natAbs < 1440 then .ok ()
  else
    .error (.raised .badValue
      ("offset must be a timedelta strictly between -timedelta(hours=24) and " ++
        "timedelta(hours=24), not " ++ spanText minutes ++ "."))

/-- Refuses a moment that is not in the calendar or not on a clock. -/
def checked (moment : Moment) : Except Failure Moment := do
  let refuse : String → Except Failure Unit := fun words => .error (.raised .badValue words)
  if moment.year = 0 then refuse "year 0 is out of range"
  if moment.month = 0 ∨ 12 < moment.month then refuse "month must be in 1..12"
  if moment.day = 0 ∨ daysOf moment.year moment.month < moment.day then
    refuse "day is out of range for month"
  match moment.clock with
  | none => return moment
  | some clock => do
    if 23 < clock.hour then refuse "hour must be in 0..23"
    if 59 < clock.minute then refuse "minute must be in 0..59"
    if 59 < clock.second then refuse "second must be in 0..59"
    return moment

/-! ## Moments as text -/

def padded (width n : Nat) : String :=
  let digits := toString n
  String.ofList (List.replicate (width - digits.length) '0') ++ digits

def aheadText (minutes : Int) : String :=
  (if minutes < 0 then "-" else "+") ++ padded 2 (minutes.natAbs / 60) ++ ":" ++
    padded 2 (minutes.natAbs % 60)

def clockText (clock : Clock) : String :=
  padded 2 clock.hour ++ ":" ++ padded 2 clock.minute ++ ":" ++ padded 2 clock.second ++
    (if clock.microsecond = 0 then "" else "." ++ padded 6 clock.microsecond) ++
    (match clock.ahead with
      | none => ""
      | some minutes => aheadText minutes)

def render (moment : Moment) : String :=
  padded 4 moment.year ++ "-" ++ padded 2 moment.month ++ "-" ++ padded 2 moment.day ++
    (match moment.clock with
      | none => ""
      | some clock => " " ++ clockText clock)

def sort (moment : Moment) : String := if moment.clock.isNone then "date" else "datetime"

def inside (moment : Moment) : String :=
  let numbers : List Nat :=
    [moment.year, moment.month, moment.day] ++
      (match moment.clock with
        | none => []
        | some clock =>
          [clock.hour, clock.minute] ++
            (if clock.second = 0 && clock.microsecond = 0 then [] else [clock.second]) ++
            (if clock.microsecond = 0 then [] else [clock.microsecond]))
  let zone :=
    match moment.clock.bind (·.ahead) with
    | none => []
    | some minutes =>
      if minutes = 0 then ["tzinfo=datetime.timezone.utc"]
      else ["tzinfo=datetime.timezone(" ++ spanText minutes ++ ")"]
  "datetime." ++ moment.sort ++ "(" ++ Text.join ", " (numbers.map toString ++ zone) ++ ")"

end Moment

end DeviceScript
