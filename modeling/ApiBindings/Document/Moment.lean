import ApiBindings.Text.Pieces

/-!
# Calendar values

Dates, times of day and instants as they occur in data files, with the two ways they are
written: displayed in ISO form, and quoted inside a list or an object.
-/
namespace ApiBindings

structure Date where
  year : Nat
  month : Nat
  day : Nat
  deriving DecidableEq, Repr, Inhabited

/-- A time of day with microseconds. -/
structure Clock where
  hour : Nat
  minute : Nat
  second : Nat
  microsecond : Nat
  deriving DecidableEq, Repr, Inhabited

/-- A date, a time of day, or an instant with an optional distance from UTC in seconds. -/
inductive Moment
  | date (day : Date)
  | clock (time : Clock)
  | instant (day : Date) (time : Clock) (offset : Option Int)
  deriving DecidableEq, Repr, Inhabited

namespace Moment

def isLeapYear (year : Nat) : Bool :=
  year % 4 == 0 && (year % 100 != 0 || year % 400 == 0)

def daysInMonth (year month : Nat) : Nat :=
  if month == 2 then if isLeapYear year then 29 else 28
  else if month == 4 || month == 6 || month == 9 || month == 11 then 30
  else 31

/-- A number in decimal, padded with zeros to a width. -/
def padded (width value : Nat) : List Char :=
  let digits := Nat.toDigits 10 value
  List.replicate (width - digits.length) '0' ++ digits

def dateText (day : Date) : List Char :=
  padded 4 day.year ++ '-' :: padded 2 day.month ++ '-' :: padded 2 day.day

def clockText (time : Clock) : List Char :=
  padded 2 time.hour ++ ':' :: padded 2 time.minute ++ ':' :: padded 2 time.second
    ++ if time.microsecond = 0 then [] else '.' :: padded 6 time.microsecond

def offsetText (seconds : Int) : List Char :=
  let size := seconds.natAbs
  (if seconds < 0 then '-' else '+') :: padded 2 (size / 3600) ++ ':' :: padded 2 (size / 60 % 60)
    ++ if size % 60 = 0 then [] else ':' :: padded 2 (size % 60)

/-- The displayed form, such as `2020-01-02 03:04:05+01:00`. -/
def display : Moment → List Char
  | .date day => dateText day
  | .clock time => clockText time
  | .instant day time offset =>
    dateText day ++ ' ' :: clockText time ++ (offset.map offsetText).getD []

def arguments (values : List Nat) : List Char :=
  Text.join [',', ' '] (values.map (Nat.toDigits 10))

/-- Seconds and microseconds are left out when nothing but zeros follows. -/
def clockArguments (time : Clock) : List Nat :=
  [time.hour, time.minute]
    ++ if time.microsecond ≠ 0 then [time.second, time.microsecond]
       else if time.second ≠ 0 then [time.second] else []

def offsetQuoted (seconds : Int) : List Char :=
  if seconds = 0 then "datetime.timezone.utc".toList
  else
    let days := seconds / 86400
    let rest := (seconds % 86400).toNat
    let parts := (if days = 0 then [] else ["days=-".toList ++ Nat.toDigits 10 days.natAbs])
      ++ if rest = 0 then [] else ["seconds=".toList ++ Nat.toDigits 10 rest]
    "datetime.timezone(datetime.timedelta(".toList ++ Text.join [',', ' '] parts ++ "))".toList

/-- The quoted form, which names the kind of value and its parts. -/
def quoted : Moment → List Char
  | .date day => "datetime.date(".toList ++ arguments [day.year, day.month, day.day] ++ [')']
  | .clock time => "datetime.time(".toList ++ arguments (clockArguments time) ++ [')']
  | .instant day time offset =>
    "datetime.datetime(".toList
      ++ arguments ([day.year, day.month, day.day] ++ clockArguments time)
      ++ (offset.map fun seconds => ", tzinfo=".toList ++ offsetQuoted seconds).getD [] ++ [')']

end Moment

end ApiBindings
