import Restyle.Script.Library.Basic

/-!
# Restyle.Script.Library.Date

Points in time, in milliseconds since the start of 1970. The local time is that of the zero
meridian.
-/

namespace Restyle
namespace Script
namespace Library

open Run

def dateTable : List (String × Nat) := [("UTC", 7), ("now", 0), ("parse", 1)]

/-- Methods that read one part of a date, which exist for either sort of time. -/
def datePartNames : List String :=
  ["FullYear", "Month", "Date", "Day", "Hours", "Minutes", "Seconds", "Milliseconds"]

/-- Methods that change parts of a date, with the number of parts. -/
def dateSetters : List (String × Nat) :=
  [("FullYear", 3), ("Month", 2), ("Date", 1), ("Hours", 4), ("Minutes", 3), ("Seconds", 2),
    ("Milliseconds", 1)]

/-- Methods that would give a date in the words of a place. -/
def dateLocalNames : List String := ["toLocaleDateString", "toLocaleString", "toLocaleTimeString"]

def dateMethodTable : List (String × Nat) :=
  (datePartNames.flatMap fun x => [("get" ++ x, 0), ("getUTC" ++ x, 0)]) ++
    (dateSetters.flatMap fun (x, n) => [("set" ++ x, n), ("setUTC" ++ x, n)]) ++
    (dateLocalNames.map fun x => (x, 0)) ++
    [("getTime", 0), ("getTimezoneOffset", 0), ("setTime", 1), ("toDateString", 0),
      ("toISOString", 0), ("toJSON", 1), ("toString", 0), ("toTimeString", 0),
      ("toUTCString", 0), ("valueOf", 0)]

/-- A day of a calendar. -/
structure Day where
  year : Int
  /-- From 0 for January. -/
  month : Nat
  day : Nat

/-- Number of the day since the start of 1970; months beyond a year count on. -/
def dayNumber (year month : Int) : Int :=
  let y := year + month.fdiv 12
  let m := month.fmod 12
  -- years begin in March, so that a leap day is the last of its year
  let y' := if m < 2 then y - 1 else y
  let m' := (m + 10).fmod 12
  let era := y'.fdiv 400
  let inEra := y'.fmod 400
  era * 146097 + (inEra * 365 + inEra / 4 - inEra / 100) + (153 * m' + 2) / 5 - 719468

/-- The day with a number. -/
def dayOf (n : Int) : Day :=
  let z := n + 719468
  let era := z.fdiv 146097
  let d := z.fmod 146097
  let inEra := (d - d / 1460 + d / 36524 - d / 146096) / 365
  let inYear := d - (365 * inEra + inEra / 4 - inEra / 100)
  let m' := (5 * inYear + 2) / 153
  let month := (m' + 2).fmod 12
  let year := inEra + era * 400 + (if month < 2 then 1 else 0)
  { year, month := month.toNat, day := (inYear - (153 * m' + 2) / 5 + 1).toNat }

/-- A time from its parts: year, month, day, hours, minutes, seconds, milliseconds. -/
def timeOf (ps : List Float) : Float :=
  if ps.any fun x => !x.isFinite then Numeral.nan
  else
    let part (i default : Nat) : Int := match ps[i]? with
      | some x => Numeral.truncate x
      | none => default
    let days := dayNumber (part 0 1970) (part 1 0) + (part 2 1 - 1)
    Numeral.ofInt (days * 86400000 + part 3 0 * 3600000 + part 4 0 * 60000 + part 5 0 * 1000 +
      part 6 0)

/-- Digits of a fixed number at the head of a text. -/
def someDigits? (n : Nat) (cs : List Char) : Option (Nat × List Char) :=
  let ds := cs.take n
  if ds.length == n && ds.all Char.isDigit then some (Text.decimal ds, cs.drop n) else none

/-- A mark and digits of a fixed number at the head of a text, not beyond a greatest number. -/
def markedDigits? (mark : Char) (n last : Nat) (cs : List Char) : Option (Nat × List Char) :=
  match cs with
  | c :: rest => if c == mark then (someDigits? n rest).filter (·.1 ≤ last) else none
  | [] => none

/-- A year of four digits, or of six after a sign. -/
def readYear? (cs : List Char) : Option (Int × List Char) :=
  match cs with
  | '+' :: rest => (someDigits? 6 rest).map fun (y, rest) => (y, rest)
  | '-' :: rest => ((someDigits? 6 rest).filter (·.1 != 0)).map fun (y, rest) => (-y, rest)
  | cs => (someDigits? 4 cs).map fun (y, rest) => (y, rest)

/-- How many minutes the time at the end of a text is ahead. -/
def readOffset? (cs : List Char) : Option Int :=
  let amount (rest : List Char) : Option Int := do
    let (hours, rest) ← (someDigits? 2 rest).filter (·.1 ≤ 23)
    if rest.isEmpty then return 60 * hours
    let (minutes, rest) ← markedDigits? ':' 2 59 rest
    if rest.isEmpty then some (60 * hours + minutes) else none
  match cs with
  | [] | ['Z'] => some 0
  | '+' :: rest => amount rest
  | '-' :: rest => (amount rest).map (- ·)
  | _ => none

/-- A time after the mark `T`: milliseconds of the day, less those that it is ahead. -/
def readTime? (cs : List Char) : Option Int := do
  let (hours, rest) ← markedDigits? 'T' 2 24 cs
  let (minutes, rest) ← markedDigits? ':' 2 59 rest
  let (seconds, rest) ← if rest.head? == some ':' then markedDigits? ':' 2 59 rest else some (0, rest)
  let (millis, rest) ← if rest.head? == some '.' then markedDigits? '.' 3 999 rest else some (0, rest)
  let offset ← readOffset? rest
  return (hours * 3600000 + minutes * 60000 + seconds * 1000 + millis : Nat) - offset * 60000

/-- Reads a year, a month and a day, of which the last may be left out, and a time or none. -/
def readIso? (cs : List Char) : Option Int := do
  let finish (year : Int) (month day : Nat) (rest : List Char) : Option Int := do
    let time ← if rest.isEmpty then some 0 else readTime? rest
    return (dayNumber year (month - 1 : Nat) + (day - 1 : Nat)) * 86400000 + time
  let (year, rest) ← readYear? cs
  if rest.head? != some '-' then finish year 1 1 rest
  else
    let (month, rest) ← (markedDigits? '-' 2 12 rest).filter (·.1 != 0)
    if rest.head? != some '-' then finish year month 1 rest
    else
      let (day, rest) ← (markedDigits? '-' 2 31 rest).filter (·.1 != 0)
      finish year month day rest

/-- A number in decimal digits, filled up with zeros. -/
def padded (width n : Nat) : String :=
  let ds := Nat.toDigits 10 n
  String.ofList (List.replicate (width - ds.length) '0' ++ ds)

def weekdays : List String := ["Sun", "Mon", "Tue", "Wed", "Thu", "Fri", "Sat"]

def months : List String :=
  ["Jan", "Feb", "Mar", "Apr", "May", "Jun", "Jul", "Aug", "Sep", "Oct", "Nov", "Dec"]

/-- Number of the days in a month. -/
def monthLength (year : Int) (month : Nat) : Int := dayNumber year (month + 1) - dayNumber year month

/-- The number of a day, if it is in its month and has the weekday that is said. -/
def checkedDay? (weekday : String) (year : Int) (month day : Nat) : Option Int :=
  let n := dayNumber year month + (day - 1 : Nat)
  let fits := 1 ≤ day && day ≤ monthLength year month && month < 12 &&
    weekdays.idxOf weekday == ((n + 4).fmod 7).toNat
  if fits then some n else none

/-- Hours, minutes and seconds with points between them: milliseconds of the day. -/
def readClock? (s : String) : Option Nat := do
  let (hours, rest) ← (someDigits? 2 s.toList).filter (·.1 ≤ 23)
  let (minutes, rest) ← markedDigits? ':' 2 59 rest
  let (seconds, rest) ← markedDigits? ':' 2 59 rest
  if rest.isEmpty then some (hours * 3600000 + minutes * 60000 + seconds * 1000) else none

/-- A number of a fixed number of digits. -/
def wholeDigits? (n : Nat) (s : String) : Option Nat :=
  ((someDigits? n s.toList).filter (·.2.isEmpty)).map (·.1)

/-- How many minutes a time is ahead, as it is written with its name. -/
def readZone? (s : String) : Option Int := do
  let (sign, rest) : Int × List Char ← match s.toList with
    | 'G' :: 'M' :: 'T' :: '+' :: rest => some (1, rest)
    | 'G' :: 'M' :: 'T' :: '-' :: rest => some (-1, rest)
    | _ => none
  let (hours, rest) ← (someDigits? 2 rest).filter (·.1 ≤ 23)
  let (minutes, rest) ← (someDigits? 2 rest).filter (·.1 ≤ 59)
  if rest.isEmpty then some (sign * (60 * hours + minutes : Nat)) else none

/-- Reads a date in words, as dates are written. -/
def readWords? (s : String) : Option Int := do
  match s.splitOn " " with
  | [weekday, first, second, year, clock, zone] =>
    if zone == "GMT" then
      if !weekday.endsWith "," then none
      else
        let n ← checkedDay? (weekday.dropEnd 1).toString (← wholeDigits? 4 year)
          (months.idxOf second) (← wholeDigits? 2 first)
        return n * 86400000 + (← readClock? clock)
    else
      let n ← checkedDay? weekday (← wholeDigits? 4 year) (months.idxOf first)
        (← wholeDigits? 2 second)
      return n * 86400000 + (← readClock? clock) - (← readZone? zone) * 60000
  | _ => none

/-- The time that a text denotes. -/
def parseDate (s : String) : Float :=
  match (readIso? s.toList).orElse fun _ => readWords? s with
  | some n => Numeral.ofInt n
  | none => Numeral.nan

/-- A valid time taken apart: day, weekday and milliseconds of the day. -/
structure Moment where
  day : Day
  weekday : Nat
  rest : Nat

def momentOf (t : Float) : Moment :=
  let n := Numeral.truncate t
  let days := n.fdiv 86400000
  { day := dayOf days, weekday := ((days + 4).fmod 7).toNat, rest := (n.fmod 86400000).toNat }

namespace Moment

def clock (m : Moment) : String :=
  padded 2 (m.rest / 3600000) ++ ":" ++ padded 2 (m.rest / 60000 % 60) ++ ":" ++
    padded 2 (m.rest / 1000 % 60)

def yearText (m : Moment) : String :=
  if m.day.year < 0 then "-" ++ padded 6 m.day.year.natAbs else padded 4 m.day.year.toNat

def weekdayText (m : Moment) : String := weekdays.getD m.weekday ""

def monthText (m : Moment) : String := months.getD m.day.month ""

def dateText (m : Moment) : String :=
  m.weekdayText ++ " " ++ m.monthText ++ " " ++ padded 2 m.day.day ++ " " ++ m.yearText

def isoText (m : Moment) : String :=
  let year :=
    if 0 ≤ m.day.year && m.day.year ≤ 9999 then padded 4 m.day.year.toNat
    else (if m.day.year < 0 then "-" else "+") ++ padded 6 m.day.year.natAbs
  year ++ "-" ++ padded 2 (m.day.month + 1) ++ "-" ++ padded 2 m.day.day ++ "T" ++ m.clock ++ "." ++
    padded 3 (m.rest % 1000) ++ "Z"

/-- A part by its name. -/
def part (m : Moment) (name : String) : Int :=
  match name with
  | "FullYear" => m.day.year
  | "Month" => m.day.month
  | "Date" => m.day.day
  | "Day" => m.weekday
  | "Hours" => m.rest / 3600000
  | "Minutes" => m.rest / 60000 % 60
  | "Seconds" => m.rest / 1000 % 60
  | _ => m.rest % 1000

end Moment

/-- A whole number of milliseconds, unless it is too far away. -/
def clipTime (t : Float) : Float :=
  if t.isFinite && t.abs ≤ 8.64e15 then Numeral.ofInt (Numeral.truncate t) else Numeral.nan

/-- The time that the arguments of a constructor denote. -/
def timeOfArgs (h : Host) (args : List Value) : Run Float := do
  match args with
  | [] => return 0.0
  | [v] =>
    let p ← match v with
      | .object ref =>
        match (← obj ref).kind with
        | .date t => pure (.number t)
        | _ => toPrimitive h .any v
      | v => pure v
    match p with
    | .string s => return clipTime (parseDate s.spell)
    | p => return clipTime (← primitiveNumber p)
  | args =>
    let ps ← args.mapM (toNumber h)
    let ps := match ps with
      | y :: rest =>
        let n := Numeral.truncate y
        (if y.isFinite && 0 ≤ n && n ≤ 99 then Numeral.ofInt (n + 1900) else y) :: rest
      | ps => ps
    return clipTime (timeOf ps)

def date : Body := fun h name _ args => do
  match name with
  | "parse" => return .number (clipTime (parseDate (← toText h (arg args 0)).spell))
  | "UTC" =>
    let args := if args.length ≤ 1 then [arg args 0, .number 0.0] else args
    return .number (← timeOfArgs h args)
  | _ => return .number 0.0

/-- The parts of a moment: year, month, day, hours, minutes, seconds, milliseconds. -/
def Moment.parts (m : Moment) : List Float :=
  ["FullYear", "Month", "Date", "Hours", "Minutes", "Seconds", "Milliseconds"].map fun x =>
    Numeral.ofInt (m.part x)

/-- Where the first part that a method changes is among the parts. -/
def setterPosition (part : String) : Nat :=
  ["FullYear", "Month", "Date", "Hours", "Minutes", "Seconds", "Milliseconds"].idxOf part

/-- A time with other parts; one that is none stays so, unless its year is set. -/
def changeParts (t : Float) (part : String) (news : List Float) : Float :=
  let t := if part == "FullYear" && t.isNaN then 0.0 else t
  if t.isNaN then t
  else
    let parts := (momentOf t).parts
    let i := setterPosition part
    clipTime (timeOf (parts.take i ++ news ++ parts.drop (i + news.length)))

/-- The name of a part in the name of a method. -/
def partName (name : String) : String :=
  let rest := (name.drop 3).toString
  if rest.startsWith "UTC" then (rest.drop 3).toString else rest

/-- The time of a date. -/
def thisTime (v : Value) : Run Float := do
  match v with
  | .object ref =>
    match (← obj ref).kind with
    | .date t => return t
    | _ => typeError "'this' is not a Date"
  | _ => typeError "'this' is not a Date"

/-- The text of a valid time by the name of a method. -/
def Moment.text (m : Moment) (name : String) : String :=
  match name with
  | "toDateString" => m.dateText
  | "toTimeString" => m.clock ++ " GMT+0000"
  | "toUTCString" =>
    m.weekdayText ++ ", " ++ padded 2 m.day.day ++ " " ++ m.monthText ++ " " ++ m.yearText ++ " " ++
      m.clock ++ " GMT"
  | _ => m.dateText ++ " " ++ m.clock ++ " GMT+0000"

def dateMethod : Body := fun h name this args => do
  match name with
  | "toPrimitive" =>
    let _ ← refOf this
    match arg args 0 with
    | .string hint =>
      if hint == "string" || hint == "default" then firstPrimitive h this ["toString", "valueOf"]
      else if hint == "number" then firstPrimitive h this ["valueOf", "toString"]
      else typeError "invalid hint"
    | _ => typeError "invalid hint"
  | "toJSON" =>
    let v := Value.object (← toObject this)
    match ← toPrimitive h .number v with
    | .number x => if !x.isFinite then return .null
    | _ => pure ()
    h.call (← getName h v "toISOString") v []
  | _ =>
    if dateLocalNames.contains name then throw (.thrown (.text "Function Unimplemented"))
    let t ← thisTime this
    let m := momentOf t
    match name with
    | "getTime" | "valueOf" => return .number t
    | "getTimezoneOffset" => return .number (if t.isNaN then t else 0.0)
    | "toISOString" => if t.isNaN then rangeError "Invalid Date" else return .text m.isoText
    | "toString" | "toDateString" | "toTimeString" | "toUTCString" =>
      return .text (if t.isNaN then "Invalid Date" else m.text name)
    | _ =>
      let part := partName name
      if name.startsWith "get" then
        return .number (if t.isNaN then t else Numeral.ofInt (m.part part))
      let count := (dateSetters.lookup part).getD 1
      let news ← ((arg args 0 :: args.drop 1).take count).mapM (toNumber h)
      let t := if part == "Time" then clipTime (news.headD t) else changeParts t part news
      setKind (← refOf this) (.date t)
      return .number t

end Library
end Script
end Restyle
