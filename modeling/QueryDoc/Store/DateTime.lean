import QueryDoc.Store.Printf

/-!
Dates and times, as `date`, `time`, `datetime`, `julianday`, `unixepoch`, `strftime` and
`timediff` compute them.

A moment is held as a Julian day number counted in milliseconds, or as a calendar date and a
time of day, or both; each is computed from the other when needed. A date before the year
-4713 or after 9999 is out of range, and so is a day number outside 0 to 464269060799999
milliseconds.

A moment is read from a text `YYYY-MM-DD`, optionally followed by a time, from a text
`HH:MM`, `HH:MM:SS` or `HH:MM:SS.FFF` (on 2000-01-01), optionally followed by a time zone,
from `now`, or from a number, which is a Julian day unless a modifier says otherwise. A day
of the month past the month's end runs into the next month.

Modifiers then shift the moment: by a number of days, hours, minutes, seconds, months or
years, by `±HH:MM:SS`, by `±YYYY-MM-DD`, to the start of its day, month or year, to the next
given weekday; `unixepoch`, `julianday` and `auto` say how the number read first counts;
`floor` and `ceiling` say where a day past the end of a month goes. Any other modifier, or
an unreadable moment, makes the result null.

The clock stands at 2024-01-01 00:00:00 in UTC, which is also the local time.
-/

namespace QueryDoc.Store

/-- A moment being computed. -/
structure Moment where
  /-- Milliseconds since the Julian epoch. -/
  jd : Int := 0
  year : Int := 2000
  month : Int := 1
  day : Int := 1
  hour : Int := 0
  minute : Int := 0
  second : Float := 0.0
  /-- The time zone offset in minutes. -/
  tz : Int := 0
  validJD : Bool := false
  validYMD : Bool := false
  validHMS : Bool := false
  validTZ : Bool := false
  /-- A number read as it was given, before a modifier says how it counts. -/
  rawS : Bool := false
  isError : Bool := false
  useSubsec : Bool := false
  isUtc : Bool := false
  isLocal : Bool := false
  /-- Days past the end of the month, which `floor` takes back. -/
  floorDays : Int := 0
  deriving Inhabited

namespace Moment

/-- Milliseconds per day. -/
def dayMs : Int := 86400000

/-- The moment the clock shows. -/
def nowJD : Int := 212570827200000

/-- Whether a day number in milliseconds is within range. -/
def validJulianDay (jd : Int) : Bool := 0 ≤ jd && jd ≤ 464269060799999

/-- A double cut toward zero. -/
def cut (x : Float) : Int :=
  if x.isNaN then 0
  else if x ≥ 9.2e18 then 9200000000000000000
  else if x ≤ -9.2e18 then -9200000000000000000
  else if x ≥ 0.0 then (x.floor.toUInt64.toNat : Int)
  else -((-x).floor.toUInt64.toNat : Int)

/-- An integer as a double. -/
def toF (n : Int) : Float := Float.ofInt n

/-- Marks the moment as unusable. -/
def error (p : Moment) : Moment := { p with
  isError := true, validJD := false, validYMD := false,
  validHMS := false }

/-- Computes the day number from the date and time. -/
def computeJD (p : Moment) : Moment :=
  if p.validJD then p
  else
    let (y, m, d) := if p.validYMD then (p.year, p.month, p.day) else (2000, 1, 1)
    if y < -4713 || y > 9999 || p.rawS then p.error
    else
      let (y, m) := if m ≤ 2 then (y - 1, m + 12) else (y, m)
      let a := y.tdiv 100
      let b := 2 - a + a.tdiv 4
      let x1 := (36525 * (y + 4716)).tdiv 100
      let x2 := (306001 * (m + 1)).tdiv 10000
      let jd := cut ((toF (x1 + x2 + d + b) - 1524.5) * 86400000.0)
      let p := { p with jd := jd, validJD := true }
      if p.validHMS then
        let jd := p.jd + p.hour * 3600000 + p.minute * 60000 + cut (p.second * 1000.0 + 0.5)
        if p.validTZ then
          { p with jd := jd - p.tz * 60000, validYMD := false, validHMS := false, validTZ := false }
        else { p with jd := jd }
      else p

/-- Computes the date from the day number. -/
def computeYMD (p : Moment) : Moment :=
  if p.validYMD then p
  else if !p.validJD then { p with year := 2000, month := 1, day := 1, validYMD := true }
  else if !validJulianDay p.jd then p.error
  else
    let z := (p.jd + 43200000).tdiv dayMs
    let a := cut ((toF z - 1867216.25) / 36524.25)
    let a := z + 1 + a - a.tdiv 4
    let b := a + 1524
    let c := cut ((toF b - 122.1) / 365.25)
    let d := (36525 * (c % 32768)).tdiv 100
    let e := cut (toF (b - d) / 30.6001)
    let x1 := cut (30.6001 * toF e)
    let day := b - d - x1
    let month := if e < 14 then e - 1 else e - 13
    let year := if month > 2 then c - 4716 else c - 4715
    { p with year := year, month := month, day := day, validYMD := true }

/-- Computes the time of day from the day number. -/
def computeHMS (p : Moment) : Moment :=
  if p.validHMS then p
  else
    let p := p.computeJD
    let dayMsNow := (p.jd + 43200000) % dayMs
    let second := toF (dayMsNow % 60000) / 1000.0
    let dayMin := dayMsNow.tdiv 60000
    { p with
      second := second, minute := dayMin % 60, hour := dayMin.tdiv 60, rawS := false,
      validHMS := true }

/-- Computes both the date and the time of day. -/
def computeYMDHMS (p : Moment) : Moment := p.computeYMD.computeHMS

/-- Forgets the date, the time of day and the time zone, keeping the day number. -/
def clearYMDHMS (p : Moment) : Moment := { p with validYMD := false, validHMS := false, validTZ := false }

/-- Days past the end of the month of the date. -/
def computeFloor (p : Moment) : Moment :=
  let n :=
    if p.day ≤ 28 then 0
    else if [1, 3, 5, 7, 8, 10, 12].contains p.month then 0
    else if p.month != 2 then (if p.day == 31 then 1 else 0)
    else if p.year % 4 != 0 || (p.year % 100 == 0 && p.year % 400 != 0) then p.day - 28
    else p.day - 29
  { p with floorDays := n }

/-- A number as it was given: a Julian day when it is in range. -/
def setRaw (p : Moment) (r : Float) : Moment :=
  let p := { p with second := r, rawS := true }
  if r ≥ 0.0 && r < 5373484.5 then { p with jd := cut (r * 86400000.0 + 0.5), validJD := true }
  else p

end Moment

namespace DateText

/-- Reads `n` digits: their value and the rest. -/
def digits : Nat → List Char → Nat → Option (Nat × List Char)
  | 0, cs, acc => some (acc, cs)
  | k + 1, c :: cs, acc => if c.isDigit then digits k cs (acc * 10 + (c.toNat - 48)) else none
  | _ + 1, [], _ => none

/-- Reads `n` digits whose value lies within bounds. -/
def field (n lo hi : Nat) (cs : List Char) : Option (Nat × List Char) :=
  match digits n cs 0 with
  | some (v, rest) => if lo ≤ v && v ≤ hi then some (v, rest) else none
  | none => none

/-- Expects one character. -/
def expect (c : Char) : List Char → Option (List Char)
  | d :: rest => if c == d then some rest else none
  | [] => none

/-- Whether a character is a blank. -/
def isSpace (c : Char) : Bool := c == ' ' || c == '\t' || c == '\n' || c == '\r' || c == '\x0c' || c == '\x0b'

/-- Reads a time zone after a time: blanks, then `Z`, or `±HH:MM`, then blanks to the end. -/
def timezone (cs : List Char) (p : Moment) : Option Moment :=
  let cs := cs.dropWhile isSpace
  match cs with
  | [] => some { p with tz := 0 }
  | c :: rest =>
    if c == 'Z' || c == 'z' then
      if (rest.dropWhile isSpace).isEmpty then some { p with tz := 0, isLocal := false, isUtc := true }
      else none
    else if c == '-' || c == '+' then
      match field 2 0 14 rest with
      | some (h, r1) =>
        match expect ':' r1 with
        | some r2 =>
          match field 2 0 59 r2 with
          | some (m, r3) =>
            if (r3.dropWhile isSpace).isEmpty then
              let sign : Int := if c == '-' then -1 else 1
              some { p with tz := sign * ((m : Int) + (h : Int) * 60) }
            else none
          | none => none
        | none => none
      | none => none
    else none

/-- Reads a fraction of a second after the point. -/
def fraction : List Char → Float → Float → Float × List Char
  | c :: cs, acc, scale =>
    if c.isDigit then fraction cs (acc * 10.0 + Moment.toF (c.toNat - 48)) (scale * 10.0)
    else (acc / scale, c :: cs)
  | [], acc, scale => (acc / scale, [])

/-- Reads `HH:MM`, `HH:MM:SS` or `HH:MM:SS.FFF`, then a time zone. -/
def hms (cs : List Char) (p : Moment) : Option Moment := do
  let (h, r1) ← field 2 0 24 cs
  let r2 ← expect ':' r1
  let (m, r3) ← field 2 0 59 r2
  let (s, r4) ← match r3 with
    | ':' :: r =>
      match field 2 0 59 r with
      | some (s, r5) =>
        match r5 with
        | '.' :: d :: more =>
          if d.isDigit then
            let (f, rest) := fraction (d :: more) 0.0 1.0
            some (Moment.toF s + f, rest)
          else some (Moment.toF s, r5)
        | _ => some (Moment.toF s, r5)
      | none => none
    | _ => some (0.0, r3)
  let p := { p with
    validJD := false, rawS := false, validHMS := true, hour := h, minute := m,
    second := s }
  let p ← timezone r4 p
  pure { p with validTZ := p.tz != 0 }

/-- Reads `YYYY-MM-DD`, optionally signed, optionally followed by blanks or `T` and a time. -/
def ymd (cs : List Char) (p : Moment) : Option Moment := do
  let (neg, cs) := match cs with
    | '-' :: r => (true, r)
    | r => (false, r)
  let (y, r1) ← field 4 0 14712 cs
  let r2 ← expect '-' r1
  let (m, r3) ← field 2 1 12 r2
  let r4 ← expect '-' r3
  let (d, r5) ← field 2 1 31 r4
  let rest := r5.dropWhile fun c => isSpace c || c == 'T'
  let p ← match hms rest p with
    | some q => some q
    | none => if rest.isEmpty then some { p with validHMS := false } else none
  let p := { p with
    validJD := false, validYMD := true, year := if neg then -(y : Int) else y,
    month := m, day := d }
  let p := p.computeFloor
  pure (if p.tz != 0 then p.computeJD else p)

/-- Whether a text equals a word, in any case. -/
def sameWord (s w : String) : Bool := s.toLower == w

/-- The number a whole text is, if it is one. -/
def wholeNumber (s : String) : Option Float :=
  match numberOfText? s with
  | some (.integer n) => some (Float.ofInt n)
  | some (.real x) => some x
  | _ => none

/-- Reads a moment from a text. -/
def moment (s : String) : Option Moment :=
  let p : Moment := {}
  match ymd s.toList p with
  | some q => some q
  | none =>
    match hms s.toList p with
    | some q => some q
    | none =>
      if sameWord s "now" then some { p with jd := Moment.nowJD, validJD := true }
      else
        match wholeNumber s with
        | some r => some (p.setRaw r)
        | none =>
          if sameWord s "subsec" || sameWord s "subsecond" then
            some { p with jd := Moment.nowJD, validJD := true, useSubsec := true }
          else none

end DateText

namespace Moment

/-- The limits and lengths in seconds of the units a modifier may add. -/
def units : List (String × Float × Float) :=
  [("second", 464269992787968.0, 1.0), ("minute", 7737900007424.0, 60.0),
   ("hour", 128969998336.0, 3600.0), ("day", 5373485.0, 86400.0),
   ("month", 176546.0, 2592000.0), ("year", 14713.0, 31536000.0)]

/-- Adds whole months, carrying into years. -/
def addMonths (p : Moment) (k : Int) : Moment :=
  let m := p.month + k
  let x := if m > 0 then (m - 1).tdiv 12 else (m - 12).tdiv 12
  { p with year := p.year + x, month := m - x * 12 }

/-- The blank-free prefix of a numeric modifier: where its number ends. -/
def numberEnd (cs : List Char) : Nat :=
  let rec go : List Char → Nat → Nat
    | [], n => n
    | c :: rest, n =>
      if c == ':' || DateText.isSpace c then n
      else if c == '-' && n ≥ 1 &&
          ((n == 5 && (DateText.field 4 0 14712 (cs.drop 1)).isSome) ||
           (n == 6 && (DateText.field 5 0 14712 (cs.drop 1)).isSome)) then n
      else go rest (n + 1)
  match cs with
  | [] => 0
  | _ :: rest => go rest 1

/-- Applies `±HH:MM[:SS[.FFF]]`, the time part of a modifier. -/
def addTime (p : Moment) (negative : Bool) (cs : List Char) : Option Moment := do
  let cs := match cs with
    | c :: rest => if c.isDigit then cs else rest
    | [] => []
  let tx ← DateText.hms cs {}
  let tx := tx.computeJD
  let t := tx.jd - 43200000
  let day := t.tdiv dayMs
  let t := t - day * dayMs
  let t := if negative then -t else t
  let p := p.computeJD.clearYMDHMS
  pure { p with jd := p.jd + t }

/-- Applies a modifier of the form `±YYYY-MM-DD[ HH:MM[:SS]]`. -/
def addDate (p : Moment) (negative : Bool) (body : List Char) (yearDigits : Nat) : Option Moment := do
  let (y, r1) ← DateText.field yearDigits 0 14712 body
  let r2 ← DateText.expect '-' r1
  let (m, r3) ← DateText.field 2 0 12 r2
  let r4 ← DateText.expect '-' r3
  let (d, r5) ← DateText.field 2 0 31 r4
  if m ≥ 12 || d ≥ 31 then none
  else
    let p := { p.computeYMDHMS with validJD := false }
    let (p, d) := if negative then ({ p with year := p.year - y, month := p.month - m }, -(d : Int))
      else ({ p with year := p.year + y, month := p.month + m }, (d : Int))
    let p := p.addMonths 0
    let p := p.computeFloor.computeJD
    let p := { p with validHMS := false, validYMD := false, jd := p.jd + d * dayMs }
    match r5 with
    | [] => some p
    | c :: rest =>
      if DateText.isSpace c && (DateText.field 2 0 24 rest).isSome then addTime p negative rest
      else none

/-- Applies `NNN unit[s]`. -/
def addUnits (p : Moment) (r : Float) (unitText : List Char) : Option Moment :=
  let u := unitText.dropWhile DateText.isSpace
  let n := u.length
  if n < 3 || n > 10 then none
  else
    let u := if (u.getLast?.map Char.toLower) == some 's' then u.dropLast else u
    let name := String.ofList (u.map Char.toLower)
    let rounder := if r < 0.0 then -0.5 else 0.5
    let p := { p.computeJD with floorDays := 0 }
    match units.find? (fun (nm, limit, _) => nm == name && r > -limit && r < limit) with
    | none => none
    | some (nm, _, seconds) =>
      let (p, r) :=
        if nm == "month" then
          let k := cut r
          let q := (p.computeYMDHMS.addMonths k).computeFloor
          ({ q with validJD := false }, r - toF k)
        else if nm == "year" then
          let k := cut r
          let q := p.computeYMDHMS
          let q := { q with year := q.year + k }.computeFloor
          ({ q with validJD := false }, r - toF k)
        else (p, r)
      let p := p.computeJD
      some ({ p with jd := p.jd + cut (r * 1000.0 * seconds + rounder) }).clearYMDHMS

/-- Applies one modifier; `index` is its place among the arguments, from 1. -/
def modify (p : Moment) (text : String) (index : Nat) : Option Moment :=
  let lower := text.toLower
  let cs := text.toList
  match cs with
  | [] => none
  | c0 :: _ =>
    let first := c0.toLower
    if first == 'a' then
      if lower == "auto" && index == 1 then
        if !p.rawS || p.validJD then some { p with rawS := false }
        else if p.second ≥ -210866760000.0 && p.second ≤ 253402300799.0 then
          let r := p.second * 1000.0 + 210866760000000.0
          some { p.clearYMDHMS with jd := cut (r + 0.5), validJD := true, rawS := false }
        else none
      else none
    else if first == 'c' then
      if lower == "ceiling" then some { p.computeJD.clearYMDHMS with floorDays := 0 } else none
    else if first == 'f' then
      if lower == "floor" then
        let q := p.computeJD
        some { q with jd := q.jd - q.floorDays * dayMs }.clearYMDHMS
      else none
    else if first == 'j' then
      if lower == "julianday" && index == 1 && p.validJD && p.rawS then some { p with rawS := false }
      else none
    else if first == 'l' then
      if lower == "localtime" then
        if p.isLocal then some { p with isUtc := false }
        else
          let q := p.computeJD
          let ms := q.jd % 1000
          let r := q.clearYMDHMS.computeYMDHMS
          let whole := toF (cut r.second)
          some { r with
            second := whole + toF ms * 0.001, validJD := false, rawS := false,
            validTZ := false, isError := false, isUtc := false, isLocal := true }
      else none
    else if first == 'u' then
      if lower == "unixepoch" && p.rawS then
        if index > 1 then none
        else
          let r := p.second * 1000.0 + 210866760000000.0
          if r ≥ 0.0 && r < 464269060800000.0 then
            some { p.clearYMDHMS with jd := cut (r + 0.5), validJD := true, rawS := false }
          else none
      else if lower == "utc" then
        if p.isUtc then some p
        else
          let q := p.computeJD
          some { ({} : Moment) with jd := q.jd, validJD := true, isUtc := true }
      else none
    else if first == 'w' then
      if lower.startsWith "weekday " then
        match DateText.wholeNumber (String.ofList (cs.drop 8)) with
        | some r =>
          if r ≥ 0.0 && r < 7.0 && toF (cut r) == r then
            let n := cut r
            let q := { p.computeYMDHMS with validTZ := false, validJD := false }.computeJD
            let z := ((q.jd + 129600000).tdiv dayMs) % 7
            let z := if z > n then z - 7 else z
            some { q with jd := q.jd + (n - z) * dayMs }.clearYMDHMS
          else none
        | none => none
      else none
    else if first == 's' then
      if lower.startsWith "start of " then
        if !p.validJD && !p.validYMD && !p.validHMS then none
        else
          let rest := String.ofList (lower.toList.drop 9)
          let q := p.computeYMD
          let q := { q with
            validHMS := true, hour := 0, minute := 0, second := 0.0, rawS := false,
            validTZ := false, validJD := false }
          if rest == "month" then some { q with day := 1 }
          else if rest == "year" then some { q with month := 1, day := 1 }
          else if rest == "day" then some q
          else none
      else if lower == "subsec" || lower == "subsecond" then some { p with useSubsec := true }
      else none
    else if c0 == '+' || c0 == '-' || c0.isDigit then
      let n := numberEnd cs
      match DateText.wholeNumber (String.ofList (cs.take n)) with
      | none => none
      | some r =>
        let after := cs.drop n
        let negative := c0 == '-'
        match after with
        | '-' :: _ =>
          if c0 != '+' && c0 != '-' then none
          else if n == 5 then addDate p negative (cs.drop 1) 4
          else addDate p negative (cs.drop 1) 5
        | ':' :: _ => addTime p negative cs
        | _ => addUnits p r after
    else none

end Moment

namespace DateText

/-- A moment from the arguments of a date function: the first gives the moment, the others
modify it. No argument at all is now. -/
def ofArgs (args : List Datum) : Option Moment := do
  let p ← match args with
    | [] => some { ({} : Moment) with jd := Moment.nowJD, validJD := true }
    | a :: _ =>
      match a with
      | .integer n => some (({} : Moment).setRaw (Float.ofInt n))
      | .real x => some (({} : Moment).setRaw x)
      | .null => none
      | other => moment other.toText
  let mods := args.drop 1
  let rec apply : List Datum → Nat → Moment → Option Moment
    | [], _, p => some p
    | m :: ms, i, p =>
      match m.toText? with
      | none => none
      | some t => (Moment.modify p t i).bind (apply ms (i + 1))
  let p ← apply mods 1 p
  let p := p.computeJD
  if p.isError || !Moment.validJulianDay p.jd then none
  else if args.length == 1 && p.validYMD && p.day > 28 then some { p with validYMD := false }
  else some p

/-- Digits of a number, zero-padded to a width. -/
def padded (width : Nat) (n : Int) : String :=
  let ds := toString n.natAbs
  let w := if n < 0 then width - 1 else width
  let ds := String.ofList (List.replicate (w - ds.length) '0') ++ ds
  if n < 0 then "-" ++ ds else ds

/-- Digits of a number, blank-padded to a width. -/
def spaced (width : Nat) (n : Int) : String :=
  let ds := toString n
  String.ofList (List.replicate (width - ds.length) ' ') ++ ds

/-- A number formatted as `printf` would. -/
def formatted (format : String) (x : Float) : String := (printfText format [.real x]).getD ""

/-- The year as a date writes it: four digits, a sign before negative years. -/
def yearText (y : Int) : String :=
  let a := y.natAbs
  let ds := String.ofList [Char.ofNat (48 + (a / 1000) % 10), Char.ofNat (48 + (a / 100) % 10),
    Char.ofNat (48 + (a / 10) % 10), Char.ofNat (48 + a % 10)]
  if y < 0 then "-" ++ ds else ds

/-- Two digits of a number. -/
def two (n : Int) : String :=
  let a := n.natAbs
  String.ofList [Char.ofNat (48 + (a / 10) % 10), Char.ofNat (48 + a % 10)]

/-- `date(…)`. -/
def dateText (p : Moment) : String :=
  let p := p.computeYMD
  yearText p.year ++ "-" ++ two p.month ++ "-" ++ two p.day

/-- The seconds as a time writes them: whole, or with milliseconds under `subsec`. -/
def secondsText (p : Moment) : String :=
  if p.useSubsec then
    let s := Moment.cut (1000.0 * p.second + 0.5)
    let a := s.natAbs
    String.ofList [Char.ofNat (48 + (a / 10000) % 10), Char.ofNat (48 + (a / 1000) % 10), '.',
      Char.ofNat (48 + (a / 100) % 10), Char.ofNat (48 + (a / 10) % 10), Char.ofNat (48 + a % 10)]
  else two (Moment.cut p.second)

/-- `time(…)`. -/
def timeText (p : Moment) : String :=
  let p := p.computeHMS
  two p.hour ++ ":" ++ two p.minute ++ ":" ++ secondsText p

/-- `datetime(…)`. -/
def dateTimeText (p : Moment) : String :=
  let p := p.computeYMDHMS
  dateText p ++ " " ++ timeText p

/-- Seconds since 1970 as `unixepoch` gives them. -/
def unixSeconds (p : Moment) : Datum :=
  if p.useSubsec then .real (Moment.toF (p.jd - 210866760000000) / 1000.0)
  else .integer (p.jd.tdiv 1000 - 210866760000)

/-- Days since the first of January of the moment's year. -/
def daysAfterJan01 (p : Moment) : Int :=
  let j := { p with validJD := false, month := 1, day := 1 }.computeJD
  (p.jd - j.jd + 43200000).tdiv Moment.dayMs

/-- Days since the last Monday. -/
def daysAfterMonday (p : Moment) : Int := ((p.jd + 43200000).tdiv Moment.dayMs) % 7

/-- Days since the last Sunday. -/
def daysAfterSunday (p : Moment) : Int := ((p.jd + 129600000).tdiv Moment.dayMs) % 7

/-- The Thursday of the moment's week, for week-based years. -/
def thursday (p : Moment) : Moment :=
  { p with jd := p.jd + (3 - daysAfterMonday p) * Moment.dayMs, validYMD := false }.computeYMD

/-- One `strftime` conversion; none for a letter it does not know. -/
def conversion (p : Moment) (c : Char) : Option String :=
  match c with
  | 'd' => some (padded 2 p.day)
  | 'e' => some (spaced 2 p.day)
  | 'f' => some (formatted "%06.3f" (if p.second > 59.999 then 59.999 else p.second))
  | 'F' => some (padded 4 p.year ++ "-" ++ padded 2 p.month ++ "-" ++ padded 2 p.day)
  | 'G' => some (padded 4 (thursday p).year)
  | 'g' => some (padded 2 ((thursday p).year.tmod 100))
  | 'H' => some (padded 2 p.hour)
  | 'k' => some (spaced 2 p.hour)
  | 'I' | 'l' =>
    let h := if p.hour > 12 then p.hour - 12 else p.hour
    let h := if h == 0 then 12 else h
    some (if c == 'I' then padded 2 h else spaced 2 h)
  | 'j' => some (padded 3 (daysAfterJan01 p + 1))
  | 'J' => some (formatted "%.16g" (Moment.toF p.jd / 86400000.0))
  | 'm' => some (padded 2 p.month)
  | 'M' => some (padded 2 p.minute)
  | 'p' => some (if p.hour ≥ 12 then "PM" else "AM")
  | 'P' => some (if p.hour ≥ 12 then "pm" else "am")
  | 'R' => some (padded 2 p.hour ++ ":" ++ padded 2 p.minute)
  | 's' =>
    if p.useSubsec then some (formatted "%.3f" (Moment.toF (p.jd - 210866760000000) / 1000.0))
    else some (toString (p.jd.tdiv 1000 - 210866760000))
  | 'S' => some (padded 2 (Moment.cut p.second))
  | 'T' => some (padded 2 p.hour ++ ":" ++ padded 2 p.minute ++ ":" ++ padded 2 (Moment.cut p.second))
  | 'u' => some (let d := daysAfterSunday p; toString (if d == 0 then 7 else d))
  | 'w' => some (toString (daysAfterSunday p))
  | 'U' => some (padded 2 ((daysAfterJan01 p - daysAfterSunday p + 7).tdiv 7))
  | 'V' => some (padded 2 ((daysAfterJan01 (thursday p)).tdiv 7 + 1))
  | 'W' => some (padded 2 ((daysAfterJan01 p - daysAfterMonday p + 7).tdiv 7))
  | 'Y' => some (padded 4 p.year)
  | '%' => some "%"
  | _ => none

/-- `strftime(format, …)`: none when a conversion is unknown. -/
def strftimeText (format : String) (p : Moment) : Option String :=
  let p := p.computeJD.computeYMDHMS
  let rec go : List Char → String → Option String
    | [], acc => some acc
    | '%' :: c :: rest, acc =>
      match conversion p c with
      | some s => go rest (acc ++ s)
      | none => none
    | ['%'], _ => none
    | c :: rest, acc => go rest (acc.push c)
  go format.toList ""

/-- Recomputes a moment's day number from its date and time. -/
def recompute (p : Moment) : Moment := { p with validJD := false }.computeJD

/-- `timediff(a, b)`: the span from `b` to `a` in years, months, days and time. -/
def timediffText (d1 d2 : Moment) : String :=
  let d1 := d1.computeYMDHMS
  let d2 := d2.computeYMDHMS
  let forward := d1.jd ≥ d2.jd
  let y := if forward then d1.year - d2.year else d2.year - d1.year
  let d2 := if y != 0 then recompute { d2 with year := d1.year } else d2
  let m := if forward then d1.month - d2.month else d2.month - d1.month
  let (y, m) := if m < 0 then (y - 1, m + 12) else (y, m)
  let d2 := if m != 0 then recompute { d2 with month := d1.month } else d2
  let rec settle : Nat → Int → Int → Moment → Int × Int × Moment
    | 0, y, m, d2 => (y, m, d2)
    | k + 1, y, m, d2 =>
      if (forward && d1.jd < d2.jd) || (!forward && d1.jd > d2.jd) then
        let (y, m) := if m - 1 < 0 then (y - 1, 11) else (y, m - 1)
        let d2 :=
          if forward then
            if d2.month - 1 < 1 then { d2 with month := 12, year := d2.year - 1 } else { d2 with month := d2.month - 1 }
          else
            if d2.month + 1 > 12 then { d2 with month := 1, year := d2.year + 1 } else { d2 with month := d2.month + 1 }
        settle k y m (recompute d2)
      else (y, m, d2)
  let (y, m, d2) := settle 24 y m d2
  let span := if forward then d1.jd - d2.jd else d2.jd - d1.jd
  let r := ({ ({} : Moment) with jd := span + 148699540800000, validJD := true }).computeYMDHMS
  let sign := if forward then "+" else "-"
  sign ++ padded 4 y ++ "-" ++ padded 2 m ++ "-" ++ padded 2 (r.day - 1) ++ " " ++ padded 2 r.hour ++
    ":" ++ padded 2 r.minute ++ ":" ++ formatted "%06.3f" r.second

end DateText

end QueryDoc.Store
