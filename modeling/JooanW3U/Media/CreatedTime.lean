import JooanW3U.Media.CText

/-!
Owns the civil date arithmetic of the ONVIF service: `civil_days`, and
`created_time`, which reads the Created stamp of a UsernameToken.
-/

namespace JooanW3U.Media

/-- Days from 1970-01-01 to a civil date (`civil_days`). -/
def civilDays (y : Int) (m d : Int) : Int :=
  let y := if m ≤ 2 then y - 1 else y
  let era := (if y ≥ 0 then y else y - 399).tdiv 400
  let yo := y - era * 400
  let adjusted := if m > 2 then m - 3 else m + 9
  let doy := (153 * adjusted + 2).tdiv 5 + d - 1
  era * 146097 + (yo * 365 + yo.tdiv 4 - yo.tdiv 100 + doy) - 719468

/-- Days of each month outside leap years. -/
def monthDays : List Int := [31, 28, 31, 30, 31, 30, 31, 31, 30, 31, 30, 31]

/-- The fields of `"%4d-%2d-%2dT%2d:%2d:%2d%n"`, with what follows them. -/
structure ScannedTime where
  year : Int
  month : Int
  day : Int
  hour : Int
  minute : Int
  second : Int
  rest : List Char
deriving Repr, DecidableEq

def scanTime (s : List Char) : Option ScannedTime := do
  let (y, s) ← scanInt 4 s
  let s ← scanChar '-' s
  let (m, s) ← scanInt 2 s
  let s ← scanChar '-' s
  let (d, s) ← scanInt 2 s
  let s ← scanChar 'T' s
  let (h, s) ← scanInt 2 s
  let s ← scanChar ':' s
  let (mi, s) ← scanInt 2 s
  let s ← scanChar ':' s
  let (se, s) ← scanInt 2 s
  return ⟨y, m, d, h, mi, se, s⟩

/-- Drop an optional fraction of one to nine digits; `none` when it is malformed. -/
def dropFraction : List Char → Option (List Char)
  | '.' :: rest =>
      let digits := rest.takeWhile Char.isDigit
      if digits.length > 9 || digits.isEmpty then none
      else some (rest.dropWhile Char.isDigit)
  | rest => some rest

def digit (c : Char) : Int := (c.toNat : Int) - 48

/-- The zone suffix as seconds east of UTC. -/
def zoneOffset : List Char → Option Int
  | ['Z'] => some 0
  | [sign, a, b, ':', c, d] =>
      if (sign = '+' || sign = '-') && a.isDigit && b.isDigit && c.isDigit && d.isDigit then
        let hours := digit a * 10 + digit b
        let minutes := digit c * 10 + digit d
        if hours > 14 || minutes > 59 || (hours = 14 && minutes ≠ 0) then none
        else some ((hours * 3600 + minutes * 60) * (if sign = '+' then 1 else -1))
      else none
  | _ => none

/-- The UTC second a Created stamp denotes (`created_time`); `none` is its -1. -/
def createdTime (s : List Char) : Option Int := do
  let t ← scanTime s
  if s.length - t.rest.length ≠ 19 then none
  if t.year < 1970 || t.year > 9999 || t.month < 1 || t.month > 12 || t.day < 1 ||
      t.hour < 0 || t.hour > 23 || t.minute < 0 || t.minute > 59 ||
      t.second < 0 || t.second > 59 then none
  let leap := t.month = 2 && t.year % 4 = 0 && (t.year % 100 ≠ 0 || t.year % 400 = 0)
  let max := monthDays.getD (t.month - 1).toNat 0 + (if leap then 1 else 0)
  if t.day > max then none
  let p ← dropFraction t.rest
  let offset ← zoneOffset p
  return civilDays t.year t.month t.day * 86400 + t.hour * 3600 + t.minute * 60 + t.second - offset

example : createdTime "2024-02-29T12:00:00.5+01:00".toList = some 1709204400 := by decide

end JooanW3U.Media
