import PortMap.Numeral.Integer
import PortMap.Numeral.Power
import PortMap.Toml.Fault
import PortMap.Value.Basic

/-!
# Days and times in documents

A day is written as `1979-05-27`, a time of day as `07:32:00`, with a fraction of a second after a point,
and a time on a day as the two with a character between them, with the offset of its zone at the end. Only
the places of the numbers count: which characters stand between them is not looked at.
-/

namespace PortMap.Toml

open Text

/-! ### Times of day -/

/-- Reads two plain digits. -/
def twoDigits? : List Char → Option (Nat × List Char)
  | a :: b :: rest =>
    match plainDigit? a, plainDigit? b with
    | some x, some y => some (10 * x + y, rest)
    | _, _ => none
  | _ => none

/-- Reads two plain digits after a colon. -/
def afterColon? : List Char → Option (Nat × List Char)
  | ':' :: rest => twoDigits? rest
  | _ => none

/-- The number behind a point that has from three to six digits; without one it is zero. -/
def microseconds : List Char → Nat
  | '.' :: rest =>
    let ds := (rest.takeWhile isPlainDigit).take 6
    if 3 ≤ ds.length then plainNumber ds else 0
  | _ => 0

/-- The numbers of a time of day at the start of a text: hour, minute, second and microsecond. -/
def clockNumbers? (s : List Char) : Option (Nat × Nat × Nat × Nat) :=
  match twoDigits? s with
  | none => none
  | some (h, rest) =>
    match afterColon? rest with
    | none => none
    | some (m, rest) => (afterColon? rest).map fun (s, rest) => (h, m, s, microseconds rest)

/-- Reads a time of day from its numbers. -/
def readClock (ns : Nat × Nat × Nat × Nat) : Except Fault Value :=
  match Clock.of? ns.1 ns.2.1 ns.2.2.1 ns.2.2.2 with
  | some c => .ok (.clock c)
  | none => .error .malformed

/-! ### Days -/

/-- The number in the characters from a place up to another one. -/
def numberAt? (s : List Char) (start stop : Nat) : Option Int :=
  readInt? ((s.take stop).drop start)

/-- The day at the start of a text. -/
def dayAt? (s : List Char) : Option Day :=
  match numberAt? s 0 4, numberAt? s 5 7, numberAt? s 8 10 with
  | some y, some m, some d => Day.of? y m d
  | _, _, _ => none

/-! ### Fractions and zones -/

/-- Whether a text is the offset of a zone: a sign, hours and minutes, or the letter of none. -/
def isZone (s : List Char) : Bool :=
  s = ['Z'] || ((numberAt? s 1 3).isSome && (numberAt? s 4 6).isSome)

/-- Splits what follows the point of the seconds into the fraction and the offset of the zone. -/
def splitZone (s : List Char) : List Char × Option (List Char) :=
  if s.getLast? = some 'Z' ∨ s.getLast? = some 'z' then (s.dropLast, some ['Z'])
  else
    let sign := if s.contains '+' then '+' else '-'
    let fraction := s.takeWhile (· != sign)
    (fraction, if s.contains sign then some (s.drop fraction.length) else none)

/-- The whole number that is `n` times the power of ten with the negative exponent `-k`, where the power
and the product are rounded. -/
def scaledDown (n : Int) (k : Nat) : Except Fault Int :=
  match Binary64.ofInt? n with
  | none => .error .fractionTooLarge
  | some x =>
    let power := ((Binary64.ofInt 10).pow (Binary64.ofInt (-k))).getD (.zero false)
    .ok ((x.mul power).truncate)

/-- The microseconds of a fraction of a second. -/
def fractionMicroseconds? (fraction : List Char) : Except Fault (Option Int) :=
  match readInt? fraction with
  | none => .ok none
  | some n =>
    if fraction.length ≤ 6 then .ok (some (n * 10 ^ (6 - fraction.length)))
    else (scaledDown n (fraction.length - 6)).map some

/-- The microseconds and the zone that follow the seconds. What cannot be read counts as nothing. -/
def readTail (s : List Char) : Except Fault (Int × Option String) :=
  match s with
  | [] => .ok (0, none)
  | '.' :: rest =>
    let (fraction, zone) := splitZone rest
    if zone.any fun z => !isZone z then .ok (0, none)
    else
      (fractionMicroseconds? fraction).map fun n =>
        match n with
        | some n => (n, zone.map String.ofList)
        | none => (0, none)
  | zone => .ok (0, if isZone zone then some (String.ofList zone) else none)

/-- The day, or the time on a day, that a text is. -/
def readDay? (s : List Char) : Except Fault (Option Value) :=
  match readTail (s.drop 19) with
  | .error e => .error e
  | .ok (micro, zone) =>
    if !(s.drop 1).contains '-' then .ok none
    else
      match dayAt? s with
      | none => .ok none
      | some d =>
        if s.length = 10 then .ok (some (.day d))
        else
          match numberAt? s 11 13, numberAt? s 14 16, numberAt? s 17 19 with
          | some h, some m, some sec =>
            .ok ((Clock.of? h m sec micro).map fun c => .moment d c zone)
          | _, _, _ => .ok none

example : clockNumbers? "07:32:00.999".toList = some (7, 32, 0, 999) := by decide

end PortMap.Toml
