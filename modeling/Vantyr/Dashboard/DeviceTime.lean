import Mathlib.Data.List.Dedup
import Vantyr.Data.Civil
import Vantyr.Data.Decimal

/-!
This module contains how a wall clock of a device is resolved to an instant (`deviceTime` in
`frontend/src/features/recall/lib/recallRetrieval.ts`): the offsets of the zone at three instants are tried.
Instants and wall clocks are counted in milliseconds.
-/

namespace Vantyr

namespace DeviceTime

def hours (n : Int) : Int :=
  n * (60 * 60 * 1000)

def isDigit (c : Char) : Bool :=
  '0' ≤ c && c ≤ '9'

def number (digits : List Char) : Nat :=
  digits.foldl (fun n c => n * 10 + (c.toNat - 48)) 0

structure Fields where
  year : Nat
  month : Nat
  day : Nat
  hour : Nat
  minute : Nat
  second : Nat
  deriving DecidableEq, Repr

-- `YYYY-MM-DDTHH:mm:ss`
def readFields : List Char → Option Fields
  | [y, y', y'', y''', s, mo, mo', s', d, d', s'', h, h', s''', mi, mi', s'''', sec, sec'] =>
    if [y, y', y'', y''', mo, mo', d, d', h, h', mi, mi', sec, sec'].all isDigit
        && s = '-' && s' = '-' && s'' = 'T' && s''' = ':' && s'''' = ':' then
      some {
        year := number [y, y', y'', y''']
        month := number [mo, mo']
        day := number [d, d']
        hour := number [h, h']
        minute := number [mi, mi']
        second := number [sec, sec']
      }
    else
      none
  | _ => none

def Fields.time (f : Fields) : Int :=
  let days := Civil.toDays { year := f.year, month := f.month, day := f.day }
  (((days * 24 + f.hour) * 60 + f.minute) * 60 + f.second) * 1000

-- `Date.parse` of such a text and a `Z`.
def dateParse (text : List Char) : Option Int :=
  (readFields text).bind fun f =>
    if 1 ≤ f.month ∧ f.month ≤ 12 ∧ 1 ≤ f.day ∧ f.day ≤ 31
        ∧ (f.hour ≤ 23 ∧ f.minute ≤ 59 ∧ f.second ≤ 59 ∨ f.hour = 24 ∧ f.minute = 0 ∧ f.second = 0) then
      some f.time
    else
      none

def yearText (year : Int) : List Char :=
  if 0 ≤ year ∧ year ≤ 9999 then Decimal.digits 4 year.toNat
  else (if year < 0 then '-' else '+') :: Decimal.digits 6 year.natAbs

def toISOString (time : Int) : List Char :=
  let date := Civil.ofDays (time / hours 24)
  let millis := (time % hours 24).toNat
  yearText date.year ++ '-' :: Decimal.digits 2 date.month.toNat ++ '-' :: Decimal.digits 2 date.day.toNat
    ++ 'T' :: Decimal.digits 2 (millis / 3600000) ++ ':' :: Decimal.digits 2 (millis / 60000 % 60)
    ++ ':' :: Decimal.digits 2 (millis / 1000 % 60) ++ '.' :: Decimal.digits 3 (millis % 1000) ++ ['Z']

/--
The offset of a zone at every instant: it is within those in use, a number of seconds, and changes at most
once in 48 hours.
-/
structure Zone where
  offset : Int → Int
  bounded : ∀ t, -hours 12 ≤ offset t ∧ offset t ≤ hours 14
  seconds : ∀ t, 1000 ∣ offset t
  sparse : ∀ t u, offset t ≠ offset (t - 1) → offset u ≠ offset (u - 1) → t < u → hours 48 ≤ u - t

-- The format of the zone is taken to show the seconds of its wall clock, in any year.
def Zone.wall (zone : Zone) (ms : Int) : Int :=
  (ms + zone.offset ms) / 1000 * 1000

def normalize (value : List Char) : List Char :=
  if value.length = 16 then value ++ ":00".toList else value

-- The wall clock of an instant, to the millisecond.
def Zone.Shows (zone : Zone) (t : Int) (value : List Char) : Prop :=
  toISOString (t + zone.offset t) = normalize value ++ ".000Z".toList

/-!
Texts of instants.
-/

def Fields.text (f : Fields) : List Char :=
  Decimal.digits 4 f.year ++ '-' :: Decimal.digits 2 f.month ++ '-' :: Decimal.digits 2 f.day
    ++ 'T' :: Decimal.digits 2 f.hour ++ ':' :: Decimal.digits 2 f.minute ++ ':' :: Decimal.digits 2 f.second

def fieldsOf (time : Int) : Fields :=
  let date := Civil.ofDays (time / hours 24)
  let millis := (time % hours 24).toNat
  {
    year := date.year.toNat
    month := date.month.toNat
    day := date.day.toNat
    hour := millis / 3600000
    minute := millis / 60000 % 60
    second := millis / 1000 % 60
  }

theorem length_text (f : Fields) : f.text.length = 19 := by
  simp [Fields.text]

variable (zone : Zone)

def Zone.matches (target : Int) : List Int :=
  ((([-hours 24, 0, hours 24].map (fun delta => zone.wall (target + delta) - (target + delta))).dedup).map
    (fun offset => target - offset)).filter (fun ms => zone.wall ms = target)

end DeviceTime

end Vantyr
