import GpuShare.Text.Decimal
import GpuShare.Time.Civil

/-!
Times as RFC 3339 text. A time is a number of nanoseconds since 1970-01-01T00:00:00 UTC. It is written
in UTC with as many groups of three fraction digits as it needs; any offset is read.
-/

set_option autoImplicit false

namespace GpuShare.Time

open Text

/-- Nanoseconds since the start of 1970 in UTC. -/
abbrev Instant := Int

def nanosPerSecond : Int := 1000000000

def secondsPerDay : Int := 86400

def padded (width n : Nat) : List Char :=
  let written := digits n
  List.replicate (width - written.length) '0' ++ written

/-- The fraction of a second in none, three, six or nine digits. -/
def fractionText (nanos : Nat) : List Char :=
  if nanos = 0 then []
  else if nanos % 1000000 = 0 then '.' :: padded 3 (nanos / 1000000)
  else if nanos % 1000 = 0 then '.' :: padded 6 (nanos / 1000)
  else '.' :: padded 9 nanos

def yearText (year : Int) : List Char :=
  if 0 ≤ year ∧ year ≤ 9999 then padded 4 year.toNat
  else (if year < 0 then '-' else '+') :: padded 4 year.natAbs

def dateText (date : Date) : List Char :=
  yearText date.year ++ '-' :: padded 2 date.month ++ '-' :: padded 2 date.day

def Instant.text (instant : Instant) (separator : Char) : List Char :=
  let seconds := instant.fdiv nanosPerSecond
  let nanos := (instant - seconds * nanosPerSecond).toNat
  let days := seconds.fdiv secondsPerDay
  let second := (seconds - days * secondsPerDay).toNat
  dateText (Date.ofDays days) ++ separator :: padded 2 (second / 3600) ++ ':' :: padded 2 (second / 60 % 60) ++
    ':' :: padded 2 (second % 60) ++ fractionText nanos

def Instant.toRfc3339 (instant : Instant) : String :=
  String.ofList (instant.text 'T' ++ "+00:00".toList)

def Instant.display (instant : Instant) : String := String.ofList (instant.text ' ' ++ " UTC".toList)

def Instant.day (instant : Instant) : String :=
  String.ofList (dateText (Date.ofDays ((instant.fdiv nanosPerSecond).fdiv secondsPerDay)))

def readDigits? : Nat → Nat → List Char → Option (Nat × List Char)
  | 0, value, cs => some (value, cs)
  | _ + 1, _, [] => none
  | n + 1, value, c :: cs => (digitValue? c).bind fun d => readDigits? n (value * 10 + d) cs

def readOneOf? (allowed : List Char) : List Char → Option (List Char)
  | c :: cs => if c ∈ allowed then some cs else none
  | [] => none

/-- The nanoseconds of fraction digits: nine of them count. -/
def fractionNanos (fraction : List Char) : Nat :=
  let used := fraction.take 9
  ((readNat? used).getD 0) * Nat.pow 10 (9 - used.length)

def readFraction? : List Char → Option (Nat × List Char)
  | '.' :: cs =>
    match cs.takeWhile (·.isDigit) with
    | [] => none
    | fraction => some (fractionNanos fraction, cs.dropWhile (·.isDigit))
  | cs => some (0, cs)

/-- Reads an offset from UTC, in seconds, up to a day. -/
def readOffset? : List Char → Option (Int × List Char)
  | [] => none
  | c :: cs =>
    if c = 'Z' ∨ c = 'z' then some (0, cs)
    else if c = '+' ∨ c = '-' ∨ c = '−' then do
      let (hours, cs) ← readDigits? 2 0 cs
      let cs ← readOneOf? [':'] cs
      let (minutes, cs) ← readDigits? 2 0 cs
      if minutes < 60 ∧ hours < 24 then
        let seconds : Int := hours * 3600 + minutes * 60
        some (if c = '+' then seconds else -seconds, cs)
      else none
    else none

/-- Reads a time. The second 60 is taken for the start of the next minute. -/
def Instant.ofRfc3339? (text : String) : Option Instant := do
  let (year, cs) ← readDigits? 4 0 text.toList
  let cs ← readOneOf? ['-'] cs
  let (month, cs) ← readDigits? 2 0 cs
  let cs ← readOneOf? ['-'] cs
  let (day, cs) ← readDigits? 2 0 cs
  let cs ← readOneOf? ['T', 't', ' '] cs
  let (hour, cs) ← readDigits? 2 0 cs
  let cs ← readOneOf? [':'] cs
  let (minute, cs) ← readDigits? 2 0 cs
  let cs ← readOneOf? [':'] cs
  let (second, cs) ← readDigits? 2 0 cs
  let (nanos, cs) ← readFraction? cs
  let (offset, cs) ← readOffset? cs
  let date : Date := ⟨year, month, day⟩
  if cs.isEmpty ∧ date.isValid ∧ hour < 24 ∧ minute < 60 ∧ second ≤ 60 then
    let wall : Int := date.toDays * secondsPerDay + hour * 3600 + minute * 60 + second
    some ((wall - offset) * nanosPerSecond + nanos)
  else none

end GpuShare.Time
