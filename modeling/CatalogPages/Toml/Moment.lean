/-
**Dates and times of a settings file.**

A date, a time, or a date and a time with or without an offset. They are kept as text of one form:
a `T` before the time, at most nine digits of a second without zeros at the end, and `Z` or a signed
offset of hours and minutes.
-/

import CatalogPages.Toml.Number

namespace CatalogPages.Toml

/-- Just so many digits. -/
def digitsOf : Nat → Scanner (List Char)
  | 0 => return []
  | count + 1 => do
    let digit ← take Char.isDigit
    return digit :: (← digitsOf count)

/-- Two digits whose number is in a range. -/
def twoDigits (least greatest : Nat) : Scanner (List Char) := do
  let digits ← digitsOf 2
  let n := decimalNumber digits
  if least ≤ n && n ≤ greatest then return digits else failure

/-- Whether a year has a leap day. -/
def isLeapYear (year : Nat) : Bool :=
  year % 4 == 0 && (year % 100 != 0 || year % 400 == 0)

/-- How many days a month has. -/
def daysOfMonth (year month : Nat) : Nat :=
  if month = 2 then (if isLeapYear year then 29 else 28)
  else if month ∈ [4, 6, 9, 11] then 30
  else 31

/-- A date. -/
def date : Scanner (List Char) := do
  let year ← digitsOf 4
  expect ['-']
  let month ← twoDigits 1 12
  expect ['-']
  let day ← twoDigits 1 (daysOfMonth (decimalNumber year) (decimalNumber month))
  return year ++ '-' :: month ++ '-' :: day

/-- The digits of a part of a second that are kept. -/
def keptFraction (digits : List Char) : List Char :=
  match ((digits.take 9).reverse.dropWhile (· == '0')).reverse with
  | [] => []
  | kept => '.' :: kept

/-- A time of day. -/
def time : Scanner (List Char) := do
  let hour ← twoDigits 0 23
  expect [':']
  let minute ← twoDigits 0 59
  expect [':']
  let second ← twoDigits 0 60
  let part ←
    if ← accept ['.'] then do
      let first ← take Char.isDigit
      pure (first :: (← takeAll Char.isDigit))
    else pure []
  return hour ++ ':' :: minute ++ ':' :: second ++ keptFraction part

/-- The offset of a time, if one comes next. -/
def offset : Scanner (List Char) := do
  match ← peek with
  | some 'Z' | some 'z' =>
    let _ ← take fun _ => true
    return ['Z']
  | some '+' | some '-' =>
    let negative ← sign
    let hour ← twoDigits 0 23
    expect [':']
    let minute ← twoDigits 0 59
    let zero := hour ++ minute = ['0', '0', '0', '0']
    return (if negative && !zero then '-' else '+') :: hour ++ ':' :: minute
  | _ => return []

/-- A scanner's result, or nothing taken where it fails. -/
def optional (scanner : Scanner α) : Scanner (Option α) := fun text =>
  match scanner text with
  | some (value, rest) => some (some value, rest)
  | none => some (none, text)

/-- A time after a date, with its offset. -/
def timeAfterDate : Scanner (List Char) := do
  let _ ← take fun c => c == 'T' || c == 't' || c == ' '
  let time ← time
  return 'T' :: time ++ (← offset)

/-- A date, a time, or both. -/
def moment : Scanner Value := do
  match ← optional date with
  | some date =>
    let time ← optional timeAfterDate
    return .moment (String.ofList (date ++ time.getD []))
  | none => return .moment (String.ofList (← time))

end CatalogPages.Toml
