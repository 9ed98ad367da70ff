import Courier.Text.Blank

/-! Business dates: days of the Gregorian calendar, extended to all years. -/
namespace Courier.BusinessDate

def isLeap (year : Int) : Bool := year % 4 == 0 && (year % 100 != 0 || year % 400 == 0)

def daysIn (year : Int) (month : Nat) : Nat :=
  if month = 2 then if isLeap year then 29 else 28
  else if month = 4 ∨ month = 6 ∨ month = 9 ∨ month = 11 then 30
  else 31

structure Day where
  year : Int
  month : Nat
  day : Nat
  deriving DecidableEq

/-- The day is in the calendar. -/
def Day.valid (d : Day) : Bool :=
  1 ≤ d.month && d.month ≤ 12 && 1 ≤ d.day && d.day ≤ daysIn d.year d.month

/-- Reads from one to `most` digits. -/
def readNumber (most : Nat) (cs : List Char) : Option (Nat × List Char) :=
  let digits := (cs.take most).takeWhile Char.isDigit
  if digits.isEmpty then none
  else some (digits.foldl (fun n c => n * 10 + (c.toNat - 48)) 0, cs.drop digits.length)

/-- A year has at most four digits, unless it has a sign. -/
def readYear (cs : List Char) : Option (Int × List Char) :=
  match cs.dropWhile Text.isBlank with
  | '-' :: rest => (readNumber rest.length rest).map fun (n, after) => (-(n : Int), after)
  | '+' :: rest => (readNumber rest.length rest).map fun (n, after) => ((n : Int), after)
  | rest => (readNumber 4 rest).map fun (n, after) => ((n : Int), after)

/-- A month or a day has at most two digits; blanks may stand in front of it. -/
def readPart (cs : List Char) : Option (Nat × List Char) := readNumber 2 (cs.dropWhile Text.isBlank)

def readDash : List Char → Option (List Char)
  | '-' :: rest => some rest
  | _ => none

/-- Reads year, month and day with dashes between them. -/
def parse? (cs : List Char) : Option Day := do
  let (year, cs) ← readYear cs
  let cs ← readDash cs
  let (month, cs) ← readPart cs
  let cs ← readDash cs
  let (day, cs) ← readPart cs
  let d : Day := ⟨year, month, day⟩
  if cs.isEmpty && d.valid then some d else none

/-- A date that has been trimmed is written with ten bytes. -/
def accepts (date : String) : Bool := date.utf8ByteSize == 10 && (parse? date.toList).isSome

end Courier.BusinessDate
