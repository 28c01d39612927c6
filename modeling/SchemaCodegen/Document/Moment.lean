import SchemaCodegen.Number.Literal

/-!
# Dates and times

A moment is a date, a time of day, or a date with a time and perhaps an offset from universal time.
It is read from several spellings and written in one: with a `T` before the time, with seconds, and
with at most nine digits of a fraction, none of them a zero at the end.
-/

namespace SchemaCodegen.Document

open SchemaCodegen.Number

structure Date where
  year : Nat
  month : Nat
  day : Nat
deriving DecidableEq, Repr

structure Time where
  hour : Nat
  minute : Nat
  second : Nat
  /-- The digits of the fraction of a second. -/
  fraction : List Char
deriving DecidableEq, Repr

/-- A distance from universal time. -/
inductive Offset where
  | zero
  | minutes (west : Bool) (count : Nat)
deriving DecidableEq, Repr

/-- A date, a time, or both. -/
inductive Moment where
  | date (d : Date)
  | time (t : Time)
  | both (d : Date) (t : Time) (offset : Option Offset)
deriving DecidableEq, Repr

/-! ## Reading -/

/-- The number that `count` digits at the start of a text spell, and what follows them. -/
def fixedDigits? (count : Nat) (cs : List Char) : Option (Nat × List Char) :=
  let digits := cs.take count
  if digits.length = count ∧ digits.all isDigit then some (natOfDigits 0 digits, cs.drop count)
  else none

/-- What follows a character at the start of a text. -/
def after? (c : Char) : List Char → Option (List Char)
  | [] => none
  | d :: cs => if d = c then some cs else none

def isLeapYear (year : Nat) : Bool :=
  year % 4 == 0 && (year % 100 != 0 || year % 400 == 0)

def daysOfMonth (year month : Nat) : Nat :=
  if month = 2 then (if isLeapYear year then 29 else 28)
  else if month = 4 ∨ month = 6 ∨ month = 9 ∨ month = 11 then 30
  else 31

def Date.isValid (d : Date) : Bool :=
  decide (1 ≤ d.month) && decide (d.month ≤ 12) && decide (1 ≤ d.day) &&
    decide (d.day ≤ daysOfMonth d.year d.month)

/-- Whether a time is on the clock, leap seconds included. -/
def Time.isValid (t : Time) : Bool :=
  decide (t.hour ≤ 23) && decide (t.minute ≤ 59) && decide (t.second ≤ 60)

def Date.lead? (cs : List Char) : Option (Date × List Char) := do
  let (year, cs) ← fixedDigits? 4 cs
  let (month, cs) ← fixedDigits? 2 (← after? '-' cs)
  let (day, cs) ← fixedDigits? 2 (← after? '-' cs)
  if Date.isValid ⟨year, month, day⟩ then some (⟨year, month, day⟩, cs) else none

/-- The fraction of a second at the start of a text: a point and at least one digit, or nothing. -/
def fractionLead? : List Char → Option (List Char × List Char)
  | '.' :: cs =>
    if (cs.takeWhile isDigit).isEmpty then none
    else some (cs.takeWhile isDigit, cs.dropWhile isDigit)
  | cs => some ([], cs)

/-- The seconds at the start of a text, which may be left out. -/
def secondsLead? : List Char → Option (Nat × List Char × List Char)
  | ':' :: cs => do
    let (second, cs) ← fixedDigits? 2 cs
    let (fraction, cs) ← fractionLead? cs
    some (second, fraction, cs)
  | cs => some (0, [], cs)

def Time.lead? (cs : List Char) : Option (Time × List Char) := do
  let (hour, cs) ← fixedDigits? 2 cs
  let (minute, cs) ← fixedDigits? 2 (← after? ':' cs)
  let (second, fraction, cs) ← secondsLead? cs
  if Time.isValid ⟨hour, minute, second, fraction⟩ then
    some (⟨hour, minute, second, fraction⟩, cs)
  else none

def Offset.count? (cs : List Char) : Option Nat := do
  let (h, cs) ← fixedDigits? 2 cs
  let (m, cs) ← fixedDigits? 2 (← after? ':' cs)
  if h ≤ 23 ∧ m ≤ 59 ∧ cs.isEmpty then some (60 * h + m) else none

def Offset.ofChars? : List Char → Option (Option Offset)
  | [] => some none
  | ['Z'] | ['z'] => some (some .zero)
  | '+' :: cs => (count? cs).map fun n => some (.minutes false n)
  | '-' :: cs => (count? cs).map fun n => some (.minutes true n)
  | _ => none

def isTimeMark (c : Char) : Bool := c == 'T' || c == 't' || c == ' '

namespace Moment

/-- The date and the time, if any, that a text spells. -/
def dated? (cs : List Char) : Option Moment := do
  let (d, cs) ← Date.lead? cs
  match cs with
  | [] => some (.date d)
  | mark :: cs =>
    if isTimeMark mark then
      let (t, cs) ← Time.lead? cs
      let offset ← Offset.ofChars? cs
      some (.both d t offset)
    else none

def undated? (cs : List Char) : Option Moment := do
  let (t, cs) ← Time.lead? cs
  if cs.isEmpty then some (.time t) else none

def ofChars? (cs : List Char) : Option Moment := dated? cs <|> undated? cs

end Moment

/-! ## Writing -/

/-- The digits of a number, zeros put before them up to a width. -/
def paddedDigits (width n : Nat) : List Char :=
  let digits := Nat.toDigits 10 n
  List.replicate (width - digits.length) '0' ++ digits

def Date.chars (d : Date) : List Char :=
  paddedDigits 4 d.year ++ '-' :: paddedDigits 2 d.month ++ '-' :: paddedDigits 2 d.day

/-- The digits of a fraction that are written. -/
def shownFraction (fraction : List Char) : List Char :=
  ((fraction.take 9).reverse.dropWhile (· == '0')).reverse

def Time.chars (t : Time) : List Char :=
  let shown := shownFraction t.fraction
  paddedDigits 2 t.hour ++ ':' :: paddedDigits 2 t.minute ++ ':' :: paddedDigits 2 t.second ++
    if shown.isEmpty then [] else '.' :: shown

def Offset.chars : Offset → List Char
  | zero => ['Z']
  | minutes west count =>
    (if west && count != 0 then '-' else '+') ::
      paddedDigits 2 (count / 60) ++ ':' :: paddedDigits 2 (count % 60)

/-- The normal spelling of a moment. -/
def Moment.text : Moment → String
  | date d => String.ofList d.chars
  | time t => String.ofList t.chars
  | both d t offset =>
    String.ofList (d.chars ++ 'T' :: t.chars ++ (offset.map Offset.chars).getD [])

end SchemaCodegen.Document
