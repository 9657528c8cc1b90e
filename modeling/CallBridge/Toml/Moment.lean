import CallBridge.Toml.Number

/-!
Dates and times in TOML.
-/

namespace CallBridge.Toml

/-- Number written by digits only. -/
def number? (cs : List Char) : Option Nat :=
  if cs.all Char.isDigit then some (digitsValue 10 cs) else none

def isLeap (year : Nat) : Bool := year % 4 == 0 && (year % 100 != 0 || year % 400 == 0)

def daysIn (year : Nat) : (month : Nat) → Nat
  | 2 => if isLeap year then 29 else 28
  | 4 | 6 | 9 | 11 => 30
  | _ => 31

/-- What follows a date. -/
def afterDate? : List Char → Option (List Char)
  | a :: b :: c :: d :: '-' :: e :: f :: '-' :: g :: h :: rest => do
    let year ← number? [a, b, c, d]
    let month ← number? [e, f]
    let day ← number? [g, h]
    if 1 ≤ month ∧ month ≤ 12 ∧ 1 ≤ day ∧ day ≤ daysIn year month then some rest else none
  | _ => none

/-- What follows a time of day with its optional fraction. Seconds may count to sixty. -/
def afterTime? : List Char → Option (List Char)
  | a :: b :: ':' :: c :: d :: ':' :: e :: f :: rest => do
    let hour ← number? [a, b]
    let minute ← number? [c, d]
    let second ← number? [e, f]
    if hour ≤ 23 ∧ minute ≤ 59 ∧ second ≤ 60 then
      match rest with
      | '.' :: fraction =>
        if (fraction.head?.map Char.isDigit).getD false then some (fraction.dropWhile Char.isDigit)
        else none
      | _ => some rest
    else none
  | _ => none

/-- Nothing, `Z`, or hours and minutes with a sign. -/
def isOffset : List Char → Bool
  | [] | ['Z'] | ['z'] => true
  | [s, a, b, ':', c, d] =>
    (s == '+' || s == '-') &&
      match number? [a, b], number? [c, d] with
      | some hour, some minute => decide (hour ≤ 23 ∧ minute ≤ 59)
      | _, _ => false
  | _ => false

def isDate (cs : List Char) : Bool := afterDate? cs == some []

/-- A time of day that follows a date, with its offset. -/
def isZonedTime (cs : List Char) : Bool :=
  match afterTime? cs with
  | some rest => isOffset rest
  | none => false

/-- A date, a time, or both in one word. -/
def isMoment (cs : List Char) : Bool :=
  isDate cs || afterTime? cs == some [] ||
    match afterDate? cs with
    | some (t :: rest) => (t == 'T' || t == 't') && isZonedTime rest
    | _ => false

end CallBridge.Toml
