import CycleMiner.Toml

/-!
# TOML numbers and dates

Whole numbers have a sign and decimal digits, or none and digits behind `0x`, `0o` or `0b`, and fit
63 bits and a sign.  Fractions have a point with digits on both sides, a power of ten, or both.  An
underscore may stand between two digits.  Dates and times are those of a calendar.

A fraction above what a double can hold is refused; one below is not.
-/

namespace CycleMiner.Toml

/-- whether a character is a digit in a base up to 16 -/
def isDigit (base : Nat) (c : Char) : Bool :=
  if '0' ≤ c ∧ c ≤ '9' then decide (c.toNat - 48 < base)
  else base = 16 && (('a' ≤ c && c ≤ 'f') || ('A' ≤ c && c ≤ 'F'))

def digitValue (c : Char) : Nat :=
  if c ≤ '9' then c.toNat - 48 else if c ≤ 'F' then c.toNat - 55 else c.toNat - 87

def spelt (base : Nat) (ds : List Char) : Nat := ds.foldl (fun n c => base * n + digitValue c) 0

/-- the digits that go on behind a digit, without their underscores, and what follows -/
def moreDigits (base : Nat) : List Char → List Char × List Char
  | '_' :: c :: rest =>
    if isDigit base c then
      let (ds, rest) := moreDigits base rest
      (c :: ds, rest)
    else ([], '_' :: c :: rest)
  | c :: rest =>
    if isDigit base c then
      let (ds, rest) := moreDigits base rest
      (c :: ds, rest)
    else ([], c :: rest)
  | [] => ([], [])

def digits (base : Nat) : List Char → Option (List Char × List Char)
  | c :: rest =>
    if isDigit base c then
      let (ds, rest) := moreDigits base rest
      some (c :: ds, rest)
    else none
  | [] => none

/-- a sign, if there is one: whether it is a minus, and what follows -/
def sign : List Char → Bool × List Char
  | '-' :: rest => (true, rest)
  | '+' :: rest => (false, rest)
  | cs => (false, cs)

/-! ## Whole numbers -/

def whole (n : Int) : Option Toml :=
  if Int64.minValue.toInt ≤ n ∧ n ≤ Int64.maxValue.toInt then some (int n) else none

/-- a whole number behind the mark of its base, and what follows -/
def based (base : Nat) (cs : List Char) : Option (Toml × List Char) :=
  match digits base cs with
  | some (ds, rest) => (whole (spelt base ds)).map (·, rest)
  | none => none

/-! ## Fractions -/

/-- the least number that is nearer to `2 ^ 1024` than to the greatest double, or as near -/
def overflow : Nat := Nat.pow 2 1024 - Nat.pow 2 970

/-- whether `n` times a power of ten is above what a double can hold -/
def overflows (n : Nat) (power : Int) : Bool :=
  let size : Int := (Nat.toDigits 10 n).length + power
  if n = 0 ∨ size ≤ 308 then false
  else if 310 < size then true
  else if 0 ≤ power then decide (overflow ≤ n * Nat.pow 10 power.toNat)
  else decide (overflow * Nat.pow 10 (-power).toNat ≤ n)

def tenPower (cs : List Char) : Option (Int × List Char) :=
  let (down, cs) := sign cs
  (digits 10 cs).map fun (ds, rest) =>
    let n : Int := spelt 10 ds
    (if down then -n else n, rest)

/-- what stands behind the digits of a number: a power, or nothing -/
def maybePower (cs : List Char) : Option (Option Int × List Char) :=
  match cs with
  | c :: rest =>
    if c = 'e' ∨ c = 'E' then (tenPower rest).map fun (p, rest) => (some p, rest)
    else some (none, cs)
  | [] => some (none, [])

/-- what follows a fraction with these digits before and behind its point, unless it is too large -/
def pastFraction (negative : Bool) (before behind : List Char) (power : Int) (rest : List Char) :
    Option (List Char) :=
  if !negative && overflows (spelt 10 (before ++ behind)) (power - behind.length) then none
  else some rest

/-- a number in base ten, or nothing for a fraction, and what follows -/
def decimal (cs : List Char) : Option (Option Int × List Char) :=
  let (negative, cs) := sign cs
  match cs with
  | 'i' :: 'n' :: 'f' :: rest => some (none, rest)
  | 'n' :: 'a' :: 'n' :: rest => some (none, rest)
  | _ =>
    let whole? := match cs with
      | '0' :: rest => some (['0'], rest)
      | _ => digits 10 cs
    match whole? with
    | none => none
    | some (before, '.' :: rest) =>
      match digits 10 rest with
      | none => none
      | some (behind, rest) =>
        match maybePower rest with
        | none => none
        | some (power, rest) =>
          (pastFraction negative before behind (power.getD 0) rest).map (none, ·)
    | some (before, rest) =>
      match maybePower rest with
      | none => none
      | some (some power, rest) => (pastFraction negative before [] power rest).map (none, ·)
      | some (none, rest) =>
        let n : Int := spelt 10 before
        some (some (if negative then -n else n), rest)

/-! ## Dates and times -/

/-- two digits that spell a number within bounds, and what follows -/
def twoDigits (low high : Nat) : List Char → Option (Nat × List Char)
  | a :: b :: rest =>
    let n := spelt 10 [a, b]
    if isDigit 10 a ∧ isDigit 10 b ∧ low ≤ n ∧ n ≤ high then some (n, rest) else none
  | _ => none

def daysOf (year month : Nat) : Nat :=
  if month = 2 then
    if year % 4 = 0 ∧ (year % 100 ≠ 0 ∨ year % 400 = 0) then 29 else 28
  else if month = 4 ∨ month = 6 ∨ month = 9 ∨ month = 11 then 30
  else 31

def pastDay : List Char → Option (List Char)
  | a :: b :: c :: d :: '-' :: rest =>
    if [a, b, c, d].all (isDigit 10) then
      match twoDigits 1 12 rest with
      | some (month, '-' :: rest) =>
        match twoDigits 1 31 rest with
        | some (day, rest) => if day ≤ daysOf (spelt 10 [a, b, c, d]) month then some rest else none
        | none => none
      | _ => none
    else none
  | _ => none

def pastTime (cs : List Char) : Option (List Char) :=
  match twoDigits 0 23 cs with
  | some (_, ':' :: rest) =>
    match twoDigits 0 59 rest with
    | some (_, ':' :: rest) =>
      match twoDigits 0 60 rest with
      | some (_, '.' :: c :: rest) =>
        if isDigit 10 c then some (rest.dropWhile (isDigit 10)) else none
      | some (_, rest) => some rest
      | none => none
    | _ => none
  | _ => none

/-- what follows a distance from universal time, if there is one -/
def pastOffset (cs : List Char) : List Char :=
  match cs with
  | c :: rest =>
    if c = 'Z' ∨ c = 'z' then rest
    else if c = '+' ∨ c = '-' then
      match twoDigits 0 23 rest with
      | some (_, ':' :: rest) =>
        match twoDigits 0 59 rest with
        | some (_, rest) => rest
        | none => cs
      | _ => cs
    else cs
  | [] => cs

/-- what follows a date, a time, or both -/
def pastDate (cs : List Char) : Option (List Char) :=
  match pastDay cs with
  | none => pastTime cs
  | some rest =>
    match rest with
    | c :: after =>
      if c = 'T' ∨ c = 't' ∨ c = ' ' then
        match pastTime after with
        | some rest => some (pastOffset rest)
        | none => some rest
      else some rest
    | [] => some []

/-! ## Either -/

/-- the characters of a text up to those that are left -/
def written (cs rest : List Char) : String := String.ofList (cs.take (cs.length - rest.length))

def number (cs : List Char) : Option (Toml × List Char) :=
  match pastDate cs with
  | some rest => some (date (written cs rest), rest)
  | none =>
    match cs with
    | '0' :: 'x' :: rest => based 16 rest
    | '0' :: 'o' :: rest => based 8 rest
    | '0' :: 'b' :: rest => based 2 rest
    | _ =>
      match decimal cs with
      | some (some n, rest) => (whole n).map (·, rest)
      | some (none, rest) => some (real (written cs rest), rest)
      | none => none

end CycleMiner.Toml
