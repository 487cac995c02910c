import JavaComments.Decimal.Estimate
import JavaComments.Json.Blank

namespace JavaComments.Json

def digitValue (c : Char) : Nat := c.toNat - '0'.toNat

/-- The digits before the point: a zero stands alone. -/
def wholeDigits : Text → Except Failure (Text × Text)
  | [] => .error (.atEnd .endOfValue)
  | '0' :: rest =>
    if rest.head?.any Char.isDigit then .error (.after .invalidNumber rest) else .ok (['0'], rest)
  | s =>
    let (digits, rest) := s.span Char.isDigit
    if digits.isEmpty then .error (.after .invalidNumber s) else .ok (digits, rest)

def fractionDigits : Text → Except Failure (Option Text × Text)
  | '.' :: s =>
    let (digits, rest) := s.span Char.isDigit
    if digits.isEmpty then
      .error (if s.isEmpty then .atEnd .endOfValue else .after .invalidNumber s)
    else .ok (some digits, rest)
  | s => .ok (none, s)

/-- Reads the digits of an exponent, and stops without a value behind the digit that takes it past
`2 ^ 31 - 1`. -/
def exponentDigits (exponent : Nat) : Text → Option Nat × Text
  | [] => (some exponent, [])
  | c :: rest =>
    if c.isDigit then
      let next := exponent * 10 + digitValue c
      if next < 0x80000000 then exponentDigits next rest else (none, rest)
    else (some exponent, c :: rest)

structure Exponent where
  negative : Bool
  value : Option Nat

def exponentPart : Text → Except Failure (Option Exponent × Text)
  | [] => .ok (none, [])
  | e :: s =>
    if e = 'e' ∨ e = 'E' then
      let negative := s.head? = some '-'
      let s := if negative ∨ s.head? = some '+' then s.tail else s
      match s with
      | [] => .error (.atEnd .endOfValue)
      | c :: _ =>
        if c.isDigit then
          let (value, rest) := exponentDigits 0 s
          .ok (some ⟨negative, value⟩, rest)
        else .error (.after .invalidNumber s)
    else .ok (none, e :: s)

/-- Appends digits to a significand as long as it fits in 64 bits; the rest is only counted. -/
def absorb (significand : Nat) : Text → Nat × Nat
  | [] => (significand, 0)
  | c :: digits =>
    let next := significand * 10 + digitValue c
    if next < UInt64.size then absorb next digits else (significand, digits.length + 1)

def signedDouble (negative : Bool) (bits : UInt64) : Found :=
  .double (if negative then bits ||| 0x8000000000000000 else bits)

/-- An integer is one that 64 bits hold, signed or unsigned; minus zero is a double. -/
def wholeNumber (negative : Bool) (significand : Nat) : Found :=
  if ¬ negative then .integer significand
  else if 0 < significand ∧ significand ≤ UInt64.size / 2 then .integer (-significand)
  else signedDouble true significand.toUInt64.toFloat.toBits

/-- The double that a significand and a power of ten stand for, if it is finite. -/
def scaledNumber (negative : Bool) (significand : Nat) (exponent : Int) (rest : Text) :
    Except Failure (Found × Text) :=
  match Decimal.estimate? significand.toUInt64 exponent with
  | some bits => .ok (signedDouble negative bits, rest)
  | none => .error (.before .numberOutOfRange rest)

def number (s : Text) : Except Failure (Found × Text) := do
  let negative := s.head? = some '-'
  let (whole, rest) ← wholeDigits (if negative then s.tail else s)
  let (fraction, rest) ← fractionDigits rest
  let (exponent, rest) ← exponentPart rest
  let (significand, surplus) := absorb 0 whole
  let places := fraction.getD []
  let (significand, unused) := absorb significand places
  let shift : Int := surplus - (places.length - unused : Nat)
  match exponent with
  | none =>
    if fraction.isNone ∧ surplus = 0 then .ok (wholeNumber negative significand, rest)
    else scaledNumber negative significand shift rest
  | some ⟨true, some value⟩ => scaledNumber negative significand (shift - value) rest
  | some ⟨false, some value⟩ => scaledNumber negative significand (shift + value) rest
  | some ⟨exponentNegative, none⟩ =>
    if significand ≠ 0 ∧ ¬ exponentNegative then .error (.before .numberOutOfRange rest)
    else .ok (signedDouble negative 0, rest.dropWhile Char.isDigit)

end JavaComments.Json
