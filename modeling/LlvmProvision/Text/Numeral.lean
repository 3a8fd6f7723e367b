/-!
# Decimal numerals with a limit

A count is given on the command line as decimal digits, with an optional plus sign
and any number of leading zeros.  `readBelow` reads one that has to stay below a
limit, from left to right, and says what is wrong with the first character that
cannot be taken.
-/
namespace LlvmProvision.Text.Numeral

/-- What can be wrong with a numeral. -/
inductive Fault
  /-- There is no text at all. -/
  | empty
  /-- A character, or a sign alone, where a digit has to stand. -/
  | invalidDigit
  /-- The digits so far have reached the limit. -/
  | tooLarge
  deriving DecidableEq, Repr

/-- The fault in words. -/
def Fault.message : Fault → String
  | empty => "cannot parse integer from empty string"
  | invalidDigit => "invalid digit found in string"
  | tooLarge => "number too large to fit in target type"

/-- The value of a decimal digit. -/
def digit? (c : Char) : Option Nat :=
  if '0' ≤ c ∧ c ≤ '9' then some (c.toNat - '0'.toNat) else none

/-- Reads digits onto the value of those before them. -/
def readDigits (limit : Nat) : Nat → List Char → Except Fault Nat
  | value, [] => .ok value
  | value, c :: cs =>
    match digit? c with
    | none => .error .invalidDigit
    | some d =>
      if 10 * value + d < limit then readDigits limit (10 * value + d) cs else .error .tooLarge

/-- The value of a numeral below `limit`. -/
def readBelow (limit : Nat) (text : String) : Except Fault Nat :=
  match text.toList with
  | [] => .error .empty
  | ['+'] => .error .invalidDigit
  | '+' :: digits => readDigits limit 0 digits
  | digits => readDigits limit 0 digits

/-- A numeral is read only if its value is below the limit. -/
theorem readDigits_lt {limit value n : Nat} {cs : List Char} (start : value < limit)
    (h : readDigits limit value cs = .ok n) : n < limit := by
  induction cs generalizing value with
  | nil =>
    simp only [readDigits, Except.ok.injEq] at h
    exact h ▸ start
  | cons c cs ih =>
    rw [readDigits] at h
    split at h
    · cases h
    · split at h
      · exact ih ‹_› h
      · cases h

theorem readBelow_lt {limit n : Nat} {text : String} (start : 0 < limit)
    (h : readBelow limit text = .ok n) : n < limit := by
  unfold readBelow at h
  split at h
  · cases h
  · cases h
  · exact readDigits_lt start h
  · exact readDigits_lt start h

end LlvmProvision.Text.Numeral
