/-!
# Bounded decimal numerals

`readNumeral limit` reads an optional `+` followed by decimal digits, with any number of leading
zeros, as a number that may not exceed `limit`.  Reading goes from left to right and stops at the
first character that spoils it, so of two faults the earlier one is reported.

`numeralValue` is the number that a run of digits denotes, without any bound.  Main statement:
`readNumeral_eq_ok_iff`, which says that reading succeeds exactly on the texts of the grammar whose
value is within the limit.
-/

namespace SignalBoard.Text

set_option autoImplicit false

/-- Why a text is not a numeral within the limit. -/
inductive NumeralFault
  | empty
  | invalidDigit
  | tooLarge
  deriving DecidableEq

def NumeralFault.message : NumeralFault → String
  | empty => "cannot parse integer from empty string"
  | invalidDigit => "invalid digit found in string"
  | tooLarge => "number too large to fit in target type"

/-- The value of a decimal digit: the low four bits of its code. -/
def digitValue (c : Char) : Nat := c.toNat % 16

/-! ## Reading -/

/-- Reads the digits left over, given the value of those before them. -/
def readDigits (limit : Nat) : Nat → List Char → Except NumeralFault Nat
  | value, [] => .ok value
  | value, c :: rest =>
    if c.isDigit then
      if value * 10 + digitValue c ≤ limit then readDigits limit (value * 10 + digitValue c) rest
      else .error .tooLarge
    else .error .invalidDigit

/-- Reads a numeral; a sign alone is no numeral. -/
def readNumeral (limit : Nat) : List Char → Except NumeralFault Nat
  | [] => .error .empty
  | ['+'] => .error .invalidDigit
  | '+' :: c :: rest => readDigits limit 0 (c :: rest)
  | c :: rest => readDigits limit 0 (c :: rest)

/-! ## The grammar -/

/-- The number denoted by decimal digits, most significant first, after digits worth `value`. -/
def numeralValueFrom (value : Nat) (digits : List Char) : Nat :=
  digits.foldl (fun v c => v * 10 + digitValue c) value

/-- The number denoted by decimal digits, most significant first. -/
def numeralValue (digits : List Char) : Nat := numeralValueFrom 0 digits

theorem numeralValueFrom_cons (value : Nat) (c : Char) (rest : List Char) :
    numeralValueFrom value (c :: rest) = numeralValueFrom (value * 10 + digitValue c) rest := rfl

/-- More digits never make a number smaller. -/
theorem le_numeralValueFrom (value : Nat) (cs : List Char) : value ≤ numeralValueFrom value cs := by
  induction cs generalizing value with
  | nil => exact Nat.le_refl value
  | cons c rest ih =>
    rw [numeralValueFrom_cons]
    refine Nat.le_trans ?_ (ih _)
    omega

/-- Reading digits succeeds exactly when all of them are digits and the number is within the
limit. -/
theorem readDigits_eq_ok_iff {limit value n : Nat} {cs : List Char} (hvalue : value ≤ limit) :
    readDigits limit value cs = .ok n ↔
      (∀ c ∈ cs, c.isDigit = true) ∧ numeralValueFrom value cs = n ∧ n ≤ limit := by
  induction cs generalizing value with
  | nil =>
    rw [readDigits, Except.ok.injEq]
    constructor
    · rintro rfl
      exact ⟨by simp, rfl, hvalue⟩
    · exact fun h => h.2.1
  | cons c rest ih =>
    rw [readDigits, numeralValueFrom_cons]
    by_cases hc : c.isDigit = true
    · rw [if_pos hc]
      by_cases hle : value * 10 + digitValue c ≤ limit
      · rw [if_pos hle, ih hle]
        simp [hc]
      · rw [if_neg hle]
        constructor
        · exact fun h => nomatch h
        · rintro ⟨-, rfl, hn⟩
          exact absurd (Nat.le_trans (le_numeralValueFrom _ rest) hn) hle
    · rw [if_neg hc]
      constructor
      · exact fun h => nomatch h
      · exact fun h => absurd (h.1 c (by simp)) hc

/-- A numeral: one or more decimal digits, with or without a `+` before them. -/
def IsNumeral (cs digits : List Char) : Prop :=
  digits ≠ [] ∧ (∀ c ∈ digits, c.isDigit = true) ∧ (cs = digits ∨ cs = '+' :: digits)

/-- Reading succeeds exactly on numerals whose value is within the limit, with that value. -/
theorem readNumeral_eq_ok_iff {limit n : Nat} {cs : List Char} :
    readNumeral limit cs = .ok n ↔
      ∃ digits, IsNumeral cs digits ∧ numeralValue digits = n ∧ n ≤ limit := by
  constructor
  · intro h
    unfold readNumeral at h
    split at h
    · simp at h
    · simp at h
    · rename_i c rest
      obtain ⟨hall, hvalue, hle⟩ := (readDigits_eq_ok_iff (Nat.zero_le limit)).1 h
      exact ⟨c :: rest, ⟨by simp, hall, Or.inr rfl⟩, hvalue, hle⟩
    · rename_i c rest _ _
      obtain ⟨hall, hvalue, hle⟩ := (readDigits_eq_ok_iff (Nat.zero_le limit)).1 h
      exact ⟨c :: rest, ⟨by simp, hall, Or.inl rfl⟩, hvalue, hle⟩
  · rintro ⟨digits, ⟨hne, hall, hform⟩, hvalue, hle⟩
    have hread := (readDigits_eq_ok_iff (Nat.zero_le limit)).2 ⟨hall, hvalue, hle⟩
    cases digits with
    | nil => exact absurd rfl hne
    | cons c rest =>
      rcases hform with rfl | rfl
      · have hc : c ≠ '+' := by
          rintro rfl
          exact absurd (hall '+' (by simp)) (by decide)
        unfold readNumeral
        split
        · simp_all
        · simp_all
        · simp_all
        · simp_all
      · exact hread

end SignalBoard.Text
