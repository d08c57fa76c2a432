import Mathlib.Algebra.Order.Field.Power
import Mathlib.Algebra.Order.Ring.Rat
import Mathlib.Tactic.FieldSimp
import Mathlib.Tactic.GCongr
import Mathlib.Tactic.Linarith
import Mathlib.Tactic.NormNum
import Mathlib.Tactic.Positivity
import Mathlib.Tactic.Ring
import SignalBoard.Proofs.Packing

/-! # Sums that are exact

A binary32 number holds 24 bits, so whole numbers of steps of 1/1024 are added and subtracted
without rounding while they stay below 2^24 steps, which is 16384 (`Binary32.IsSteps.add`,
`Binary32.IsSteps.sub`).  Two numbers of the same number of steps are one number, but for the sign
of a zero (`Binary32.IsSteps.eq`).  Small multiples of a quarter are on this grid
(`Binary32.isSteps_of_eq_quarters`).

Both operations unpack, work on mantissa and exponent, round and pack again.  Rounding brings a
mantissa into normal position and loses nothing where one in normal position has the same value
(`Binary32.Normal.round`); `Binary32.Stepped` is what the unpacked forms on the grid have in
common, and every stage of a sum keeps to it. -/

namespace SignalBoard.Binary32

set_option autoImplicit false

open Float.Model UnpackedFloat

/-! ## Rounding to normal position -/

theorem log2_mul_two_pow {m : ℕ} (hm : 0 < m) (j : ℕ) : (m * 2 ^ j).log2 = m.log2 + j := by
  induction j with
  | zero => simp
  | succ j ih =>
    have hne : m * 2 ^ j ≠ 0 := by positivity
    rw [pow_succ, ← mul_assoc, mul_comm _ 2, Nat.log2_two_mul hne, ih]
    rfl

theorem totalExponent_mul_two_pow {m : ℕ} (hm : 0 < m) (e : ℤ) (j : ℕ) :
    totalExponent (m * 2 ^ j) (e - j) = totalExponent m e := by
  rw [totalExponent, totalExponent, log2_mul_two_pow hm]
  push_cast
  ring

theorem Normal.targetExponent {m : ℕ} {e : ℤ} (h : Normal m e) :
    Format.binary32.targetExponent (totalExponent m e) = e := by
  have hlow := h.le_exponent
  have htotal : totalExponent m e = 24 + e := by
    rw [totalExponent, h.log2_eq]
    rfl
  rw [htotal]
  change max (24 + e - 24) (-149) = e
  omega

/-- Shifting out zeros alone is exact. -/
theorem shiftRight_mul_two_pow (m j : ℕ) :
    (⟨m * 2 ^ j, false, false⟩ : ExtendedMantissa) >>> j = ⟨m, false, false⟩ := by
  induction j generalizing m with
  | zero =>
    rw [pow_zero, mul_one]
    rfl
  | succ j ih =>
    have hstep : (⟨m * 2 ^ (j + 1), false, false⟩ : ExtendedMantissa) >>> (j + 1) =
        ((⟨(m * 2) * 2 ^ j, false, false⟩ : ExtendedMantissa) >>> j).shiftRightOne := by
      rw [pow_succ, mul_comm (2 ^ j) 2, ← mul_assoc]
      rfl
    rw [hstep, ih]
    simp [ExtendedMantissa.shiftRightOne]

theorem Normal.roundWithAccuracy {m : ℕ} {e : ℤ} (h : Normal m e) (s : Sign) (j : ℕ) :
    UnpackedFloat.roundWithAccuracy .binary32 s (m * 2 ^ j) (e - j) .exact =
      .finite s m e h.pos := by
  have hfirst : shiftToTargetExponent .binary32 (m * 2 ^ j) (e - j) .exact =
      (⟨m, false, false⟩, e) := by
    have hshift : (e - (e - j)).toNat = j := by omega
    rw [shiftToTargetExponent, totalExponent_mul_two_pow h.pos, h.targetExponent,
      shiftToExponent, hshift]
    exact Prod.ext (shiftRight_mul_two_pow m j) (sub_add_cancel e j)
  have hsecond : shiftToTargetExponent .binary32 m e .exact = (⟨m, false, false⟩, e) := by
    rw [shiftToTargetExponent, h.targetExponent, shiftToExponent, sub_self]
    exact Prod.ext rfl (add_zero e)
  have hround : (⟨m, false, false⟩ : ExtendedMantissa).roundedMantissa = m := rfl
  simp only [UnpackedFloat.roundWithAccuracy, hfirst, hround, hsecond, h.pos.ne', dite_false]

/-- Rounding finds the normal form of a value that has one. -/
theorem Normal.round {m m' : ℕ} {e e' : ℤ} (h : Normal m' e') (hm : 0 < m)
    (hvalue : (m : ℚ) * 2 ^ e = m' * 2 ^ e') (s : Sign) :
    UnpackedFloat.round .binary32 s m e = .finite s m' e' h.pos := by
  have two_ne : (2 : ℚ) ≠ 0 := two_ne_zero
  rcases le_total e' e with hle | hle
  · -- the mantissa is shifted up before it is rounded
    obtain ⟨j, rfl⟩ : ∃ j : ℕ, e = e' + j := ⟨(e - e').toNat, by omega⟩
    obtain rfl : m' = m * 2 ^ j := by
      rw [zpow_add₀ two_ne, mul_comm (2 ^ e' : ℚ), ← mul_assoc] at hvalue
      exact_mod_cast (mul_right_cancel₀ (zpow_ne_zero e' two_ne) hvalue).symm
    have htarget : Format.binary32.targetExponent (totalExponent m (e' + j)) = e' := by
      rw [← totalExponent_mul_two_pow hm _ j, add_sub_cancel_right, h.targetExponent]
    have hdecrease : decreaseExponent m (e' + j) e' = (m * 2 ^ j, e') := by
      simp [decreaseExponent, Nat.shiftLeft_eq]
    rw [UnpackedFloat.round, htarget, hdecrease]
    simpa using h.roundWithAccuracy s 0
  · -- rounding shifts out the zeros below the 24 bits
    obtain ⟨j, rfl⟩ : ∃ j : ℕ, e = e' - j := ⟨(e' - e).toNat, by omega⟩
    obtain rfl : m = m' * 2 ^ j := by
      rw [zpow_sub₀ two_ne, zpow_natCast] at hvalue
      field_simp at hvalue
      rw [mul_comm]
      exact_mod_cast hvalue
    have hdecrease : decreaseExponent (m' * 2 ^ j) (e' - j) e' = (m' * 2 ^ j, e' - j) := by
      simp [decreaseExponent]
    rw [UnpackedFloat.round, totalExponent_mul_two_pow h.pos, h.targetExponent, hdecrease]
    exact h.roundWithAccuracy s j

theorem Normal.eq_of_value {m m' : ℕ} {e e' : ℤ} (h : Normal m e) (h' : Normal m' e')
    (hvalue : (m : ℚ) * 2 ^ e = m' * 2 ^ e') : m = m' ∧ e = e' := by
  have hround := (h.round h.pos rfl .positive).symm.trans (h'.round h.pos hvalue .positive)
  injection hround with _ hm he
  exact ⟨hm, he⟩

/-- A whole number of steps that fits in 24 bits has a normal form. -/
theorem exists_normal {n : ℕ} (hn : 0 < n) (hlt : n < 2 ^ 24) :
    ∃ m e, Normal m e ∧ (m : ℚ) * 2 ^ e = n / 1024 := by
  have hlog : n.log2 ≤ 23 := Nat.lt_succ_iff.1 ((Nat.log2_lt hn.ne').2 hlt)
  obtain ⟨j, hj⟩ := Nat.exists_eq_add_of_le' hlog
  have hfull : (n * 2 ^ j).log2 = 23 := by rw [log2_mul_two_pow hn, hj, add_comm]
  obtain ⟨hlow, hhigh⟩ := (Nat.log2_eq_iff (by positivity)).1 hfull
  refine ⟨n * 2 ^ j, -10 - j, ⟨hlow, hhigh, by omega, by omega⟩, ?_⟩
  rw [zpow_sub₀ two_ne_zero, zpow_natCast, Nat.cast_mul, Nat.cast_pow, Nat.cast_ofNat]
  field_simp
  norm_num

/-! ## Unpacked numbers on the grid -/

/-- What an unpacked number stands for; the infinities and `NaN` stand for none. -/
def number? : UnpackedFloat → Option ℚ
  | .zero _ => some 0
  | .finite s m e _ => some (s.apply m * 2 ^ e)
  | .infinity _ | .notANumber => none

def value? (x : Float32) : Option ℚ := number? x.toModel.unpack

/-- The number is `k` steps of 1/1024, in the form that unpacking gives it. -/
inductive Stepped : UnpackedFloat → ℤ → Prop
  | zero (s : Sign) : Stepped (.zero s) 0
  | normal (s : Sign) {m : ℕ} {e k : ℤ} (h : Normal m e)
      (hvalue : (s.apply m : ℚ) * 2 ^ e = k / 1024) : Stepped (.finite s m e h.pos) k

theorem apply_cast (s : Sign) (n : ℕ) : (s.apply n : ℚ) = s.apply 1 * n := by
  cases s with
  | negative => simp [Sign.apply]
  | positive => simp [Sign.apply]

theorem apply_neg (s : Sign) (n : ℤ) : (-s).apply n = -s.apply n := by
  cases s with
  | negative => exact (neg_neg n).symm
  | positive => rfl

theorem Stepped.neg {u : UnpackedFloat} {k : ℤ} (h : Stepped u k) : Stepped u.neg (-k) := by
  cases h with
  | zero s => exact .zero (-s)
  | normal s h hvalue =>
    refine .normal (-s) h ?_
    rw [apply_neg, Int.cast_neg, Int.cast_neg, neg_mul, hvalue, neg_div]

theorem unpacked_sub_eq (u v : UnpackedFloat) :
    UnpackedFloat.sub .binary32 u v = UnpackedFloat.add .binary32 u v.neg := by
  cases u <;> cases v <;>
    simp [UnpackedFloat.sub, UnpackedFloat.add, UnpackedFloat.neg, apply_neg, sub_eq_add_neg]

theorem abs_apply (s : Sign) (n : ℕ) : |(s.apply n : ℚ)| = n := by
  cases s with
  | negative => simp [Sign.apply]
  | positive => simp [Sign.apply]

theorem abs_value {s : Sign} {m : ℕ} {e k : ℤ} (hvalue : (s.apply m : ℚ) * 2 ^ e = k / 1024) :
    (m : ℚ) * 2 ^ e = k.natAbs / 1024 := by
  have habs := congrArg (|·|) hvalue
  rw [abs_mul, abs_apply, abs_of_pos (zpow_pos two_pos e : (0 : ℚ) < 2 ^ e), abs_div,
    ← Int.cast_abs, ← Nat.cast_natAbs] at habs
  simpa using habs

theorem natAbs_pos_of_value {m : ℕ} {e k : ℤ} (hm : 0 < m)
    (hvalue : (m : ℚ) * 2 ^ e = k.natAbs / 1024) : 0 < k.natAbs := by
  have hpos : (0 : ℚ) < k.natAbs / 1024 := by
    rw [← hvalue]
    positivity
  exact_mod_cast (div_pos_iff_of_pos_right (by norm_num)).1 hpos

theorem stepped_round {s : Sign} {n : ℕ} {e k : ℤ} (hn : 0 < n)
    (hvalue : (s.apply n : ℚ) * 2 ^ e = k / 1024) (hk : k.natAbs < 2 ^ 24) :
    Stepped (UnpackedFloat.round .binary32 s n e) k := by
  have hsteps := abs_value hvalue
  obtain ⟨m, e', h, hm⟩ := exists_normal (natAbs_pos_of_value hn hsteps) hk
  rw [h.round hn (hsteps.trans hm.symm)]
  refine .normal s h ?_
  rw [← hvalue, apply_cast, mul_assoc, hm, ← hsteps, ← mul_assoc, ← apply_cast]

theorem normalize_apply (s : Sign) {n : ℕ} (hn : 0 < n) (e : ℤ) :
    UnpackedFloat.normalize .binary32 (s.apply n) e .positive =
      UnpackedFloat.round .binary32 s n e := by
  unfold UnpackedFloat.normalize
  cases s with
  | negative =>
    have hneg : compare (-(n : ℤ)) 0 = .lt := compare_lt_iff_lt.2 (by omega)
    simp only [Sign.apply, hneg, neg_neg, Int.toNat_natCast]
  | positive =>
    have hpos : compare (n : ℤ) 0 = .gt := compare_gt_iff_gt.2 (by omega)
    simp only [Sign.apply, hpos, Int.toNat_natCast]

theorem stepped_normalize {m e k : ℤ} (hvalue : (m : ℚ) * 2 ^ e = k / 1024)
    (hk : k.natAbs < 2 ^ 24) : Stepped (UnpackedFloat.normalize .binary32 m e .positive) k := by
  have hsigned (s : Sign) (n : ℕ) (hn : 0 < n) (hm : m = s.apply n) :
      Stepped (UnpackedFloat.normalize .binary32 m e .positive) k := by
    subst hm
    rw [normalize_apply s hn]
    exact stepped_round hn hvalue hk
  rcases lt_trichotomy m 0 with hm | rfl | hm
  · exact hsigned .negative m.natAbs (by omega) (by rw [Sign.apply]; omega)
  · have hzero : (k : ℚ) = 0 := by simpa using hvalue.symm
    rw [Int.cast_eq_zero.1 hzero]
    exact .zero .positive
  · exact hsigned .positive m.natAbs (by omega) (by rw [Sign.apply]; omega)

/-! ## Sums and differences -/

theorem decreaseExponent_value (m : ℕ) {e e' : ℤ} (hle : e' ≤ e) :
    ((decreaseExponent m e e').1 : ℚ) * 2 ^ e' = m * 2 ^ e := by
  obtain ⟨j, rfl⟩ : ∃ j : ℕ, e = e' + j := ⟨(e - e').toNat, by omega⟩
  have hfst : (decreaseExponent m (e' + j) e').1 = m * 2 ^ j := by
    simp [decreaseExponent, Nat.shiftLeft_eq]
  rw [hfst, zpow_add₀ two_ne_zero, zpow_natCast]
  push_cast
  ring

theorem Stepped.add {u v : UnpackedFloat} {i j : ℤ} (hu : Stepped u i) (hv : Stepped v j)
    (hbound : (i + j).natAbs < 2 ^ 24) : Stepped (UnpackedFloat.add .binary32 u v) (i + j) := by
  cases hu with
  | zero s =>
    cases hv with
    | zero t =>
      cases s with
      | negative =>
        cases t with
        | negative => exact .zero .negative
        | positive => exact .zero .positive
      | positive =>
        cases t with
        | negative => exact .zero .positive
        | positive => exact .zero .positive
    | normal t h hvalue =>
      rw [zero_add]
      exact .normal t h hvalue
  | @normal s m e i h hvalue =>
    cases hv with
    | zero t =>
      rw [add_zero]
      exact .normal s h hvalue
    | @normal t m' e' j h' hvalue' =>
      refine stepped_normalize ?_ hbound
      have hleft := decreaseExponent_value m (min_le_left e e')
      have hright := decreaseExponent_value m' (min_le_right e e')
      change ((s.apply (decreaseExponent m e (min e e')).1 +
        t.apply (decreaseExponent m' e' (min e e')).1 : ℤ) : ℚ) * 2 ^ min e e' = _
      rw [apply_cast] at hvalue hvalue'
      rw [Int.cast_add, apply_cast, apply_cast, add_mul, mul_assoc, mul_assoc,
        hleft, hright, ← mul_assoc, ← mul_assoc, hvalue, hvalue', Int.cast_add, add_div]

theorem Stepped.sub {u v : UnpackedFloat} {i j : ℤ} (hu : Stepped u i) (hv : Stepped v j)
    (hbound : (i - j).natAbs < 2 ^ 24) : Stepped (UnpackedFloat.sub .binary32 u v) (i - j) := by
  rw [unpacked_sub_eq]
  exact hu.add hv.neg hbound

/-! ## Packed numbers on the grid -/

theorem Stepped.unpack_pack {u : UnpackedFloat} {k : ℤ} (hu : Stepped u k) :
    UnpackedFloat.unpack .binary32 (UnpackedFloat.pack .binary32 u) = u := by
  cases hu with
  | zero s => exact unpack_packedZero
  | normal s h hvalue => exact h.unpack_pack s

theorem Stepped.number?_eq {u : UnpackedFloat} {k : ℤ} (hu : Stepped u k) :
    number? u = some ((k : ℚ) / 1024) := by
  cases hu with
  | zero s => simp [number?]
  | normal s h hvalue => rw [number?, hvalue]

/-- A number on the grid has its mantissa in normal position: the others are too small. -/
theorem stepped_of_value? {x : Float32} {k : ℤ} (hx : value? x = some ((k : ℚ) / 1024)) :
    Stepped x.toModel.unpack k := by
  unfold value? at hx
  cases hunpack : x.toModel.unpack with
  | infinity s => rw [hunpack] at hx; cases hx
  | notANumber => rw [hunpack] at hx; cases hx
  | zero s =>
    rw [hunpack] at hx
    have hk : (0 : ℚ) = k / 1024 := Option.some.inj hx
    have hzero : (k : ℚ) = 0 := by linarith
    rw [Int.cast_eq_zero.1 hzero]
    exact .zero s
  | finite s m e hm =>
    rw [hunpack] at hx
    have hvalue : (s.apply m : ℚ) * 2 ^ e = k / 1024 := Option.some.inj hx
    rcases finite_of_unpack hunpack with h | ⟨hsmall, rfl⟩
    · exact .normal s h hvalue
    · have hsteps := abs_value hvalue
      have hpos := natAbs_pos_of_value hm hsteps
      have hlarge : (m : ℚ) = k.natAbs * 2 ^ 139 := by
        norm_num at hsteps ⊢
        linarith
      have hmany : m = k.natAbs * 2 ^ 139 := by exact_mod_cast hlarge
      omega

/-! ## Equality and order -/

theorem Normal.apply_pos {m : ℕ} {e : ℤ} (h : Normal m e) (s : Sign) {k : ℤ}
    (hvalue : (s.apply m : ℚ) * 2 ^ e = k / 1024) : s = .positive ↔ 0 < k := by
  have hpos : (0 : ℚ) < m * 2 ^ e := mul_pos (by exact_mod_cast h.pos) (zpow_pos two_pos e)
  cases s with
  | negative =>
    simp only [Sign.apply] at hvalue
    push_cast at hvalue
    have hk : (k : ℚ) < 0 := by linarith
    have hneg : k < 0 := by exact_mod_cast hk
    exact ⟨fun h => (by cases h), fun h => absurd h hneg.not_gt⟩
  | positive =>
    simp only [Sign.apply] at hvalue
    push_cast at hvalue
    have hk : (0 : ℚ) < k := by linarith
    exact ⟨fun _ => (by exact_mod_cast hk), fun _ => rfl⟩

theorem Stepped.eq {u v : UnpackedFloat} {k : ℤ} (hk : k ≠ 0) (hu : Stepped u k)
    (hv : Stepped v k) : u = v := by
  cases hu with
  | zero s => exact absurd rfl hk
  | normal s h hvalue =>
    cases hv with
    | zero t => exact absurd rfl hk
    | normal t h' hvalue' =>
      obtain ⟨rfl, rfl⟩ := h.eq_of_value h' ((abs_value hvalue).trans (abs_value hvalue').symm)
      have hsign : s = .positive ↔ t = .positive :=
        (h.apply_pos s hvalue).trans (h'.apply_pos t hvalue').symm
      cases s with
      | negative =>
        cases t with
        | negative => rfl
        | positive => cases hsign.2 rfl
      | positive => rw [hsign.1 rfl]

/-- In normal position the greater exponent has the greater value, whatever the mantissas. -/
theorem Normal.value_le {m m' : ℕ} {e e' : ℤ} (h : Normal m e) (h' : Normal m' e')
    (hle : ((compare e e').then (compare m m')).isLE) : (m : ℚ) * 2 ^ e ≤ m' * 2 ^ e' := by
  rcases lt_trichotomy e e' with he | rfl | he
  · have hm : (m : ℚ) ≤ 2 ^ 24 := by exact_mod_cast h.lt.le
    have hm' : (2 : ℚ) ^ 23 ≤ m' := by exact_mod_cast h'.full
    calc (m : ℚ) * 2 ^ e ≤ 2 ^ 24 * 2 ^ e := by gcongr
      _ = 2 ^ 23 * 2 ^ (e + 1) := by rw [zpow_add₀ two_ne_zero]; ring
      _ ≤ 2 ^ 23 * 2 ^ e' := by
        gcongr
        · norm_num
        · omega
      _ ≤ m' * 2 ^ e' := by gcongr
  · have hm : m ≤ m' := Nat.isLE_compare.1 (by simpa using hle)
    gcongr
  · rw [compare_gt_iff_gt.2 he] at hle
    cases hle

theorem Stepped.le {u v : UnpackedFloat} {i j : ℤ} (hu : Stepped u i) (hv : Stepped v j)
    (hle : u.le v = true) : i ≤ j := by
  cases hu with
  | zero s =>
    cases hv with
    | zero t => exact le_rfl
    | normal t h' hvalue' =>
      cases t with
      | negative => cases hle
      | positive => exact ((h'.apply_pos .positive hvalue').1 rfl).le
  | normal s h hvalue =>
    have hi := h.apply_pos s hvalue
    cases hv with
    | zero t =>
      cases s with
      | negative => exact not_lt.1 fun hpos => by cases hi.2 hpos
      | positive => cases hle
    | normal t h' hvalue' =>
      have hj := h'.apply_pos t hvalue'
      cases s with
      | negative =>
        cases t with
        | negative =>
          have hswap := h'.value_le h (by
            simpa [UnpackedFloat.le, UnpackedFloat.compare, Ordering.swap_then,
              Int.compare_swap, Nat.compare_swap] using hle)
          simp only [Sign.apply, Int.cast_neg, Int.cast_natCast] at hvalue hvalue'
          have hij : (i : ℚ) ≤ j := by linarith
          exact_mod_cast hij
        | positive =>
          have hneg : i ≤ 0 := not_lt.1 fun hpos => by cases hi.2 hpos
          exact hneg.trans (hj.1 rfl).le
      | positive =>
        cases t with
        | negative => cases hle
        | positive =>
          have hvalues := h.value_le h' hle
          simp only [Sign.apply, Int.cast_natCast] at hvalue hvalue'
          have hij : (i : ℚ) ≤ j := by linarith
          exact_mod_cast hij

/-! ## Binary32 numbers on the grid -/

/-- The number is `k` steps of 1/1024. -/
def IsSteps (x : Float32) (k : ℤ) : Prop := value? x = some ((k : ℚ) / 1024)

theorem IsSteps.ofModel_pack {u : UnpackedFloat} {k : ℤ} (hu : Stepped u k) :
    IsSteps (.ofModel (.pack u)) k := by
  have hunpack : (Float32.ofModel (.pack u)).toModel.unpack = u := hu.unpack_pack
  rw [IsSteps, value?, hunpack]
  exact hu.number?_eq

/-- The number that is `k` quarters. -/
def quarters (k : ℤ) : Float32 :=
  .ofModel (.pack (UnpackedFloat.normalize .binary32 k (-2) .positive))

theorem isSteps_of_eq_quarters (k : ℤ) {x : Float32} (hx : x = quarters k)
    (hk : k.natAbs < 2 ^ 16) : IsSteps x (256 * k) := by
  have hvalue : (k : ℚ) * 2 ^ (-2 : ℤ) = ((256 * k : ℤ) : ℚ) / 1024 := by
    push_cast
    ring
  rw [hx]
  exact .ofModel_pack (stepped_normalize hvalue (by omega))

/-- A sum whose value fits is exact. -/
theorem IsSteps.add {x y : Float32} {i j : ℤ} (hx : IsSteps x i) (hy : IsSteps y j)
    (hbound : (i + j).natAbs < 2 ^ 24) : IsSteps (x + y) (i + j) :=
  .ofModel_pack ((stepped_of_value? hx).add (stepped_of_value? hy) hbound)

theorem IsSteps.sub {x y : Float32} {i j : ℤ} (hx : IsSteps x i) (hy : IsSteps y j)
    (hbound : (i - j).natAbs < 2 ^ 24) : IsSteps (x - y) (i - j) :=
  .ofModel_pack ((stepped_of_value? hx).sub (stepped_of_value? hy) hbound)

theorem IsSteps.le {x y : Float32} {i j : ℤ} (hx : IsSteps x i) (hy : IsSteps y j)
    (hle : x ≤ y) : i ≤ j :=
  (stepped_of_value? hx).le (stepped_of_value? hy) (of_decide_eq_true hle)

theorem IsSteps.eq {x y : Float32} {k : ℤ} (hx : IsSteps x k) (hy : IsSteps y k) (hk : k ≠ 0) :
    x = y := by
  have hunpack := (stepped_of_value? hx).eq hk (stepped_of_value? hy)
  calc x = .ofModel (.pack x.toModel.unpack) := (ofModel_pack_unpack x).symm
    _ = .ofModel (.pack y.toModel.unpack) := by rw [hunpack]
    _ = y := ofModel_pack_unpack y

/-- The number is a whole number of steps and lies between two bounds. -/
def Within (x : Float32) (low high : ℤ) : Prop :=
  ∃ k, IsSteps x k ∧ 1024 * low ≤ k ∧ k ≤ 1024 * high

theorem within_of_eq_quarters (k : ℤ) {x : Float32} {low high : ℤ} (hx : x = quarters k)
    (hbounds : -16384 < low ∧ 4 * low ≤ k ∧ k ≤ 4 * high ∧ high < 16384) : Within x low high :=
  ⟨256 * k, isSteps_of_eq_quarters k hx (by omega), by omega, by omega⟩

theorem Within.mono {x : Float32} {low high low' high' : ℤ} (hx : Within x low high)
    (hlow : low' ≤ low) (hhigh : high ≤ high') : Within x low' high' := by
  obtain ⟨k, hk, hmin, hmax⟩ := hx
  exact ⟨k, hk, by omega, by omega⟩

theorem Within.sub {x y : Float32} {a b c d : ℤ} (hx : Within x a b) (hy : Within y c d)
    (hlow : -16384 < a - d) (hhigh : b - c < 16384) : Within (x - y) (a - d) (b - c) := by
  obtain ⟨i, hi, hmin, hmax⟩ := hx
  obtain ⟨j, hj, hmin', hmax'⟩ := hy
  exact ⟨i - j, hi.sub hj (by omega), by omega, by omega⟩

/-- What was added comes off again. -/
theorem Within.add_sub_cancel {x y : Float32} {a b c d : ℤ} (hx : Within x a b)
    (hy : Within y c d) (hpos : 0 < c) (hd : d < 16384) (hlow : -16384 < a)
    (hhigh : b + d < 16384) : x + y - x = y := by
  obtain ⟨i, hi, hmin, hmax⟩ := hx
  obtain ⟨j, hj, hmin', hmax'⟩ := hy
  have hsum : IsSteps (x + y) (i + j) := hi.add hj (by omega)
  have hdiff : IsSteps (x + y - x) (i + j - i) := hsum.sub hi (by omega)
  rw [add_sub_cancel_left] at hdiff
  exact hdiff.eq hj (by omega)

end SignalBoard.Binary32
