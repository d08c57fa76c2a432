import SignalBoard.Device.Perceptron
import SignalBoard.Proofs.Packing

/-! # Adding zeros

Adding a zero changes no binary32 number but a zero, and a zero only in its sign
(`Binary32.sameButSign_add`).  So the sums of two lists that differ in zeros alone are equal up to
the sign of a zero (`Binary32.SameButSign`): an infinity, a `NaN` and every other number are the
same in both.

Addition unpacks its arguments and packs the sum.  A number survives this when a zero is added
because packing undoes unpacking (`Binary32.ofModel_pack_unpack`). -/

namespace SignalBoard.Binary32

set_option autoImplicit false

open Float.Model

def IsZero (x : Float32) : Prop := ∃ sign, x.toModel.unpack = .zero sign

theorem isZero_zero : IsZero 0 := ⟨.positive, by rfl⟩

/-- The sum of two numbers, read off their unpacked forms. -/
theorem add_eq_ofModel (x y : Float32) :
    x + y = .ofModel (.pack (UnpackedFloat.add .binary32 x.toModel.unpack y.toModel.unpack)) := rfl

theorem IsZero.add {x y : Float32} (hx : IsZero x) (hy : IsZero y) : IsZero (x + y) := by
  obtain ⟨s, hx⟩ := hx
  obtain ⟨t, hy⟩ := hy
  rw [add_eq_ofModel, hx, hy]
  cases s with
  | negative =>
    cases t with
    | negative => exact ⟨.negative, by rfl⟩
    | positive => exact ⟨.positive, by rfl⟩
  | positive =>
    cases t with
    | negative => exact ⟨.positive, by rfl⟩
    | positive => exact ⟨.positive, by rfl⟩

theorem add_isZero {x z : Float32} (hx : ¬ IsZero x) (hz : IsZero z) : x + z = x := by
  obtain ⟨s, hz⟩ := hz
  have hadd : UnpackedFloat.add .binary32 x.toModel.unpack (.zero s) = x.toModel.unpack := by
    cases hunpack : x.toModel.unpack with
    | notANumber => rfl
    | infinity t => rfl
    | zero t => exact absurd ⟨t, hunpack⟩ hx
    | finite t m e hm => rfl
  rw [add_eq_ofModel, hz, hadd]
  exact ofModel_pack_unpack x

theorem isZero_add {x z : Float32} (hx : ¬ IsZero x) (hz : IsZero z) : z + x = x := by
  obtain ⟨s, hz⟩ := hz
  have hadd : UnpackedFloat.add .binary32 (.zero s) x.toModel.unpack = x.toModel.unpack := by
    cases hunpack : x.toModel.unpack with
    | notANumber => rfl
    | infinity t => rfl
    | zero t => exact absurd ⟨t, hunpack⟩ hx
    | finite t m e hm => rfl
  rw [add_eq_ofModel, hz, hadd]
  exact ofModel_pack_unpack x

/-- The numbers are equal, or both are zero. -/
def SameButSign (x y : Float32) : Prop := x = y ∨ IsZero x ∧ IsZero y

theorem sameButSign_self (x : Float32) : SameButSign x x := .inl rfl

theorem SameButSign.trans {x y z : Float32} (h : SameButSign x y) (h' : SameButSign y z) :
    SameButSign x z := by
  rcases h with rfl | ⟨hx, hy⟩
  · exact h'
  · rcases h' with rfl | ⟨-, hz⟩
    · exact .inr ⟨hx, hy⟩
    · exact .inr ⟨hx, hz⟩

/-- The sign of a zero has no part in a sum, but for the sign of a zero. -/
theorem SameButSign.add_right {x y : Float32} (h : SameButSign x y) (w : Float32) :
    SameButSign (x + w) (y + w) := by
  rcases h with rfl | ⟨hx, hy⟩
  · exact .inl rfl
  · by_cases hw : IsZero w
    · exact .inr ⟨hx.add hw, hy.add hw⟩
    · exact .inl ((isZero_add hw hx).trans (isZero_add hw hy).symm)

theorem sameButSign_add {z : Float32} (hz : IsZero z) (x : Float32) : SameButSign (x + z) x := by
  by_cases hx : IsZero x
  · exact .inr ⟨hx.add hz, hx⟩
  · exact .inl (add_isZero hx hz)

/-- Every zero counts as not negative. -/
theorem IsZero.fires {x : Float32} (hx : IsZero x) : Perceptron.fires x = true := by
  obtain ⟨s, hx⟩ := hx
  obtain ⟨t, hzero⟩ := isZero_zero
  have hle : (0 : Float32).toModel.unpack.le x.toModel.unpack = true := by
    rw [hzero, hx]
    rfl
  exact decide_eq_true (decide_eq_true hle)

theorem SameButSign.fires_eq {x y : Float32} (h : SameButSign x y) :
    Perceptron.fires x = Perceptron.fires y := by
  rcases h with rfl | ⟨hx, hy⟩
  · rfl
  · rw [hx.fires, hy.fires]

end SignalBoard.Binary32
