import Mathlib

/-! # Packing

A binary32 number is packed into a sign, eight bits of exponent and 23 bits of mantissa.  A mantissa
in normal position has 24 bits, of which the first is not packed (`Binary32.Normal`).  Such a number
survives being packed (`Binary32.Normal.unpack_pack`), and every number survives being unpacked
(`Binary32.ofModel_pack_unpack`).

The second is `Float32.ofBits_toBits`.  Among the modules of Mathlib only Mathlib itself imports the
lemmas about packing, so it is imported here, and in no other module. -/

namespace SignalBoard.Binary32

set_option autoImplicit false

open Float.Model UnpackedFloat

/-- Mantissa and exponent of a normal binary32 number. -/
structure Normal (m : ℕ) (e : ℤ) : Prop where
  full : 2 ^ 23 ≤ m
  lt : m < 2 ^ 24
  le_exponent : -149 ≤ e
  exponent_le : e ≤ 104

theorem Normal.pos {m : ℕ} {e : ℤ} (h : Normal m e) : 0 < m :=
  Nat.lt_of_lt_of_le (by decide) h.full

theorem Normal.log2_eq {m : ℕ} {e : ℤ} (h : Normal m e) : m.log2 = 23 :=
  (Nat.log2_eq_iff h.pos.ne').2 ⟨h.full, h.lt⟩

theorem toNat_one_append (b : BitVec 23) : (1#1 ++ b).toNat = 2 ^ 23 + b.toNat := by
  rw [BitVec.toNat_append, ← Nat.shiftLeft_add_eq_or_of_lt b.isLt]
  rfl

theorem toNat_ofNat_exponent {e : ℤ} (hlow : -149 ≤ e) (hhigh : e ≤ 104) :
    ((BitVec.ofNat 8 (e + 150).toNat).toNat : ℤ) = e + 150 := by
  rw [BitVec.toNat_ofNat]
  omega

/-- The exponent is packed with 127 added, and counts from the top of the mantissa. -/
theorem Normal.pack_eq {m : ℕ} {e : ℤ} (h : Normal m e) (s : Sign) :
    UnpackedFloat.pack .binary32 (.finite s m e h.pos) =
      packComponents .binary32 s (BitVec.ofNat 8 (e + 150).toNat) (BitVec.ofNat 23 m) := by
  have hhigh := h.exponent_le
  have hlow := h.le_exponent
  have hbiased : (e + (Format.binary32.exponentBias : ℤ) +
      (Format.binary32.mantissaBitsWithoutImplicit : ℤ)).toNat = (e + 150).toNat := by
    change (e + 127 + 23).toNat = _
    omega
  rw [UnpackedFloat.pack]
  simp only [h.log2_eq, hbiased]
  rw [if_neg (by omega), if_pos (by rfl)]

/-- A number whose mantissa is in normal position survives being packed. -/
theorem Normal.unpack_pack {m : ℕ} {e : ℤ} (h : Normal m e) (s : Sign) :
    UnpackedFloat.unpack .binary32 (UnpackedFloat.pack .binary32 (.finite s m e h.pos)) =
      .finite s m e h.pos := by
  obtain ⟨hfull, hlt, hlow, hhigh⟩ := id h
  have hexponent := toNat_ofNat_exponent hlow hhigh
  have hmantissa : (1#1 ++ BitVec.ofNat 23 m).toNat = m := by
    rw [toNat_one_append, BitVec.toNat_ofNat]
    omega
  have htop : BitVec.ofNat 8 (e + 150).toNat ≠ -1#8 := by
    intro heq
    have hmax : ((-1#8).toNat : ℤ) = 255 := rfl
    rw [heq, hmax] at hexponent
    omega
  have hbottom : BitVec.ofNat 8 (e + 150).toNat ≠ 0#8 := by
    intro heq
    have hmin : ((0#8).toNat : ℤ) = 0 := rfl
    rw [heq, hmin] at hexponent
    omega
  have hunbiased : ((BitVec.ofNat 8 (e + 150).toNat).toNat : ℤ) -
      (Format.binary32.exponentBias + Format.binary32.mantissaBitsWithoutImplicit) = e := by
    rw [hexponent]
    change e + 150 - (127 + 23) = e
    omega
  rw [h.pack_eq, UnpackedFloat.unpack]
  simp only [unpackMantissa_packComponents, unpackExponent_packComponents,
    unpackSign_packComponents, Sign.ofBitVec_toBitVec, if_neg htop, if_neg hbottom, hmantissa,
    hunbiased]

/-- An unpacked number is normal or too small for a mantissa in normal position. -/
theorem finite_of_unpack {b : BitVec 32} {s : Sign} {m : ℕ} {e : ℤ} {hm : 0 < m}
    (h : UnpackedFloat.unpack .binary32 b = .finite s m e hm) :
    Normal m e ∨ m < 2 ^ 23 ∧ e = -149 := by
  have hbias : (Format.binary32.exponentBias : ℤ) +
      (Format.binary32.mantissaBitsWithoutImplicit : ℤ) = 150 := rfl
  unfold UnpackedFloat.unpack at h
  simp only [hbias] at h
  by_cases htop : @unpackExponent .binary32 b = -1#8
  · rw [if_pos htop] at h
    split at h
    · cases h
    · cases h
  · rw [if_neg htop] at h
    by_cases hbottom : @unpackExponent .binary32 b = 0#8
    · rw [if_pos hbottom] at h
      split at h
      · cases h
      · injection h with _ hm he
        rw [hbottom] at he
        exact .inr ⟨hm ▸ (@unpackMantissa .binary32 b).isLt, he.symm⟩
    · rw [if_neg hbottom] at h
      injection h with _ hm he
      rw [toNat_one_append] at hm
      have hmantissa : (@unpackMantissa .binary32 b).toNat < 2 ^ 23 := BitVec.isLt _
      have hexponent : (@unpackExponent .binary32 b).toNat < 256 := BitVec.isLt _
      have hnotTop : (@unpackExponent .binary32 b).toNat ≠ 255 :=
        fun h => htop (BitVec.eq_of_toNat_eq h)
      have hnotBottom : (@unpackExponent .binary32 b).toNat ≠ 0 :=
        fun h => hbottom (BitVec.eq_of_toNat_eq h)
      exact .inl ⟨by omega, by omega, by omega, by omega⟩

/-- Packing undoes unpacking. -/
theorem ofModel_pack_unpack (x : Float32) : Float32.ofModel (.pack x.toModel.unpack) = x :=
  x.ofBits_toBits

end SignalBoard.Binary32
