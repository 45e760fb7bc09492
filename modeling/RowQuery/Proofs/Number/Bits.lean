import Mathlib
import RowQuery.Number.Binary64

/-!
# Floats and their bits

A float is what its bits say: `Float.ofBits` brings back every float (`ofBits_toBits`), and bits that are
no NaN come back from the float they make (`toBits_ofMagnitude`). So a finite float is determined by
its sign, coefficient and exponent (`eq_ofMagnitude_of_decode`).
-/

namespace RowQuery.Number

open Float.Model (UnpackedFloat Format)
open Float.Model.UnpackedFloat

/-! ## Packing and unpacking -/

theorem ofBitVec_toBitVec (v : BitVec 1) : (Sign.ofBitVec v).toBitVec = v := by
  revert v
  decide

abbrev bitsSign (b : BitVec 64) : BitVec 1 := @unpackSign Format.binary64 b

abbrev bitsExponent (b : BitVec 64) : BitVec 11 := @unpackExponent Format.binary64 b

abbrev bitsFraction (b : BitVec 64) : BitVec 52 := @unpackMantissa Format.binary64 b

/-- The three parts of the bits, put together again. -/
theorem packComponents_unpack (b : BitVec 64) :
    packComponents Format.binary64 (Sign.ofBitVec (bitsSign b)) (bitsExponent b) (bitsFraction b) =
      b := by
  rw [packComponents, ofBitVec_toBitVec]
  apply BitVec.eq_of_getLsbD_eq
  intro i hi
  have hi' : i < 64 := hi
  simp only [BitVec.getLsbD_append, bitsSign, bitsExponent, bitsFraction, unpackSign, unpackExponent,
    unpackMantissa, BitVec.getLsbD_cast, BitVec.getLsbD_extractLsb]
  split
  next h =>
    simp
    omega
  next h =>
    split
    next h' =>
      have : 52 + (i - 52) = i := by omega
      simp [this]
      omega
    next h' =>
      obtain rfl : i = 63 := by omega
      rfl

theorem pack_unpack (b : BitVec 64) (hb : Format.binary64.Valid b) :
    pack Format.binary64 (unpack Format.binary64 b) = b := by
  have hparts := packComponents_unpack b
  have hexp : (bitsExponent b).toNat < 2 ^ 11 := (bitsExponent b).isLt
  have hman : (bitsFraction b).toNat < 2 ^ 52 := (bitsFraction b).isLt
  have hbias : Format.binary64.exponentBias = 1023 := rfl
  have hbits : Format.binary64.mantissaBits = 53 := rfl
  simp only [unpack]
  split
  next h =>
    split
    next h0 =>
      rw [pack, packedInfinity]
      rw [bitsExponent, bitsFraction, h, h0] at hparts
      exact hparts
    next h0 => exact (hb.eq_packedNaN h h0).symm
  next h =>
    split
    next h1 =>
      split
      next h0 =>
        rw [pack, packedZero]
        rw [bitsExponent, bitsFraction, h1, h0] at hparts
        exact hparts
      next h0 =>
        have hpos : (bitsFraction b).toNat ≠ 0 := fun hz => h0 (BitVec.eq_of_toNat_eq hz)
        have hlog : (bitsFraction b).toNat.log2 < 52 := (Nat.log2_lt hpos).2 hman
        rw [bitsExponent, h1] at hparts
        rw [h1, pack, hbias, hbits, if_neg (by decide), if_neg (show ¬ (bitsFraction b).toNat.log2 + 1 = 53 by omega),
          BitVec.ofNat_toNat, BitVec.setWidth_eq]
        exact hparts
    next h1 =>
      have hlt : (bitsExponent b).toNat ≠ 2047 := fun h2 => h (BitVec.eq_of_toNat_eq h2)
      have hvalue : (1#1 ++ bitsFraction b).toNat = 2 ^ 52 + (bitsFraction b).toNat := by
        rw [BitVec.toNat_append, ← Nat.shiftLeft_add_eq_or_of_lt hman]
        rfl
      have hlog : (1#1 ++ bitsFraction b).toNat.log2 = 52 := by
        rw [hvalue, Nat.log2_eq_iff (by omega)]
        omega
      have hbiased : ((bitsExponent b).toNat - ((1023 : Nat) + (52 : Nat) : Int) + (1023 : Nat) +
          (52 : Nat)).toNat = (bitsExponent b).toNat := by omega
      have hfraction : BitVec.ofNat 52 (2 ^ 52 + (bitsFraction b).toNat) = bitsFraction b := by
        apply BitVec.eq_of_toNat_eq
        rw [BitVec.toNat_ofNat]
        omega
      rw [pack, hbias, hbits, hbiased,
        if_neg (show ¬ 2 ^ 11 ≤ (bitsExponent b).toNat + 1 by omega),
        if_pos (show (1#1 ++ bitsFraction b).toNat.log2 + 1 = 53 by omega), BitVec.ofNat_toNat,
        BitVec.setWidth_eq, hvalue, hfraction]
      exact hparts

theorem toNat_bitsExponent (b : BitVec 64) : (bitsExponent b).toNat = b.toNat / 2 ^ 52 % 2 ^ 11 := by
  simp only [bitsExponent, unpackExponent, BitVec.toNat_cast, BitVec.extractLsb_toNat,
    Nat.shiftRight_eq_div_pow]

theorem toNat_bitsFraction (b : BitVec 64) : (bitsFraction b).toNat = b.toNat % 2 ^ 52 := by
  simp only [bitsFraction, unpackMantissa, BitVec.toNat_cast, BitVec.extractLsb_toNat,
    Nat.shiftRight_zero]

/-! ## Floats -/

theorem ofBits_toBits (x : Float) : Float.ofBits x.toBits = x := by
  have h := pack_unpack x.toModel.toBits.toBitVec x.toModel.valid
  obtain ⟨⟨bits, valid⟩⟩ := x
  simp only [Float.ofBits, Float.toBits, Float.Model.ofBits, Float.Model.pack] at h ⊢
  congr

theorem toBits_ofBits {bits : UInt64} (h : Format.binary64.Valid bits.toBitVec) :
    (Float.ofBits bits).toBits = bits := by
  have := pack_unpack bits.toBitVec h
  exact congrArg UInt64.ofBitVec this

theorem toBits_ofMagnitude (negative : Bool) {magnitude : Nat} (h : magnitude ≤ infinityBits) :
    (ofMagnitude negative magnitude).toBits.toNat = signBit negative + magnitude := by
  have hsign : signBit negative = 0 ∨ signBit negative = 2 ^ 63 := by cases negative <;> simp [signBit]
  have hbound : infinityBits = 2047 * 2 ^ 52 := rfl
  have hnat : (UInt64.ofNat (signBit negative + magnitude)).toNat = signBit negative + magnitude :=
    UInt64.toNat_ofNat_of_lt' (show _ < 2 ^ 64 by omega)
  have hvec : (UInt64.ofNat (signBit negative + magnitude)).toBitVec.toNat =
      signBit negative + magnitude := hnat
  rw [ofMagnitude, toBits_ofBits, hnat]
  refine ⟨fun he hm => ?_⟩
  have he : (bitsExponent (UInt64.ofNat (signBit negative + magnitude)).toBitVec).toNat = 2047 := by
    rw [bitsExponent, he]
    rfl
  have hm : (bitsFraction (UInt64.ofNat (signBit negative + magnitude)).toBitVec).toNat ≠ 0 :=
    fun hz => hm (BitVec.eq_of_toNat_eq hz)
  rw [toNat_bitsExponent, hvec] at he
  rw [toNat_bitsFraction, hvec] at hm
  omega

/-- Bits of the magnitude of the float `coef · 2 ^ exp`. -/
def magnitudeBits (coef : Nat) (exp : Int) : Nat :=
  (exp + 1074).toNat * 2 ^ 52 + coef

/-- The coefficients and exponents that floats have: all 53 bits are used unless the exponent is the
least one. -/
structure InRange (coef : Nat) (exp : Int) : Prop where
  coef_lt : coef < 2 ^ 53
  least : -1074 ≤ exp
  greatest : exp ≤ 971
  full : exp = -1074 ∨ 2 ^ 52 ≤ coef

theorem decode_finite {x : Float} {negative : Bool} {coef : Nat} {exp : Int}
    (h : decode x = .finite negative coef exp) :
    InRange coef exp ∧ x = ofMagnitude negative (magnitudeBits coef exp) := by
  have hlt : x.toBits.toNat < 2 ^ 64 := x.toBits.toNat_lt
  have hbits : UInt64.ofNat x.toBits.toNat = x.toBits := UInt64.ofNat_toNat
  have hparts : InRange coef exp ∧
      x.toBits.toNat = signBit negative + magnitudeBits coef exp := by
    simp only [decode] at h
    split at h
    next => split at h <;> cases h
    next hinf =>
      split at h
      next hzero =>
        cases h
        refine ⟨⟨by omega, by omega, by omega, .inl rfl⟩, ?_⟩
        simp only [signBit, magnitudeBits, decide_eq_true_eq]
        split <;> omega
      next hpos =>
        cases h
        refine ⟨⟨by omega, by omega, by omega, .inr (by omega)⟩, ?_⟩
        simp only [signBit, magnitudeBits, decide_eq_true_eq]
        split <;> omega
  refine ⟨hparts.1, ?_⟩
  rw [ofMagnitude, ← hparts.2, hbits, ofBits_toBits]

/-- No sign and no NaN. -/
theorem decode_ofMagnitude {magnitude : Nat} (h : magnitude ≤ infinityBits) :
    decode (ofMagnitude false magnitude) = .infinite false ∨
      ∃ coef exp, decode (ofMagnitude false magnitude) = .finite false coef exp := by
  have hbits := toBits_ofMagnitude false h
  have hbound : infinityBits = 2047 * 2 ^ 52 := rfl
  simp only [signBit, Bool.false_eq_true, if_false, Nat.zero_add] at hbits
  simp only [decode, hbits]
  have hsign : ¬ 2 ^ 63 ≤ magnitude := by omega
  simp only [hsign, decide_false]
  split
  next hinf =>
    rw [if_pos (by omega)]
    exact .inl rfl
  next => split <;> exact .inr ⟨_, _, rfl⟩

end RowQuery.Number
