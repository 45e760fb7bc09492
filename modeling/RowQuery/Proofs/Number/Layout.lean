import RowQuery.Number.Layout
import RowQuery.Proofs.Number.Digits

/-!
# Tagged texts are decimals

The tagged layout of a finite float without a sign is a decimal with a point or an exponent
(`tagged_zero`, `tagged_digits`). Its parts spell the digits that were laid out, perhaps with zeros
behind them.
-/

namespace RowQuery.Number.Layout

open Written (exponentValue)

/-- Whether a decimal shows that it is no integer. -/
def marked (w : Written) : Prop :=
  w.fraction ≠ [] ∨ w.exponent ≠ none

theorem tagged_zero (exp : Int) :
    tagged.magnitude 0 exp = (Written.mk ['0'] ['0'] none).text := rfl

/-- The decimal `n · 10 ^ place`, up to zeros behind its digits. -/
def Spells (w : Written) (n : Nat) (place : Int) : Prop :=
  ∃ zeros : Nat, w.coef = n * 10 ^ zeros ∧ w.exp = place - zeros

variable {n : Nat} {place point : Int}

theorem isDigit_zero : ∀ d ∈ ['0'], isDigit d = true :=
  List.all_eq_true.mp (by decide)

theorem isDigit_zeros {count : Nat} {d : Char} (h : d ∈ List.replicate count '0') :
    isDigit d = true := by
  rw [List.eq_of_mem_replicate h]
  decide

/-- All the digits stand behind the point. -/
theorem positional_small (h : point ≤ 0) (hpoint : point = place + (Nat.toDigits 10 n).length) :
    ∃ w, w.Valid ∧ marked w ∧ tagged.positionalText (Nat.toDigits 10 n) point = w.text ∧
      Spells w n place := by
  let zeros := List.replicate (-point).toNat '0'
  refine ⟨⟨['0'], zeros ++ Nat.toDigits 10 n, none⟩, ⟨by simp, isDigit_zero, ?_, by simp⟩, .inl ?_, ?_,
    0, ?_, ?_⟩
  · intro d hd
    rcases List.mem_append.mp hd with hd | hd
    · exact isDigit_zeros hd
    · exact isDigit_of_mem_toDigits hd
  · simp [Nat.toDigits_ne_nil]
  · have hne : (zeros ++ Nat.toDigits 10 n).isEmpty = false := by simp [Nat.toDigits_ne_nil]
    simp only [positionalText, if_pos h, Written.text, Written.point, hne, Bool.false_eq_true,
      if_false, Written.exponentText]
    simp [zeros]
  · have := digitsValue_zeros_append (Nat.toDigits 10 n) ((-point).toNat + 1)
    rw [List.replicate_succ, digitsValue_toDigits] at this
    simpa [Written.coef, zeros] using this
  · simp only [Written.exp, exponentValue, List.length_append, zeros, List.length_replicate]
    omega

/-- All the digits stand in front of the point. -/
theorem positional_large (h : 0 < point) (hlen : (Nat.toDigits 10 n).length ≤ point)
    (hpoint : point = place + (Nat.toDigits 10 n).length) :
    ∃ w, w.Valid ∧ marked w ∧ tagged.positionalText (Nat.toDigits 10 n) point = w.text ∧
      Spells w n place := by
  let count := point.toNat - (Nat.toDigits 10 n).length
  refine ⟨⟨Nat.toDigits 10 n ++ List.replicate count '0', ['0'], none⟩,
    ⟨by simp [Nat.toDigits_ne_nil], ?_, isDigit_zero, by simp⟩, .inl (by simp), ?_, count + 1, ?_, ?_⟩
  · intro d hd
    rcases List.mem_append.mp hd with hd | hd
    · exact isDigit_of_mem_toDigits hd
    · exact isDigit_zeros hd
  · have hnot : ¬ point ≤ 0 := by omega
    simp only [positionalText, if_neg hnot, if_pos hlen, Written.text, Written.point,
      Written.exponentText]
    rfl
  · have := digitsValue_append_zeros (Nat.toDigits 10 n) (count + 1)
    rw [List.replicate_succ', digitsValue_toDigits, ← List.append_assoc] at this
    exact this
  · simp only [Written.exp, exponentValue, List.length_singleton, count]
    omega

/-- The point stands among the digits. -/
theorem positional_middle (h : 0 < point) (hlen : point < (Nat.toDigits 10 n).length)
    (hpoint : point = place + (Nat.toDigits 10 n).length) :
    ∃ w, w.Valid ∧ marked w ∧ tagged.positionalText (Nat.toDigits 10 n) point = w.text ∧
      Spells w n place := by
  have hdigit : ∀ d ∈ Nat.toDigits 10 n, isDigit d = true := fun _ => isDigit_of_mem_toDigits
  have htake : (Nat.toDigits 10 n).take point.toNat ≠ [] := by
    rw [Ne, List.take_eq_nil_iff]
    rintro (h | h)
    · omega
    · exact Nat.toDigits_ne_nil h
  have hdrop : (Nat.toDigits 10 n).drop point.toNat ≠ [] := by
    rw [Ne, List.drop_eq_nil_iff]
    omega
  refine ⟨⟨(Nat.toDigits 10 n).take point.toNat, (Nat.toDigits 10 n).drop point.toNat, none⟩,
    ⟨htake, fun d hd => hdigit d (List.mem_of_mem_take hd),
      fun d hd => hdigit d (List.mem_of_mem_drop hd), by simp⟩, .inl hdrop, ?_, 0, ?_, ?_⟩
  · have hnot : ¬ point ≤ 0 := by omega
    have hnot' : ¬ ((Nat.toDigits 10 n).length : Int) ≤ point := by omega
    have hempty : ((Nat.toDigits 10 n).drop point.toNat).isEmpty = false := by simpa using hdrop
    simp only [positionalText, if_neg hnot, if_neg hnot', Written.text, Written.point, hempty,
      Bool.false_eq_true, if_false, Written.exponentText, List.append_nil]
  · simp [Written.coef]
  · simp only [Written.exp, exponentValue, List.length_drop]
    omega

theorem exponent_form {lead : Int} (hlead : lead = place + (Nat.toDigits 10 n).length - 1) :
    ∃ w, w.Valid ∧ marked w ∧ tagged.exponentText (Nat.toDigits 10 n) lead = w.text ∧
      Spells w n place := by
  have hdigit : ∀ d ∈ Nat.toDigits 10 n, isDigit d = true := fun _ => isDigit_of_mem_toDigits
  have hvalue : digitsValue (Nat.toDigits 10 n) = n := digitsValue_toDigits n
  obtain ⟨c, rest, hdigits⟩ := List.exists_cons_of_ne_nil (Nat.toDigits_ne_nil (b := 10) (n := n))
  rw [hdigits] at hdigit hvalue hlead ⊢
  refine ⟨⟨[c], rest, some (lead < 0, Nat.toDigits 10 lead.natAbs)⟩,
    ⟨by simp, fun d hd => hdigit d (by simp_all), fun d hd => hdigit d (by simp [hd]), ?_⟩,
    .inr (by simp), ?_, 0, ?_, ?_⟩
  · intro negative digits heq
    cases heq
    exact ⟨Nat.toDigits_ne_nil, fun _ => isDigit_of_mem_toDigits⟩
  · have hsign : (if lead < 0 then ['-'] else if tagged.plusSign then ['+'] else []) =
        if decide (lead < 0) then ['-'] else [] := by simp [tagged]
    simp only [exponentText, hsign, Written.text, Written.exponentText]
    cases rest with
    | nil => simp [Written.point]
    | cons d rest => simp [Written.point]
  · simpa [Written.coef] using hvalue.symm ▸ rfl
  · simp only [Written.exp, exponentValue, digitsValue_toDigits, List.length_cons,
      decide_eq_true_eq] at hlead ⊢
    split <;> omega

/-- The tagged layout of a positive float is a decimal that spells its shortest digits. -/
theorem tagged_digits {coef : Nat} (hcoef : coef ≠ 0) (exp : Int) :
    ∃ w, w.Valid ∧ marked w ∧ tagged.magnitude coef exp = w.text ∧
      Spells w (shortest .upper coef exp).1 (shortest .upper coef exp).2 := by
  rcases hs : shortest .upper coef exp with ⟨n, place⟩
  have hmagnitude : tagged.magnitude coef exp =
      if tagged.isPositional (place + (Nat.toDigits 10 n).length - 1) then
        tagged.positionalText (Nat.toDigits 10 n) (place + (Nat.toDigits 10 n).length - 1 + 1)
      else tagged.exponentText (Nat.toDigits 10 n) (place + (Nat.toDigits 10 n).length - 1) := by
    have htie : tagged.tie = .upper := rfl
    rw [magnitude, if_neg hcoef, htie, hs]
  rw [hmagnitude]
  split
  · have hpoint : place + (Nat.toDigits 10 n).length - 1 + 1 = place + (Nat.toDigits 10 n).length := by
      omega
    rw [hpoint]
    by_cases h : place + (Nat.toDigits 10 n).length ≤ 0
    · exact positional_small h rfl
    · by_cases hlen : ((Nat.toDigits 10 n).length : Int) ≤ place + (Nat.toDigits 10 n).length
      · exact positional_large (by omega) hlen rfl
      · exact positional_middle (by omega) (by omega) rfl
  · exact exponent_form rfl

end RowQuery.Number.Layout
