import RowQuery.Builtin.Registry
import RowQuery.Proofs.Number.WholeFloat

/-!
# Rounding of integers

`ceil`, `floor` and `round` look at an integer as a float. An integer is a whole number already, and so is
its nearest float, so nothing is rounded but by that conversion (`call_rounding`): the integers that come
back are those that a float holds, the least one apart (`call_rounding_iff`).
-/

namespace RowQuery.Builtin

open Number

/-- Names of the functions that round to a whole number. -/
def roundings : List String := ["ceil", "floor", "round"]

theorem integral_of_whole {x : Float} {k : ℤ} (h : value? x = some (k : ℚ)) :
    integral x = if k.natAbs < 2 ^ 63 then .int (Int64.ofInt k) else .float x := by
  obtain ⟨hwhole, hpart⟩ := wholePart_of_whole h
  rw [integral, hwhole, hpart, Bool.true_and]
  simp only [decide_eq_true_eq]

theorem divCeil_mul (m : Nat) {d : Nat} (hd : 0 < d) : divCeil (m * d) d = m := by
  have hnum : m * d + d - 1 = d * m + (d - 1) := by
    rw [Nat.mul_comm]
    omega
  rw [divCeil, hnum, Nat.mul_add_div hd, Nat.div_eq_of_lt (by omega), Nat.add_zero]

theorem divHalfUp_mul (m : Nat) {d : Nat} (hd : 0 < d) : divHalfUp (m * d) d = m := by
  have hnum : 2 * (m * d) + d = 2 * d * m + d := by ring
  rw [divHalfUp, hnum, Nat.mul_add_div (by omega), Nat.div_eq_of_lt (by omega), Nat.add_zero]

/-- A rounding function returns the nearest float of an integer, as an integer where it is in range. -/
theorem call_rounding {name : String} (hname : name ∈ roundings) (n : Int64) :
    Builtin.call name [.int n] = .ok (integral (ofInt64 n)) := by
  obtain ⟨k, hk⟩ := exists_value?_ofInt64 n
  have hself (pick : Bool → Nat → Nat → Nat) (hpick : ∀ negative m d, 0 < d → pick negative (m * d) d = m) :
      integral (roundBy pick (ofInt64 n)) = integral (ofInt64 n) := by
    rw [roundBy_of_whole hk hpick]
  simp only [roundings, List.mem_cons, List.not_mem_nil, or_false] at hname
  rcases hname with rfl | rfl | rfl
  · refine congrArg Except.ok (hself (fun negative n d => if negative then n / d else divCeil n d) ?_)
    intro negative m d hd
    cases negative
    · exact divCeil_mul m hd
    · exact Nat.mul_div_cancel m hd
  · refine congrArg Except.ok (hself (fun negative n d => if negative then divCeil n d else n / d) ?_)
    intro negative m d hd
    cases negative
    · exact Nat.mul_div_cancel m hd
    · exact divCeil_mul m hd
  · exact congrArg Except.ok (hself (fun _ n d => divHalfUp n d) fun _ m d hd => divHalfUp_mul m hd)

/-- **The rounding functions return an integer unaltered** exactly if a float holds it and it is not the
least one. -/
theorem call_rounding_iff {name : String} (hname : name ∈ roundings) (n : Int64) :
    Builtin.call name [.int n] = .ok (.int n) ↔ n ≠ Int64.minValue ∧ FitsFloat n.toInt := by
  obtain ⟨k, hk⟩ := exists_value?_ofInt64 n
  have hlow := n.le_toInt
  have hleast : n = Int64.minValue ↔ n.toInt = -2 ^ 63 := Int64.toInt_inj.symm
  rw [call_rounding hname, integral_of_whole hk, ← value?_ofInt64_iff, hk, ne_eq, hleast, Except.ok.injEq,
    Option.some.injEq, Int.cast_inj]
  by_cases hrange : k.natAbs < 2 ^ 63
  · rw [if_pos hrange, Value.int.injEq, ← Int64.toInt_inj, Int64.toInt_ofInt_of_le (by omega) (by omega)]
    omega
  · rw [if_neg hrange]
    have hhigh := n.toInt_lt
    refine iff_of_false (by simp) ?_
    omega

/-- The integer 2 ^ 53 + 2 is even, and a float holds it. -/
theorem call_rounding_iff_even : "floor" ∈ roundings ∧
    Builtin.call "floor" [.int 9007199254740994] = .ok (.int 9007199254740994) :=
  ⟨by decide, (call_rounding_iff (by decide) 9007199254740994).mpr
    ⟨by decide, 4503599627370497, 1, by decide, by decide⟩⟩

/-- The integer 2 ^ 53 + 1 comes back as 2 ^ 53, and the greatest integer as the float 2 ^ 63. -/
theorem call_rounding_alters :
    Builtin.call "ceil" [.int 9007199254740993] = .ok (.int 9007199254740992) ∧
      Builtin.call "round" [.int 9223372036854775807] = .ok (.float 9223372036854775808.0) := by
  constructor
  · rfl
  · rfl

end RowQuery.Builtin
