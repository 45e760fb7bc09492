import RowQuery.Proofs.Number.Monotone
import RowQuery.Value.Order

/-!
# The order for sorting

Values are sorted by a key in which integers are rounded to floats, except that two integers are compared
exactly (`sortCompare_cases`). Rounding keeps the order of integers, so the exact comparison only decides
between equal keys (`sortKey_le`). The two do not fit together in one case: a float that ties with two
different integers (`circular_iff`).
-/

namespace RowQuery.Value

open Number

variable {a b c : Value}

/-! ## Keys -/

/-- Where a float stands among the floats: behind all others if it is NaN. -/
def floatOrdinal (x : Float) : Int :=
  if Number.isNaN x then infinityBits + 1 else key x

/-- Where a value stands among the booleans or among the numbers. -/
def ordinal : Value → Int
  | bool b => b.toNat
  | int n => floatOrdinal (ofInt64 n)
  | float x => floatOrdinal x
  | _ => 0

/-- Where a value stands among the strings. -/
def text : Value → String
  | str s => s
  | _ => ""

/-- Rank of the kind, then the place within it. -/
def sortKey (v : Value) : Nat ×ₗ Int ×ₗ String :=
  toLex (v.rank, toLex (v.ordinal, v.text))

theorem compare_keys (rank rank' : Nat) (i j : Int) (s t : String) :
    compare (toLex (rank, toLex (i, s)) : Nat ×ₗ Int ×ₗ String) (toLex (rank', toLex (j, t))) =
      (compare rank rank').then ((compare i j).then (compare s t)) := by
  rw [Prod.Lex.compare_def]
  show (compare rank rank').then (compare (toLex (i, s) : Int ×ₗ String) (toLex (j, t))) = _
  rw [Prod.Lex.compare_def]
  rfl

theorem floatOrdinal_ofInt64 (n : Int64) : floatOrdinal (ofInt64 n) = key (ofInt n.toInt) := by
  rw [floatOrdinal, isNaN_ofInt64]
  rfl

theorem natAbs_key_le {x : Float} (h : Number.isNaN x = false) : (key x).natAbs ≤ infinityBits := by
  rw [← not_lt, ← isNaN_iff, h]
  exact Bool.false_ne_true

theorem floatOrdinal_eq_iff {x y : Float} (hx : Number.isNaN x = false) :
    floatOrdinal x = floatOrdinal y ↔ Number.same x y = true := by
  have hle := natAbs_key_le hx
  cases hy : Number.isNaN y with
  | true =>
    have hne : key x ≠ infinityBits + 1 := by omega
    simp [floatOrdinal, Number.same, hx, hy, hne]
  | false => simp [floatOrdinal, Number.same, hx, hy]

/-- NaN compares as the last float. -/
theorem compare_floatOrdinal (x y : Float) : compare (floatOrdinal x) (floatOrdinal y) =
    if Number.isNaN x || Number.isNaN y then compareBool (Number.isNaN x) (Number.isNaN y)
    else compare (key x) (key y) := by
  have hlt : ∀ {z : Float}, Number.isNaN z = false → key z < infinityBits + 1 := fun {z} hz => by
    have := natAbs_key_le hz
    omega
  cases hx : Number.isNaN x <;> cases hy : Number.isNaN y <;>
    simp only [floatOrdinal, hx, hy, Bool.or_true, Bool.or_false, Bool.false_eq_true, if_true, if_false]
  · exact compare_lt_iff_lt.mpr (hlt hx)
  · exact compare_gt_iff_gt.mpr (hlt hy)
  · exact compare_eq_iff_eq.mpr rfl

/-! ## Comparing by keys -/

theorem sortCompare_of_rank_ne (h : a.rank ≠ b.rank) : a.sortCompare b = compare a.rank b.rank := by
  cases a <;> cases b <;> first | rfl | exact absurd rfl h

/-- Key of a number. -/
theorem sortKey_of_asFloat {x : Float} (h : a.asFloat? = some x) :
    a.sortKey = toLex (2, toLex (floatOrdinal x, "")) := by
  cases a <;> cases h <;> rfl

theorem sortKey_int_eq_iff {n : Int64} {x : Float} :
    (Value.int n).sortKey = (Value.float x).sortKey ↔ Number.same (ofInt64 n) x = true := by
  rw [← floatOrdinal_eq_iff (isNaN_ofInt64 n), sortKey_of_asFloat rfl, sortKey_of_asFloat rfl]
  simp

theorem numeric_of_asFloat {x : Float} (h : a.asFloat? = some x) :
    a.isNumeric = true ∧ a.isNaN = Number.isNaN x := by
  cases a with
  | int n =>
    cases h
    exact ⟨rfl, (isNaN_ofInt64 n).symm⟩
  | float x =>
    cases h
    exact ⟨rfl, rfl⟩
  | _ => cases h

/-- Numbers that are compared as floats. -/
theorem sortCompare_of_asFloat {x y : Float} (ha : a.asFloat? = some x) (hb : b.asFloat? = some y)
    (h : a.compare? b = Number.compare? x y) : a.sortCompare b = compare a.sortKey b.sortKey := by
  obtain ⟨hnumeric, hnan⟩ := numeric_of_asFloat ha
  obtain ⟨hnumeric', hnan'⟩ := numeric_of_asFloat hb
  rw [sortKey_of_asFloat ha, sortKey_of_asFloat hb, compare_keys, Std.ReflOrd.compare_self,
    Std.ReflOrd.compare_self, Ordering.eq_then, Ordering.then_eq, compare_floatOrdinal, sortCompare,
    hnumeric, hnumeric', hnan, hnan', h, Number.compare?]
  cases Number.isNaN x || Number.isNaN y <;> rfl

/-- **Values are compared by their keys, unless both are integers.** -/
theorem sortCompare_cases (a b : Value) : (∃ m n, a = .int m ∧ b = .int n) ∨
    a.sortCompare b = compare a.sortKey b.sortKey := by
  by_cases hrank : a.rank = b.rank
  · cases a with
    | int m =>
      cases b with
      | int n => exact .inl ⟨m, n, rfl, rfl⟩
      | float y => exact .inr (sortCompare_of_asFloat rfl rfl rfl)
      | _ => cases hrank
    | float x =>
      cases b with
      | int n => exact .inr (sortCompare_of_asFloat rfl rfl rfl)
      | float y => exact .inr (sortCompare_of_asFloat rfl rfl rfl)
      | _ => cases hrank
    | bool p =>
      cases b with
      | bool q =>
        right
        cases p <;> cases q <;> rfl
      | _ => cases hrank
    | str s =>
      cases b with
      | str t => exact .inr (compare_keys 3 3 0 0 s t).symm
      | _ => cases hrank
    | _ => cases b <;> exact .inr rfl
  · right
    rw [sortCompare_of_rank_ne hrank, sortKey, sortKey, compare_keys]
    have hne : compare a.rank b.rank ≠ .eq := fun h => hrank (compare_eq_iff_eq.mp h)
    cases h : compare a.rank b.rank <;> first | rfl | exact absurd h hne

/-- The comparison never goes against the keys. -/
theorem sortKey_le (h : a.sortCompare b ≠ .gt) : a.sortKey ≤ b.sortKey := by
  rcases sortCompare_cases a b with ⟨m, n, rfl, rfl⟩ | hkeys
  · have hmono : floatOrdinal (ofInt64 m) ≤ floatOrdinal (ofInt64 n) := by
      rw [floatOrdinal_ofInt64, floatOrdinal_ofInt64]
      exact key_ofInt_mono (compare_le_iff_le.mp h)
    rw [sortKey_of_asFloat rfl, sortKey_of_asFloat rfl, ← compare_le_iff_le, compare_keys]
    simpa using compare_le_iff_le.mpr hmono
  · rw [hkeys] at h
    exact compare_le_iff_le.mp h

/-! ## Reversed and strict comparisons -/

theorem sortCompare_swap (a b : Value) : b.sortCompare a = (a.sortCompare b).swap := by
  rcases sortCompare_cases a b with ⟨m, n, rfl, rfl⟩ | hkeys
  · exact Std.OrientedOrd.eq_swap
  rcases sortCompare_cases b a with ⟨n, m, rfl, rfl⟩ | hkeys'
  · exact Std.OrientedOrd.eq_swap
  rw [hkeys, hkeys']
  exact Std.OrientedOrd.eq_swap

theorem sortCompare_lt_of_sortKey_lt (h : a.sortKey < b.sortKey) : a.sortCompare b = .lt := by
  by_contra hne
  have hback : b.sortCompare a ≠ .gt := by
    intro hgt
    apply hne
    rw [sortCompare_swap b a, hgt]
    rfl
  exact absurd (sortKey_le hback) (not_le_of_gt h)

/-- Ties aside, the order is transitive: an exact comparison of integers never goes against the keys. -/
theorem sortCompare_lt_trans (hab : a.sortCompare b = .lt) (hbc : b.sortCompare c = .lt) :
    a.sortCompare c = .lt := by
  have hle {u v : Value} (h : u.sortCompare v = .lt) : u.sortKey ≤ v.sortKey := sortKey_le (by rw [h]; decide)
  rcases sortCompare_cases a b with ⟨m, n, rfl, rfl⟩ | hkeys
  · rcases sortCompare_cases (.int n) c with ⟨-, k, -, rfl⟩ | hkeys'
    · have hmn : m.toInt < n.toInt := compare_lt_iff_lt.mp hab
      have hnk : n.toInt < k.toInt := compare_lt_iff_lt.mp hbc
      exact compare_lt_iff_lt.mpr (hmn.trans hnk)
    · rw [hkeys'] at hbc
      exact sortCompare_lt_of_sortKey_lt ((hle hab).trans_lt (compare_lt_iff_lt.mp hbc))
  · rw [hkeys] at hab
    exact sortCompare_lt_of_sortKey_lt ((compare_lt_iff_lt.mp hab).trans_le (hle hbc))

variable {wanted : Ordering}

theorem sortCompare_trans (hwanted : wanted ≠ .eq) (hab : a.sortCompare b = wanted)
    (hbc : b.sortCompare c = wanted) : a.sortCompare c = wanted := by
  cases wanted with
  | lt => exact sortCompare_lt_trans hab hbc
  | eq => exact absurd rfl hwanted
  | gt =>
    have hba : b.sortCompare a = .lt := by rw [sortCompare_swap a b, hab]; rfl
    have hcb : c.sortCompare b = .lt := by rw [sortCompare_swap b c, hbc]; rfl
    rw [sortCompare_swap c a, sortCompare_lt_trans hcb hba]
    rfl

theorem sortCompare_self_ne (hwanted : wanted ≠ .eq) (a : Value) : a.sortCompare a ≠ wanted := by
  have hswap := sortCompare_swap a a
  intro h
  rw [h] at hswap
  cases wanted with
  | eq => exact hwanted rfl
  | lt | gt => cases hswap

/-! ## Circles -/

/-- Three values that the comparison puts in a circle. -/
def Circular (a b c : Value) : Prop :=
  a.sortCompare b ≠ .gt ∧ b.sortCompare c ≠ .gt ∧ a.sortCompare c = .gt

instance : Decidable (Circular a b c) :=
  inferInstanceAs (Decidable (_ ∧ _ ∧ _))

/-- **The order for sorting is total, and fails to be transitive only where a float stands between two
different integers that both round to it.** -/
theorem circular_iff : b.sortCompare a = (a.sortCompare b).swap ∧
    (Circular a b c ↔ ∃ m x n, a = .int m ∧ b = .float x ∧ c = .int n ∧ n.toInt < m.toInt ∧
      Number.same (ofInt64 m) x = true ∧ Number.same (ofInt64 n) x = true) := by
  refine ⟨sortCompare_swap a b, fun ⟨hab, hbc, hac⟩ => ?_, ?_⟩
  · have hle := (sortKey_le hab).trans (sortKey_le hbc)
    rcases sortCompare_cases a c with ⟨m, n, rfl, rfl⟩ | hkeys
    · have hlt : n.toInt < m.toInt := compare_gt_iff_gt.mp hac
      have hback : (Value.int n).sortKey ≤ (Value.int m).sortKey :=
        sortKey_le (compare_le_iff_le.mpr hlt.le)
      have hm : (Value.int m).sortKey = b.sortKey :=
        le_antisymm (sortKey_le hab) ((sortKey_le hbc).trans hback)
      have hn : (Value.int n).sortKey = b.sortKey :=
        le_antisymm (hback.trans (sortKey_le hab)) (sortKey_le hbc)
      have hrank : (Value.int m).rank = b.rank := congrArg (fun k => (ofLex k).1) hm
      cases b with
      | int k =>
        have hmk : m.toInt ≤ k.toInt := compare_le_iff_le.mp hab
        have hkn : k.toInt ≤ n.toInt := compare_le_iff_le.mp hbc
        omega
      | float x =>
        exact ⟨m, x, n, rfl, rfl, rfl, hlt, sortKey_int_eq_iff.mp hm, sortKey_int_eq_iff.mp hn⟩
      | _ => cases hrank
    · exact absurd (hkeys ▸ hac) (compare_le_iff_le.mpr hle)
  · rintro ⟨m, x, n, rfl, rfl, rfl, hlt, hm, hn⟩
    have hab : (Value.int m).sortCompare (.float x) = .eq := by
      rw [sortCompare_of_asFloat rfl rfl rfl, sortKey_int_eq_iff.mpr hm, compare_eq_iff_eq]
    have hbc : (Value.float x).sortCompare (.int n) = .eq := by
      rw [sortCompare_of_asFloat rfl rfl rfl, sortKey_int_eq_iff.mpr hn, compare_eq_iff_eq]
    exact ⟨by simp [hab], by simp [hbc], compare_gt_iff_gt.mpr hlt⟩

/-- The integer 2 ^ 53 + 1 rounds to 2 ^ 53. -/
theorem circular_rounding :
    Circular (.int 9007199254740993) (.float 9007199254740992.0) (.int 9007199254740992) := by
  decide +kernel

end RowQuery.Value
