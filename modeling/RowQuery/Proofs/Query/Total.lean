import RowQuery.Proofs.Eval.Exactness
import RowQuery.Proofs.Number.Addition
import RowQuery.Proofs.Query.Limit
import RowQuery.Store.Memory

/-!
# Totals of integers

The running total of integers is an integer, until one does not fit 64 bits: then it is a float, rounded,
but without a fraction (`total_cases`). A later addition may bring it back to the integers, and is exact.
So an integer total is the exact sum of the last float among the running totals and of the values behind it
(`sum_ints`); what was rounded before that float is lost, which a total can show (`sum_ints_rounds`).
-/

namespace RowQuery

open Number

/-! ## One addition -/

namespace Arithmetic

variable {a b : Int64} {x : Float} {v : Value}

/-- Integers add up to their exact sum, or to a float without a fraction. -/
theorem add_ints (h : add.apply (.int a) (.int b) = .ok v) :
    (∃ r : Int64, v = .int r ∧ r.toInt = a.toInt + b.toInt) ∨ ∃ y, v = .float y ∧ Integral y := by
  by_cases hexact : ∃ r : Int64, add.Exact a.toInt b.toInt r.toInt
  · obtain ⟨r, hr⟩ := hexact
    have hint : add.apply (.int a) (.int b) = .ok (.int r) := onInts_of_exact hr
    rw [hint] at h
    exact .inl ⟨r, (Except.ok.inj h).symm, hr⟩
  · have hfloat : add.apply (.int a) (.int b) = .ok (.float (ofInt64 a + ofInt64 b)) :=
      onInts_of_not_exact hexact
    rw [hfloat] at h
    exact .inr ⟨_, (Except.ok.inj h).symm, (integral_ofInt64 a).add (integral_ofInt64 b)⟩

/-- An integer on top of a float without a fraction: the sum is exact where it is an integer. -/
theorem add_float_int (hx : Integral x) (h : add.apply (.float x) (.int b) = .ok v) :
    (∃ (m : ℤ) (r : Int64), value? x = some (m : ℚ) ∧ v = .int r ∧ r.toInt = m + b.toInt) ∨
      ∃ y, v = .float y ∧ Integral y := by
  have hsum : Integral (x + ofInt64 b) := hx.add (integral_ofInt64 b)
  have hfloats (h : add.onFloats x (ofInt64 b) = .ok v) : ∃ y, v = .float y ∧ Integral y :=
    ⟨_, (Except.ok.inj h).symm, hsum⟩
  cases hdecimal : Decimal96.ofFloat? x with
  | none =>
    have happly : add.apply (.float x) (.int b) = add.onFloats x (ofInt64 b) := by
      rw [Arithmetic.apply, hdecimal, onMixed]
      intro d e hnone
      cases hnone
    rw [happly] at h
    exact .inr (hfloats h)
  | some d =>
    have happly : add.apply (.float x) (.int b) =
        add.onMixed (some d) (some (.ofInt64 b)) x (ofInt64 b) := by
      rw [← hdecimal]
      rfl
    obtain ⟨p, hp⟩ := Decimal96.exists_value? hdecimal
    obtain ⟨m, rfl⟩ := hx p hp
    have hd : d.IsInt m := Decimal96.isInt_of_ofFloat? hp hdecimal
    rw [happly] at h
    rcases onMixed_cases (by decide) hd (Decimal96.isInt_ofInt64 b) h with ⟨r, hr, hexact⟩ | hfloat | hwide
    · exact .inl ⟨m, r, hp, hr, hexact⟩
    · exact .inr hfloat
    · exact .inr (hfloats hwide)

end Arithmetic

/-! ## Running totals -/

namespace Query

variable {ks : List Int64} {k n : Int64} {i : Nat} {r : ℤ} {total : Value}

/-- Total of the first `i` integers. -/
def runningTotal (ks : List Int64) (i : Nat) : Eval Value :=
  sumOf ((ks.take i).map .int)

/-- No running total is a float. -/
def NoFloat (ks : List Int64) : Prop :=
  ∀ j ≤ ks.length, ∃ m, runningTotal ks j = .ok (.int m)

/-- The last float among the running totals is that of the first `i` integers, and has the value `r`. -/
structure LastFloat (ks : List Int64) (i : Nat) (r : ℤ) : Prop where
  le : i ≤ ks.length
  float : ∃ x, runningTotal ks i = .ok (.float x) ∧ value? x = some (r : ℚ)
  later : ∀ j, i < j → j ≤ ks.length → ∃ m, runningTotal ks j = .ok (.int m)

theorem sumOnto_append (total : Value) (vs ws : List Value) :
    sumOnto total (vs ++ ws) = (sumOnto total vs >>= fun total => sumOnto total ws) := by
  induction vs generalizing total with
  | nil => rfl
  | cons v vs ih =>
    rw [List.cons_append, sumOnto, sumOnto]
    split
    · rw [bind_assoc]
      exact congrArg _ (funext ih)
    · rfl

theorem sumOf_concat (ks : List Int64) (k : Int64) : sumOf ((ks ++ [k]).map .int) =
    (sumOf (ks.map .int) >>= fun total => Arithmetic.add.apply total (.int k)) := by
  rw [List.map_append, sumOf, sumOnto_append]
  refine congrArg _ (funext fun total => ?_)
  exact bind_pure _

theorem runningTotal_concat (hi : i ≤ ks.length) : runningTotal (ks ++ [k]) i = runningTotal ks i := by
  rw [runningTotal, List.take_append_of_le_length hi, runningTotal]

theorem runningTotal_length (ks : List Int64) : runningTotal ks ks.length = sumOf (ks.map .int) := by
  rw [runningTotal, List.take_length]

/-- A total of integers: exact, or exact from the last float on. -/
def IsTotal (ks : List Int64) (n : Int64) : Prop :=
  NoFloat ks ∧ n.toInt = (ks.map Int64.toInt).sum ∨
    ∃ i r, LastFloat ks i r ∧ n.toInt = r + ((ks.drop i).map Int64.toInt).sum

/-- One more integer leaves the running totals so far as they are, and adds one. -/
theorem runningTotal_int_concat {j : Nat} (h : j ≤ ks.length → ∃ m, runningTotal ks j = .ok (.int m))
    (hlast : runningTotal (ks ++ [k]) (ks ++ [k]).length = .ok (.int n)) (hj : j ≤ (ks ++ [k]).length) :
    ∃ m, runningTotal (ks ++ [k]) j = .ok (.int m) := by
  by_cases hle : j ≤ ks.length
  · rw [runningTotal_concat hle]
    exact h hle
  · have hj : j = (ks ++ [k]).length := by
      rw [List.length_append, List.length_singleton] at hj ⊢
      omega
    rw [hj]
    exact ⟨n, hlast⟩

theorem NoFloat.concat (h : NoFloat ks) (hlast : runningTotal (ks ++ [k]) (ks ++ [k]).length = .ok (.int n)) :
    NoFloat (ks ++ [k]) :=
  fun j hj => runningTotal_int_concat (h j) hlast hj

theorem LastFloat.concat (h : LastFloat ks i r)
    (hlast : runningTotal (ks ++ [k]) (ks ++ [k]).length = .ok (.int n)) : LastFloat (ks ++ [k]) i r where
  le := by
    rw [List.length_append]
    exact Nat.le_add_right_of_le h.le
  float := by
    rw [runningTotal_concat h.le]
    exact h.float
  later j hij hj := runningTotal_int_concat (h.later j hij) hlast hj

/-- One more integer on top of an integer total. -/
theorem IsTotal.concat {m : Int64} (h : IsTotal ks m) (hn : n.toInt = m.toInt + k.toInt)
    (hlast : runningTotal (ks ++ [k]) (ks ++ [k]).length = .ok (.int n)) : IsTotal (ks ++ [k]) n := by
  rcases h with ⟨hnone, hm⟩ | ⟨i, r, hfloat, hm⟩
  · refine .inl ⟨hnone.concat hlast, ?_⟩
    rw [hn, hm, List.map_append, List.sum_append, List.map_singleton, List.sum_singleton]
  · refine .inr ⟨i, r, hfloat.concat hlast, ?_⟩
    rw [hn, hm, List.drop_append_of_le_length hfloat.le, List.map_append, List.sum_append, List.map_singleton,
      List.sum_singleton, add_assoc]

/-- One more integer on top of a float brings the total back to the integers. -/
theorem isTotal_of_float {x : Float} (hfloat : sumOf (ks.map .int) = .ok (.float x)) (hx : value? x = some (r : ℚ))
    (hn : n.toInt = r + k.toInt) (hlast : runningTotal (ks ++ [k]) (ks ++ [k]).length = .ok (.int n)) :
    IsTotal (ks ++ [k]) n := by
  refine .inr ⟨ks.length, r, ⟨?_, ⟨x, ?_, hx⟩, ?_⟩, ?_⟩
  · rw [List.length_append]
    exact Nat.le_add_right _ _
  · rw [runningTotal_concat le_rfl, runningTotal_length, hfloat]
  · intro j hlt hj
    exact runningTotal_int_concat (fun hle => absurd hlt (Nat.not_lt_of_ge hle)) hlast hj
  · rw [List.drop_append_of_le_length le_rfl, List.drop_length, List.nil_append, List.map_singleton,
      List.sum_singleton, hn]

/-- **The total of integers** is an integer, exact from the last float on, or a float without a fraction. -/
theorem total_cases (h : sumOf (ks.map .int) = .ok total) :
    (∃ n, total = .int n ∧ IsTotal ks n) ∨ ∃ x, total = .float x ∧ Integral x := by
  induction ks using List.reverseRecOn generalizing total with
  | nil =>
    refine .inl ⟨0, (Except.ok.inj h).symm, .inl ⟨?_, rfl⟩⟩
    intro j hj
    exact ⟨0, by rw [Nat.le_zero.mp hj]; rfl⟩
  | append_singleton ks k ih =>
    have hlast : runningTotal (ks ++ [k]) (ks ++ [k]).length = .ok total := by rw [runningTotal_length, h]
    rw [sumOf_concat] at h
    obtain ⟨before, hbefore, h⟩ := bind_eq_ok.mp h
    rcases ih hbefore with ⟨m, rfl, hm⟩ | ⟨x, rfl, hx⟩
    · rcases Arithmetic.add_ints h with ⟨n, rfl, hn⟩ | hfloat
      · exact .inl ⟨n, rfl, hm.concat hn hlast⟩
      · exact .inr hfloat
    · rcases Arithmetic.add_float_int hx h with ⟨r, n, hr, rfl, hn⟩ | hfloat
      · exact .inl ⟨n, rfl, isTotal_of_float hbefore hr hn hlast⟩
      · exact .inr hfloat

section Runs

variable {σ : Type} [RowService σ] {store store' : σ} {q : Query} {selector : String}

/-- **A total is exact from the last float among the running totals on**, and wholly exact where there is
none, or where that float is the exact sum of the values in front. -/
theorem sum_ints
    (hselect : (q.select selector : QueryM σ _).run.run store = (.ok (ks.map .int), store'))
    (hsum : ((q.sum selector : QueryM σ _).run.run store).1 = .ok (.int n)) :
    NoFloat ks ∧ n.toInt = (ks.map Int64.toInt).sum ∨
      ∃ i r, LastFloat ks i r ∧ n.toInt = r + ((ks.drop i).map Int64.toInt).sum ∧
        (n.toInt = (ks.map Int64.toInt).sum ↔ r = ((ks.take i).map Int64.toInt).sum) := by
  rw [sum, QueryM.run_bind_of_ok hselect] at hsum
  have hresult : Run.mapError QueryError.evaluation (sumOf (ks.map .int)) = .ok (.int n) := hsum
  cases htotal : sumOf (ks.map .int) with
  | error e =>
    rw [htotal] at hresult
    cases hresult
  | ok total =>
    rw [htotal] at hresult
    rcases total_cases htotal with ⟨m, rfl, hcases⟩ | ⟨x, rfl, -⟩
    · cases hresult
      rcases hcases with hnone | ⟨i, r, hfloat, hn⟩
      · exact .inl hnone
      · have hsplit : (ks.map Int64.toInt).sum =
            ((ks.take i).map Int64.toInt).sum + ((ks.drop i).map Int64.toInt).sum := by
          rw [← List.sum_append, ← List.map_append, List.take_append_drop]
        exact .inr ⟨i, r, hfloat, hn, by rw [hn, hsplit, add_left_inj]⟩
    · cases hresult

/-- The integers that values are, if all are. -/
def ints? : List Value → Option (List Int64)
  | [] => some []
  | .int n :: rest => (ints? rest).map (n :: ·)
  | _ => none

theorem eq_map_int {vs : List Value} (h : ints? vs = some ks) : vs = ks.map .int := by
  induction vs generalizing ks with
  | nil =>
    cases h
    rfl
  | cons v rest ih =>
    cases v with
    | int n =>
      obtain ⟨rest', hrest, rfl⟩ := Option.map_eq_some_iff.mp h
      rw [ih hrest, List.map_cons]
    | _ => cases h

/-- The greatest integer plus 1 is a float, which is exact, and less 1 again it is the greatest integer. -/
theorem sum_ints_returns :
    let q : Query := ofValues [.int 9223372036854775807, .int 1, .int (-1)]
    let ks : List Int64 := [9223372036854775807, 1, -1]
    let n : Int64 := 9223372036854775807
    ((q.select "n => n" : QueryM MemoryStore _).run.run {}).1 = .ok (ks.map .int) ∧
      ((q.sum "n => n" : QueryM MemoryStore _).run.run {}).1 = .ok (.int n) ∧
      (NoFloat ks ∧ n.toInt = (ks.map Int64.toInt).sum ∨
        ∃ i r, LastFloat ks i r ∧ n.toInt = r + ((ks.drop i).map Int64.toInt).sum ∧
          (n.toInt = (ks.map Int64.toInt).sum ↔ r = ((ks.take i).map Int64.toInt).sum)) := by
  intro q ks n
  obtain ⟨vs, hselect, hints, total, hsum, hint⟩ :
      ∃ vs, ((q.select "n => n" : QueryM MemoryStore _).run.run {}).1 = .ok vs ∧ ints? vs = some ks ∧
        ∃ total, ((q.sum "n => n" : QueryM MemoryStore _).run.run {}).1 = .ok total ∧
          ints? [total] = some [n] := by decide +kernel
  rw [eq_map_int hints] at hselect
  rw [List.singleton_inj.mp (eq_map_int hint)] at hsum
  exact ⟨hselect, hsum, sum_ints (Prod.fst_eq_iff.mp hselect) hsum⟩

/-- The greatest integer plus 2 is rounded to a smaller float: the total is 1 too small, and shows as an
integer. -/
theorem sum_ints_rounds :
    let q : Query := ofValues [.int 9223372036854775807, .int 2, .int (-2)]
    ∃ (ks : List Int64) (n : Int64),
      ((q.select "n => n" : QueryM MemoryStore _).run.run {}).1 = .ok (ks.map .int) ∧
        ((q.sum "n => n" : QueryM MemoryStore _).run.run {}).1 = .ok (.int n) ∧
        n.toInt = 9223372036854775806 ∧ n.toInt ≠ (ks.map Int64.toInt).sum := by
  intro q
  obtain ⟨vs, hselect, hints, total, hsum, hint⟩ :
      ∃ vs, ((q.select "n => n" : QueryM MemoryStore _).run.run {}).1 = .ok vs ∧
        ints? vs = some [9223372036854775807, 2, -2] ∧
        ∃ total, ((q.sum "n => n" : QueryM MemoryStore _).run.run {}).1 = .ok total ∧
          ints? [total] = some [9223372036854775806] := by decide +kernel
  rw [eq_map_int hints] at hselect
  rw [List.singleton_inj.mp (eq_map_int hint)] at hsum
  exact ⟨_, _, hselect, hsum, by decide, by decide⟩

end Runs

end Query

end RowQuery
