import RowQuery.Proofs.Query.Window
import RowQuery.Query.Clause

/-!
# How far a scan gets

`Query.progress` tells how a scan stands when some rows have been read. A scan over more rows is the scan
over the first ones, continued from where it stands (`scan_append`). If it has come to its end, nothing is
continued: a query returns the same rows whatever rows lie behind, and whatever its expressions would do on
them (`execute_append`).
-/

namespace RowQuery

/-- How a scan stands when some rows have been read. -/
inductive Progress where
  /-- More rows are looked at, from the state `next` on. -/
  | running (next : Scan)
  /-- A row failed the take condition. -/
  | behind
  /-- As many rows were kept as the query takes. -/
  | full

/-- Whether no more rows are looked at. -/
def Progress.ended : Progress → Bool
  | running _ => false
  | behind | full => true

namespace Query

/-- How a scan from the state `s` on stands behind some rows. -/
def progress (q : Query) (residual : Option Lambda) (s : Scan) : List Value → Eval Progress
  | [] => .ok (.running s)
  | row :: rest => do
    match ← q.fate residual s row with
    | .refused => q.progress residual s rest
    | .dropped next => q.progress residual next rest
    | .stop => return .behind
    | .kept next =>
      if q.take.any (· ≤ next.kept) then return .full else q.progress residual next rest

/-- A run over given rows comes to its end at one of them, or in front of them all if the query takes
none. -/
def EndsWithin (q : Query) (rows : List Value) : Prop :=
  q.take = some 0 ∨ ∃ p, q.progress q.filter (Scan.start q) rows = .ok p ∧ p.ended = true

instance {q : Query} {rows : List Value} : Decidable (q.EndsWithin rows) :=
  inferInstanceAs (Decidable (_ ∨ _))

end Query

variable {q : Query} {residual : Option Lambda} {s : Scan} {p : Progress} {xs : List Value}

/-! ## More rows -/

/-- **A scan over more rows** goes on where the scan over the first ones stands, if that has not ended. -/
theorem scan_append (q : Query) (residual : Option Lambda) (s : Scan) (xs ys : List Value) :
    q.scan residual s (xs ++ ys) = (do
      match ← q.progress residual s xs with
      | .running next => return (← q.scan residual s xs) ++ (← q.scan residual next ys)
      | .behind | .full => q.scan residual s xs) := by
  induction xs generalizing s with
  | nil =>
    show q.scan residual s ys = (do return [] ++ (← q.scan residual s ys))
    cases q.scan residual s ys <;> rfl
  | cons row rest ih =>
    rw [List.cons_append, Query.scan, Query.scan, Query.progress]
    cases q.fate residual s row with
    | error e => rfl
    | ok fate =>
      cases fate with
      | refused => exact ih s
      | dropped next => exact ih next
      | stop => rfl
      | kept next =>
        simp only [ok_bind]
        by_cases hfull : q.take.any (· ≤ next.kept) = true
        · rw [if_pos hfull, if_pos hfull, if_pos hfull]
          rfl
        · rw [if_neg hfull, if_neg hfull, if_neg hfull, ih next]
          -- the row is put in front of what the rest gives, whichever of the steps fails
          cases q.progress residual next rest with
          | error e => rfl
          | ok p =>
            cases p with
            | behind | full => rfl
            | running last =>
              cases q.scan residual next rest with
              | error e => rfl
              | ok out => cases hlast : q.scan residual last ys <;> simp only [ok_bind, hlast] <;> rfl

theorem scan_append_of_ended (h : q.progress residual s xs = .ok p) (hended : p.ended = true)
    (ys : List Value) : q.scan residual s (xs ++ ys) = q.scan residual s xs := by
  rw [scan_append, h, ok_bind]
  cases p with
  | running next => cases hended
  | behind | full => rfl

theorem shape_append (horder : q.order = []) (hend : q.EndsWithin xs) (ys : List Value) :
    q.shape q.filter (xs ++ ys) = q.shape q.filter xs := by
  have hunsorted (rows : List Value) : sortRows q.order rows = .ok rows := by
    rw [sortRows, horder]
    rfl
  rw [Query.shape, Query.shape, hunsorted, hunsorted, ok_bind, ok_bind]
  by_cases htake : q.take = some 0
  · rw [if_pos htake, if_pos htake]
  · obtain ⟨p, hp, hended⟩ := hend.resolve_left htake
    rw [if_neg htake, if_neg htake]
    exact scan_append_of_ended hp hended ys

/-! ## Whole runs -/

section Runs

variable {σ : Type} [RowService σ]

/-- A query with other rows to start from. -/
def Query.over (q : Query) (rows : List Value) : Query :=
  { q with source := .values rows }

theorem scan_over (rows : List Value) (s : Scan) (xs : List Value) :
    (q.over rows).scan residual s xs = q.scan residual s xs := by
  induction xs generalizing s with
  | nil => rfl
  | cons row rest ih =>
    have hfate : (q.over rows).fate residual s row = q.fate residual s row := rfl
    rw [Query.scan, Query.scan, hfate]
    simp only [ih]
    rfl

theorem shape_over (rows xs : List Value) : (q.over rows).shape residual xs = q.shape residual xs := by
  have horder : (q.over rows).order = q.order := rfl
  rw [Query.shape, Query.shape, horder]
  simp only [scan_over]
  rfl

/-- **Rows behind the end of a run are not looked at**: a query over given rows, without sort keys, that
ends within `xs` does the same whatever rows `ys` follow. Nothing is asked of its expressions on them. -/
theorem execute_append (horder : q.order = []) (hend : q.EndsWithin xs) (ys : List Value)
    (selector : Option Lambda) :
    ((q.over (xs ++ ys)).execute selector : QueryM σ (List Value)) = (q.over xs).execute selector := by
  have hplan (rows : List Value) : (q.over rows).plan =
      match q.joins with
      | [] => .ok ⟨.inr rows, q.filter⟩
      | join :: _ => .error (.join join.name) := by
    rw [Query.plan]
    cases hjoins : q.joins <;> simp only [Query.over, hjoins]
  rw [Query.execute, Query.execute, hplan, hplan]
  cases q.joins with
  | cons join joins => rfl
  | nil =>
    show QueryM.ofEval (do project selector (← (q.over (xs ++ ys)).shape q.filter (xs ++ ys))) =
      QueryM.ofEval (do project selector (← (q.over xs).shape q.filter xs))
    rw [shape_over, shape_over, shape_append horder hend]

/-- Digits up to one that fails the take condition. Of the rows behind it none can be taken modulo seven,
compared with ten, or divided by. -/
theorem execute_append_digits :
    let digits : List Value := [.int 7, .int 12, .int 5, .int 8, .int 3, .int 31]
    let behind : List Value := [.str "x", .null, .int 0]
    ∃ q f, (do
        let q ← (Query.ofValues digits).withFilter "n => n % 7 != 0"
        let q ← q.withDistinct "n => n % 5"
        let q ← q.withSkipWhile "n => n > 10"
        q.withTakeWhile "n => n < 15") = .ok q ∧ Lambda.parse "n => 60 / n" = .ok f ∧
      q.order = [] ∧ q.EndsWithin digits ∧
      ∃ out, (((q.over digits).execute (some f) : QueryM MemoryStore _).run.run {}).1 = .ok out ∧
        out.map Value.canonical = ["12", "7.5"] ∧
        ((q.over (digits ++ behind)).execute (some f) : QueryM MemoryStore _) =
          (q.over digits).execute (some f) := by
  intro digits behind
  obtain ⟨q, hq, f, hf, hend, horder, out, hout, htexts⟩ : ∃ q, (do
        let q ← (Query.ofValues digits).withFilter "n => n % 7 != 0"
        let q ← q.withDistinct "n => n % 5"
        let q ← q.withSkipWhile "n => n > 10"
        q.withTakeWhile "n => n < 15") = .ok q ∧
      ∃ f, Lambda.parse "n => 60 / n" = .ok f ∧ q.EndsWithin digits ∧ q.order.length = 0 ∧
        ∃ out, (((q.over digits).execute (some f) : QueryM MemoryStore _).run.run {}).1 = .ok out ∧
          out.map Value.canonical = ["12", "7.5"] := by decide +kernel
  have horder := List.eq_nil_of_length_eq_zero horder
  exact ⟨q, f, hq, hf, horder, hend, out, hout, htexts, execute_append horder hend behind (some f)⟩

end Runs

end RowQuery
