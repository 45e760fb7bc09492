import RowQuery.Proofs.PushDown.Carried

/-!
# The shape of expressions that the store can be asked

`Askable f e`: the parameter occurs only in front of a property, and every property is one of the
parameter; all functions are native to the store, and no name is a word that filters reserve. What the
reader builds in a run that `Carries` describes has this shape (`Carries.askable`).
-/

namespace RowQuery.PushDown

open Lambda

variable {f : Lambda} {stack stack' : Stack} {mode : Mode} {ts : List Lambda.Token}
  {ws : List Filter.Token} {t : Lambda.Token} {e r : Expr}

inductive Askable (f : Lambda) : Expr → Prop where
  | float (x : Float) : Askable f (.float x)
  | int (n : Int64) : Askable f (.int n)
  | str (s : String) : Askable f (.str s)
  | bool (b : Bool) : Askable f (.bool b)
  | null : Askable f .null
  | ident {name : String} (hn : f.binds name = false) (hx : Filter.isReserved name = false) :
      Askable f (.ident name)
  | property {p x : String} (hp : f.binds p = true) (hx : Filter.isReserved x = false) :
      Askable f (.property (.param p) x)
  | call {name : String} {args : List Expr} (hnative : Builtin.isNative name = true)
      (hargs : ∀ a ∈ args, Askable f a) : Askable f (.call name args)
  | unary {op : UnaryOp} {e : Expr} (h : Askable f e) : Askable f (.unary op e)
  | binary {op : BinaryOp} {left right : Expr} (hleft : Askable f left) (hright : Askable f right) :
      Askable f (.binary op left right)

/-- A call is open under the name of a native function, with arguments of the right shape. -/
def AskableFrame (f : Lambda) : Frame Expr BinaryOp → Prop
  | .call name args => Builtin.isNative name = true ∧ ∀ a ∈ args, Askable f a
  | .binary _ left => Askable f left
  | _ => True

/-- What a mode holds. -/
def AskableMode (f : Lambda) : Mode → Prop
  | .complete e => Askable f e
  | _ => True

theorem askable_literal {lit : Expr} (ht : t.literal? = some lit) : Askable f lit := by
  cases t <;> cases ht <;> constructor

theorem askable_reduce {level : Nat} (hs : precedence.reduce level stack e = (stack', r))
    (hstack : ∀ frame ∈ stack, AskableFrame f frame) (he : Askable f e) :
    (∀ frame ∈ stack', AskableFrame f frame) ∧ Askable f r := by
  have := Precedence.reduce_holds (p := precedence) (Q := AskableFrame f) (fun _ _ => .unary)
    (fun _ _ _ => .binary) (fun _ _ => Iff.rfl) level hstack he
  rwa [hs] at this

theorem askable_await {op : BinaryOp} (hs : precedence.await? op stack e = some stack')
    (hstack : ∀ frame ∈ stack, AskableFrame f frame) (he : Askable f e) :
    ∀ frame ∈ stack', AskableFrame f frame :=
  Precedence.await_holds (p := precedence) (fun _ _ => .unary) (fun _ _ _ => .binary)
    (fun _ _ => Iff.rfl) hs hstack he

theorem askable_args {args : List Expr} {last : Expr} (hargs : ∀ a ∈ args, Askable f a)
    (hlast : Askable f last) : ∀ a ∈ args ++ [last], Askable f a := by
  intro a ha
  rcases List.mem_append.mp ha with ha | ha
  · exact hargs a ha
  · rwa [List.mem_singleton.mp ha]

/-- **What the reader builds has the shape that filters can express.** -/
theorem Carries.askable (h : Carries f stack mode ts ws r)
    (hstack : ∀ frame ∈ stack, AskableFrame f frame) (hmode : AskableMode f mode) :
    Askable f r := by
  induction h with
  | literal ht h ih => exact ih hstack (askable_literal ht)
  | property hp hx h ih => exact ih hstack (.property hp hx)
  | constant hn hx hts h ih => exact ih hstack (.ident hn hx)
  | call hn hlocal hnative h ih =>
    exact ih (List.forall_mem_cons.mpr ⟨⟨hnative, by simp⟩, hstack⟩) trivial
  | group h ih => exact ih (List.forall_mem_cons.mpr ⟨trivial, hstack⟩) trivial
  | unary ht h ih => exact ih (List.forall_mem_cons.mpr ⟨trivial, hstack⟩) trivial
  | noArgument h ih =>
    obtain ⟨⟨hnative, hargs⟩, hstack⟩ := List.forall_mem_cons.mp hstack
    exact ih hstack (.call hnative hargs)
  | argument h ih => exact ih hstack trivial
  | binary ht hs h ih => exact ih (askable_await hs hstack hmode) trivial
  | closeGroup hs h ih =>
    obtain ⟨hstack, hinner⟩ := askable_reduce hs hstack hmode
    exact ih (List.forall_mem_cons.mp hstack).2 hinner
  | closeCall hs h ih =>
    obtain ⟨hstack, hlast⟩ := askable_reduce hs hstack hmode
    obtain ⟨⟨hnative, hargs⟩, hstack⟩ := List.forall_mem_cons.mp hstack
    exact ih hstack (.call hnative (askable_args hargs hlast))
  | nextArgument hs h ih =>
    obtain ⟨hstack, hlast⟩ := askable_reduce hs hstack hmode
    obtain ⟨⟨hnative, hargs⟩, hstack⟩ := List.forall_mem_cons.mp hstack
    exact ih (List.forall_mem_cons.mpr ⟨⟨hnative, askable_args hargs hlast⟩, hstack⟩) trivial
  | finish hs => exact (askable_reduce hs hstack hmode).2

end RowQuery.PushDown
