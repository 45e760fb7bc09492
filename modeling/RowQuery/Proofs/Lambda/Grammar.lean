import RowQuery.Proofs.Failure
import RowQuery.Proofs.Lambda.Reading
import RowQuery.Proofs.Phrase

/-!
# The grammar of expressions

`Written params c e ts` says that the tokens `ts` are the expression `e`, written as one of category `c`:
there is a constructor for each form of the grammar, and parentheses stand where a category asks for them.
The reader finds every expression in the tokens that it is written with, whatever stands in front of them
and behind them (`Written.reads`). A whole lambda is read from its tokens (`WrittenLambda.parseTokens`).
-/

namespace RowQuery.Lambda

/-! ## Forms of expressions -/

/-- Categories of expressions, the loosest first. -/
inductive Category where
  | disjunction
  | conjunction
  | comparison
  | sum
  | product
  | unary
  | member
  | primary
  deriving DecidableEq

def Category.rank : Category → Nat
  | disjunction => 1
  | conjunction => 2
  | comparison => 3
  | sum => 4
  | product => 5
  | unary => 6
  | member => 7
  | primary => 8

/-- Lists with a comma between them. -/
def separated : List (List Token) → List Token
  | [] => []
  | [ts] => ts
  | ts :: rest => ts ++ .comma :: separated rest

theorem separated_eq (lists : List (List Token)) : separated lists = [.comma].intercalate lists := by
  fun_induction separated lists with
  | case1 => rfl
  | case2 ts => simp
  | case3 ts rest hne ih =>
    rw [ih, List.intercalate_cons_of_ne_nil hne]
    simp

inductive Written (params : List String) : Category → Expr → List Token → Prop where
  /-- A tighter expression may stand where a looser one is asked for. -/
  | tighter {c d : Category} {e : Expr} {ts : List Token} (hrank : c.rank ≤ d.rank)
      (h : Written params d e ts) : Written params c e ts
  | or {left right : Expr} {ls rs : List Token} (spelling : Spelling)
      (hleft : Written params .disjunction left ls) (hright : Written params .conjunction right rs) :
      Written params .disjunction (.binary (.connective .or) left right) (ls ++ .connective .or spelling :: rs)
  | and {left right : Expr} {ls rs : List Token} (spelling : Spelling)
      (hleft : Written params .conjunction left ls) (hright : Written params .comparison right rs) :
      Written params .conjunction (.binary (.connective .and) left right) (ls ++ .connective .and spelling :: rs)
  | comparison {left right : Expr} {ls rs : List Token} (op : Comparison)
      (hleft : Written params .sum left ls) (hright : Written params .sum right rs) :
      Written params .comparison (.binary (.comparison op) left right) (ls ++ .comparison op :: rs)
  | sum {left right : Expr} {ls rs : List Token} {op : Arithmetic} {sign : Token}
      (hsign : (sign, op) ∈ [(Token.plus, Arithmetic.add), (Token.minus, Arithmetic.subtract)])
      (hleft : Written params .sum left ls) (hright : Written params .product right rs) :
      Written params .sum (.binary (.arithmetic op) left right) (ls ++ sign :: rs)
  | product {left right : Expr} {ls rs : List Token} {op : Arithmetic} {sign : Token}
      (hsign : (sign, op) ∈ [(Token.star, Arithmetic.multiply), (Token.slash, Arithmetic.divide),
        (Token.percent, Arithmetic.modulo)])
      (hleft : Written params .product left ls) (hright : Written params .unary right rs) :
      Written params .product (.binary (.arithmetic op) left right) (ls ++ sign :: rs)
  | unary {e : Expr} {ts : List Token} {op : UnaryOp} {sign : Token}
      (hsign : (sign, op) ∈ [(Token.bang, UnaryOp.not), (Token.minus, UnaryOp.negate)])
      (h : Written params .unary e ts) : Written params .unary (.unary op e) (sign :: ts)
  | property {object : Expr} {ts : List Token} (name : String) (h : Written params .member object ts) :
      Written params .member (.property object name) (ts ++ [.dot, .ident name])
  | call {args : List (Expr × List Token)} (name : String)
      (h : ∀ a ∈ args, Written params .disjunction a.1 a.2) :
      Written params .primary (.call name (args.map (·.1)))
        (.ident name :: .lparen :: (separated (args.map (·.2)) ++ [.rparen]))
  | int (n : Int64) : Written params .primary (.int n) [.int n]
  | str (s : String) : Written params .primary (.str s) [.str s]
  | bool (b : Bool) : Written params .primary (.bool b) [.bool b]
  | null : Written params .primary .null [.null]
  | param {name : String} (h : name ∈ params) : Written params .primary (.param name) [.ident name]
  | ident {name : String} (h : name ∉ params) : Written params .primary (.ident name) [.ident name]
  | parentheses {e : Expr} {ts : List Token} (h : Written params .disjunction e ts) :
      Written params .primary e (.lparen :: (ts ++ [.rparen]))

variable {params : List String} {c : Category} {e left right : Expr} {stack : Stack}
  {ts ls rs rest : List Token} {sign : Token} {op : BinaryOp} {level : Nat} {name : String}

/-- An expression starts with a literal, a name, a sign or an opening parenthesis. -/
theorem Written.head (h : Written params c e ts) :
    ∃ t tail, ts = t :: tail ∧ t ≠ .rparen ∧ t ≠ .returnWord := by
  induction h with
  | tighter _ _ ih => exact ih
  | or _ _ _ ih | and _ _ _ ih | comparison _ _ _ ih | sum _ _ _ ih | product _ _ _ ih =>
    obtain ⟨t, tail, rfl, ht⟩ := ih
    exact ⟨t, _, rfl, ht⟩
  | property _ _ ih =>
    obtain ⟨t, tail, rfl, ht⟩ := ih
    exact ⟨t, _, rfl, ht⟩
  | unary hsign =>
    refine ⟨_, _, rfl, ?_⟩
    simp only [List.mem_cons, Prod.mk.injEq, List.not_mem_nil, or_false] at hsign
    rcases hsign with ⟨rfl, -⟩ | ⟨rfl, -⟩ <;> decide
  | int | str | bool | null | param | ident | call | parentheses =>
    exact ⟨_, _, rfl, Token.noConfusion, Token.noConfusion⟩

/-! ## Reading one expression -/

/-- The operators on the stack are looser than `level`: none of them is completed by an operator that
binds so tightly. -/
def Below (level : Nat) (stack : Stack) : Prop :=
  ∀ frame ∈ stack.head?, match frame with
    | .binary op _ => op.level < level
    | .unary _ => Category.unary.rank ≤ level
    | _ => True

/-- Reading `ts` completes the operand `e`, but for operators in it that bind at `level` or tighter: they
may still be `waiting` for the end of their `last` operand. -/
def Reads (params : List String) (level : Nat) (e : Expr) (ts : List Token) (stack : Stack) : Prop :=
  ∃ (waiting : Stack) (last : Expr),
    (∀ k ≤ level, ∀ below, precedence.reduce k (waiting ++ below) last = precedence.reduce k below e) ∧
      (Category.member.rank ≤ level → waiting = []) ∧
      ∀ rest, rest.head? ≠ some .lparen → readFrom params none stack .operand (ts ++ rest) =
        readFrom params none (waiting ++ stack) (.complete last) rest

theorem Below.mono {k : Nat} (h : Below level stack) (hk : level ≤ k) : Below k stack := by
  intro frame hframe
  have := h frame hframe
  cases frame with
  | binary op left => exact Nat.lt_of_lt_of_le this hk
  | unary op => exact Nat.le_trans this hk
  | group | call => trivial

theorem Below.floor_le (h : Below level stack) : precedence.floor Category.unary.rank stack ≤ level := by
  cases stack with
  | nil => exact Nat.zero_le _
  | cons frame stack =>
    cases frame with
    | binary | unary => exact h _ rfl
    | group | call => exact Nat.zero_le _

theorem Reads.of_complete (h : ∀ rest, rest.head? ≠ some .lparen →
    readFrom params none stack .operand (ts ++ rest) = readFrom params none stack (.complete e) rest) :
    Reads params level e ts stack :=
  ⟨[], e, fun _ _ _ => rfl, fun _ => rfl, h⟩

/-- An operand that binds tighter than all operators is complete when it has been read. -/
theorem Reads.complete (h : Reads params level e ts stack) (hlevel : Category.member.rank ≤ level)
    (hrest : rest.head? ≠ some .lparen) :
    readFrom params none stack .operand (ts ++ rest) = readFrom params none stack (.complete e) rest := by
  obtain ⟨waiting, last, hreduce, hwaiting, hread⟩ := h
  obtain rfl := hwaiting hlevel
  have hlast : precedence.reduce 0 [] last = precedence.reduce 0 [] e := hreduce 0 (Nat.zero_le _) []
  obtain rfl : last = e := congrArg Prod.snd hlast
  exact hread rest hrest

theorem Reads.mono {k : Nat} (h : Reads params k e ts stack) (hk : level ≤ k) :
    Reads params level e ts stack := by
  obtain ⟨waiting, last, hreduce, hwaiting, hread⟩ := h
  exact ⟨waiting, last, fun j hj => hreduce j (Nat.le_trans hj hk),
    fun hlevel => hwaiting (Nat.le_trans hlevel hk), hread⟩

/-! ### Operators -/

/-- Level at which the left operand of an operator is written. -/
def leftLevel (op : BinaryOp) : Nat :=
  if op.chains then op.level else op.level + 1

theorem leftLevel_lt_unary (op : BinaryOp) : leftLevel op < Category.unary.rank := by
  rcases op with op | op | op <;> cases op <;> decide

theorem level_le_leftLevel (op : BinaryOp) : op.level ≤ leftLevel op := by
  rw [leftLevel]
  split <;> omega

theorem Reads.binary (op : BinaryOp) (hsign : sign.binaryOp? = some op) (hstack : Below op.level stack)
    (hleft : Reads params (leftLevel op) left ls stack)
    (hright : Reads params (op.level + 1) right rs (.binary op left :: stack)) :
    Reads params op.level (.binary op left right) (ls ++ sign :: rs) stack := by
  obtain ⟨waiting, last, hreduce, -, hread⟩ := hleft
  obtain ⟨waiting', last', hreduce', -, hread'⟩ := hright
  have hcompletes : precedence.Completes op.level (waiting' ++ [Frame.binary op left]) last'
      (.binary op left right) :=
    Precedence.Completes.binary (p := precedence) op left hreduce'
  refine ⟨waiting' ++ [Frame.binary op left], last', hcompletes, fun hlevel => ?_, fun rest hrest => ?_⟩
  · have hlt := Nat.lt_of_le_of_lt (level_le_leftLevel op) (leftLevel_lt_unary op)
    exact absurd (Nat.lt_of_le_of_lt hlevel hlt) (by simp [Category.rank])
  · have hdot : sign ≠ .dot := by rintro rfl; cases hsign
    have hparen : sign ≠ .lparen := by rintro rfl; cases hsign
    have hawait : precedence.await? op (waiting ++ stack) last = some (.binary op left :: stack) :=
      Precedence.Completes.await hreduce hstack.floor_le (leftLevel_lt_unary op)
    have hstep : step params (waiting ++ stack) (.complete last) sign =
        .ok (.shift (.binary op left :: stack) .operand) := by
      simp only [step, stepComplete, if_neg hdot, hsign, Option.bind_some, hawait]
    rw [List.append_assoc, hread _ (by simpa using hparen), List.cons_append, readFrom, hstep]
    simp only [hread' rest hrest, List.append_assoc, List.cons_append, List.nil_append]

theorem Reads.unary {op : UnaryOp}
    (hsign : (sign, op) ∈ [(Token.bang, UnaryOp.not), (Token.minus, UnaryOp.negate)])
    (h : Reads params Category.unary.rank e ts (.unary op :: stack)) :
    Reads params Category.unary.rank (.unary op e) (sign :: ts) stack := by
  obtain ⟨waiting, last, hreduce, -, hread⟩ := h
  have hcompletes : precedence.Completes Category.unary.rank (waiting ++ [Frame.unary op]) last (.unary op e) :=
    Precedence.Completes.unary (p := precedence) op hreduce
  refine ⟨waiting ++ [Frame.unary op], last, hcompletes, fun hlevel => ?_, fun rest hrest => ?_⟩
  · exact absurd hlevel (by simp [Category.rank])
  · have hstep : step params stack .operand sign = .ok (.shift (.unary op :: stack) .operand) := by
      simp only [List.mem_cons, Prod.mk.injEq, List.not_mem_nil, or_false] at hsign
      rcases hsign with ⟨rfl, rfl⟩ | ⟨rfl, rfl⟩ <;> rfl
    rw [List.cons_append, readFrom, hstep]
    simp only [hread rest hrest, List.append_assoc, List.cons_append, List.nil_append]

/-! ### Names and members -/

theorem readFrom_member {object : Expr} (h : rest.head? ≠ some .lparen) :
    readFrom params none stack (.member object name) rest =
      readFrom params none stack (.complete (.property object name)) rest := by
  cases rest with
  | nil => rfl
  | cons t rest =>
    have ht : t ≠ .lparen := by rintro rfl; exact h rfl
    simp only [readFrom, step, if_neg ht]

theorem reads_ident (hname : resolve params name = e) : Reads params level e [.ident name] stack := by
  refine .of_complete fun rest hrest => ?_
  rw [← hname, ← readFrom_name hrest]
  rfl

theorem Reads.property (h : Reads params Category.member.rank e ts stack) :
    Reads params level (.property e name) (ts ++ [Token.dot, .ident name]) stack := by
  refine .of_complete fun rest hrest => ?_
  rw [List.append_assoc, h.complete (Nat.le_refl _) (by simp), ← readFrom_member hrest]
  rfl

/-! ### Parentheses and arguments -/

/-- In front of a token that is neither operator nor dot, an expression is complete. -/
theorem Reads.close (h : Reads params level e ts stack) (t : Token) (rest : List Token)
    (hparen : t ≠ .lparen) (hdot : t ≠ .dot) (hop : t.binaryOp? = none) :
    readFrom params none stack .operand (ts ++ t :: rest) =
      readFrom params none stack (.complete e) (t :: rest) := by
  obtain ⟨waiting, last, hreduce, -, hread⟩ := h
  have hstep (stack : Stack) (e : Expr) : step params stack (.complete e) t = Lambda.close stack e t := by
    simp only [step, stepComplete, if_neg hdot, hop, Option.bind_none]
  have hclose : Lambda.close (waiting ++ stack) last t = Lambda.close stack e t := by
    rw [Lambda.close, Lambda.close, hreduce 0 (Nat.zero_le _)]
  rw [hread _ (by simpa using hparen), readFrom, readFrom, hstep, hstep, hclose]

/-- An expression that stands alone. -/
theorem Reads.closeEnd (h : Reads params level e ts []) :
    readFrom params none [] .operand ts = .ok (e, []) := by
  obtain ⟨waiting, last, hreduce, -, hread⟩ := h
  have hend := hread [] (by simp)
  have hlast := hreduce 0 (Nat.zero_le _) []
  simp only [List.append_nil] at hend hlast
  rw [hend, readFrom]
  simp only [stepEnd, Lambda.closeEnd, hlast]
  rfl

theorem Reads.parentheses (h : Reads params 1 e ts (.group :: stack)) :
    Reads params level e (.lparen :: (ts ++ [Token.rparen])) stack := by
  refine .of_complete fun rest _ => ?_
  have hinner := h.close .rparen rest Token.noConfusion Token.noConfusion rfl
  have hopen : readFrom params none stack .operand (.lparen :: (ts ++ Token.rparen :: rest)) =
      readFrom params none (.group :: stack) .operand (ts ++ Token.rparen :: rest) := by
    rw [readFrom]
    rfl
  simp only [List.cons_append, List.append_assoc, List.nil_append, hopen, hinner]
  rfl

/-- Behind an opening parenthesis or a comma, an argument is read like any operand. -/
theorem readFrom_argument {tokens : List Token} (h : tokens.head? ≠ some .rparen) :
    readFrom params none stack .argument tokens = readFrom params none stack .operand tokens := by
  cases tokens with
  | nil => rfl
  | cons t tokens =>
    have hstep : step params stack .argument t = step params stack .operand t := by
      simp only [step]
      split
      next => exact absurd rfl h
      next => rfl
    rw [readFrom, readFrom, hstep]

theorem readFrom_args {args : List (Expr × List Token)} (hne : args ≠ [])
    (h : ∀ a ∈ args, a.2.head? ≠ some .rparen ∧ a.2 ≠ [] ∧ ∀ done,
      Reads params 1 a.1 a.2 (.call name done :: stack)) (done : List Expr) :
    readFrom params none (.call name done :: stack) .argument
        (separated (args.map (·.2)) ++ Token.rparen :: rest) =
      readFrom params none stack (.complete (.call name (done ++ args.map (·.1)))) rest := by
  induction args generalizing done with
  | nil => exact absurd rfl hne
  | cons a args ih =>
    obtain ⟨hhead, hnil, hreads⟩ := h a List.mem_cons_self
    have harg (t : Token) (rest : List Token) (hparen : t ≠ .lparen) (hdot : t ≠ .dot)
        (hop : t.binaryOp? = none) :
        readFrom params none (.call name done :: stack) .argument (a.2 ++ t :: rest) =
          readFrom params none (.call name done :: stack) (.complete a.1) (t :: rest) := by
      rw [readFrom_argument, (hreads done).close t rest hparen hdot hop]
      rwa [List.head?_append_of_ne_nil _ hnil]
    cases args with
    | nil =>
      rw [List.map_singleton, List.map_singleton, separated, harg _ _ Token.noConfusion Token.noConfusion rfl]
      rw [readFrom]
      rfl
    | cons b args =>
      have hothers := fun a' h' => h a' (List.mem_cons_of_mem a h')
      have hrest := ih (List.cons_ne_nil b args) hothers (done ++ [a.1])
      have hargs : done ++ (a :: b :: args).map (·.1) = done ++ [a.1] ++ (b :: args).map (·.1) := by simp
      have htokens : separated ((a :: b :: args).map (·.2)) ++ Token.rparen :: rest =
          a.2 ++ Token.comma :: (separated ((b :: args).map (·.2)) ++ Token.rparen :: rest) := by
        simp [separated]
      rw [hargs, ← hrest, htokens, harg _ _ Token.noConfusion Token.noConfusion rfl, readFrom]
      rfl

theorem Reads.call {args : List (Expr × List Token)}
    (h : ∀ a ∈ args, a.2.head? ≠ some .rparen ∧ a.2 ≠ [] ∧ ∀ done,
      Reads params 1 a.1 a.2 (.call name done :: stack)) :
    Reads params level (.call name (args.map (·.1)))
      (.ident name :: .lparen :: (separated (args.map (·.2)) ++ [Token.rparen])) stack := by
  refine .of_complete fun rest _ => ?_
  have hopen (tokens : List Token) :
      readFrom params none stack .operand (.ident name :: .lparen :: tokens) =
        readFrom params none (.call name [] :: stack) .argument tokens := by
    rw [readFrom]
    change readFrom params none stack (.name name) (.lparen :: tokens) = _
    rw [readFrom]
    rfl
  rw [List.cons_append, List.cons_append, hopen, List.append_assoc, List.singleton_append]
  by_cases hargs : args = []
  · subst hargs
    rw [List.map_nil, List.map_nil, separated, List.nil_append, readFrom]
    rfl
  · exact readFrom_args hargs h []

theorem below_binary (op : BinaryOp) (left : Expr) (stack : Stack) :
    Below (op.level + 1) (.binary op left :: stack) := by
  rintro frame ⟨⟩
  exact Nat.lt_succ_self _

/-- **Every expression is read as it was written**: its tokens complete it, behind any operators that bind
less tightly. -/
theorem Written.reads (h : Written params c e ts) (hstack : Below c.rank stack) :
    Reads params c.rank e ts stack := by
  -- the stack stays general: a right operand is read with its operator on top of it
  induction h generalizing stack with
  | tighter hrank _ ih => exact (ih (hstack.mono hrank)).mono hrank
  | or spelling _ _ ihl ihr =>
    exact .binary (.connective .or) rfl hstack (ihl hstack) (ihr (below_binary _ _ _))
  | and spelling _ _ ihl ihr =>
    exact .binary (.connective .and) rfl hstack (ihl hstack) (ihr (below_binary _ _ _))
  | comparison op _ _ ihl ihr =>
    have hleft := ihl (hstack.mono (by decide : Category.comparison.rank ≤ Category.sum.rank))
    exact .binary (.comparison op) rfl hstack hleft (ihr (below_binary (.comparison op) _ _))
  | sum hsign _ _ ihl ihr =>
    simp only [List.mem_cons, Prod.mk.injEq, List.not_mem_nil, or_false] at hsign
    rcases hsign with ⟨rfl, rfl⟩ | ⟨rfl, rfl⟩
    · exact .binary (.arithmetic .add) rfl hstack (ihl hstack) (ihr (below_binary (.arithmetic .add) _ _))
    · exact .binary (.arithmetic .subtract) rfl hstack (ihl hstack)
        (ihr (below_binary (.arithmetic .subtract) _ _))
  | product hsign _ _ ihl ihr =>
    simp only [List.mem_cons, Prod.mk.injEq, List.not_mem_nil, or_false] at hsign
    rcases hsign with ⟨rfl, rfl⟩ | ⟨rfl, rfl⟩ | ⟨rfl, rfl⟩
    · exact .binary (.arithmetic .multiply) rfl hstack (ihl hstack)
        (ihr (below_binary (.arithmetic .multiply) _ _))
    · exact .binary (.arithmetic .divide) rfl hstack (ihl hstack)
        (ihr (below_binary (.arithmetic .divide) _ _))
    · exact .binary (.arithmetic .modulo) rfl hstack (ihl hstack)
        (ihr (below_binary (.arithmetic .modulo) _ _))
  | unary hsign _ ih => exact .unary hsign (ih (by rintro frame ⟨⟩; exact Nat.le_refl _))
  | property name _ ih => exact (ih hstack).property
  | @call args name h ih =>
    refine .call fun a ha => ?_
    obtain ⟨t, tail, hts, ht, -⟩ := (h a ha).head
    refine ⟨by simpa [hts] using ht, by simp [hts], fun done => ih a ha ?_⟩
    rintro frame ⟨⟩
    trivial
  | int | str | bool | null => exact .of_complete fun rest _ => by rw [List.singleton_append, readFrom]; rfl
  | param h => exact reads_ident (by simp [resolve, h])
  | ident h => exact reads_ident (by simp [resolve, h])
  | parentheses _ ih => exact .parentheses (ih (by rintro frame ⟨⟩; trivial))

/-! ## Reading a lambda -/

/-- One parameter, or any number of them in parentheses. -/
inductive WrittenParams : List String → List Token → Prop where
  | single (name : String) : WrittenParams [name] [.ident name]
  | list {names : List String} (hne : names ≠ []) :
      WrittenParams names (.lparen :: (separated (names.map fun name => [.ident name]) ++ [.rparen]))

/-- Tokens of a lambda: a `return` may stand in front of the body, and semicolons behind it. -/
inductive WrittenLambda (params : List String) (body : Expr) : List Token → Prop where
  | intro {head ts : List Token} (returns : Bool) (semicolons : Nat) (hparams : WrittenParams params head)
      (hbody : Written params .disjunction body ts) :
      WrittenLambda params body (head ++ .arrow ::
        ((if returns then [.returnWord] else []) ++ ts ++ List.replicate semicolons .semicolon))

theorem advance_none (rest : List Token) : advance none rest = .ok () := by
  cases rest <;> rfl

theorem paramList_written {names seen : List String} (hne : names ≠ []) (hnodup : (seen ++ names).Nodup) :
    paramList none seen (separated (names.map fun name => [.ident name]) ++ Token.rparen :: rest) =
      .ok (seen ++ names, rest) := by
  induction names generalizing seen with
  | nil => exact absurd rfl hne
  | cons name names ih =>
    have hnew : seen.contains name = false := by
      have hdisjoint := (List.nodup_append.mp hnodup).2.2
      simpa using fun h => hdisjoint name h name List.mem_cons_self rfl
    cases names with
    | nil =>
      rw [List.map_singleton, separated, List.singleton_append, paramList]
      simp only [advance_none, hnew, ok_bind]
      rfl
    | cons next names =>
      have hnodup' : (seen ++ [name] ++ next :: names).Nodup := by simpa using hnodup
      have hrest := ih (List.cons_ne_nil next names) hnodup'
      have htokens : separated ((name :: next :: names).map fun name => [.ident name]) ++ Token.rparen :: rest =
          .ident name :: .comma ::
            (separated ((next :: names).map fun name => [.ident name]) ++ Token.rparen :: rest) := by
        simp [separated]
      rw [htokens, paramList]
      simp only [advance_none, hnew, ok_bind, hrest]
      simp

theorem WrittenParams.parse {head : List Token} (h : WrittenParams params head) (hnodup : params.Nodup) :
    parseParams none (head ++ rest) = .ok (params, rest) := by
  cases h with
  | single name =>
    rw [List.singleton_append, parseParams, advance_none]
    rfl
  | list hne =>
    rw [List.cons_append, List.append_assoc, List.singleton_append, parseParams, advance_none, ok_bind]
    exact paramList_written hne hnodup

theorem parseEnd_semicolons (n : Nat) : parseEnd none (List.replicate n Token.semicolon) = .ok () := by
  induction n with
  | zero => rfl
  | succ n ih => rw [List.replicate_succ, parseEnd, advance_none, ok_bind, ih]

theorem Written.parseExpr (h : Written params .disjunction e ts) (semicolons : Nat) :
    Lambda.parseExpr params none (ts ++ List.replicate semicolons Token.semicolon) =
      .ok (e, List.replicate semicolons Token.semicolon) := by
  have hreads : Reads params Category.disjunction.rank e ts [] := h.reads (by rintro frame ⟨⟩)
  rw [Lambda.parseExpr]
  cases semicolons with
  | zero => rw [List.replicate_zero, List.append_nil, hreads.closeEnd]
  | succ n =>
    rw [List.replicate_succ, hreads.close .semicolon _ Token.noConfusion Token.noConfusion rfl, readFrom]
    rfl

theorem Written.parseBody (h : Written params .disjunction e ts) (returns : Bool) (semicolons : Nat) :
    Lambda.parseBody params none
      ((if returns then [Token.returnWord] else []) ++ ts ++
        List.replicate semicolons Token.semicolon) = .ok e := by
  have hrest : (do
      let read ← Lambda.parseExpr params none (ts ++ List.replicate semicolons Token.semicolon)
      parseEnd none read.2
      return read.1) = Except.ok e := by
    rw [h.parseExpr, ok_bind, parseEnd_semicolons]
    rfl
  cases returns with
  | true =>
    rw [if_pos rfl, List.singleton_append, List.cons_append, Lambda.parseBody]
    simp only [advance_none]
    exact hrest
  | false =>
    obtain ⟨t, tail, hts, -, hreturn⟩ := h.head
    have hfirst (rest : List Token) : ts ++ List.replicate semicolons Token.semicolon ≠ .returnWord :: rest := by
      rw [hts, List.cons_append]
      exact fun heq => hreturn (List.cons.inj heq).1
    rw [if_neg Bool.false_ne_true, List.nil_append, Lambda.parseBody]
    · exact hrest
    · exact hfirst

/-- **A lambda is read from the tokens that it is written with.** -/
theorem WrittenLambda.parseTokens {body : Expr} {tokens : List Token} (h : WrittenLambda params body tokens)
    (hnodup : params.Nodup) : Lambda.parseTokens none tokens = .ok (params, body) := by
  obtain ⟨returns, semicolons, hparams, hbody⟩ := h
  rw [Lambda.parseTokens, advance_none, ok_bind, hparams.parse hnodup, ok_bind]
  simp only [advance_none, ok_bind, hbody.parseBody]
  rfl

end RowQuery.Lambda
