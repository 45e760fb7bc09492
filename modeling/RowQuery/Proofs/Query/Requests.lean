import RowQuery.Proofs.PushDown.Compiled
import RowQuery.Proofs.Query.Built
import RowQuery.Query.Answer
import RowQuery.Store.Memory

/-!
# Requests that questions make

A `Question` is one of the answers that can be asked of a query, with what it is asked with. `Question.Asks`
says what a question adds to the log of a store: nothing if it cannot be read, or if the query has joins or
given rows, and one request otherwise. A run of questions adds what each of them does, however any of them
ends (`Question.ask_adds` for one question, `askAll_requests` for a run).
-/

namespace RowQuery

open PushDown (isEligible compile)

/-! ## Questions -/

inductive Question where
  | toList
  | select (selector : String)
  | count
  | sum (selector : String)
  | min (selector : String)
  | max (selector : String)
  | average (selector : String)
  | first
  | firstOrDefault (default : Value)
  | last
  | lastOrDefault (default : Value)
  | single
  | singleOrDefault (default : Value)
  | elementAt (index : Nat)
  | elementAtOrDefault (index : Nat) (default : Value)
  | any (predicate : String)
  | all (predicate : String)
  | contains (v : Value)
  | aggregate (seed : Value) (folder : String)
  | reverse
  | concat (values : List Value)

namespace Question

/-- What a question is answered with. -/
abbrev Reply : Question → Type
  | toList | select _ => List Value
  | count => Nat
  | min _ | max _ | average _ | first | last | single | elementAt _ => Option Value
  | any _ | all _ | contains _ => Bool
  | reverse | concat _ => Query
  | _ => Value

variable {σ : Type} [RowService σ]

def ask : (x : Question) → Query → QueryM σ x.Reply
  | toList, q => q.toList
  | select selector, q => q.select selector
  | count, q => q.count
  | sum selector, q => q.sum selector
  | min selector, q => q.min selector
  | max selector, q => q.max selector
  | average selector, q => q.average selector
  | first, q => q.first
  | firstOrDefault default, q => Query.orDefault q.first default
  | last, q => q.last
  | lastOrDefault default, q => Query.orDefault q.last default
  | single, q => q.single
  | singleOrDefault default, q => Query.orDefault q.single default
  | elementAt index, q => q.elementAt index
  | elementAtOrDefault index default, q => Query.orDefault (q.elementAt index) default
  | any predicate, q => q.any predicate
  | all predicate, q => q.all predicate
  | contains v, q => q.contains v
  | aggregate seed folder, q => q.aggregate seed folder
  | reverse, q => q.reverse
  | concat values, q => q.concat values

/-- The expression that a question is asked with. -/
def argument? : Question → Option String
  | select source | sum source | min source | max source | average source | any source | all source
    | aggregate _ source => some source
  | _ => none

/-- A question whose expression, if it has one, can be read. -/
def Readable (x : Question) : Prop :=
  ∀ source ∈ x.argument?, ∃ f, Lambda.parse source = .ok f

/-- The condition under which a question wants rows: an index counts all rows, and `any` brings its own
condition where nothing else shapes the rows. -/
def clause (x : Question) (q : Query) : Option Lambda :=
  match x with
  | elementAt _ | elementAtOrDefault _ _ => none
  | any predicate => if q.isUnshaped then (Lambda.parse predicate).toOption else q.filter
  | _ => q.filter

end Question

/-- Requests that a query makes for rows under a condition. The filter of a request is the text of the
condition, if that is eligible and push-down is on. -/
inductive Query.Asks (q : Query) (condition : Option Lambda) : List Request → Prop where
  | joined (h : q.joins ≠ []) : q.Asks condition []
  | values {rows : List Value} (h : q.source = .values rows) : q.Asks condition []
  | whole {name : String} {partition : Option String} (hjoins : q.joins = [])
      (hsource : q.source = .table name partition)
      (hlocal : ∀ f ∈ condition, ¬ (q.pushdown = true ∧ isEligible f = true)) :
      q.Asks condition [⟨name, none, partition⟩]
  | filtered {name text : String} {partition : Option String} {f : Lambda} (hjoins : q.joins = [])
      (hsource : q.source = .table name partition) (hcondition : condition = some f)
      (hpushdown : q.pushdown = true) (heligible : isEligible f = true)
      (hcompile : compile f = .ok text) : q.Asks condition [⟨name, some text, partition⟩]

/-- Requests that a question to a query makes. -/
inductive Question.Asks (x : Question) (q : Query) : List Request → Prop where
  | unreadable (h : ¬ x.Readable) : x.Asks q []
  | readable {requests : List Request} (h : x.Readable) (hasks : q.Asks (x.clause q) requests) :
      x.Asks q requests

/-! ## Computations that add to the log -/

namespace QueryM

variable {α β : Type} {requests : List Request}

/-- A computation adds these requests to the log, and changes nothing else, however it ends. -/
def Adds (m : QueryM MemoryStore α) (requests : List Request) : Prop :=
  ∀ store, (m.run.run store).2 = { store with requests := store.requests ++ requests }

theorem adds_ofRun (r : Run QueryError α) : (ofRun r : QueryM MemoryStore α).Adds [] := by
  intro store
  rw [List.append_nil]
  rfl

theorem adds_pure (a : α) : (pure a : QueryM MemoryStore α).Adds [] :=
  adds_ofRun (.ok a)

theorem adds_retrieve (request : Request) : (retrieve request : QueryM MemoryStore _).Adds [request] :=
  fun _ => rfl

/-- What comes behind a computation may depend on its result, but not what it adds. -/
theorem Adds.bind {m : QueryM MemoryStore α} {f : α → QueryM MemoryStore β} (h : m.Adds requests)
    (hf : ∀ a, (f a).Adds []) : (m >>= f).Adds requests := by
  intro store
  have hstore := h store
  rw [ExceptT.run_bind, StateT.run_bind]
  cases hm : m.run.run store with
  | mk outcome store' =>
    rw [hm] at hstore
    cases outcome with
    | error e => exact hstore
    | ok a =>
      have hnext := hf a store'
      rw [List.append_nil] at hnext
      exact hnext.trans hstore

/-- A computation that ends before it asks. -/
theorem adds_error_bind (e : QueryError) (f : α → QueryM MemoryStore β) :
    (ofExcept (.error e) >>= f).Adds [] := by
  intro store
  rw [List.append_nil]
  rfl

theorem ofExcept_ok_bind {σ : Type} (a : α) (f : α → QueryM σ β) : (ofExcept (.ok a) >>= f) = f a := rfl

end QueryM

open QueryM (adds_ofRun adds_pure adds_retrieve adds_error_bind ofExcept_ok_bind)

/-! ## One query -/

variable {q q' : Query} {condition : Option Lambda} {requests : List Request}

/-- Clauses do not change what is asked, but for the source, the joins and the switch. -/
theorem Query.Asks.of_eq (h : q.Asks condition requests) (hsource : q'.source = q.source)
    (hjoins : q'.joins = q.joins) (hpushdown : q'.pushdown = q.pushdown) :
    q'.Asks condition requests := by
  cases h with
  | joined h => exact .joined (hjoins ▸ h)
  | values h => exact .values (hsource.trans h)
  | whole hj hs hlocal => exact .whole (hjoins.trans hj) (hsource.trans hs) (hpushdown ▸ hlocal)
  | filtered hj hs hc hp he htext =>
    exact .filtered (hjoins.trans hj) (hsource.trans hs) hc (hpushdown.trans hp) he htext

/-- **A query asks once**, whatever it does with the rows. -/
theorem execute_adds (hparses : ∀ f ∈ q.filter, ∃ source, Lambda.parse source = .ok f) :
    ∃ requests, q.Asks q.filter requests ∧
      ∀ selector, (q.execute selector : QueryM MemoryStore _).Adds requests := by
  -- the plan fixes the request before there are any rows
  cases hjoins : q.joins with
  | cons join rest =>
    have hplan : q.plan = .error (.join join.name) := by simp only [Query.plan, hjoins]
    refine ⟨[], .joined (by simp [hjoins]), fun selector => ?_⟩
    rw [Query.execute, hplan]
    exact adds_error_bind _ _
  | nil =>
    cases hsource : q.source with
    | values rows =>
      have hplan : q.plan = .ok ⟨.inr rows, q.filter⟩ := by simp only [Query.plan, hjoins, hsource]
      refine ⟨[], .values hsource, fun selector => ?_⟩
      rw [Query.execute, hplan, ofExcept_ok_bind]
      exact (adds_pure rows).bind fun _ => adds_ofRun _
    | table name partition =>
      have hasks : ∃ text?, q.pushed = .ok text? ∧ q.Asks q.filter [⟨name, text?, partition⟩] := by
        cases hfilter : q.filter with
        | none =>
          refine ⟨none, by simp only [Query.pushed, hfilter], .whole hjoins hsource ?_⟩
          exact fun f hf => absurd hf (Option.not_mem_none f)
        | some f =>
          by_cases hsent : q.pushdown = true ∧ isEligible f = true
          · obtain ⟨source, hparse⟩ := hparses f hfilter
            obtain ⟨text, hcompile, -⟩ := PushDown.compile_of_eligible hparse hsent.2
            refine ⟨some text, ?_, .filtered hjoins hsource rfl hsent.1 hsent.2 hcompile⟩
            simp only [Query.pushed, hfilter, hsent, hcompile, Bool.and_self, if_true]
          · refine ⟨none, ?_, .whole hjoins hsource ?_⟩
            · simp only [Query.pushed, hfilter, Bool.and_eq_true, if_neg hsent]
            · intro g hg
              cases hg
              exact hsent
      obtain ⟨text?, hpushed, hasks⟩ := hasks
      refine ⟨_, hasks, fun selector => ?_⟩
      have hplan : q.plan =
          .ok ⟨.inl ⟨name, text?, partition⟩, if text?.isSome then none else q.filter⟩ := by
        simp only [Query.plan, hjoins, hsource, hpushed]
        rfl
      rw [Query.execute, hplan, ofExcept_ok_bind]
      exact (adds_retrieve _).bind fun _ => adds_ofRun _

theorem execute_joined {σ : Type} [RowService σ] {join : Join} {rest : List Join}
    (hjoins : q.joins = join :: rest) (selector : Option Lambda) (store : σ) :
    (q.execute selector : QueryM σ _).run.run store = (.error (.error (.join join.name)), store) := by
  have hplan : q.plan = .error (.join join.name) := by simp only [Query.plan, hjoins]
  rw [Query.execute, hplan]
  rfl

/-! ## Answers that run their query once -/

variable {σ α β : Type} [RowService σ]

/-- A computation runs a query, once, and works out its result from the rows. -/
def Query.RunsOnce (q : Query) (m : QueryM σ α) : Prop :=
  ∃ (selector : Option Lambda) (answer : List Value → Run QueryError α),
    m = q.execute selector >>= fun rows => QueryM.ofRun (answer rows)

theorem runsOnce_execute (q : Query) (selector : Option Lambda) :
    q.RunsOnce (q.execute selector : QueryM σ _) :=
  ⟨selector, .ok, (bind_pure _).symm⟩

theorem Query.RunsOnce.bind {m : QueryM σ α} {f : α → QueryM σ β} (h : q.RunsOnce m)
    (hf : ∀ a, ∃ r, f a = QueryM.ofRun r) : q.RunsOnce (m >>= f) := by
  obtain ⟨selector, answer, rfl⟩ := h
  choose result hresult using hf
  refine ⟨selector, fun rows => answer rows >>= result, ?_⟩
  have hnext : ∀ outcome, QueryM.ofRun outcome >>= f = QueryM.ofRun (outcome >>= result) := by
    intro outcome
    cases outcome with
    | error e => rfl
    | ok a => exact hresult a
  rw [bind_assoc]
  simp only [hnext]

theorem select_runsOnce {source : String} {f : Lambda} (hparse : Lambda.parse source = .ok f) :
    q.RunsOnce (q.select source : QueryM σ _) := by
  rw [Query.select, expression_eq_ok.mpr hparse]
  exact runsOnce_execute q (some f)

theorem single_runsOnce : (q.limit 2).RunsOnce (q.single : QueryM σ _) := by
  refine (runsOnce_execute (q.limit 2) none).bind fun rows => ?_
  rcases rows with _ | ⟨row, _ | ⟨other, rest⟩⟩
  · exact ⟨.ok none, rfl⟩
  · exact ⟨.ok (some row), rfl⟩
  · exact ⟨.fail .notSingle, rfl⟩

/-! ## One question -/

variable {x : Question}

/-- The query that a question runs. -/
def Question.underlying (x : Question) (q : Query) : Query :=
  match x with
  | first | firstOrDefault _ => q.limit 1
  | single | singleOrDefault _ => q.limit 2
  | elementAt index | elementAtOrDefault index _ => q.atIndex index
  | any predicate =>
    if q.isUnshaped then { q with filter := (Lambda.parse predicate).toOption, take := some 1 } else q
  | _ => q

theorem underlying_filter : (x.underlying q).filter = x.clause q := by
  cases x with
  | any predicate =>
    simp only [Question.underlying, Question.clause]
    split <;> rfl
  | _ => rfl

theorem underlying_frame : (x.underlying q).source = q.source ∧ (x.underlying q).joins = q.joins ∧
    (x.underlying q).pushdown = q.pushdown := by
  cases x with
  | any predicate =>
    simp only [Question.underlying]
    split <;> exact ⟨rfl, rfl, rfl⟩
  | _ => exact ⟨rfl, rfl, rfl⟩

/-- The condition of a question is an expression that was read. -/
theorem clause_parses (hbuilt : q.Built) {f : Lambda} (hf : f ∈ x.clause q) :
    ∃ source, Lambda.parse source = .ok f := by
  cases x with
  | elementAt | elementAtOrDefault => cases hf
  | any predicate =>
    simp only [Question.clause] at hf
    split at hf
    · refine ⟨predicate, ?_⟩
      cases hparse : Lambda.parse predicate with
      | error e => rw [hparse] at hf; cases hf
      | ok g => rw [hparse] at hf; cases hf; rfl
    · exact hbuilt.filter_parses hf
  | _ => exact hbuilt.filter_parses hf

/-- A question that can be read runs its query once. -/
theorem ask_runsOnce (h : x.Readable) : (x.underlying q).RunsOnce (x.ask q : QueryM σ x.Reply) := by
  have hrun (q : Query) : q.RunsOnce (q.toList : QueryM σ _) := runsOnce_execute q none
  cases x with
  | toList => exact hrun q
  | count | last | contains | reverse | concat => exact (hrun q).bind fun _ => ⟨.ok _, rfl⟩
  | first => exact (hrun (q.limit 1)).bind fun _ => ⟨.ok _, rfl⟩
  | elementAt index => exact (hrun (q.atIndex index)).bind fun _ => ⟨.ok _, rfl⟩
  | single => exact single_runsOnce
  | firstOrDefault =>
    exact ((hrun (q.limit 1)).bind fun _ => ⟨.ok _, rfl⟩).bind fun _ => ⟨.ok _, rfl⟩
  | lastOrDefault => exact ((hrun q).bind fun _ => ⟨.ok _, rfl⟩).bind fun _ => ⟨.ok _, rfl⟩
  | elementAtOrDefault index =>
    exact ((hrun (q.atIndex index)).bind fun _ => ⟨.ok _, rfl⟩).bind fun _ => ⟨.ok _, rfl⟩
  | singleOrDefault => exact single_runsOnce.bind fun _ => ⟨.ok _, rfl⟩
  | select source =>
    obtain ⟨f, hparse⟩ := h source rfl
    exact select_runsOnce hparse
  | sum source | average source =>
    obtain ⟨f, hparse⟩ := h source rfl
    exact (select_runsOnce hparse).bind fun _ => ⟨_, rfl⟩
  | min source | max source =>
    obtain ⟨f, hparse⟩ := h source rfl
    exact (select_runsOnce hparse).bind fun _ => ⟨.ok _, rfl⟩
  | all source | aggregate _ source =>
    obtain ⟨f, hparse⟩ := h source rfl
    simp only [Question.ask, Query.all, Query.aggregate, expression_eq_ok.mpr hparse]
    exact (hrun q).bind fun _ => ⟨_, rfl⟩
  | any source =>
    obtain ⟨f, hparse⟩ := h source rfl
    simp only [Question.ask, Query.any, Question.underlying, expression_eq_ok.mpr hparse, hparse]
    split
    · exact (hrun _).bind fun _ => ⟨.ok _, rfl⟩
    · exact (hrun q).bind fun _ => ⟨_, rfl⟩

/-- A question that cannot be read runs nothing. -/
theorem ask_of_unreadable (h : ¬ x.Readable) :
    ∃ e, (x.ask q : QueryM σ x.Reply) = QueryM.ofExcept (.error e) := by
  obtain ⟨source, hargument, hnone⟩ : ∃ source ∈ x.argument?, ¬ ∃ f, Lambda.parse source = .ok f := by
    simpa only [Question.Readable, not_forall, exists_prop] using h
  obtain ⟨e, hread⟩ : ∃ e, Query.expression source = .error e := by
    cases hread : Query.expression source with
    | error e => exact ⟨e, rfl⟩
    | ok f => exact absurd ⟨f, expression_eq_ok.mp hread⟩ hnone
  refine ⟨e, ?_⟩
  cases x with
  | select | sum | min | max | average | any | all | aggregate =>
    cases hargument
    simp only [Question.ask, Query.select, Query.sum, Query.min, Query.max, Query.average, Query.any,
      Query.all, Query.aggregate, hread]
    rfl
  | _ => cases hargument

/-- **A question makes the requests that it asks for**, and nothing else happens to the store. -/
theorem Question.ask_adds (x : Question) (hbuilt : q.Built) :
    ∃ requests, x.Asks q requests ∧ (x.ask q : QueryM MemoryStore x.Reply).Adds requests := by
  by_cases hreadable : x.Readable
  · have hparses : ∀ f ∈ (x.underlying q).filter, ∃ source, Lambda.parse source = .ok f :=
      fun f hf => clause_parses hbuilt (underlying_filter ▸ hf)
    obtain ⟨requests, hasks, hadds⟩ := execute_adds hparses
    obtain ⟨selector, answer, hask⟩ := ask_runsOnce (q := q) (σ := MemoryStore) hreadable
    rw [underlying_filter] at hasks
    obtain ⟨hsource, hjoins, hpushdown⟩ := underlying_frame (x := x) (q := q)
    refine ⟨requests, .readable hreadable (hasks.of_eq hsource.symm hjoins.symm hpushdown.symm), ?_⟩
    rw [hask]
    exact (hadds selector).bind fun rows => adds_ofRun (answer rows)
  · obtain ⟨e, hask⟩ := ask_of_unreadable (q := q) (σ := MemoryStore) hreadable
    refine ⟨[], .unreadable hreadable, ?_⟩
    rw [hask]
    exact adds_ofRun _

/-- A question to a query with joins is refused, if it can be read. -/
theorem Question.ask_joined {join : Join} {rest : List Join} (hreadable : x.Readable)
    (hjoins : q.joins = join :: rest) (store : σ) :
    ((x.ask q : QueryM σ x.Reply).run.run store).1 = .error (.error (.join join.name)) := by
  obtain ⟨selector, answer, hask⟩ := ask_runsOnce (q := q) (σ := σ) hreadable
  have hunderlying : (x.underlying q).joins = join :: rest := underlying_frame.2.1.trans hjoins
  have hrefused := execute_joined hunderlying selector store
  rw [hask, ExceptT.run_bind, StateT.run_bind, hrefused]
  rfl

/-! ## Runs of questions -/

/-- A question, and the query that it is put to. -/
structure Asked where
  question : Question
  query : Query

/-- Outcome of a question, with the store behind it. -/
def Asked.outcome (asked : Asked) (store : σ) : Except (Failure QueryError) asked.question.Reply × σ :=
  (asked.question.ask asked.query).run.run store

/-- Asks one question after the other, whatever becomes of them. -/
def askAll : List Asked → σ → List ((x : Question) × Except (Failure QueryError) x.Reply) × σ
  | [], store => ([], store)
  | asked :: rest, store =>
    let others := askAll rest (asked.outcome store).2
    (⟨asked.question, (asked.outcome store).1⟩ :: others.1, others.2)

/-- **A run of questions** to queries that share a store adds the requests of each question to the log, in
the order of the questions. Each question that can be read, but is put to a query with joins, is refused. -/
theorem askAll_requests (run : List Asked) (hbuilt : ∀ asked ∈ run, asked.query.Built)
    (store : MemoryStore) :
    ∃ logs : List (List Request),
      List.Forall₂ (fun asked log => asked.question.Asks asked.query log) run logs ∧
      (askAll run store).2 = { store with requests := store.requests ++ logs.flatten } ∧
      List.Forall₂ (fun asked reply => asked.question.Readable → ∀ join rest,
        asked.query.joins = join :: rest →
          reply = ⟨asked.question, .error (.error (.join join.name))⟩) run (askAll run store).1 := by
  induction run generalizing store with
  | nil => exact ⟨[], .nil, by simp [askAll], .nil⟩
  | cons asked rest ih =>
    obtain ⟨log, hasks, hadds⟩ := asked.question.ask_adds (hbuilt asked List.mem_cons_self)
    have hbehind : (asked.outcome store).2 = { store with requests := store.requests ++ log } := hadds store
    obtain ⟨logs, hlogs, hstore, hreplies⟩ :=
      ih (fun later h => hbuilt later (List.mem_cons_of_mem asked h)) (asked.outcome store).2
    refine ⟨log :: logs, .cons hasks hlogs, ?_, .cons (fun hreadable join joins hjoins => ?_) hreplies⟩
    · rw [askAll, hstore, hbehind, List.flatten_cons, List.append_assoc]
    · rw [Asked.outcome, Question.ask_joined hreadable hjoins]

/-- Six questions about people, of which two are refused and one asks for a table that is not there. -/
theorem askAll_requests_people :
    let store : MemoryStore := { tables := [("people", [.object [("age", .int 9)], .object [("age", .int 52)]])] }
    ∃ elders joined : Query, (do
        let elders ← (Query.ofTable "people" none).withFilter "r => r.age > 30"
        return (elders, ← elders.withJoin "cities" "r => r.city")) = .ok (elders, joined) ∧
      let run : List Asked := [⟨.count, elders⟩, ⟨.first, joined⟩, ⟨.sum "r => r.", elders⟩,
        ⟨.elementAt 1, elders⟩, ⟨.any "r => r.age < 5", .ofTable "people" (some "p")⟩,
        ⟨.last, .ofTable "nobody" none⟩]
      (∀ asked ∈ run, asked.query.Built) ∧
      (askAll run store).2.requests = [⟨"people", some "age gt 30", none⟩, ⟨"people", none, none⟩,
        ⟨"people", some "age lt 5", some "p"⟩, ⟨"nobody", none, none⟩] ∧
      ∃ logs : List (List Request),
        List.Forall₂ (fun asked log => asked.question.Asks asked.query log) run logs ∧
        (askAll run store).2 = { store with requests := store.requests ++ logs.flatten } ∧
        List.Forall₂ (fun asked reply => asked.question.Readable → ∀ join rest,
          asked.query.joins = join :: rest →
            reply = ⟨asked.question, .error (.error (.join join.name))⟩) run (askAll run store).1 := by
  intro store
  obtain ⟨⟨elders, joined⟩, hqueries, hrequests⟩ : ∃ queries : Query × Query, (do
        let elders ← (Query.ofTable "people" none).withFilter "r => r.age > 30"
        return (elders, ← elders.withJoin "cities" "r => r.city")) = .ok queries ∧
      (askAll [⟨.count, queries.1⟩, ⟨.first, queries.2⟩, ⟨.sum "r => r.", queries.1⟩,
          ⟨.elementAt 1, queries.1⟩, ⟨.any "r => r.age < 5", .ofTable "people" (some "p")⟩,
          ⟨.last, .ofTable "nobody" none⟩] store).2.requests =
        [⟨"people", some "age gt 30", none⟩, ⟨"people", none, none⟩,
          ⟨"people", some "age lt 5", some "p"⟩, ⟨"nobody", none, none⟩] := by decide +kernel
  refine ⟨elders, joined, hqueries, ?_⟩
  intro run
  obtain ⟨elders', helders, h⟩ := bind_eq_ok.mp hqueries
  obtain ⟨joined', hjoined, h⟩ := bind_eq_ok.mp h
  cases h
  have hbuilt : ∀ asked ∈ run, asked.query.Built := by
    have hbuilt := (Query.Built.table "people" none).filter helders
    simp only [run, List.forall_mem_cons]
    exact ⟨hbuilt, hbuilt.join hjoined, hbuilt, hbuilt, .table _ _, .table _ _, List.forall_mem_nil _⟩
  exact ⟨hbuilt, hrequests, askAll_requests run hbuilt store⟩

end RowQuery
