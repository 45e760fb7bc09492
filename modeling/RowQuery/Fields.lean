/-!
# Fields of a record

Fields are kept in the order of their names, each name once. Names are ordered by code points.
-/

namespace RowQuery

/-- Named entries, in increasing order of names. -/
abbrev Fields (α : Type) := List (String × α)

namespace Fields

variable {α β : Type}

def get? (fields : List (String × α)) (name : String) : Option α :=
  (fields.find? fun field => field.1 = name).map (·.2)

/-- Sets a field: an entry of the same name is replaced, a new one is put into its place. -/
def insert (fields : List (String × α)) (name : String) (a : α) : List (String × α) :=
  match fields with
  | [] => [(name, a)]
  | field :: rest =>
    if name < field.1 then (name, a) :: field :: rest
    else if name = field.1 then (name, a) :: rest
    else field :: insert rest name a

/-- Fields of a list of entries; of two entries with one name the later counts. -/
def ofList (entries : List (String × α)) : List (String × α) :=
  entries.foldl (fun fields entry => insert fields entry.1 entry.2) []

theorem get?_nil (name : String) : get? ([] : List (String × α)) name = none := rfl

theorem get?_cons (field : String × α) (rest : List (String × α)) (name : String) :
    get? (field :: rest) name = if field.1 = name then some field.2 else get? rest name := by
  by_cases h : field.1 = name <;> simp [get?, h]

theorem get?_insert_self (fields : List (String × α)) (name : String) (a : α) :
    get? (insert fields name a) name = some a := by
  induction fields with
  | nil => simp [insert, get?_cons]
  | cons field rest ih =>
    unfold insert
    split
    · simp [get?_cons]
    · split
      · simp [get?_cons]
      · rename_i h
        rw [get?_cons, if_neg (Ne.symm h), ih]

theorem get?_insert_of_ne (fields : List (String × α)) {name other : String} (a : α)
    (h : other ≠ name) : get? (insert fields name a) other = get? fields other := by
  induction fields with
  | nil => simp [insert, get?_cons, get?_nil, Ne.symm h]
  | cons field rest ih =>
    unfold insert
    split
    · rw [get?_cons, if_neg (Ne.symm h)]
    · split
      · rename_i _ heq
        rw [get?_cons, get?_cons, if_neg (Ne.symm h), if_neg]
        rintro rfl
        exact h heq.symm
      · rw [get?_cons, get?_cons, ih]

end Fields

end RowQuery
