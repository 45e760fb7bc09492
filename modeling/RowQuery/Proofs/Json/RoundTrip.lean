import Mathlib
import RowQuery.Json.Basic
import RowQuery.Proofs.Number.Digits

/-!
# Values that go through JSON and come back

JSON has one kind of number, and none for infinities and NaN. A value that is turned into JSON and back
comes back as its `finitePart`: with null in place of every float that is not finite, and with nothing else
changed (`ofJson_toJson`). Whole floats stay floats and integers of all 64 bits stay integers, at any depth.
-/

namespace RowQuery

/-! ## Fields in order -/

namespace Fields

variable {α : Type} {fields : List (String × α)} {name : String}

/-- Each name is greater than those in front of it. -/
def Increasing (fields : List (String × α)) : Prop :=
  fields.Pairwise fun field later => field.1 < later.1

theorem Increasing.of_names {β : Type} {others : List (String × β)}
    (hnames : others.map (·.1) = fields.map (·.1)) (h : Increasing fields) : Increasing others := by
  have hsorted : (others.map (·.1)).Pairwise (· < ·) := hnames ▸ List.pairwise_map.mpr h
  exact List.pairwise_map.mp hsorted

theorem insert_greatest (h : ∀ field ∈ fields, field.1 < name) (a : α) :
    insert fields name a = fields ++ [(name, a)] := by
  induction fields with
  | nil => rfl
  | cons field fields ih =>
    have hlt := h field List.mem_cons_self
    rw [insert, if_neg (lt_asymm hlt), if_neg (ne_of_gt hlt),
      ih fun other hother => h other (List.mem_cons_of_mem _ hother), List.cons_append]

/-- Fields in order are not changed by setting them one after the other. -/
theorem ofList_eq_self (h : Increasing fields) : ofList fields = fields := by
  have hfold : ∀ done : List (String × α), Increasing (done ++ fields) →
      fields.foldl (fun fields entry => insert fields entry.1 entry.2) done = done ++ fields := by
    clear h
    induction fields with
    | nil => simp
    | cons field fields ih =>
      intro done hdone
      have hgreatest : ∀ other ∈ done, other.1 < field.1 := fun other hother =>
        (List.pairwise_append.mp hdone).2.2 other hother field List.mem_cons_self
      have hsplit : done ++ field :: fields = done ++ [field] ++ fields := by simp
      rw [List.foldl_cons, insert_greatest hgreatest, hsplit]
      exact ih _ (hsplit ▸ hdone)
  exact hfold [] h

end Fields

namespace Value

open Number

mutual

/-- A value with null in place of every float that is not finite. -/
def finitePart : Value → Value
  | float x => if isFinite x then float x else null
  | array items => array (finiteItems items)
  | object fields => object (finiteFields fields)
  | null => null
  | bool b => bool b
  | int n => int n
  | str s => str s

def finiteItems : List Value → List Value
  | [] => []
  | v :: rest => finitePart v :: finiteItems rest

def finiteFields : List (String × Value) → List (String × Value)
  | [] => []
  | (name, v) :: rest => (name, finitePart v) :: finiteFields rest

end

mutual

/-- Floats in a value, from left to right. -/
def floats : Value → List Float
  | float x => [x]
  | array items => itemsFloats items
  | object fields => fieldsFloats fields
  | null | bool _ | int _ | str _ => []

def itemsFloats : List Value → List Float
  | [] => []
  | v :: rest => floats v ++ itemsFloats rest

def fieldsFloats : List (String × Value) → List Float
  | [] => []
  | (_, v) :: rest => floats v ++ fieldsFloats rest

end

/-! ## There and back -/

mutual

theorem ofJson_toJson_eq : ∀ v : Value, ofJson v.toJson = v.finitePart
  | null | bool _ | str _ => by simp only [toJson, ofJson, finitePart]
  | int n => by simp only [toJson, ofJson, finitePart, int64OfInt_toInt]
  | float x => by
    rw [toJson, finitePart]
    split_ifs <;> rw [ofJson]
  | array items => by rw [toJson, ofJson, finitePart, ofJsonItems_toJsonItems]
  | object fields => by rw [toJson, ofJson, finitePart, ofJsonMembers_toJsonMembers]

theorem ofJsonItems_toJsonItems : ∀ items : List Value,
    ofJsonItems (toJsonItems items) = finiteItems items
  | [] => by rw [toJsonItems, ofJsonItems, finiteItems]
  | v :: rest => by
    rw [toJsonItems, ofJsonItems, finiteItems, ofJson_toJson_eq v, ofJsonItems_toJsonItems rest]

theorem ofJsonMembers_toJsonMembers : ∀ fields : List (String × Value),
    ofJsonMembers (toJsonMembers fields) = finiteFields fields
  | [] => by rw [toJsonMembers, ofJsonMembers, finiteFields]
  | (name, v) :: rest => by
    rw [toJsonMembers, ofJsonMembers, finiteFields, ofJson_toJson_eq v, ofJsonMembers_toJsonMembers rest]

end

/-! ## What stays -/

mutual

theorem finitePart_eq_self_iff : ∀ v : Value, v.finitePart = v ↔ ∀ x ∈ v.floats, isFinite x = true
  | null | bool _ | int _ | str _ => by simp [finitePart, floats]
  | float x => by
    rw [finitePart, floats]
    split_ifs with hx <;> simp [hx]
  | array items => by
    rw [finitePart, floats, array.injEq]
    exact finiteItems_eq_self_iff items
  | object fields => by
    rw [finitePart, floats, object.injEq]
    exact finiteFields_eq_self_iff fields

theorem finiteItems_eq_self_iff : ∀ items : List Value,
    finiteItems items = items ↔ ∀ x ∈ itemsFloats items, isFinite x = true
  | [] => by simp [finiteItems, itemsFloats]
  | v :: rest => by
    rw [finiteItems, itemsFloats, List.cons.injEq, finitePart_eq_self_iff v, finiteItems_eq_self_iff rest,
      List.forall_mem_append]

theorem finiteFields_eq_self_iff : ∀ fields : List (String × Value),
    finiteFields fields = fields ↔ ∀ x ∈ fieldsFloats fields, isFinite x = true
  | [] => by simp [finiteFields, fieldsFloats]
  | (name, v) :: rest => by
    rw [finiteFields, fieldsFloats, List.cons.injEq, Prod.mk.injEq, finitePart_eq_self_iff v,
      finiteFields_eq_self_iff rest, List.forall_mem_append]
    simp

end

mutual

theorem floats_finitePart : ∀ v : Value, v.finitePart.floats = v.floats.filter isFinite
  | null | bool _ | int _ | str _ => by simp [finitePart, floats]
  | float x => by
    rw [finitePart, floats]
    split_ifs with hx <;> simp [hx, floats]
  | array items => by rw [finitePart, floats, floats, itemsFloats_finiteItems]
  | object fields => by rw [finitePart, floats, floats, fieldsFloats_finiteFields]

theorem itemsFloats_finiteItems : ∀ items : List Value,
    itemsFloats (finiteItems items) = (itemsFloats items).filter isFinite
  | [] => by simp [finiteItems, itemsFloats]
  | v :: rest => by
    rw [finiteItems, itemsFloats, itemsFloats, floats_finitePart v, itemsFloats_finiteItems rest,
      List.filter_append]

theorem fieldsFloats_finiteFields : ∀ fields : List (String × Value),
    fieldsFloats (finiteFields fields) = (fieldsFloats fields).filter isFinite
  | [] => by simp [finiteFields, fieldsFloats]
  | (name, v) :: rest => by
    rw [finiteFields, fieldsFloats, fieldsFloats, floats_finitePart v, fieldsFloats_finiteFields rest,
      List.filter_append]

end

theorem finitePart_finitePart (v : Value) : v.finitePart.finitePart = v.finitePart := by
  rw [finitePart_eq_self_iff, floats_finitePart]
  intro x hx
  exact (List.mem_filter.mp hx).2

theorem names_toJsonMembers (fields : List (String × Value)) :
    (toJsonMembers fields).map (·.1) = fields.map (·.1) := by
  induction fields with
  | nil => rw [toJsonMembers, List.map_nil, List.map_nil]
  | cons field fields ih => rw [toJsonMembers, List.map_cons, List.map_cons, ih]

theorem names_ofJsonMembers (members : List (String × Json)) :
    (ofJsonMembers members).map (·.1) = members.map (·.1) := by
  induction members with
  | nil => rw [ofJsonMembers, List.map_nil, List.map_nil]
  | cons member members ih => rw [ofJsonMembers, List.map_cons, List.map_cons, ih]

/-- **Through JSON and back.** A value comes back with null in place of every float that is not finite and
with nothing else changed, so that it is the same exactly if all its floats are finite, and a second time
changes nothing. The members of an object keep their names and the order of these: setting them one by one,
as a map is filled, gives the same list. -/
theorem ofJson_toJson (v : Value) :
    ofJson v.toJson = v.finitePart ∧
      (ofJson v.toJson = v ↔ ∀ x ∈ v.floats, isFinite x = true) ∧
      (ofJson v.toJson).floats = v.floats.filter isFinite ∧
      ofJson (ofJson v.toJson).toJson = ofJson v.toJson ∧
      ∀ fields, Fields.Increasing fields →
        Fields.ofList (toJsonMembers fields) = toJsonMembers fields ∧
          Fields.ofList (ofJsonMembers (toJsonMembers fields)) = ofJsonMembers (toJsonMembers fields) := by
  refine ⟨ofJson_toJson_eq v, ?_, ?_, ?_, fun fields hfields => ?_⟩
  · rw [ofJson_toJson_eq, finitePart_eq_self_iff]
  · rw [ofJson_toJson_eq, floats_finitePart]
  · rw [ofJson_toJson_eq, ofJson_toJson_eq, finitePart_finitePart]
  · have hmembers : Fields.Increasing (toJsonMembers fields) :=
      Fields.Increasing.of_names (names_toJsonMembers fields) hfields
    exact ⟨Fields.ofList_eq_self hmembers,
      Fields.ofList_eq_self (hmembers.of_names (names_ofJsonMembers _))⟩

/-- The least integer, a whole float, NaN and a zero with a sign, at two depths. -/
theorem ofJson_toJson_mixed :
    let fields : List (String × Value) :=
      [("a", array [int Int64.minValue, float (Number.ofNat 2), float nan]),
        ("b", float (neg (Number.ofNat 0)))]
    Fields.Increasing fields ∧ Fields.ofList (toJsonMembers fields) = toJsonMembers fields ∧
      ofJson (object fields).toJson =
        object [("a", array [int Int64.minValue, float (Number.ofNat 2), null]),
          ("b", float (neg (Number.ofNat 0)))] := by
  intro fields
  have hincreasing : Fields.Increasing fields := List.pairwise_pair.mpr (by decide)
  obtain ⟨hpart, -, -, -, hfields⟩ := ofJson_toJson (object fields)
  refine ⟨hincreasing, (hfields fields hincreasing).1, hpart.trans ?_⟩
  rfl

end Value

end RowQuery
