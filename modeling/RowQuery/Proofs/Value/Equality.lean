import RowQuery.Proofs.Number.Monotone
import RowQuery.Value.Basic

/-!
# Equal values

`strictEq` compares numbers, so it cannot tell a zero from the zero of the other sign. It misses nothing
else: values that it calls equal have their zeros at the same places, and are one value exactly if the
zeros have the same signs (`eq_iff_zeroSigns`).
-/

namespace RowQuery

namespace Number

variable {x y : Float}

/-- Whether a float has a minus sign, which a zero can have too. -/
def hasMinus (x : Float) : Bool :=
  2 ^ 63 ≤ x.toBits.toNat

theorem eq_of_key (hkey : key x = key y) (hsign : hasMinus x = hasMinus y) : x = y := by
  have hx : x.toBits.toNat < 2 ^ 64 := x.toBits.toNat_lt
  have hy : y.toBits.toNat < 2 ^ 64 := y.toBits.toNat_lt
  simp only [key] at hkey
  rw [hasMinus, hasMinus, decide_eq_decide] at hsign
  have hbits : x.toBits.toNat = y.toBits.toNat := by
    split at hkey <;> split at hkey <;> omega
  rw [← ofBits_toBits x, UInt64.toNat_inj.mp hbits, ofBits_toBits]

/-- Only zeros hide their sign. -/
theorem hasMinus_iff (h : key x ≠ 0) : hasMinus x = true ↔ key x < 0 := by
  simp only [key] at h ⊢
  rw [hasMinus, decide_eq_true_eq]
  split <;> split at h <;> omega

end Number

namespace Value

open Number

mutual

/-- Signs of the zeros in a value, from left to right. -/
def zeroSigns : Value → List Bool
  | float x => if isZero x then [hasMinus x] else []
  | array items => itemsZeroSigns items
  | object fields => fieldsZeroSigns fields
  | null | bool _ | int _ | str _ => []

def itemsZeroSigns : List Value → List Bool
  | [] => []
  | v :: rest => zeroSigns v ++ itemsZeroSigns rest

def fieldsZeroSigns : List (String × Value) → List Bool
  | [] => []
  | (_, v) :: rest => zeroSigns v ++ fieldsZeroSigns rest

end

/-- Two lists of signs have one length, and are one list only if `p` holds. -/
def SignsShow (signs signs' : List Bool) (p : Prop) : Prop :=
  signs.length = signs'.length ∧ (signs = signs' → p)

theorem SignsShow.append {signs signs' more more' : List Bool} {p p' : Prop} (h : SignsShow signs signs' p)
    (h' : SignsShow more more' p') : SignsShow (signs ++ more) (signs' ++ more') (p ∧ p') := by
  refine ⟨by rw [List.length_append, List.length_append, h.1, h'.1], fun heq => ?_⟩
  obtain ⟨hsigns, hmore⟩ := List.append_inj heq h.1
  exact ⟨h.2 hsigns, h'.2 hmore⟩

theorem signsShow_float {x y : Float} (h : same x y = true) :
    SignsShow (float x).zeroSigns (float y).zeroSigns (float x = float y) := by
  have hkey : key x = key y := by
    rw [same, Bool.and_eq_true] at h
    exact of_decide_eq_true h.2
  by_cases hzero : key x = 0
  · have hx : isZero x = true := decide_eq_true hzero
    have hy : isZero y = true := decide_eq_true (hkey ▸ hzero)
    rw [zeroSigns, zeroSigns, if_pos hx, if_pos hy]
    exact ⟨rfl, fun hsign => congrArg float (eq_of_key hkey (List.cons.inj hsign).1)⟩
  · have hx : ¬ isZero x = true := fun hx => hzero (of_decide_eq_true hx)
    have hy : ¬ isZero y = true := fun hy => hzero (hkey ▸ of_decide_eq_true hy)
    rw [zeroSigns, zeroSigns, if_neg hx, if_neg hy]
    refine ⟨rfl, fun _ => congrArg float (eq_of_key hkey ?_)⟩
    rw [Bool.eq_iff_iff, hasMinus_iff hzero, hasMinus_iff (hkey ▸ hzero), hkey]

mutual

theorem signsShow : ∀ (v w : Value), v.strictEq w = true → SignsShow v.zeroSigns w.zeroSigns (v = w)
  | float x, w, h => by
    cases w with
    | float y => exact signsShow_float (by rwa [strictEq] at h)
    | _ => simp [strictEq] at h
  | array vs, w, h => by
    cases w with
    | array ws =>
      rw [strictEq] at h
      rw [zeroSigns, zeroSigns, array.injEq]
      exact signsShow_items vs ws h
    | _ => simp [strictEq] at h
  | object fields, w, h => by
    cases w with
    | object fields' =>
      rw [strictEq] at h
      rw [zeroSigns, zeroSigns, object.injEq]
      exact signsShow_fields fields fields' h
    | _ => simp [strictEq] at h
  | null, w, h => by
    cases w with
    | null => exact ⟨rfl, fun _ => rfl⟩
    | _ => simp [strictEq] at h
  | bool b, w, h => by
    cases w with
    | bool b' =>
      rw [strictEq, beq_iff_eq] at h
      exact h ▸ ⟨rfl, fun _ => rfl⟩
    | _ => simp [strictEq] at h
  | int n, w, h => by
    cases w with
    | int n' =>
      rw [strictEq, beq_iff_eq] at h
      exact h ▸ ⟨rfl, fun _ => rfl⟩
    | _ => simp [strictEq] at h
  | str s, w, h => by
    cases w with
    | str s' =>
      rw [strictEq, beq_iff_eq] at h
      exact h ▸ ⟨rfl, fun _ => rfl⟩
    | _ => simp [strictEq] at h

theorem signsShow_items : ∀ (vs ws : List Value), strictEqItems vs ws = true →
    SignsShow (itemsZeroSigns vs) (itemsZeroSigns ws) (vs = ws)
  | [], [], _ => ⟨rfl, fun _ => rfl⟩
  | [], _ :: _, h | _ :: _, [], h => by simp [strictEqItems] at h
  | v :: vs, w :: ws, h => by
    rw [strictEqItems, Bool.and_eq_true] at h
    rw [itemsZeroSigns, itemsZeroSigns, List.cons.injEq]
    exact (signsShow v w h.1).append (signsShow_items vs ws h.2)

theorem signsShow_fields : ∀ (fields fields' : List (String × Value)), strictEqFields fields fields' = true →
    SignsShow (fieldsZeroSigns fields) (fieldsZeroSigns fields') (fields = fields')
  | [], [], _ => ⟨rfl, fun _ => rfl⟩
  | [], _ :: _, h | _ :: _, [], h => by simp [strictEqFields] at h
  | (k, v) :: fields, (k', w) :: fields', h => by
    rw [strictEqFields, Bool.and_eq_true, Bool.and_eq_true, beq_iff_eq] at h
    obtain ⟨⟨rfl, hvalue⟩, hrest⟩ := h
    rw [fieldsZeroSigns, fieldsZeroSigns, List.cons.injEq, Prod.mk.injEq, eq_self, true_and]
    exact (signsShow v w hvalue).append (signsShow_fields fields fields' hrest)

end

/-- **Equal values are one value if their zeros have the same signs.** -/
theorem eq_iff_zeroSigns {v w : Value} (h : v.strictEq w = true) : v = w ↔ v.zeroSigns = w.zeroSigns :=
  ⟨fun heq => heq ▸ rfl, (signsShow v w h).2⟩

end Value

end RowQuery
