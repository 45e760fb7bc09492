/-!
# Hexadecimal digits
-/

namespace RowQuery.Text

/-- Value of a hexadecimal digit of either case. -/
def hexDigit? (c : Char) : Option Nat :=
  if '0' ≤ c ∧ c ≤ '9' then some (c.toNat - '0'.toNat)
  else if 'a' ≤ c ∧ c ≤ 'f' then some (c.toNat - 'a'.toNat + 10)
  else if 'A' ≤ c ∧ c ≤ 'F' then some (c.toNat - 'A'.toNat + 10)
  else none

/-- Lower-case hexadecimal digits of `n`, without leading zeros. -/
def hexDigits (n : Nat) : List Char :=
  Nat.toDigits 16 n

/-- Number written by a list of hexadecimal digits; other characters are passed over. -/
def hexValue (cs : List Char) : Nat :=
  (cs.filterMap hexDigit?).foldl (fun n d => 16 * n + d) 0

theorem hexDigit?_lt {c : Char} {d : Nat} (h : hexDigit? c = some d) : d < 16 := by
  have h9 : '9'.toNat = 57 := rfl
  have hf : 'f'.toNat = 102 := rfl
  have hF : 'F'.toNat = 70 := rfl
  have h0 : '0'.toNat = 48 := rfl
  have ha : 'a'.toNat = 97 := rfl
  have hA : 'A'.toNat = 65 := rfl
  unfold hexDigit? at h
  split at h
  · rename_i hc
    have : c.toNat ≤ 57 := hc.2
    cases h; omega
  · split at h
    · rename_i hc
      have : c.toNat ≤ 102 := hc.2
      cases h; omega
    · split at h
      · rename_i hc
        have : c.toNat ≤ 70 := hc.2
        cases h; omega
      · cases h

end RowQuery.Text
