/-!
# Powers of whole numbers

Powers with a natural exponent are those of core, and stay so where a theory of monoids brings powers
of its own.
-/

namespace RowQuery.Number

@[default_instance 20000]
instance (priority := 2000) wholePow {α : Type} [NatPow α] : Pow α Nat := instPowNat

end RowQuery.Number
