/-! Values with a serial number that tells apart two equal ones. -/

namespace QueryBinding

structure Tagged (α : Type) where
  serial : Nat
  value : α
  deriving Repr

end QueryBinding
