import QueryBinding.Nearest
import QueryBinding.Text.Numeral

/-! Non-negative binary fractions written with one decimal. The exact value is
rounded, and a tie goes to the even neighbour. -/

namespace QueryBinding

namespace Tenths

/-- Ten times `m * 2 ^ (e - 1075)`, rounded. -/
def ofScaled (m e : Nat) : Nat :=
  if 1075 ≤ e then 10 * m * Nat.pow 2 (e - 1075)
  else Nearest.div (10 * m) (Nat.pow 2 (1075 - e))

/-- Ten times a finite non-negative double, rounded. -/
def ofBits (bits : UInt64) : Nat :=
  let unit := Nat.pow 2 52
  let e := bits.toNat / unit % 2048
  let m := bits.toNat % unit
  if e = 0 then ofScaled m 1 else ofScaled (m + unit) e

def text (x : Float) : String :=
  let t := ofBits x.toBits
  toString (t / 10) ++ "." ++ toString (t % 10)

end Tenths

end QueryBinding
