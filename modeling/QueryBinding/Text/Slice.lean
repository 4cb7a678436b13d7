/-! Parts of a text between two offsets. A negative offset counts from the
end, and offsets outside the text are moved to its nearer end. -/

namespace QueryBinding

namespace Slice

def clip (length : Nat) (i : Int) : Nat :=
  if i < 0 then (length + i).toNat else min length i.toNat

def ofList (cs : List Char) (start stop : Int) : List Char :=
  let length := cs.length
  let first := clip length start
  (cs.drop first).take (clip length stop - first)

theorem clip_le (length : Nat) (i : Int) : clip length i ≤ length := by
  unfold clip; split <;> omega

theorem ofList_zero_length (cs : List Char) : ofList cs 0 cs.length = cs := by
  have h : ¬ ((cs.length : Int) < 0) := by omega
  simp [ofList, clip, h]

/-- A part of a text that begins and ends inside it. -/
theorem ofList_natCast {cs : List Char} {i n : Nat} (h : i + n ≤ cs.length) :
    ofList cs i (i + n) = (cs.drop i).take n := by
  have hstart : clip cs.length i = i := by
    rw [clip, if_neg (by omega)]
    omega
  have hstop : clip cs.length (i + n) = i + n := by
    rw [clip, if_neg (by omega)]
    omega
  rw [ofList, hstart, hstop, Nat.add_sub_cancel_left]

end Slice

end QueryBinding
