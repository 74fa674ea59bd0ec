import Mathlib.Data.BitVec

set_option autoImplicit false

/-!
# Durations

Go's `time.Duration` is an `int64` count of nanoseconds: arithmetic on it wraps modulo `2^64`
and `<` compares the two's-complement values. `Duration` keeps the 64 bits and reads them back
with `Duration.toInt`, so that every value of the Go type, `math.MinInt64` included, is a value
of the model and no other is.
-/

namespace Quorum

/-- A Go `time.Duration`. -/
structure Duration where
  toBitVec : BitVec 64
  deriving DecidableEq, Repr

namespace Duration

/-- The signed nanosecond count, in `[-2^63, 2^63)`. -/
def toInt (d : Duration) : Int := d.toBitVec.toInt

instance (n : Nat) : OfNat Duration n := ⟨⟨BitVec.ofNat 64 n⟩⟩
instance : Neg Duration := ⟨fun d => ⟨-d.toBitVec⟩⟩
instance : Sub Duration := ⟨fun a b => ⟨a.toBitVec - b.toBitVec⟩⟩
instance : Mul Duration := ⟨fun a b => ⟨a.toBitVec * b.toBitVec⟩⟩

/-- Go compares durations as signed integers. -/
instance : LT Duration := ⟨fun a b => a.toInt < b.toInt⟩

instance (a b : Duration) : Decidable (a < b) := inferInstanceAs (Decidable (a.toInt < b.toInt))

theorem lt_iff (a b : Duration) : a < b ↔ a.toInt < b.toInt := Iff.rfl

/-- `time.Second`. -/
def second : Duration := 1000000000

@[simp] theorem toInt_second : second.toInt = 1000000000 := by decide

theorem toInt_bounds (d : Duration) : -2 ^ 63 ≤ d.toInt ∧ d.toInt < 2 ^ 63 := by
  have h₁ := @Int.le_bmod (d.toBitVec.toNat : Int) (2 ^ 64) (by decide)
  have h₂ := @Int.bmod_lt (d.toBitVec.toNat : Int) (2 ^ 64) (by decide)
  rw [toInt, BitVec.toInt_eq_toNat_bmod]
  constructor <;> omega

/-- Subtracting a second wraps exactly when it would pass `math.MinInt64`. -/
theorem toInt_sub_second (d : Duration) :
    (d - second).toInt = if -2 ^ 63 + 1000000000 ≤ d.toInt then d.toInt - 1000000000
      else d.toInt - 1000000000 + 2 ^ 64 := by
  have hb := toInt_bounds d
  show (d.toBitVec - second.toBitVec).toInt = _
  rw [BitVec.toInt_sub, Int.bmod_def, show second.toBitVec.toInt = 1000000000 from toInt_second]
  unfold toInt at hb ⊢
  split_ifs <;> omega

end Duration

end Quorum
