/-
  BoardRelay.Ledger.Basic
  ────────────────────────────────
  A byte budget.  Sizes are unsigned 64-bit words; whether a size fits is
  decided on the exact sum, which may exceed a word.
-/
import BoardRelay.Error

namespace BoardRelay

/-- A budget and how much of it is taken. -/
structure Ledger where
  budget : UInt64
  loaded : UInt64
  deriving Repr, DecidableEq

namespace Ledger

/-- The ledger of which nothing is taken. -/
def unused (budget : UInt64) : Ledger :=
  ⟨budget, 0⟩

/-- Whether a size can never fit. -/
def tooLarge (size : UInt64) (ledger : Ledger) : Bool :=
  ledger.budget ≤ size

/-- Whether a size fits now: the sum stays below the budget. -/
def fits (size : UInt64) (ledger : Ledger) : Bool :=
  ledger.loaded.toNat + size.toNat < ledger.budget.toNat

/-- The ledger after taking a size that fits. -/
def take (size : UInt64) (ledger : Ledger) : Ledger :=
  { ledger with loaded := ledger.loaded + size }

/-- The ledger after giving a size back.  More than is taken counts as all
that is taken. -/
def release (size : UInt64) (ledger : Ledger) : Ledger :=
  { ledger with loaded := if size ≤ ledger.loaded then ledger.loaded - size else 0 }

/-- Refuses a size that can never fit. -/
def checkSize (size : UInt64) (ledger : Ledger) : Except Error Unit :=
  if ledger.tooLarge size then .error (.fileTooLarge size ledger.budget) else .ok ()

/-- Takes a size if it fits now; says whether it did. -/
def tryReserve (size : UInt64) (ledger : Ledger) : Except Error (Bool × Ledger) := do
  ledger.checkSize size
  return if ledger.fits size then (true, ledger.take size) else (false, ledger)

/-! ## As numbers -/

/-- A size fits when the sum of the numbers stays below the budget. -/
theorem fits_iff {size : UInt64} {ledger : Ledger} :
    ledger.fits size = true ↔ ledger.loaded.toNat + size.toNat < ledger.budget.toNat :=
  decide_eq_true_iff

/-- Taking a size that fits adds it, without wrapping around. -/
theorem toNat_take {size : UInt64} {ledger : Ledger} (h : ledger.fits size = true) :
    (ledger.take size).loaded.toNat = ledger.loaded.toNat + size.toNat := by
  have hfits := fits_iff.mp h
  have hbudget := ledger.budget.toNat_lt
  rw [take, UInt64.toNat_add, Nat.mod_eq_of_lt (by omega)]

/-- Giving a size back takes it away, as far as there is anything. -/
theorem toNat_release (size : UInt64) (ledger : Ledger) :
    (ledger.release size).loaded.toNat = ledger.loaded.toNat - size.toNat := by
  unfold release
  by_cases h : size ≤ ledger.loaded
  · rw [if_pos h, UInt64.toNat_sub_of_le _ _ h]
  · rw [UInt64.le_iff_toNat_le] at h
    rw [if_neg (by rwa [UInt64.le_iff_toNat_le]), UInt64.toNat_zero]
    omega

end Ledger

end BoardRelay
