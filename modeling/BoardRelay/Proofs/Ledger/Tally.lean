/-
  BoardRelay.Proofs.Ledger.Tally
  ────────────────────────────────
  One call on a ledger after the other.  Every answer to one who wants space
  goes by the exact sum, which words decide without leaving their range
  (`fits_iff_words`, `answered_ask`).  Beside the ledger a tally keeps the
  sizes that were granted and not given back.  Whatever is given back, what is
  taken stays below the budget (`Tally.Bounded.book`); as long as only what
  was granted is given back, it is the sum of the outstanding sizes
  (`Tally.Exact.book`).
-/
import BoardRelay.Ledger.Basic
import Mathlib.Algebra.BigOperators.Group.List.Basic
import Mathlib.Algebra.GroupWithZero.Nat

namespace BoardRelay.Ledger

/-! ## §1. One call. -/

/-- Asks for a size: the answer, and the ledger then. -/
def ask (size : UInt64) (ledger : Ledger) : Except Error Bool × Ledger :=
  match ledger.tryReserve size with
  | .error e => (.error e, ledger)
  | .ok (granted, ledger) => (.ok granted, ledger)

/-- What one who asks for a size is answered, and what is taken then. -/
structure Answered (size : UInt64) (ledger : Ledger) (answer : Except Error Bool)
    (next : Ledger) : Prop where
  tooLarge_iff : answer = .error (.fileTooLarge size ledger.budget) ↔ ledger.budget ≤ size
  granted_iff : size < ledger.budget →
    (answer = .ok true ↔ ledger.loaded.toNat + size.toNat < ledger.budget.toNat)
  refused_iff : size < ledger.budget →
    (answer = .ok false ↔ ledger.budget.toNat ≤ ledger.loaded.toNat + size.toNat)
  /-- On words: the sum is not less than what was added to, so it has not
  wrapped. -/
  words_iff : size < ledger.budget →
    (answer = .ok true ↔ ledger.loaded ≤ ledger.loaded + size ∧
      ledger.loaded + size < ledger.budget)
  grows : answer = .ok true → next.loaded = ledger.loaded + size ∧
    next.loaded.toNat = ledger.loaded.toNat + size.toNat
  unchanged : answer ≠ .ok true → next.loaded = ledger.loaded
  budget_eq : next.budget = ledger.budget

section Answer

variable {size : UInt64} {ledger : Ledger}

/-- What is too large for the budget does not fit, whatever is taken. -/
theorem not_fits_of_tooLarge (h : ledger.tooLarge size = true) : ledger.fits size = false := by
  have hsize : ledger.budget.toNat ≤ size.toNat := UInt64.le_iff_toNat_le.mp (of_decide_eq_true h)
  rw [← Bool.not_eq_true, fits_iff]
  omega

/-- Who asks for too much is told so, and nothing is taken. -/
theorem ask_of_tooLarge (h : ledger.tooLarge size = true) :
    ledger.ask size = (.error (.fileTooLarge size ledger.budget), ledger) := by
  simp only [ask, tryReserve, checkSize, if_pos h]
  rfl

/-- A size that fits is granted and taken. -/
theorem ask_of_fits (h : ledger.fits size = true) :
    ledger.ask size = (.ok true, ledger.take size) := by
  have hsmall : ledger.tooLarge size = false := by
    rw [← Bool.not_eq_true]
    intro hlarge
    rw [not_fits_of_tooLarge hlarge] at h
    cases h
  simp only [ask, tryReserve, checkSize, hsmall, h]
  rfl

/-- A size that does not fit now is refused. -/
theorem ask_of_full (hsmall : ledger.tooLarge size = false) (h : ledger.fits size = false) :
    ledger.ask size = (.ok false, ledger) := by
  simp only [ask, tryReserve, checkSize, hsmall, h]
  rfl

/-- Words tell whether a size fits: the sum has not wrapped and stays below
the budget. -/
theorem fits_iff_words : ledger.fits size = true ↔
    ledger.loaded ≤ ledger.loaded + size ∧ ledger.loaded + size < ledger.budget := by
  have hloaded := ledger.loaded.toNat_lt
  have hsize := size.toNat_lt
  have hbudget := ledger.budget.toNat_lt
  rw [fits_iff, UInt64.le_iff_toNat_le, UInt64.lt_iff_toNat_lt, UInt64.toNat_add]
  omega

/-- Every answer goes by the exact sum, and only a size that is granted
changes what is taken. -/
theorem answered_ask (size : UInt64) (ledger : Ledger) :
    Answered size ledger (ledger.ask size).1 (ledger.ask size).2 := by
  have hlarge_iff : ledger.tooLarge size = true ↔ ledger.budget ≤ size := decide_eq_true_iff
  -- there are three answers: too large at all, granted, and refused for now
  cases hlarge : ledger.tooLarge size with
  | true =>
    have hle : ledger.budget ≤ size := hlarge_iff.mp hlarge
    have hnot : ¬ size < ledger.budget := UInt64.not_lt.mpr hle
    rw [ask_of_tooLarge hlarge]
    exact {
      tooLarge_iff := ⟨fun _ => hle, fun _ => rfl⟩
      granted_iff := fun h => absurd h hnot
      refused_iff := fun h => absurd h hnot
      words_iff := fun h => absurd h hnot
      grows := nofun
      unchanged := fun _ => rfl
      budget_eq := rfl }
  | false =>
    have hnot : ¬ ledger.budget ≤ size := by
      rw [← hlarge_iff, hlarge]
      exact Bool.false_ne_true
    cases hfits : ledger.fits size with
    | true =>
      have hsum := fits_iff.mp hfits
      rw [ask_of_fits hfits]
      exact {
        tooLarge_iff := ⟨nofun, fun h => absurd h hnot⟩
        granted_iff := fun _ => ⟨fun _ => hsum, fun _ => rfl⟩
        refused_iff := fun _ => ⟨nofun, fun h => absurd hsum (Nat.not_lt.mpr h)⟩
        words_iff := fun _ => ⟨fun _ => fits_iff_words.mp hfits, fun _ => rfl⟩
        grows := fun _ => ⟨rfl, toNat_take hfits⟩
        unchanged := fun h => absurd rfl h
        budget_eq := rfl }
    | false =>
      have hfull : ¬ ledger.fits size = true := by
        rw [hfits]
        exact Bool.false_ne_true
      have hsum := mt fits_iff.mpr hfull
      rw [ask_of_full hlarge hfits]
      exact {
        tooLarge_iff := ⟨nofun, fun h => absurd h hnot⟩
        granted_iff := fun _ => ⟨nofun, fun h => absurd h hsum⟩
        refused_iff := fun _ => ⟨fun _ => Nat.not_lt.mp hsum, fun _ => rfl⟩
        words_iff := fun _ => ⟨nofun, fun h => absurd (fits_iff_words.mpr h) hfull⟩
        grows := nofun
        unchanged := fun _ => rfl
        budget_eq := rfl }

end Answer

/-- Giving back leaves no more than there was. -/
theorem release_le (size : UInt64) (ledger : Ledger) :
    (ledger.release size).loaded ≤ ledger.loaded := by
  rw [UInt64.le_iff_toNat_le, toNat_release]
  exact Nat.sub_le _ _

/-! ## §2. Calls one after the other. -/

/-- A call on a ledger. -/
inductive Booking where
  | reserve (size : UInt64)
  | release (size : UInt64)
  deriving Repr, DecidableEq

/-- A ledger with the sizes that it has granted and not got back. -/
structure Tally where
  ledger : Ledger
  outstanding : List UInt64

namespace Tally

/-- The tally of a budget of which nothing is taken. -/
def opening (budget : UInt64) : Tally :=
  ⟨unused budget, []⟩

/-- The tally after a call. -/
def book (tally : Tally) : Booking → Tally
  | .reserve size =>
    match tally.ledger.ask size with
    | (.ok true, ledger) => ⟨ledger, size :: tally.outstanding⟩
    | (_, ledger) => { tally with ledger }
  | .release size => ⟨tally.ledger.release size, tally.outstanding.erase size⟩

/-- The tally after calls, one after the other. -/
def after (bookings : List Booking) (tally : Tally) : Tally :=
  bookings.foldl book tally

/-- Whether a call gives back nothing but a size that is outstanding. -/
def covers (tally : Tally) : Booking → Bool
  | .reserve _ => true
  | .release size => tally.outstanding.contains size

/-- Whether no call gives back anything but a size that is outstanding
then. -/
def balanced (tally : Tally) : List Booking → Bool
  | [] => true
  | booking :: bookings => tally.covers booking && (tally.book booking).balanced bookings

/-- What the outstanding sizes come to. -/
def owed (tally : Tally) : Nat :=
  (tally.outstanding.map UInt64.toNat).sum

/-- Whether what is taken is nothing, or less than the budget. -/
structure Bounded (budget : UInt64) (tally : Tally) : Prop where
  budget_eq : tally.ledger.budget = budget
  loaded_lt : tally.ledger.loaded = 0 ∨ tally.ledger.loaded < budget

/-- Whether what is taken is what the outstanding sizes come to. -/
def Exact (tally : Tally) : Prop :=
  tally.ledger.loaded.toNat = tally.owed

variable {tally : Tally} {budget size : UInt64} {booking : Booking}

/-- What asking for a size does to a tally. -/
theorem book_reserve_cases (tally : Tally) (size : UInt64) :
    tally.ledger.fits size = true ∧
        tally.book (.reserve size) = ⟨tally.ledger.take size, size :: tally.outstanding⟩ ∨
      tally.book (.reserve size) = tally := by
  cases hfits : tally.ledger.fits size with
  | true => exact .inl ⟨rfl, by rw [book, ask_of_fits hfits]⟩
  | false =>
    cases hlarge : tally.ledger.tooLarge size with
    | true => exact .inr (by rw [book, ask_of_tooLarge hlarge])
    | false => exact .inr (by rw [book, ask_of_full hlarge hfits])

/-- **No call fills the budget up**, balanced or not. -/
theorem Bounded.book (h : tally.Bounded budget) (booking : Booking) :
    (tally.book booking).Bounded budget := by
  cases booking with
  | reserve size =>
    rcases tally.book_reserve_cases size with ⟨hfits, hbook⟩ | hbook
    · rw [hbook]
      refine ⟨h.budget_eq, .inr ?_⟩
      rw [UInt64.lt_iff_toNat_lt, toNat_take hfits, ← h.budget_eq]
      exact fits_iff.mp hfits
    · rwa [hbook]
  | release size =>
    refine ⟨h.budget_eq, ?_⟩
    show (tally.ledger.release size).loaded = 0 ∨ (tally.ledger.release size).loaded < budget
    -- giving back leaves no more than was taken, whoever gives it back
    have hle := UInt64.le_iff_toNat_le.mp (release_le size tally.ledger)
    have hloaded := h.loaded_lt
    rw [← UInt64.toNat_inj, UInt64.lt_iff_toNat_lt, UInt64.toNat_zero] at hloaded ⊢
    omega

/-- **A call that gives back only what is outstanding keeps the account
exact.** -/
theorem Exact.book (h : tally.Exact) (hcovers : tally.covers booking = true) :
    (tally.book booking).Exact := by
  cases booking with
  | reserve size =>
    rcases tally.book_reserve_cases size with ⟨hfits, hbook⟩ | hbook
    · rw [hbook]
      show (tally.ledger.take size).loaded.toNat = _
      rw [toNat_take hfits, show tally.ledger.loaded.toNat = tally.owed from h, owed, owed,
        List.map_cons, List.sum_cons, Nat.add_comm]
    · rwa [hbook]
  | release size =>
    -- what is given back is one of the outstanding sizes, so there is enough
    have hmem : size ∈ tally.outstanding := List.contains_iff_mem.mp hcovers
    have hsum : size.toNat + ((tally.outstanding.erase size).map UInt64.toNat).sum = tally.owed :=
      List.sum_map_erase UInt64.toNat hmem
    have hloaded : tally.ledger.loaded.toNat = tally.owed := h
    show (tally.ledger.release size).loaded.toNat =
      ((tally.outstanding.erase size).map UInt64.toNat).sum
    rw [toNat_release]
    omega

theorem Bounded.after (h : tally.Bounded budget) (bookings : List Booking) :
    (tally.after bookings).Bounded budget := by
  induction bookings generalizing tally with
  | nil => exact h
  | cons booking bookings ih => exact ih (h.book booking)

theorem Exact.after (h : tally.Exact) {bookings : List Booking}
    (hbalanced : tally.balanced bookings = true) : (tally.after bookings).Exact := by
  induction bookings generalizing tally with
  | nil => exact h
  | cons booking bookings ih =>
    rw [balanced, Bool.and_eq_true] at hbalanced
    exact ih (h.book hbalanced.1) hbalanced.2

end Tally

/-- After any calls, balanced or not, what is taken is nothing or less than
the budget, and the next who asks for a size is answered by the exact sum; and
after calls that give back only what is outstanding, what is taken is the sum
of the outstanding sizes. -/
theorem loaded_after_calls (budget : UInt64) (bookings : List Booking) :
    let tally := (Tally.opening budget).after bookings
    tally.ledger.budget = budget ∧
      (tally.ledger.loaded = 0 ∨ tally.ledger.loaded < budget) ∧
      (∀ size, Answered size tally.ledger (tally.ledger.ask size).1 (tally.ledger.ask size).2) ∧
      ((Tally.opening budget).balanced bookings = true →
        tally.ledger.loaded.toNat = (tally.outstanding.map UInt64.toNat).sum) := by
  intro tally
  have hopening : (Tally.opening budget).Bounded budget := ⟨rfl, .inl rfl⟩
  have hbounded : tally.Bounded budget := hopening.after bookings
  have hexact : (Tally.opening budget).Exact := rfl
  exact ⟨hbounded.budget_eq, hbounded.loaded_lt, fun size => answered_ask size tally.ledger,
    hexact.after⟩

/-- Balanced calls on a budget of 100, some of which are turned down: 59 and 7
are outstanding in the end, and 66 is taken. -/
theorem balanced_calls_taken :
    let bookings : List Booking := [.reserve 40, .reserve 59, .reserve 1, .reserve 100,
      .reserve 18446744073709551615, .release 40, .reserve 7]
    (Tally.opening 100).balanced bookings = true ∧
      ((Tally.opening 100).after bookings).ledger.loaded.toNat = 66 := by
  intro bookings
  have hbalanced : (Tally.opening 100).balanced bookings = true := by decide
  refine ⟨hbalanced, ?_⟩
  rw [(loaded_after_calls 100 bookings).2.2.2 hbalanced]
  decide

end BoardRelay.Ledger
