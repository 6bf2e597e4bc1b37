/-
  BoardRelay.Clock.Agenda
  ────────────────────────────────
  What is due, in order of time.  Of things due at one instant the one noted
  first comes first.  Times are milliseconds.
-/

namespace BoardRelay.Clock

/-- Things to come, each with its instant; the earliest is in front. -/
structure Agenda (α : Type) where
  entries : List (Nat × α)
  deriving Repr

namespace Agenda

variable {α : Type}

/-- The agenda without entries. -/
def empty : Agenda α :=
  ⟨[]⟩

/-- Puts an entry behind all that are due no later. -/
def insertEntry (entry : Nat × α) : List (Nat × α) → List (Nat × α)
  | [] => [entry]
  | other :: rest =>
    if other.1 ≤ entry.1 then other :: insertEntry entry rest else entry :: other :: rest

/-- The agenda with one more entry. -/
def note (due : Nat) (what : α) (agenda : Agenda α) : Agenda α :=
  ⟨insertEntry (due, what) agenda.entries⟩

/-- The entry that comes first, and the agenda without it. -/
def next? (agenda : Agenda α) : Option ((Nat × α) × Agenda α) :=
  match agenda.entries with
  | [] => none
  | entry :: rest => some (entry, ⟨rest⟩)

end Agenda

end BoardRelay.Clock
