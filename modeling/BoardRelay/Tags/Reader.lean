/-
  BoardRelay.Tags.Reader
  ────────────────────────────────
  Reading a tag expression.

      expression  :=  group ('|' group)*
      group       :=  atom ('&' atom)*
      atom        :=  ['!'] '"' text '"'

  Blanks may stand around atoms and operators, not after '!'.  Text is not
  empty and holds no quote; everything else between quotes is text.
-/
import BoardRelay.Tags.Basic
import BoardRelay.Tags.Error
import BoardRelay.Text.Blank

namespace BoardRelay.Tags

open BoardRelay.Text

/-! ## §1. Positions -/

/-- The length of a text in bytes of UTF-8. -/
def byteLength (s : List Char) : Nat :=
  s.foldr (fun c length => c.utf8Size + length) 0

/-- What remains to be read, and the byte offset where it starts. -/
structure Input where
  pos : Nat
  rest : List Char

/-- The input after the blanks in front. -/
def Input.skipBlanks (i : Input) : Input :=
  ⟨i.pos + byteLength (i.rest.takeWhile isBlank), i.rest.dropWhile isBlank⟩

theorem Input.skipBlanks_length_le (i : Input) :
    i.skipBlanks.rest.length ≤ i.rest.length := by
  simpa [Input.skipBlanks] using (List.dropWhile_sublist isBlank).length_le

/-! ## §2. One atom -/

/-- A quoted keyword and what follows it. -/
def readKeyword (negated : Bool) (i : Input) : Except ReadError (Atom × Input) :=
  match i.rest with
  | [] => .error (.danglingOperator i.pos)
  | c :: inside =>
    if c = '"' then
      match cut? '"' inside with
      | none => .error (.unterminatedKeyword i.pos)
      | some (text, after) =>
        if text.isEmpty then .error (.emptyKeyword i.pos)
        else .ok (⟨lowercase text, negated⟩, ⟨i.pos + byteLength text + 2, after⟩)
    else .error (.expectedQuote c i.pos)

/-- An atom, with blanks allowed in front. -/
def readAtom (i : Input) : Except ReadError (Atom × Input) :=
  let start := i.skipBlanks
  match start.rest with
  | '!' :: rest => readKeyword true ⟨start.pos + 1, rest⟩
  | _ => readKeyword false start

theorem cut?_length_lt {separator : Char} {s before after : List Char}
    (h : cut? separator s = some (before, after)) : after.length < s.length := by
  induction s generalizing before with
  | nil => simp [cut?] at h
  | cons c rest ih =>
    unfold cut? at h
    split at h
    · simp only [Option.some.injEq, Prod.mk.injEq] at h
      simp [h.2]
    · simp only [Option.map_eq_some_iff, Prod.mk.injEq] at h
      obtain ⟨⟨b, a⟩, hcut, _, rfl⟩ := h
      exact Nat.lt_succ_of_lt (ih hcut)

theorem readKeyword_length_lt {negated : Bool} {i j : Input} {a : Atom}
    (h : readKeyword negated i = .ok (a, j)) : j.rest.length < i.rest.length := by
  cases hrest : i.rest with
  | nil => simp [readKeyword, hrest] at h
  | cons c inside =>
    by_cases hc : c = '"'
    · cases hcut : cut? '"' inside with
      | none => simp [readKeyword, hrest, hc, hcut] at h
      | some parts =>
        by_cases hempty : parts.1 = []
        · simp [readKeyword, hrest, hc, hcut, hempty] at h
        · -- the rest is what the cut left behind the closing quote
          simp only [readKeyword, hrest, hc, hcut, if_true, List.isEmpty_iff, hempty, if_false,
            Except.ok.injEq, Prod.mk.injEq] at h
          rw [← h.2]
          exact Nat.lt_succ_of_lt (cut?_length_lt hcut)
    · simp [readKeyword, hrest, hc] at h

theorem readAtom_length_lt {i j : Input} {a : Atom} (h : readAtom i = .ok (a, j)) :
    j.rest.length < i.rest.length := by
  have hskip := i.skipBlanks_length_le
  unfold readAtom at h
  dsimp only at h
  split at h
  · next rest hrest =>
    have := readKeyword_length_lt h
    rw [hrest] at hskip
    simp only [List.length_cons] at hskip
    exact Nat.lt_of_lt_of_le (Nat.lt_succ_of_lt this) hskip
  · exact Nat.lt_of_lt_of_le (readKeyword_length_lt h) hskip

/-! ## §3. The whole expression -/

/-- Puts an atom in front of the first group. -/
def conjoin (a : Atom) : List (List Atom) → List (List Atom)
  | [] => [[a]]
  | group :: others => (a :: group) :: others

/-- The groups from here to the end: an atom, then either the end or an
operator and more. -/
def readGroups (i : Input) : Except ReadError (List (List Atom)) :=
  match _h : readAtom i with
  | .error e => .error e
  | .ok (a, afterAtom) =>
    match hop : afterAtom.skipBlanks.rest with
    | [] => .ok [[a]]
    | c :: rest =>
      if c = '&' ∨ c = '|' then
        let next := (Input.mk (afterAtom.skipBlanks.pos + 1) rest).skipBlanks
        if next.rest.isEmpty then .error (.danglingOperator next.pos)
        else do
          let groups ← readGroups next
          return if c = '&' then conjoin a groups else [a] :: groups
      else .error (.unexpectedChar c afterAtom.skipBlanks.pos)
termination_by i.rest.length
decreasing_by
  have h1 := readAtom_length_lt _h
  have h2 := afterAtom.skipBlanks_length_le
  have h3 := (Input.mk (afterAtom.skipBlanks.pos + 1) rest).skipBlanks_length_le
  rw [hop] at h2
  simp only [List.length_cons] at h2 h3
  omega

/-- The query that an expression stands for. -/
def Query.read (source : String) : Except ReadError Query :=
  if allBlank source.toList then .error .empty
  else (readGroups ⟨0, source.toList⟩).map Query.mk

/-- The query to run for a stored expression: one that cannot be read
selects nothing. -/
def Query.compile (source : String) : Query :=
  match Query.read source with
  | .ok q => q
  | .error _ => Query.never

end BoardRelay.Tags
