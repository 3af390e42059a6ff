import Mathlib
import WordSpace.Text.Lines

/-!
Lines written with any of the line ends.

A text is written from lines if each of them is followed by one of the line ends, the last one
perhaps by none, with empty lines put in anywhere (`Text.Written`). What is read from such a text
need not be what was written: a carriage return and a line feed behind it end one line, also where
the line feed was to end an empty line of its own. But the lines that are filled are the same
(`Text.Written.filled_lines`).
-/

namespace WordSpace.Text

/-! ## Writing -/

/-- What ends a line. -/
def lineEnds : List (List Char) := [['\n'], ['\r', '\n'], ['\r']]

/-- A text is made of some lines and their line ends, which may be different ones, and of empty
lines that were put in. Only the last line may do without a line end. -/
inductive Written : List (List Char) → List Char → Prop
  | nil : Written [] []
  | unended (line : List Char) : Written [line] line
  | ended {line ending text : List Char} {rest : List (List Char)} :
    ending ∈ lineEnds → Written rest text → Written (line :: rest) (line ++ ending ++ text)
  | blank {ending text : List Char} {rest : List (List Char)} :
    ending ∈ lineEnds → Written rest text → Written rest (ending ++ text)

/-- The lines that are not empty without the line ends at their end. -/
def filled (lines : List (List Char)) : List (List Char) :=
  (lines.map (List.rdropWhile isLineEnd)).filter (· ≠ [])

theorem filled_cons (line : List Char) (rest : List (List Char)) :
    filled (line :: rest) = filled [line] ++ filled rest := by
  rw [filled, ← List.singleton_append, List.map_append, List.filter_append]
  rfl

theorem filled_nil_cons (rest : List (List Char)) : filled ([] :: rest) = filled rest := by
  rw [filled_cons]
  rfl

/-! ## Reading -/

theorem lines_cons_of_not_isLineEnd {c : Char} (inside : isLineEnd c = false) (text : List Char) :
    lines (c :: text) = prependChar c (lines text) := by
  unfold isLineEnd at inside
  rw [Bool.or_eq_false_iff, beq_eq_false_iff_ne, beq_eq_false_iff_ne] at inside
  rw [lines]
  · exact inside.1
  · exact fun _ carriage => absurd carriage inside.2
  · exact inside.2

/-- Characters that end no line stand before the first line of what comes behind them. -/
theorem lines_append {line : List Char} (inside : ∀ c ∈ line, isLineEnd c = false)
    {text : List Char} {rest : List (List Char)} (empty : lines text = [] :: rest) :
    lines (line ++ text) = line :: rest := by
  induction line with
  | nil => exact empty
  | cons c line ih =>
    obtain ⟨first, inside⟩ := List.forall_mem_cons.1 inside
    rw [List.cons_append, lines_cons_of_not_isLineEnd first, ih inside]
    rfl

/-- A text without line ends is one line, unless it is empty. -/
theorem lines_of_not_isLineEnd {line : List Char} (nonempty : line ≠ [])
    (inside : ∀ c ∈ line, isLineEnd c = false) : lines line = [line] := by
  induction line with
  | nil => exact absurd rfl nonempty
  | cons c line ih =>
    obtain ⟨first, inside⟩ := List.forall_mem_cons.1 inside
    rw [lines_cons_of_not_isLineEnd first]
    rcases line with _ | ⟨d, line⟩
    · rfl
    · rw [ih (List.cons_ne_nil d line) inside]
      rfl

/-- A line end ends an empty line, and takes at most one empty line along that is behind it. -/
theorem exists_lines_lineEnd {ending : List Char} (member : ending ∈ lineEnds) (text : List Char) :
    ∃ rest, lines (ending ++ text) = [] :: rest ∧ filled rest = filled (lines text) := by
  unfold lineEnds at member
  rcases List.mem_cons.1 member with rfl | member
  · exact ⟨lines text, by rw [List.singleton_append, lines], rfl⟩
  rcases List.mem_cons.1 member with rfl | member
  · exact ⟨lines text, by rw [List.cons_append, List.singleton_append, lines], rfl⟩
  cases List.mem_singleton.1 member
  rw [List.singleton_append]
  -- A carriage return is one line end with a line feed that happens to stand behind it.
  rcases text with _ | ⟨c, text⟩
  · exact ⟨[], rfl, rfl⟩
  by_cases feed : c = '\n'
  · subst feed
    refine ⟨lines text, by rw [lines], ?_⟩
    rw [lines, filled_nil_cons]
  · refine ⟨lines (c :: text), ?_, rfl⟩
    rw [lines]
    rintro rest same
    cases same
    exact feed rfl

/-- The filled lines of a text are those that it was written from. -/
theorem Written.filled_lines {text : List Char} {written : List (List Char)}
    (made : Written written text) (inside : ∀ line ∈ written, ∀ c ∈ line, isLineEnd c = false) :
    filled (lines text) = filled written := by
  induction made with
  | nil => rfl
  | unended line =>
    by_cases empty : line = []
    · subst empty
      rfl
    · rw [lines_of_not_isLineEnd empty (inside line List.mem_cons_self)]
  | @ended line ending text rest member _ ih =>
    obtain ⟨first, inside⟩ := List.forall_mem_cons.1 inside
    obtain ⟨behind, empty, same⟩ := exists_lines_lineEnd member text
    rw [List.append_assoc, lines_append first empty, filled_cons line behind, filled_cons line rest,
      same, ih inside]
  | @blank ending text rest member _ ih =>
    obtain ⟨behind, empty, same⟩ := exists_lines_lineEnd member text
    rw [empty, filled_nil_cons, same, ih inside]

end WordSpace.Text
