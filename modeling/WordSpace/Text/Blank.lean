/-!
Blank characters: what separates words on a command line and surrounds numbers.

`isBlank` is true of exactly the 29 characters that have the Unicode property White_Space or are
one of the four information separators U+001C to U+001F.
-/

namespace WordSpace.Text

/-- Blank characters: tab to carriage return, the information separators, the space, the next-line
control, and the Unicode spaces and line and paragraph separators. -/
def isBlank (c : Char) : Bool :=
  let n := c.toNat
  (0x09 ≤ n && n ≤ 0x0D) || (0x1C ≤ n && n ≤ 0x20) || n == 0x85 || n == 0xA0 || n == 0x1680 ||
    (0x2000 ≤ n && n ≤ 0x200A) || n == 0x2028 || n == 0x2029 || n == 0x202F || n == 0x205F ||
    n == 0x3000

/-- The blanks that a number may have around it when it is written in ASCII: those that move the
cursor of a typewriter, without the information separators. -/
def isTypedBlank (c : Char) : Bool :=
  let n := c.toNat
  (0x09 ≤ n && n ≤ 0x0D) || n == 0x20

theorem isBlank_of_isTypedBlank {c : Char} (h : isTypedBlank c = true) : isBlank c = true := by
  simp only [isTypedBlank, isBlank, Bool.or_eq_true, Bool.and_eq_true, decide_eq_true_eq,
    beq_iff_eq] at *
  omega

/-- Every character that the core library calls whitespace is blank. -/
theorem isBlank_of_isWhitespace {c : Char} (h : c.isWhitespace = true) : isBlank c = true := by
  simp only [Char.isWhitespace, Bool.or_eq_true, decide_eq_true_eq] at h
  rcases h with ((rfl | rfl) | rfl) | rfl <;> decide

/-- Drops the characters with a property from both ends of a text. -/
def strip (drop : Char → Bool) (text : List Char) : List Char :=
  ((text.dropWhile drop).reverse.dropWhile drop).reverse

/-- What is dropped from the ends of a text is nothing but the characters to drop. -/
theorem exists_strip (drop : Char → Bool) (text : List Char) :
    ∃ before behind, text = before ++ (strip drop text ++ behind) ∧
      (∀ c ∈ before, drop c = true) ∧ ∀ c ∈ behind, drop c = true := by
  let rest := (text.dropWhile drop).reverse
  have back : (rest.dropWhile drop).reverse ++ (rest.takeWhile drop).reverse =
      text.dropWhile drop := by
    rw [← List.reverse_append, List.takeWhile_append_dropWhile, List.reverse_reverse]
  refine ⟨text.takeWhile drop, (rest.takeWhile drop).reverse, ?_, ?_, ?_⟩
  · unfold strip
    rw [back, List.takeWhile_append_dropWhile]
  · exact List.all_eq_true.1 List.all_takeWhile
  · exact fun c member => List.all_eq_true.1 List.all_takeWhile c (List.mem_reverse.1 member)

/-- Drops the blanks from both ends of a text. -/
def trim (text : String) : String := String.ofList (strip isBlank text.toList)

/-- The parts of a text between the occurrences of a separator. -/
def splitOn (separator : Char) : List Char → List (List Char)
  | [] => [[]]
  | c :: rest =>
    if c = separator then [] :: splitOn separator rest
    else match splitOn separator rest with
      | [] => [[c]]
      | part :: parts => (c :: part) :: parts

end WordSpace.Text
