import Mathlib
import WordSpace.Proofs.Expression.Derivation
import WordSpace.Proofs.Outcomes

/-!
Layouts: the texts that are cut into given tokens.

A text is laid out from tokens if it is made of their spellings with any blanks around them
(`Token.Laid`). A spelling of a name ends where no more characters of a name follow, so two names
have a blank between them. Scanning finds the tokens of a text if and only if the text is laid out
from them (`Token.scan_eq_ok_iff`). So what is read from a text is what the grammar derives from
tokens that the text is laid out from (`Statement.ofText_eq_ok_iff`).
-/

namespace WordSpace.Expression

open Text

/-! ## Classes of characters -/

theorem continuesName_iff {c : Char} :
    continuesName c = true ↔
      (48 ≤ c.toNat ∧ c.toNat ≤ 57) ∨ (65 ≤ c.toNat ∧ c.toNat ≤ 90) ∨
        (97 ≤ c.toNat ∧ c.toNat ≤ 122) ∨ c.toNat = 95 := by
  have underscore : c = '_' ↔ c.toNat = 95 := Char.toNat_inj (d := '_').symm
  simp only [continuesName, Char.isAlphanum, Char.isAlpha, Char.isUpper, Char.isLower, Char.isDigit,
    Bool.or_eq_true, Bool.and_eq_true, decide_eq_true_eq, beq_iff_eq, underscore, ge_iff_le,
    UInt32.le_iff_toNat_le]
  simp
  omega

theorem isBlank_eq_false_of_continuesName {c : Char} (continues : continuesName c = true) :
    isBlank c = false := by
  rw [continuesName_iff] at continues
  simp only [isBlank, Bool.or_eq_false_iff, Bool.and_eq_false_iff, decide_eq_false_iff_not,
    beq_eq_false_iff_ne]
  omega

theorem continuesName_eq_false_of_isBlank {c : Char} (blank : isBlank c = true) :
    continuesName c = false := by
  cases continues : continuesName c with
  | false => rfl
  | true =>
    rw [isBlank_eq_false_of_continuesName continues] at blank
    cases blank

namespace Kind

/-- The signs with their kinds. -/
def signs : List (Char × Kind) :=
  [('+', plus), ('-', minus), ('=', equals), ('(', leftParen), (')', rightParen)]

theorem ofSign?_eq_some_iff {c : Char} {kind : Kind} :
    ofSign? c = some kind ↔ (c, kind) ∈ signs := by
  unfold ofSign? signs
  split <;> simp_all [eq_comm]

/-- A sign is neither blank nor part of a name. -/
theorem isBlank_eq_false_of_ofSign? {c : Char} {kind : Kind} (sign : ofSign? c = some kind) :
    isBlank c = false ∧ continuesName c = false := by
  have all : ∀ entry ∈ signs, isBlank entry.1 = false ∧ continuesName entry.1 = false := by decide
  exact all (c, kind) (ofSign?_eq_some_iff.1 sign)

/-- Each kind has at most one sign. -/
theorem ofSign?_inj {c d : Char} {kind : Kind} (sign : ofSign? c = some kind)
    (other : ofSign? d = some kind) : c = d := by
  have all : ∀ a ∈ signs, ∀ b ∈ signs, a.2 = b.2 → a.1 = b.1 := by decide
  exact all (c, kind) (ofSign?_eq_some_iff.1 sign) (d, kind) (ofSign?_eq_some_iff.1 other) rfl

theorem ofSign?_ne_identifier (c : Char) : ofSign? c ≠ some identifier := by
  have all : ∀ entry ∈ signs, entry.2 ≠ identifier := by decide
  exact fun sign => all (c, identifier) (ofSign?_eq_some_iff.1 sign) rfl

theorem ofSign?_eq_none_of_continuesName {c : Char} (continues : continuesName c = true) :
    ofSign? c = none := by
  cases sign : ofSign? c with
  | none => rfl
  | some kind =>
    rw [(isBlank_eq_false_of_ofSign? sign).2] at continues
    cases continues

end Kind

/-- Whether a run of characters is an identifier, in letters of any case. -/
def isIdentifier : List Char → Bool
  | [] => false
  | c :: tail => startsName c && tail.all continuesName

theorem isIdentifier_iff {spelling : List Char} :
    isIdentifier spelling = true ↔
      ∃ c tail, spelling = c :: tail ∧ startsName c = true ∧
        ∀ d ∈ tail, continuesName d = true := by
  cases spelling with
  | nil => simp [isIdentifier]
  | cons c tail =>
    rw [isIdentifier, Bool.and_eq_true, List.all_eq_true]
    constructor
    · intro identifier
      exact ⟨c, tail, rfl, identifier⟩
    · intro split
      rcases split with ⟨_, _, whole, identifier⟩
      cases whole
      exact identifier

/-! ## Layouts -/

namespace Token

/-- A text is made of the spellings of tokens, with any blanks around them. -/
inductive Laid : List Token → List Char → Prop
  | nil : Laid [] []
  | blank {c : Char} {tokens : List Token} {text : List Char} :
    isBlank c = true → Laid tokens text → Laid tokens (c :: text)
  | sign {c : Char} {kind : Kind} {tokens : List Token} {text : List Char} :
    Kind.ofSign? c = some kind → Laid tokens text → Laid (⟨kind, c.toString⟩ :: tokens) (c :: text)
  | name {c : Char} {tail text : List Char} {tokens : List Token} :
    startsName c = true → (∀ d ∈ tail, continuesName d = true) →
    (∀ d ∈ text.head?, continuesName d = false) → Laid tokens text →
    Laid (ofName (c :: tail) :: tokens) (c :: (tail ++ text))

theorem Laid.blanks {blanks text : List Char} {tokens : List Token}
    (all : ∀ c ∈ blanks, isBlank c = true) (laid : Laid tokens text) :
    Laid tokens (blanks ++ text) := by
  induction blanks with
  | nil => exact laid
  | cons c blanks ih =>
    rcases List.forall_mem_cons.1 all with ⟨blank, all⟩
    exact .blank blank (ih all)

/-- Two layouts make one, unless a name at the end of the first goes on in the second. -/
theorem Laid.append {before behind : List Token} {text rest : List Char} (laid : Laid before text)
    (next : Laid behind rest) (apart : ∀ d ∈ rest.head?, continuesName d = false) :
    Laid (before ++ behind) (text ++ rest) := by
  induction laid with
  | nil => exact next
  | blank blank _ ih => exact .blank blank ih
  | sign sign _ ih => exact .sign sign ih
  | @name c tail text tokens starts continues ends _ ih =>
    rw [List.cons_append, List.cons_append, List.append_assoc]
    refine .name starts continues (fun d first => ?_) ih
    cases text with
    | nil => exact apart d first
    | cons => exact ends d first

theorem Laid.append_sign {before behind : List Token} {text rest : List Char} {c : Char}
    {kind : Kind} (laid : Laid before text) (sign : Kind.ofSign? c = some kind)
    (next : Laid behind rest) :
    Laid (before ++ ⟨kind, c.toString⟩ :: behind) (text ++ c :: rest) := by
  refine laid.append (.sign sign next) ?_
  intro d first
  cases first
  exact (Kind.isBlank_eq_false_of_ofSign? sign).2

theorem Laid.append_blanks {tokens : List Token} {text blanks : List Char}
    (laid : Laid tokens text) (all : ∀ c ∈ blanks, isBlank c = true) :
    Laid tokens (text ++ blanks) := by
  have rest : Laid [] (blanks ++ []) := Laid.nil.blanks all
  rw [List.append_nil] at rest
  have whole := laid.append rest fun d first =>
    continuesName_eq_false_of_isBlank (all d (List.mem_of_mem_head? first))
  rwa [List.append_nil] at whole

theorem takeWhile_append_of_head? {p : Char → Bool} {tail text : List Char}
    (all : ∀ d ∈ tail, p d = true) (ends : ∀ d ∈ text.head?, p d = false) :
    (tail ++ text).takeWhile p = tail ∧ (tail ++ text).dropWhile p = text := by
  rw [List.takeWhile_append_of_pos all, List.dropWhile_append_of_pos all]
  cases text with
  | nil => simp
  | cons d text =>
    have stops : p d = false := ends d rfl
    simp [stops]

theorem Laid.scanFrom_eq {tokens : List Token} {text : List Char} (laid : Laid tokens text)
    (position : Nat) : scanFrom position text = .ok tokens := by
  induction laid generalizing position with
  | nil => rw [scanFrom]
  | blank blank _ ih => rw [scanFrom, if_pos blank, ih]
  | sign sign _ ih =>
    have solid := (Kind.isBlank_eq_false_of_ofSign? sign).1
    rw [scanFrom, solid, sign, ih]
    rfl
  | @name c tail text tokens starts continues ends _ ih =>
    have first := continuesName_of_startsName starts
    have solid := isBlank_eq_false_of_continuesName first
    have noSign := Kind.ofSign?_eq_none_of_continuesName first
    rcases takeWhile_append_of_head? continues ends with ⟨taken, left⟩
    rw [scanFrom, solid, noSign]
    simp only [starts, taken, left, ih]
    rfl

theorem laid_of_scanFrom {position : Nat} {text : List Char} {tokens : List Token}
    (scanned : scanFrom position text = .ok tokens) : Laid tokens text := by
  fun_induction scanFrom position text generalizing tokens with
  | case1 position =>
    cases scanned
    exact .nil
  | case2 position c rest blank ih => exact .blank blank (ih scanned)
  | case3 position c rest solid kind sign ih =>
    rcases exists_of_map_eq_ok scanned with ⟨later, behind, rfl⟩
    exact .sign sign (ih behind)
  | case4 position c rest solid noSign starts tail =>
    rename_i ih
    rcases exists_of_map_eq_ok scanned with ⟨later, behind, rfl⟩
    have ends := List.head?_dropWhile_not continuesName rest
    have laid : Laid (ofName (c :: tail) :: later)
        (c :: (tail ++ rest.dropWhile continuesName)) := by
      refine .name starts (fun d member => List.mem_takeWhile_imp member) (fun d first => ?_)
        (ih behind)
      rw [first] at ends
      exact ends
    rwa [List.takeWhile_append_dropWhile] at laid
  | case5 => cases scanned

/-- The tokens of a text are those that it is laid out from. -/
theorem scan_eq_ok_iff {text : String} {tokens : List Token} :
    scan text = .ok tokens ↔ Laid tokens text.toList :=
  ⟨laid_of_scanFrom, fun laid => laid.scanFrom_eq 0⟩

end Token

/-! ## Statements of texts -/

theorem Statement.ofText_eq_ok_iff {text : String} {s : Statement} :
    Statement.ofText text = .ok s ↔
      ∃ tokens, Token.Laid tokens text.toList ∧ Grammar.Sentence tokens s := by
  rw [Statement.ofText]
  cases scanned : Token.scan text with
  | error stray =>
    refine iff_of_false (by simp) ?_
    intro readable
    rcases readable with ⟨tokens, laid, -⟩
    rw [Token.scan_eq_ok_iff.2 laid] at scanned
    cases scanned
  | ok tokens =>
    have laid := Token.scan_eq_ok_iff.1 scanned
    constructor
    · intro read
      exact ⟨tokens, laid, readWhole_result_eq_ok_iff.1 read⟩
    · intro readable
      rcases readable with ⟨others, laidAlso, sentence⟩
      rw [Token.scan_eq_ok_iff.2 laidAlso] at scanned
      cases scanned
      exact readWhole_result_eq_ok_iff.2 sentence

/-! ## Surrounding blanks -/

/-- A text is read as it is read without the blanks around it. -/
theorem Statement.ofText_of_trim {text : String} {s : Statement}
    (parsed : Statement.ofText (trim text) = .ok s) : Statement.ofText text = .ok s := by
  obtain ⟨tokens, laid, sentence⟩ := ofText_eq_ok_iff.1 parsed
  obtain ⟨before, behind, whole, blanksBefore, blanksBehind⟩ := exists_strip isBlank text.toList
  rw [trim, String.toList_ofList] at laid
  refine ofText_eq_ok_iff.2 ⟨tokens, ?_, sentence⟩
  rw [whole]
  exact (laid.append_blanks blanksBehind).blanks blanksBefore

end WordSpace.Expression
