import InfixCalc.Command.Run
import InfixCalc.Proofs.Evaluation.Preview
import InfixCalc.Proofs.Token.Stop

/-!
# `InfixCalc.Proofs.Command.Blank`: which lines a run leaves out

A run that reads lines does nothing for a blank one (`Request.onLine_eq_empty_iff`), and what it
does for the others is the same as if the blank line were not there (`Request.onLines_dropped`).
Blank is a notion of its own: the line is not cut into tokens to find out, and the four information
separators are blank without being white space.

So there are two kinds of blank lines (`allBlank_iff`). One of white space has no tokens, and every
line without tokens is of this kind. One that holds a separator is refused when it is cut into
tokens (`refused_of_isSeparator`), and a run leaves it out all the same, without a message. Those
are the only lines for which being left out and having no tokens are not the same.
-/

set_option autoImplicit false

namespace InfixCalc

open Text

/-! ### Information separators -/

/-- The character is an information separator. -/
def isSeparator (c : Char) : Bool :=
  inRanges separatorRanges c

/-- A line is blank also by the four separators, which are no white space in an expression. -/
theorem isBlank_eq (c : Char) : isBlank c = (isSpace c || isSeparator c) :=
  inRanges_append spaceRanges separatorRanges c

/-- No information separator has the property White_Space. -/
theorem isSpace_of_isSeparator {c : Char} (separator : isSeparator c = true) :
    isSpace c = false := by
  have range : 0x1C ≤ c.toNat ∧ c.toNat ≤ 0x1F := by
    simpa [isSeparator, inRanges, separatorRanges] using separator
  simp only [isSpace, inRanges, spaceRanges, List.any_cons, List.any_nil, Bool.or_false,
    Bool.or_eq_false_iff, Bool.and_eq_false_iff, decide_eq_false_iff_not]
  omega

/-- The separators are foreign to expressions. -/
theorem isForeign_of_isSeparator {c : Char} (separator : isSeparator c = true) : IsForeign c := by
  rw [isForeign_iff]
  by_contra allowed
  -- If it were allowed in a line, it would be white space, being blank.
  have blank : isBlank c = true := by simp [isBlank_eq, separator]
  have space := isSpace_of_isBlank blank (by simpa using allowed)
  rw [isSpace_of_isSeparator separator] at space
  cases space

/-! ### Blank lines, cut into tokens -/

/-- A line that holds a separator is refused, for this or for another character. -/
theorem refused_of_isSeparator {line : String}
    (holds : ∃ c ∈ line.toList, isSeparator c = true) :
    ∃ c, tokenize line = .error (.foreignCharacter c) := by
  obtain ⟨c, mem, separator⟩ := holds
  obtain ⟨before, d, after, whole, foreign, first⟩ :=
    exists_first_isForeign ⟨c, mem, isForeign_of_isSeparator separator⟩
  exact ⟨d, tokenize_eq_error_iff.mpr (.inl ⟨before, d, after, whole, foreign, first, rfl⟩)⟩

/-- A blank line that is refused holds a separator: anything else in it is white space. -/
theorem exists_isSeparator_of_tokenize {line : String} {e : CalcError}
    (blank : ∀ c ∈ line.toList, isBlank c = true) (failed : tokenize line = .error e) :
    ∃ c ∈ line.toList, isSeparator c = true := by
  rcases tokenize_eq_error_iff.mp failed with
    ⟨before, c, after, whole, foreign, -, -⟩ | ⟨-, before, run, after, first, -⟩
  · have mem : c ∈ line.toList := by simp [whole]
    have here := blank c mem
    rw [isBlank_eq, foreign.2, Bool.false_or] at here
    exact ⟨c, mem, here⟩
  · -- A numeral would be visible, and nothing in the line is.
    obtain ⟨d, run, rfl⟩ := List.exists_cons_of_ne_nil first.isRun.nonempty
    have shown : d ∈ visible line := by simp [first.isRun.whole]
    obtain ⟨mem, -⟩ := List.mem_filter.mp shown
    have other := isBlank_of_isNumeralChar (first.isRun.isNumeral d List.mem_cons_self)
    rw [blank d mem] at other
    cases other

/-- A blank line has no tokens, or it holds a separator. -/
theorem allBlank_iff {line : String} :
    allBlank line = true ↔
      tokenize line = .ok [] ∨
      (∀ c ∈ line.toList, isBlank c = true) ∧ ∃ c ∈ line.toList, isSeparator c = true := by
  constructor
  · intro blank
    -- Cutting the line tells the two apart: it has no tokens, or it is refused for a separator.
    cases scanned : tokenize line with
    | ok tokens =>
        obtain rfl := (allBlank_iff_eq_nil scanned).mp blank
        exact .inl rfl
    | error e =>
        have each : ∀ c ∈ line.toList, isBlank c = true := List.all_eq_true.mp blank
        exact .inr ⟨each, exists_isSeparator_of_tokenize each scanned⟩
  · rintro (scanned | ⟨each, -⟩)
    · exact (allBlank_iff_eq_nil scanned).mpr rfl
    · exact List.all_eq_true.mpr each

/-! ### Lines that are left out -/

namespace Command

/-- For a line that is not blank a run prints something, or it breaks off. -/
theorem calculateLine_ne_empty (r : Request) (line : String) : calculateLine r line ≠ .empty := by
  unfold calculateLine
  dsimp only
  split
  · simp [Segment.empty]
  · split <;> simp [Segment.empty]

/-- Where tokens are printed, every line leaves something: at least the report of a fault, or the
line of its postfix order. -/
theorem dumpLine_ne_nil (line : String) : dumpLine line ≠ [] := by
  unfold dumpLine
  split
  · simp
  · split <;> simp

namespace Request

variable {r : Request}

/-- A run does nothing for a line exactly if the line is blank. -/
theorem onLine_eq_empty_iff (reads : r.action.readsLines = true) {line : String} :
    r.onLine line = .empty ↔ allBlank line = true := by
  constructor
  · intro nothing
    by_contra other
    rw [onLine, if_neg other] at nothing
    -- A line that is not blank leaves a trace in each kind of run that reads lines.
    split at nothing
    · exact calculateLine_ne_empty r line nothing
    · exact dumpLine_ne_nil line (congrArg Segment.events nothing)
    · next prints =>
        rw [prints] at reads
        cases reads
  · intro blank
    rw [onLine, if_pos blank]

/-- Where nothing is done for a line, the lines around it are treated as if it were not there. -/
theorem onLines_dropped {line : String} (nothing : r.onLine line = .empty)
    (before after : List String) :
    r.onLines (before ++ line :: after) = r.onLines (before ++ after) := by
  -- The lines before are gone through first, and the line adds nothing behind them.
  induction before with
  | nil =>
      show (r.onLine line).andThen (r.onLines after) = r.onLines after
      rw [nothing]
      rfl
  | cons first before ih =>
      show (r.onLine first).andThen (r.onLines (before ++ line :: after)) = _
      rw [ih]
      rfl

/-- Which lines a run leaves out, whatever its settings. A line without tokens is always left out,
and then the run does what it does without the line. A line with tokens, and one with a malformed
numeral or a character that has no place in an expression, is not left out, with one exception: a
line of blank characters that holds an information separator. Such a line is refused when it is cut
into tokens. Without separators, a line is left out exactly if it has no tokens. -/
theorem left_out_iff (reads : r.action.readsLines = true) (line : String) :
    (tokenize line = .ok [] → r.onLine line = .empty) ∧
    (r.onLine line = .empty → ∀ before after,
      r.onLines (before ++ line :: after) = r.onLines (before ++ after)) ∧
    (r.onLine line = .empty ↔ tokenize line = .ok [] ∨
      (∀ c ∈ line.toList, isBlank c = true) ∧ ∃ c ∈ line.toList, isSeparator c = true) ∧
    ((∃ c ∈ line.toList, isSeparator c = true) →
      ∃ c, tokenize line = .error (.foreignCharacter c)) ∧
    ((∀ c ∈ line.toList, isSeparator c = false) →
      (r.onLine line = .empty ↔ tokenize line = .ok [])) := by
  have exact := (@onLine_eq_empty_iff r reads line).trans allBlank_iff
  refine ⟨fun scanned => exact.mpr (.inl scanned), onLines_dropped, exact,
    refused_of_isSeparator, fun none => ?_⟩
  rw [exact, or_iff_left]
  rintro ⟨-, c, mem, separator⟩
  rw [none c mem] at separator
  cases separator

/-- A wide space and a tab have no tokens, and a run leaves them out. -/
theorem left_out_iff_wide_space :
    ({} : Request).action.readsLines = true ∧
    (∀ c ∈ "\u3000\t".toList, isSeparator c = false) ∧
    tokenize "\u3000\t" = .ok [] ∧ ({} : Request).onLine "\u3000\t" = .empty := by
  have scanned : tokenize "\u3000\t" = .ok [] := by
    with_unfolding_all rfl
  have all : "\u3000\t".toList.all (!isSeparator ·) = true := by decide
  have none : ∀ c ∈ "\u3000\t".toList, isSeparator c = false := fun c mem => by
    simpa using List.all_eq_true.mp all c mem
  obtain ⟨-, -, -, -, same⟩ := left_out_iff (r := {}) rfl "\u3000\t"
  exact ⟨rfl, none, scanned, (same none).mpr scanned⟩

/-- A separator by itself is no white space, and the line is refused for it. Still a run leaves the
line out, so being left out and having no tokens are not the same for all lines. -/
theorem separator_left_out :
    tokenize "\x1c" = .error (.foreignCharacter '\x1c') ∧
    ({} : Request).onLine "\x1c" = .empty ∧
    ¬ ∀ line, ({} : Request).onLine line = .empty ↔ tokenize line = .ok [] := by
  have refused : tokenize "\x1c" = .error (.foreignCharacter '\x1c') := by
    with_unfolding_all rfl
  have nothing : ({} : Request).onLine "\x1c" = .empty :=
    (onLine_eq_empty_iff rfl).mpr (by decide)
  refine ⟨refused, nothing, fun all => ?_⟩
  have scanned := (all "\x1c").mp nothing
  rw [refused] at scanned
  cases scanned

end Request

end Command

end InfixCalc
