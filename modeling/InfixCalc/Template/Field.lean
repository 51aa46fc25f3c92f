import InfixCalc.Template.Layout

/-!
# `InfixCalc.Template.Field`: what stands between the braces of a place

A place is written as `{name!c:layout}`: the name says which argument is meant, the letter behind
the exclamation mark how it is converted, and what is behind the colon how it is laid out. The two
last parts may be missing. Braces inside the layout come in pairs; in the name there are none,
except in brackets.

`Field.read` cuts a place into its parts, and `Field.reference`, `Field.readPath` and
`Form.ofLetter` say what the parts mean.
-/

set_option autoImplicit false

namespace InfixCalc

/-- The parts of a place. -/
structure Field where
  /-- The name of the argument, and which part of it is meant. -/
  name : List Char
  /-- The letter of the conversion, if there is one. -/
  letter : Option Char
  layout : List Char
deriving DecidableEq, Repr

namespace Field

/-- The characters that end a name. -/
def endsName (c : Char) : Bool :=
  c = '\x7b' || c = '\x7d' || c = '!' || c = ':'

/-- The name at the front, and the rest from the character that ends it. Nothing ends a name in
brackets. -/
def splitName (bracketed : Bool) : List Char → List Char × List Char
  | [] => ([], [])
  | c :: rest =>
    if !bracketed && endsName c then ([], c :: rest)
    else
      let (name, tail) := splitName (if bracketed then c != ']' else c == '[') rest
      (c :: name, tail)

/-- The layout up to the brace that closes it, and the rest behind the brace, when some pairs of
braces are open inside the layout. -/
def splitLayout (inside : Nat) : List Char → Option (List Char × List Char)
  | [] => none
  | c :: rest =>
    if c = '\x7d' && inside = 0 then some ([], rest)
    else
      let next := if c = '\x7b' then inside + 1 else if c = '\x7d' then inside - 1 else inside
      (splitLayout next rest).map fun (layout, tail) => (c :: layout, tail)

/-- The parts of a place whose layout begins here, and the rest behind it. -/
def readLayout (name : List Char) (letter : Option Char) (chars : List Char) :
    Except TemplateError (Field × List Char) :=
  match splitLayout 0 chars with
  | none => .error .unclosedLayout
  | some (layout, rest) => .ok (⟨name, letter, layout⟩, rest)

/-- The parts of a place whose conversion begins here, and the rest behind it. -/
def readConversion (name : List Char) : List Char → Except TemplateError (Field × List Char)
  | [] => .error .missingConversion
  | [_] => .error .unclosedLayout
  | letter :: c :: rest =>
    if c = '\x7d' then .ok (⟨name, some letter, []⟩, rest)
    else if c = ':' then readLayout name (some letter) rest
    else .error .longConversion

/-- The parts of a place that begins here, behind its opening brace, and the rest behind it. -/
def read (chars : List Char) : Except TemplateError (Field × List Char) :=
  let (name, rest) := splitName false chars
  match rest with
  | '\x7d' :: rest => .ok (⟨name, none, []⟩, rest)
  | ':' :: rest => readLayout name none rest
  | '!' :: rest => readConversion name rest
  | '\x7b' :: _ => .error .braceInName
  | _ => .error .unclosedName

/-- What is behind a name is no longer than the text. -/
theorem length_splitName_le (bracketed : Bool) (chars : List Char) :
    (splitName bracketed chars).2.length ≤ chars.length := by
  induction chars generalizing bracketed with
  | nil => simp [splitName]
  | cons c rest ih =>
    rw [splitName]
    split
    · exact Nat.le_refl _
    · exact Nat.le_succ_of_le (ih _)

/-- What is behind a layout is shorter than the text. -/
theorem length_lt_of_splitLayout {inside : Nat} {chars layout rest : List Char}
    (h : splitLayout inside chars = some (layout, rest)) : rest.length < chars.length := by
  induction chars generalizing inside layout with
  | nil => simp [splitLayout] at h
  | cons c tail ih =>
    rw [splitLayout] at h
    split at h
    · simp only [Option.some.injEq, Prod.mk.injEq] at h
      simp [← h.2]
    · simp only [Option.map_eq_some_iff, Prod.mk.injEq] at h
      obtain ⟨⟨inner, after⟩, found, _, rfl⟩ := h
      exact Nat.lt_succ_of_lt (ih found)

/-- What is behind a layout of a place is shorter than the text. -/
theorem length_lt_of_readLayout {name : List Char} {letter : Option Char} {chars rest : List Char}
    {f : Field} (h : readLayout name letter chars = .ok (f, rest)) :
    rest.length < chars.length := by
  rw [readLayout] at h
  split at h
  · simp at h
  · next found =>
    simp only [Except.ok.injEq, Prod.mk.injEq] at h
    exact h.2 ▸ length_lt_of_splitLayout found

/-- What is behind a conversion is shorter than the text. -/
theorem length_lt_of_readConversion {name chars rest : List Char} {f : Field}
    (h : readConversion name chars = .ok (f, rest)) : rest.length < chars.length := by
  rw [readConversion.eq_def] at h
  split at h
  · simp at h
  · simp at h
  · next letter c tail =>
    split at h
    · simp only [Except.ok.injEq, Prod.mk.injEq] at h
      simp only [← h.2, List.length_cons]
      omega
    · split at h
      · have := length_lt_of_readLayout h
        simp only [List.length_cons]
        omega
      · simp at h

/-- What is behind a place is shorter than the text. -/
theorem length_lt_of_read {chars rest : List Char} {f : Field} (h : read chars = .ok (f, rest)) :
    rest.length < chars.length := by
  have bound := length_splitName_le false chars
  simp only [read] at h
  split at h
  · next tail found =>
    simp only [Except.ok.injEq, Prod.mk.injEq] at h
    simp only [found, List.length_cons] at bound
    rw [← h.2]
    omega
  · next tail found =>
    have := length_lt_of_readLayout h
    simp only [found, List.length_cons] at bound
    omega
  · next tail found =>
    have := length_lt_of_readConversion h
    simp only [found, List.length_cons] at bound
    omega
  · simp at h
  · simp at h

end Field

/-- How a place refers to its argument. -/
inductive Reference where
  | position (n : Nat)
  | name (name : String)
deriving DecidableEq, Repr

/-- A step from a value to a part of it. -/
inductive PathStep where
  /-- To the part at a position. -/
  | position (n : Nat)
  /-- To the part of a name in brackets. -/
  | key (name : String)
  /-- To the part of a name behind a point. -/
  | field (name : String)
deriving DecidableEq, Repr

/-- How the places of a template have been numbered so far. -/
inductive Numbering where
  /-- No place has been numbered. -/
  | undecided
  /-- By counting; the next number. -/
  | counted (next : Nat)
  /-- By positions given. -/
  | given
deriving DecidableEq, Repr

namespace Field

/-- What a place refers to by its name, and the numbering behind it. A name without characters is
counted; digits are a position, and any other name is a name. -/
def reference (numbering : Numbering) (name : List Char) :
    Except TemplateError (Reference × Numbering) :=
  match name, readNumber 0 name, numbering with
  | [], _, .undecided => .ok (.position 0, .counted 1)
  | [], _, .counted next => .ok (.position next, .counted (next + 1))
  | [], _, .given => .error .numberedThenCounted
  | _, none, _ => .error .numberBeyondLimit
  | _, some (_, []), .counted _ => .error .countedThenNumbered
  | _, some (n, []), _ => .ok (.position n, .given)
  | _, some _, _ => .ok (.name (String.ofList name), numbering)

/-- The character begins a part of an argument. -/
def beginsPart (c : Char) : Bool :=
  c = '.' || c = '['

/-- The steps to the part that is asked for, and why the reading stopped, if it did. -/
def readPath : List Char → List PathStep × Option TemplateError
  | [] => ([], none)
  | '.' :: rest =>
    let name := rest.takeWhile (!beginsPart ·)
    if name.isEmpty then ([], some .emptyPart)
    else
      let (path, stopped) := readPath (rest.drop name.length)
      (.field (String.ofList name) :: path, stopped)
  | '[' :: rest =>
    let inside := rest.takeWhile (· != ']')
    if inside.isEmpty then ([], some .emptyPart)
    else
      match readNumber 0 inside with
      | none => ([], some .numberBeyondLimit)
      | some (n, other) =>
        let step := if other.isEmpty then .position n else .key (String.ofList inside)
        let (path, stopped) := readPath (rest.drop (inside.length + 1))
        (step :: path, stopped)
  | _ => ([], some .strayText)
termination_by chars => chars.length
decreasing_by
  all_goals
    simp only [List.length_drop, List.length_cons]
    omega

end Field

/-- The form in which an argument is inserted. -/
inductive Form where
  /-- As it is. -/
  | plain
  /-- As a text. -/
  | text
  /-- As it is shown to whoever writes programs. -/
  | shown
  /-- As it is shown, in ASCII. -/
  | shownInAscii
deriving DecidableEq, Repr

/-- The form that the letter of a conversion stands for. The null character is no letter. -/
def Form.ofLetter : Option Char → Except TemplateError Form
  | none => .ok .plain
  | some '\x00' => .ok .plain
  | some 's' => .ok .text
  | some 'r' => .ok .shown
  | some 'a' => .ok .shownInAscii
  | some letter => .error (.unknownConversion letter)

end InfixCalc
