import InfixCalc.Proofs.Token.Spelling

/-!
# `InfixCalc.Proofs.Token.Cut`: the tokens of a line that is cut off

A line is typed from left to right, and at any moment what is there is the front part of what there
will be. Its tokens are those of the whole line up to some place, but the last numeral may be
shorter than it will be. `CutOff` is this relation, and `exists_tokenize_of_append` says that the
front parts of a line with tokens have tokens, and which: nothing in a line has to be awaited before
it can be cut into tokens.
-/

set_option autoImplicit false

namespace InfixCalc

/-- The first list is the second one cut off:

- `stop`: at the end of a token, or before the first one;
- `inside`: in the middle of a numeral, of which a text is left;
- `token`: behind a token that both have. -/
inductive CutOff : List Token → List Token → Prop where
  | stop (tokens : List Token) : CutOff [] tokens
  | inside (text whole : String) (tokens : List Token) :
    CutOff [.number text] (.number whole :: tokens)
  | token {cut tokens : List Token} (x : Token) (rest : CutOff cut tokens) :
    CutOff (x :: cut) (x :: tokens)

/-- A numeral is in front only where one was. -/
theorem CutOff.isNumber_head {cut tokens : List Token} (h : CutOff cut tokens) :
    ∀ x ∈ cut.head?, x.isNumber = true → ∃ y ∈ tokens.head?, y.isNumber = true := by
  intro x first number
  cases h with
  | stop => cases first
  | inside text whole tokens => exact ⟨.number whole, rfl, rfl⟩
  | token y rest =>
      cases first
      exact ⟨x, rfl, number⟩

/-- A token that begins a row still begins one when the rest of the row is cut off, since a numeral
stands next to it only where one did before. -/
theorem IsRow.cons_cutOff {x : Token} {cut tokens : List Token} (row : IsRow (x :: tokens))
    (h : CutOff cut tokens) (rest : IsRow cut) : IsRow (x :: cut) := by
  constructor
  · intro other mem
    rcases List.mem_cons.mp mem with rfl | mem
    · exact row.typed other List.mem_cons_self
    · exact rest.typed other mem
  · refine List.isChain_cons.mpr ⟨?_, rest.apart⟩
    intro y first numbers
    obtain ⟨z, first', number⟩ := h.isNumber_head y first numbers.2
    exact (List.isChain_cons.mp row.apart).1 z first' ⟨numbers.1, number⟩

/-- The front part of a typed numeral is a typed numeral, if it is not empty. -/
theorem Numeral.IsTyped.of_append {front back : List Char} (typed : IsTyped (front ++ back))
    (nonempty : front ≠ []) : IsTyped front := by
  obtain ⟨-, isNumeral, onePoint⟩ := typed
  refine ⟨nonempty, fun c mem => isNumeral c (List.mem_append_left _ mem), ?_⟩
  rw [List.count_append] at onePoint
  omega

/-- A token whose text is cut off, but not to nothing, leaves a token. A numeral leaves a numeral,
and any other token has a single character, so that it is not cut off at all. -/
theorem Token.exists_cutOff {x : Token} {front back : List Char} (typed : x.IsTyped)
    (text : x.text.toList = front ++ back) (nonempty : front ≠ []) :
    ∃ y, y.IsTyped ∧ y.text.toList = front ∧ ∀ tokens, CutOff [y] (x :: tokens) := by
  cases number : x.isNumber with
  | true =>
      cases x with
      | number whole =>
          have typed' : Numeral.IsTyped (front ++ back) := text ▸ typed
          refine ⟨.number (String.ofList front), ?_, String.toList_ofList, .inside _ _⟩
          show Numeral.IsTyped (String.ofList front).toList
          rw [String.toList_ofList]
          exact typed'.of_append nonempty
      | _ => cases number
  | false =>
      obtain ⟨c, made⟩ := exists_ofChar? typed number
      have single : x.text.toList = [c] := (of_ofChar? made).1
      -- The text has one character, so nothing of it can be cut off.
      have whole : [c] = front := by
        cases front with
        | nil => exact absurd rfl nonempty
        | cons d front => simp_all
      exact ⟨x, typed, single.trans whole, fun tokens => .token x (.stop tokens)⟩

/-- Where the characters of a row are cut off, the row is cut off. -/
theorem IsRow.exists_cutOff {tokens : List Token} {front back : List Char} (row : IsRow tokens)
    (spells : tokens.flatMap (·.text.toList) = front ++ back) :
    ∃ cut, CutOff cut tokens ∧ IsRow cut ∧ cut.flatMap (·.text.toList) = front := by
  induction tokens generalizing front with
  | nil =>
      obtain ⟨rfl, -⟩ := List.append_eq_nil_iff.mp spells.symm
      exact ⟨[], .stop [], row, rfl⟩
  | cons x tokens ih =>
      rw [List.flatMap_cons] at spells
      -- The cut is behind the first token, in front of it, or inside.
      rcases List.append_eq_append_iff.mp spells with ⟨beyond, rfl, behind⟩ | ⟨left, text, -⟩
      · obtain ⟨cut, cutOff, row', spelled⟩ := ih row.tail behind
        exact ⟨x :: cut, .token x cutOff, row.cons_cutOff cutOff row', by simp [spelled]⟩
      · by_cases empty : front = []
        · exact ⟨[], .stop _, ⟨by simp, .nil⟩, by simp [empty]⟩
        · obtain ⟨y, typed, spelled, cutOff⟩ :=
            Token.exists_cutOff (row.typed x List.mem_cons_self) text empty
          exact ⟨[y], cutOff tokens, ⟨by simpa using typed, .singleton y⟩, by simp [spelled]⟩

/-- The front part of a line with tokens has tokens: those of the line, cut off. -/
theorem exists_tokenize_of_append {line rest : String} {tokens : List Token}
    (scanned : tokenize (line ++ rest) = .ok tokens) :
    ∃ cut, tokenize line = .ok cut ∧ CutOff cut tokens := by
  obtain ⟨row, spells⟩ := tokenize_eq_ok_iff.mp scanned
  rw [Token.toList_spelled, visible_append] at spells
  obtain ⟨cut, cutOff, row', spelled⟩ := row.exists_cutOff spells
  refine ⟨cut, tokenize_eq_ok_iff.mpr ⟨row', ?_⟩, cutOff⟩
  rw [Token.toList_spelled, spelled]

end InfixCalc
