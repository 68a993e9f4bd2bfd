import LanguageClient.Text.Lowercase
import Mathlib.Data.List.TakeWhile

/-!
# Lower case and prefixes

A character has one lower-case form in all texts, except for the capital sigma, whose form depends on
the letters around it. So the lower-case form of a text begins with that of a prefix, unless the last
capital sigma of the prefix ends a word in the prefix alone and does not end it in the text.
-/

namespace LanguageClient.Text

/-- Lower-cases a text that stands between a preceding one, given in reverse, and a following one. -/
def lowercaseBetween (preceding : List Char) : List Char → List Char → List Char
  | [], _ => []
  | character :: rest, following =>
    (if character = '\u03A3' then [lowercaseSigma preceding (rest ++ following)]
      else lowercaseCharacter character) ++
      lowercaseBetween (character :: preceding) rest following

/-- The lower-case form of two texts in a row is that of the first, before the second, and then that of
the second, after the first. -/
theorem lowercaseAfter_append (preceding text following : List Char) :
    lowercaseAfter preceding (text ++ following) =
      lowercaseBetween preceding text following ++
        lowercaseAfter (text.reverse ++ preceding) following := by
  induction text generalizing preceding with
  | nil => rfl
  | cons character rest inductionHypothesis =>
      simp only [List.cons_append, lowercaseAfter, lowercaseBetween, inductionHypothesis,
        List.append_assoc, List.reverse_cons, List.nil_append]

theorem lowercase_eq_lowercaseBetween (text : List Char) :
    lowercase text = lowercaseBetween [] text [] := by
  have whole := lowercaseAfter_append [] text []
  rw [List.append_nil] at whole
  exact whole.trans (List.append_nil _)

/-- What follows a text does not change the length of its lower-case form. -/
theorem length_lowercaseBetween (preceding text following other : List Char) :
    (lowercaseBetween preceding text following).length =
      (lowercaseBetween preceding text other).length := by
  induction text generalizing preceding with
  | nil => rfl
  | cons character rest inductionHypothesis =>
      simp only [lowercaseBetween, List.length_append, inductionHypothesis]
      split <;> rfl

/-! ## The capital sigma -/

/-- Characters that are skipped do not decide whether a cased letter is met. -/
theorem meetsCased_append_of_skipped
    {skipped : List Char} (allSkipped : ∀ character ∈ skipped, caseIgnorableCharacters.contains character)
    (text : List Char) : meetsCased (skipped ++ text) = meetsCased text := by
  simp only [meetsCased, List.dropWhile_append_of_pos allSkipped]

/-- After a character that is not skipped the rest does not matter. -/
theorem meetsCased_append_of_unskipped
    {text : List Char} (unskipped : ¬∀ character ∈ text, caseIgnorableCharacters.contains character)
    (following : List Char) : meetsCased (text ++ following) = meetsCased text := by
  have stays : text.dropWhile caseIgnorableCharacters.contains ≠ [] := by
    rwa [Ne, List.dropWhile_eq_nil_iff]
  obtain ⟨first, others, stops⟩ := List.exists_cons_of_ne_nil stays
  simp only [meetsCased, List.dropWhile_append, stops, List.isEmpty_cons, Bool.false_eq_true, if_false,
    List.cons_append]

/-- A text ends, up to characters that are skipped, in a capital sigma after a cased letter, and the
text that follows begins, up to such characters, with another one: the sigma ends a word as long as
nothing follows, and goes on with one otherwise. -/
def LosesFinalSigma (preceding text following : List Char) : Prop :=
  ∃ stem skipped, text = stem ++ '\u03A3' :: skipped ∧
    (∀ character ∈ skipped, caseIgnorableCharacters.contains character) ∧
    meetsCased (stem.reverse ++ preceding) ∧ meetsCased following

theorem losesFinalSigma_cons
    {preceding rest following : List Char} {character : Char} :
    LosesFinalSigma preceding (character :: rest) following ↔
      (character = '\u03A3' ∧ (∀ other ∈ rest, caseIgnorableCharacters.contains other) ∧
        meetsCased preceding ∧ meetsCased following) ∨
      LosesFinalSigma (character :: preceding) rest following := by
  constructor
  · rintro ⟨stem, skipped, isText, allSkipped, before, after⟩
    cases stem with
    | nil =>
        obtain ⟨rfl, rfl⟩ := List.cons.inj isText
        exact Or.inl ⟨rfl, allSkipped, before, after⟩
    | cons first stem =>
        obtain ⟨rfl, rfl⟩ := List.cons.inj isText
        rw [List.reverse_cons, List.append_assoc] at before
        exact Or.inr ⟨stem, skipped, rfl, allSkipped, before, after⟩
  · rintro (⟨rfl, allSkipped, before, after⟩ | ⟨stem, skipped, rfl, allSkipped, before, after⟩)
    · exact ⟨[], rest, rfl, allSkipped, before, after⟩
    · refine ⟨character :: stem, skipped, rfl, allSkipped, ?_, after⟩
      rwa [List.reverse_cons, List.append_assoc]

/-- A sigma has the same form before one text and before that text with a continuation, unless nothing
that counts is left of the first text and the continuation makes the difference. -/
theorem lowercaseSigma_append_eq_iff (preceding rest following : List Char) :
    lowercaseSigma preceding (rest ++ following) = lowercaseSigma preceding rest ↔
      ¬((∀ other ∈ rest, caseIgnorableCharacters.contains other) ∧
        meetsCased preceding ∧ meetsCased following) := by
  by_cases allSkipped : ∀ other ∈ rest, caseIgnorableCharacters.contains other
  · have nothingLeft : meetsCased rest = false := by
      have whole := meetsCased_append_of_skipped allSkipped []
      rw [List.append_nil] at whole
      exact whole
    rw [and_iff_right allSkipped]
    simp only [lowercaseSigma, meetsCased_append_of_skipped allSkipped, nothingLeft]
    cases meetsCased preceding <;> cases meetsCased following <;> simp
  · simp only [lowercaseSigma, meetsCased_append_of_unskipped allSkipped, allSkipped, false_and,
      not_false_eq_true]

/-- What follows a text changes its lower-case form only through the last capital sigma. -/
theorem lowercaseBetween_eq_iff (preceding text following : List Char) :
    lowercaseBetween preceding text following = lowercaseBetween preceding text [] ↔
      ¬LosesFinalSigma preceding text following := by
  induction text generalizing preceding with
  | nil =>
      refine iff_of_true rfl ?_
      rintro ⟨stem, skipped, isNothing, _⟩
      exact List.append_ne_nil_of_right_ne_nil stem (List.cons_ne_nil _ skipped) isNothing.symm
  | cons character rest inductionHypothesis =>
      rw [losesFinalSigma_cons, not_or, ← inductionHypothesis]
      by_cases sigma : character = '\u03A3'
      · simp only [lowercaseBetween, sigma, if_true, true_and, List.cons_append, List.nil_append,
          List.append_nil, List.cons.injEq, lowercaseSigma_append_eq_iff]
      · simp only [lowercaseBetween, sigma, if_false, false_and, not_false_eq_true, true_and,
          List.append_cancel_left_eq]

/-- The lower-case form of a text begins with that of a prefix, unless the prefix loses a final sigma. -/
theorem lowercase_prefix_append_iff (text following : List Char) :
    lowercase text <+: lowercase (text ++ following) ↔ ¬LosesFinalSigma [] text following := by
  have parts : lowercase (text ++ following) =
      lowercaseBetween [] text following ++ lowercaseAfter (text.reverse ++ []) following :=
    lowercaseAfter_append [] text following
  rw [← lowercaseBetween_eq_iff, lowercase_eq_lowercaseBetween text, parts]
  constructor
  · rintro ⟨others, same⟩
    exact (List.append_inj same (length_lowercaseBetween [] text [] following)).1.symm
  · intro same
    rw [same]
    exact List.prefix_append _ _

end LanguageClient.Text
