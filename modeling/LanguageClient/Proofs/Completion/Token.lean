import LanguageClient.Completion.Ranking
import Mathlib.Data.Set.Basic
import Mathlib.Data.List.Infix
import Mathlib.Data.List.TakeWhile

/-!
# The completed token

The token before the cursor is the longest ending of the text that the candidates describe: it begins
with a character that some candidate begins with, and goes on with characters that stand further back in
some candidate. One word character among these stands for all of them.
-/

namespace LanguageClient.Completion

open LanguageClient.Text

/-! ## The alphabet of the candidates -/

/-- The characters that some candidate begins with. -/
def firstCharacters (candidates : List Candidate) : Set Char :=
  {character | ∃ candidate ∈ candidates, candidate.insertText.toList.head? = some character}

/-- The characters that stand behind the first one of some candidate. -/
def laterCharacters (candidates : List Candidate) : Set Char :=
  {character | ∃ candidate ∈ candidates, character ∈ candidate.insertText.toList.tail}

/-- A set of characters, with all word characters if it has one. -/
def withWords (characters : Set Char) : Set Char :=
  {character | character ∈ characters ∨
    isWord character = true ∧ ∃ other ∈ characters, isWord other = true}

/-- Whether a text is a token of the candidates. -/
def IsToken (candidates : List Candidate) : List Char → Prop
  | [] => False
  | first :: others =>
    first ∈ withWords (firstCharacters candidates) ∧
      ∀ character ∈ others, character ∈ withWords (laterCharacters candidates)

theorem mem_insertCharacter {character other : Char} {characters : List Char} :
    other ∈ insertCharacter character characters ↔ other = character ∨ other ∈ characters := by
  induction characters with
  | nil => simp [insertCharacter]
  | cons head rest inductionHypothesis =>
      unfold insertCharacter
      split
      · exact List.mem_cons
      · split
        · rename_i same
          simp [same]
        · rw [List.mem_cons, inductionHypothesis, List.mem_cons]
          tauto

theorem mem_distinctCharacters {character : Char} {characters : List Char} :
    character ∈ distinctCharacters characters ↔ character ∈ characters := by
  unfold distinctCharacters
  induction characters with
  | nil => simp
  | cons head rest inductionHypothesis =>
      rw [List.foldr_cons, mem_insertCharacter, inductionHypothesis, List.mem_cons]

/-- The class of some characters holds these, and all word characters with one of them. -/
theorem CharacterClass.contains_ofCharacters {characters : List Char} {character : Char} :
    (CharacterClass.ofCharacters characters).contains character = true ↔
      character ∈ withWords {other | other ∈ characters} := by
  simp only [CharacterClass.contains, CharacterClass.ofCharacters, withWords, Set.mem_ofPred_eq,
    Bool.or_eq_true, Bool.and_eq_true, List.any_eq_true, List.contains_iff_mem, mem_distinctCharacters,
    List.mem_filter, Bool.not_eq_true']
  by_cases word : isWord character = true
  · simp only [word, true_and, and_false, or_false, and_true, Bool.true_eq_false]
    exact ⟨Or.inr, fun inside => inside.elim (fun member => ⟨character, member, word⟩) id⟩
  · simp [word]

namespace TokenPattern

variable {candidates : List Candidate} {pattern : TokenPattern}

/-- The pattern of candidates has their alphabet; without any text there is none. -/
theorem ofCandidates_cases (candidates : List Candidate) :
    TokenPattern.ofCandidates candidates = none ∧ firstCharacters candidates = ∅ ∨
      ∃ pattern, TokenPattern.ofCandidates candidates = some pattern ∧
        (∀ character, pattern.first.contains character = true ↔
          character ∈ withWords (firstCharacters candidates)) ∧
        ∀ character, pattern.continues character = true ↔
          character ∈ withWords (laterCharacters candidates) := by
  have firsts : {other | other ∈ (candidates.map fun candidate =>
      candidate.insertText.toList).filterMap List.head?} = firstCharacters candidates := by
    ext character
    simp [firstCharacters]
  have others : {other | other ∈ (candidates.map fun candidate =>
      candidate.insertText.toList).flatMap List.tail} = laterCharacters candidates := by
    ext character
    simp [laterCharacters]
  unfold TokenPattern.ofCandidates
  simp only
  split
  · rename_i noFirst
    left
    rw [← firsts, List.isEmpty_iff.mp noFirst]
    exact ⟨rfl, by simp⟩
  · right
    refine ⟨_, rfl, fun character => ?_, fun character => ?_⟩
    · rw [CharacterClass.contains_ofCharacters, firsts]
    · rw [← others]
      unfold continues
      split
      · rename_i noOthers
        simp only [ite_eq_left_iff, reduceCtorEq, imp_false, Bool.not_eq_true, Bool.not_eq_false]
          at noOthers
        rw [List.isEmpty_iff.mp noOthers]
        simp [withWords]
      · rename_i rest isRest
        split at isRest
        · cases isRest
        · rw [← Option.some.inj isRest]
          exact CharacterClass.contains_ofCharacters

/-! ## The search -/

variable {pattern : TokenPattern}

/-- Whether the pattern describes a whole text. -/
def Describes (pattern : TokenPattern) : List Char → Prop
  | [] => False
  | first :: others =>
    pattern.first.contains first = true ∧ ∀ character ∈ others, pattern.continues character = true

theorem isAtEnd_of_line {text : List Char} (oneLine : '\n' ∉ text) :
    isAtEnd text = true ↔ text = [] := by
  simp only [isAtEnd, Bool.or_eq_true, decide_eq_true_eq]
  constructor
  · rintro (nothing | feed)
    · exact nothing
    · exact absurd (feed ▸ List.mem_singleton_self '\n') oneLine
  · exact Or.inl

/-- In one line a match goes up to the end. -/
theorem matchLength?_of_line
    (pattern : TokenPattern) {text : List Char} (oneLine : '\n' ∉ text) :
    (pattern.Describes text ∧ pattern.matchLength? text = some text.length) ∨
      ¬pattern.Describes text ∧ pattern.matchLength? text = none := by
  cases text with
  | nil => exact Or.inr ⟨id, rfl⟩
  | cons first others =>
      have rest : others.drop (others.takeWhile pattern.continues).length =
          others.dropWhile pattern.continues := by
        calc
          _ = (others.takeWhile pattern.continues ++ others.dropWhile pattern.continues).drop
              (others.takeWhile pattern.continues).length := by rw [List.takeWhile_append_dropWhile]
          _ = _ := List.drop_left
      have atEnd : isAtEnd (others.dropWhile pattern.continues) = true ↔
          ∀ character ∈ others, pattern.continues character = true := by
        rw [isAtEnd_of_line fun inside => oneLine (List.mem_cons_of_mem _
          ((List.dropWhile_suffix _).mem inside)), List.dropWhile_eq_nil_iff]
      by_cases begins : pattern.first.contains first = true
      · by_cases goesOn : ∀ character ∈ others, pattern.continues character = true
        · refine Or.inl ⟨⟨begins, goesOn⟩, ?_⟩
          simp only [matchLength?, begins, if_true, rest, atEnd.mpr goesOn, List.length_cons]
          rw [List.takeWhile_eq_self_iff.mpr goesOn]
        · refine Or.inr ⟨fun describes => goesOn describes.2, ?_⟩
          simp only [matchLength?, begins, if_true, rest, mt atEnd.mp goesOn, Bool.false_eq_true,
            if_false]
      · refine Or.inr ⟨fun describes => begins describes.1, ?_⟩
        simp only [matchLength?, begins, Bool.false_eq_true, if_false]

/-- In one line the search finds the longest ending that the pattern describes. -/
theorem search?_of_line
    (pattern : TokenPattern) {text : List Char} (oneLine : '\n' ∉ text) :
    (∃ start length, pattern.search? text = some (start, length) ∧
      pattern.Describes (text.drop start) ∧ start + length = text.length ∧
      ∀ earlier < start, ¬pattern.Describes (text.drop earlier)) ∨
    pattern.search? text = none ∧ ∀ start, ¬pattern.Describes (text.drop start) := by
  induction text with
  | nil => exact Or.inr ⟨rfl, fun start => by simp [Describes]⟩
  | cons first others inductionHypothesis =>
      rcases matchLength?_of_line pattern oneLine with ⟨describes, found⟩ | ⟨other, none⟩
      · refine Or.inl ⟨0, _, by simp only [search?, found], describes, Nat.zero_add _, ?_⟩
        exact fun earlier before => absurd before (Nat.not_lt_zero earlier)
      · rcases inductionHypothesis fun inside => oneLine (List.mem_cons_of_mem _ inside) with
          ⟨start, length, found, describes, whole, first⟩ | ⟨nothing, never⟩
        · refine Or.inl ⟨start + 1, length, by simp only [search?, none, found, Option.map_some],
            describes, by rw [List.length_cons]; omega, fun earlier before => ?_⟩
          cases earlier with
          | zero => exact other
          | succ earlier => exact first earlier (Nat.lt_of_succ_lt_succ before)
        · refine Or.inr ⟨by simp only [search?, none, nothing, Option.map_none], fun start => ?_⟩
          cases start with
          | zero => exact other
          | succ start => exact never start

end TokenPattern

/-! ## The token -/

variable {candidates : List Candidate} {before token : List Char}

/-- A text ends with a token, and no longer ending of the text is one. -/
structure IsLongestToken (candidates : List Candidate) (before token : List Char) : Prop where
  ends : token <:+ before
  isToken : IsToken candidates token
  longest : ∀ suffix, suffix <:+ before → IsToken candidates suffix → suffix.length ≤ token.length

theorem IsToken.ne_nil (isToken : IsToken candidates token) : token ≠ [] := by
  rintro rfl
  exact isToken

/-- The token of a line is its longest ending that the candidates describe. -/
theorem token?_of_line (candidates : List Candidate) (oneLine : '\n' ∉ before) :
    (∃ token, token? candidates before = some token ∧ IsLongestToken candidates before token) ∨
      token? candidates before = none ∧
        ∀ suffix, suffix <:+ before → ¬IsToken candidates suffix := by
  rcases TokenPattern.ofCandidates_cases candidates with
    ⟨noPattern, noFirst⟩ | ⟨pattern, isPattern, first, continues⟩
  · refine Or.inr ⟨by simp only [token?, noPattern]; rfl, fun suffix _ isToken => ?_⟩
    cases suffix with
    | nil => exact isToken
    | cons character others =>
        have begins := isToken.1
        rw [noFirst] at begins
        simp [withWords] at begins
  · have describes (text : List Char) : pattern.Describes text ↔ IsToken candidates text := by
      cases text with
      | nil => exact Iff.rfl
      | cons character others =>
          simp only [TokenPattern.Describes, IsToken, first, continues]
    have suffixes (suffix : List Char) (ends : suffix <:+ before) :
        suffix = before.drop (before.length - suffix.length) := List.suffix_iff_eq_drop.mp ends
    rcases TokenPattern.search?_of_line pattern oneLine with
      ⟨start, length, found, isToken, whole, noneEarlier⟩ | ⟨nothing, never⟩
    · have isEnding : (before.drop start).take length = before.drop start :=
        List.take_of_length_le (by rw [List.length_drop]; omega)
      refine Or.inl ⟨before.drop start, ?_, List.drop_suffix _ _, (describes _).mp isToken, ?_⟩
      · simp only [token?, isPattern, found, isEnding, Option.bind_eq_bind, Option.bind_some]
        rfl
      · intro suffix ends isTokenToo
        by_contra longer
        rw [List.length_drop] at longer
        refine noneEarlier (before.length - suffix.length) ?_ ?_
        · have fits := ends.length_le
          omega
        · rw [← suffixes suffix ends]
          exact (describes suffix).mpr isTokenToo
    · refine Or.inr ⟨?_, fun suffix ends isToken => ?_⟩
      · simp only [token?, isPattern, nothing, Option.bind_eq_bind, Option.bind_some, Option.bind_none]
      · refine never (before.length - suffix.length) ?_
        rw [← suffixes suffix ends]
        exact (describes suffix).mpr isToken

theorem IsLongestToken.unique
    {other : List Char} (isLongest : IsLongestToken candidates before token)
    (isLongestToo : IsLongestToken candidates before other) : token = other := by
  have sameLength : token.length = other.length :=
    Nat.le_antisymm (isLongestToo.longest token isLongest.ends isLongest.isToken)
      (isLongest.longest other isLongestToo.ends isLongestToo.isToken)
  exact (List.suffix_of_suffix_length_le isLongest.ends isLongestToo.ends
    (Nat.le_of_eq sameLength)).eq_of_length sameLength

/-- Without characters that may follow the first one, a token is the last character of the text. -/
theorem IsLongestToken.eq_singleton
    (isLongest : IsLongestToken candidates before token) (noneFollow : laterCharacters candidates = ∅) :
    ∃ last, before.getLast? = some last ∧ token = [last] := by
  obtain ⟨first, others, rfl⟩ := List.exists_cons_of_ne_nil isLongest.isToken.ne_nil
  have nothing : others = [] := by
    refine List.eq_nil_iff_forall_not_mem.mpr fun character member => ?_
    have follows := isLongest.isToken.2 character member
    rw [noneFollow] at follows
    simp [withWords] at follows
  subst nothing
  obtain ⟨earlier, rfl⟩ := isLongest.ends
  exact ⟨first, List.getLast?_concat, rfl⟩

/-- Candidates are ranked for the longest ending of the line that they describe. If there is none, they
are given back as they are, for the cursor itself. -/
theorem rank_longestToken
    (candidates : List Candidate) (before : List Char) (cursor : Int) (oneLine : '\n' ∉ before) :
    ((∃ token, token? candidates before = some token) ↔
      ∃ suffix, suffix <:+ before ∧ IsToken candidates suffix) ∧
    (∀ token, token? candidates before = some token ↔ IsLongestToken candidates before token) ∧
    (∀ token, IsLongestToken candidates before token →
      (rank candidates before cursor).start = cursor - token.length ∧
        (laterCharacters candidates = ∅ → ∃ last, before.getLast? = some last ∧ token = [last])) ∧
    ((∀ suffix, suffix <:+ before → ¬IsToken candidates suffix) →
      rank candidates before cursor = { start := cursor, candidates }) := by
  rcases token?_of_line candidates oneLine with
    ⟨token, found, isLongest⟩ | ⟨nothing, never⟩
  · have only (other : List Char) : token? candidates before = some other ↔
        IsLongestToken candidates before other := by
      rw [found, Option.some_inj]
      constructor
      · rintro rfl
        exact isLongest
      · exact fun isLongestToo => isLongest.unique isLongestToo
    refine ⟨⟨fun _ => ⟨token, isLongest.ends, isLongest.isToken⟩, fun _ => ⟨token, found⟩⟩, only, ?_, ?_⟩
    · intro other isLongestToo
      obtain rfl := isLongest.unique isLongestToo
      exact ⟨by simp only [rank, found], isLongest.eq_singleton⟩
    · exact fun never => absurd isLongest.isToken (never token isLongest.ends)
  · refine ⟨⟨?_, ?_⟩, fun token => ⟨?_, ?_⟩, ?_, fun _ => by simp only [rank, nothing]⟩
    · rintro ⟨token, found⟩
      rw [nothing] at found
      cases found
    · rintro ⟨suffix, ends, isToken⟩
      exact absurd isToken (never suffix ends)
    · intro found
      rw [nothing] at found
      cases found
    · exact fun isLongest => absurd isLongest.isToken (never token isLongest.ends)
    · exact fun token isLongest => absurd isLongest.isToken (never token isLongest.ends)

/-- An arrow and a word: the token goes back to the hyphen, which stands in no candidate further back. -/
theorem rank_longestToken_mixedCandidates :
    let candidates : List Candidate :=
      [{ label := "arrow", insertText := "->" }, { label := "value", insertText := "value" }]
    '\n' ∉ "self->va".toList ∧
      IsLongestToken candidates "self->va".toList "->va".toList ∧
        (rank candidates "self->va".toList 10).start = 6 := by
  intro candidates
  have oneLine : '\n' ∉ "self->va".toList := by decide
  obtain ⟨-, isToken, starts, -⟩ := rank_longestToken candidates "self->va".toList 10 oneLine
  have found : token? candidates "self->va".toList = some "->va".toList := by decide +kernel
  have isLongest := (isToken "->va".toList).mp found
  exact ⟨oneLine, isLongest, (starts "->va".toList isLongest).1⟩

end LanguageClient.Completion
