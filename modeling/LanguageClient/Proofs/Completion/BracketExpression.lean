import LanguageClient.Proofs.Completion.Token

/-!
# Bracket expressions

The written form of a character class is read back by the rules of bracket expressions. In these a
backslash takes its special meaning from a character, a leading caret negates the class, a hyphen between
two characters forms a range and a closing bracket ends the class. A written class is read to its end,
uses nothing of this but the brackets, and admits the characters that it was made of, with all word
characters if one of them is such a character.
-/

namespace LanguageClient.Completion

open LanguageClient.Text

/-! ## Reading -/

/-- What stands for some characters in a bracket expression. -/
inductive ClassItem where
  /-- All word characters. -/
  | words
  | single (character : Char)
  | range (low high : Char)
  deriving DecidableEq, Repr

/-- Whether an item stands for a character. -/
def ClassItem.admits (character : Char) : ClassItem → Bool
  | .words => isWord character
  | .single only => character = only
  | .range low high => low ≤ character && character ≤ high

/-- A class of characters as a bracket expression tells it. -/
structure BracketExpression where
  negated : Bool
  items : List ClassItem
  deriving DecidableEq, Repr

/-- The characters that match a bracket expression. -/
def BracketExpression.characters (expression : BracketExpression) : Set Char :=
  {character | expression.items.any (·.admits character) ≠ expression.negated}

/-- Whether an expression could be written: it has an item, and its ranges are in order. -/
structure BracketExpression.WellFormed (expression : BracketExpression) : Prop where
  inhabited : expression.items ≠ []
  ordered : ∀ low high, .range low high ∈ expression.items → low ≤ high

section Reading

/- The meaning of the letters and digits that have a backslash, apart from `w`. Some of them stand for
further classes, control characters or codes; no written class depends on it. -/
variable (meaning : Char → Option ClassItem)

/-- What a character stands for behind a backslash. -/
def escaped? (character : Char) : Option ClassItem :=
  if character = 'w' then some .words
  else if character.isAlphanum then meaning character
  else some (.single character)

/-- Reads a character, or a backslash with the character that it belongs to. -/
def readUnit? : List Char → Option (ClassItem × List Char)
  | [] => none
  | ['\\'] => none
  | '\\' :: character :: rest => (escaped? meaning character).map fun item => (item, rest)
  | character :: rest => some (.single character, rest)

/-- The range between two characters, if they are in order. -/
def rangeOf? : ClassItem → ClassItem → Option ClassItem
  | .single low, .single high => if low ≤ high then some (.range low high) else none
  | _, _ => none

/-- Reads a character or a range. A hyphen before the closing bracket stands for itself. -/
def readItem? (text : List Char) : Option (ClassItem × List Char) :=
  (readUnit? meaning text).bind fun (low, rest) =>
    match rest with
    | '-' :: following =>
      if following.head? = some ']' then some (low, rest)
      else (readUnit? meaning following).bind fun (high, rest) =>
        (rangeOf? low high).map fun item => (item, rest)
    | _ => some (low, rest)

theorem length_of_readUnit? {text rest : List Char} {item : ClassItem}
    (read : readUnit? meaning text = some (item, rest)) : rest.length < text.length := by
  revert read
  fun_cases readUnit? with
  | case1 | case2 => exact nofun
  | case3 character following =>
      intro read
      obtain ⟨_, _, same⟩ := Option.map_eq_some_iff.mp read
      cases same
      simp only [List.length_cons]
      omega
  | case4 =>
      intro read
      cases read
      exact Nat.lt_succ_self _

theorem length_of_readItem? {text rest : List Char} {item : ClassItem}
    (read : readItem? meaning text = some (item, rest)) : rest.length < text.length := by
  obtain ⟨⟨low, behind⟩, isLow, read⟩ := Option.bind_eq_some_iff.mp read
  have shorter := length_of_readUnit? meaning isLow
  dsimp only at read
  split at read
  · rename_i following
    split at read
    · cases read
      exact shorter
    · obtain ⟨⟨high, last⟩, isHigh, read⟩ := Option.bind_eq_some_iff.mp read
      obtain ⟨_, _, same⟩ := Option.map_eq_some_iff.mp read
      cases same
      have shorterStill := length_of_readUnit? meaning isHigh
      simp only [List.length_cons] at shorter
      exact Nat.lt_trans shorterStill (by omega)
  · cases read
    exact shorter

/-- Reads items up to the closing bracket. A bracket in the first place stands for itself. -/
def readItems? (text : List Char) : Option (List ClassItem × List Char) :=
  match _read : readItem? meaning text with
  | none => none
  | some (item, rest) =>
    if rest.head? = some ']' then some ([item], rest.tail)
    else (readItems? rest).map fun (items, following) => (item :: items, following)
termination_by text.length
decreasing_by exact length_of_readItem? meaning _read

/-- Reads a bracket expression; what follows it is left. -/
def readBracket? : List Char → Option (BracketExpression × List Char)
  | '[' :: '^' :: text =>
    (readItems? meaning text).map fun (items, rest) => ({ negated := true, items }, rest)
  | '[' :: text =>
    (readItems? meaning text).map fun (items, rest) => ({ negated := false, items }, rest)
  | _ => none

end Reading

/-! ## Writing -/

/-- The written form of an item. -/
def ClassItem.written : ClassItem → List Char
  | .words => ['\\', 'w']
  | .single character => CharacterClass.writtenCharacter character
  | .range low high =>
    CharacterClass.writtenCharacter low ++ '-' :: CharacterClass.writtenCharacter high

/-- The written form of an expression. -/
def BracketExpression.written (expression : BracketExpression) : List Char :=
  '[' :: (if expression.negated then ['^'] else []) ++
    expression.items.flatMap ClassItem.written ++ [']']

section Written

variable {meaning : Char → Option ClassItem} {character : Char} {text rest : List Char}
  {item : ClassItem}

/-- A character that is written with a backslash stands for itself. -/
theorem escaped?_of_escaped (isEscaped : character ∈ CharacterClass.escapedCharacters) :
    escaped? meaning character = some (.single character) := by
  have plain : (CharacterClass.escapedCharacters.all fun other =>
      other ≠ 'w' && !other.isAlphanum) = true := by decide
  obtain ⟨notWords, notAlphanumeric⟩ : character ≠ 'w' ∧ character.isAlphanum = false := by
    simpa using List.all_eq_true.mp plain character isEscaped
  simp [escaped?, notWords, notAlphanumeric]

theorem readUnit?_of_plain (plain : character ≠ '\\') (rest : List Char) :
    readUnit? meaning (character :: rest) = some (.single character, rest) := by
  rw [readUnit?.eq_4 _ _ _ (fun same _ => plain same) (fun _ _ same _ => plain same)]

theorem readUnit?_writtenCharacter (character : Char) (rest : List Char) :
    readUnit? meaning (CharacterClass.writtenCharacter character ++ rest) =
      some (.single character, rest) := by
  unfold CharacterClass.writtenCharacter
  split
  · rename_i isEscaped
    have inList := List.contains_iff_mem.mp isEscaped
    simp [readUnit?, escaped?_of_escaped inList]
  · rename_i isPlain
    refine readUnit?_of_plain ?_ rest
    rintro rfl
    exact isPlain (by decide)

/-- Whatever is written for a character, its first sign is none that means something in this place. -/
theorem head?_writtenCharacter (character : Char) (rest : List Char) :
    ∃ first, (CharacterClass.writtenCharacter character ++ rest).head? = some first ∧
      first ≠ '-' ∧ first ≠ ']' ∧ first ≠ '^' := by
  unfold CharacterClass.writtenCharacter
  split
  · exact ⟨'\\', rfl, by decide⟩
  · rename_i isPlain
    refine ⟨character, rfl, ?_, ?_, ?_⟩
    all_goals
      rintro rfl
      exact isPlain (by decide)

theorem ClassItem.head?_written (item : ClassItem) (rest : List Char) :
    ∃ first, (item.written ++ rest).head? = some first ∧
      first ≠ '-' ∧ first ≠ ']' ∧ first ≠ '^' := by
  cases item with
  | words => exact ⟨'\\', rfl, by decide⟩
  | single character => exact head?_writtenCharacter character rest
  | range low high =>
      simpa [ClassItem.written] using
        head?_writtenCharacter low ('-' :: (CharacterClass.writtenCharacter high ++ rest))

theorem readItem?_of_unit (isUnit : readUnit? meaning text = some (item, rest))
    (noRange : rest.head? ≠ some '-') : readItem? meaning text = some (item, rest) := by
  rw [readItem?, isUnit, Option.bind_some]
  dsimp only
  split
  · exact absurd rfl noRange
  · rfl

/-- A written item is read back, unless a hyphen behind it makes it the beginning of a range. -/
theorem readItem?_written (item : ClassItem)
    (ordered : ∀ low high, item = .range low high → low ≤ high) (noRange : rest.head? ≠ some '-') :
    readItem? meaning (item.written ++ rest) = some (item, rest) := by
  cases item with
  | words => exact readItem?_of_unit rfl noRange
  | single character => exact readItem?_of_unit (readUnit?_writtenCharacter character rest) noRange
  | range low high =>
      obtain ⟨first, isHead, -, notBracket, -⟩ := head?_writtenCharacter high rest
      have goesOn :
          (CharacterClass.writtenCharacter high ++ rest).head? ≠ some ']' := by
        simpa [isHead] using notBracket
      have isLow (behind : List Char) :
          readUnit? meaning (CharacterClass.writtenCharacter low ++ behind) =
            some (.single low, behind) :=
        readUnit?_writtenCharacter low behind
      rw [ClassItem.written, List.append_assoc, List.cons_append, readItem?, isLow,
        Option.bind_some]
      change (if (CharacterClass.writtenCharacter high ++ rest).head? = some ']' then _ else _) = _
      rw [if_neg goesOn, readUnit?_writtenCharacter, Option.bind_some]
      simp [rangeOf?, ordered low high rfl]

theorem readItems?_of_last (isItem : readItem? meaning text = some (item, ']' :: rest)) :
    readItems? meaning text = some ([item], rest) := by
  rw [readItems?]
  split
  · simp_all
  · rename_i read
    rw [isItem] at read
    cases read
    rfl

theorem readItems?_of_next {items : List ClassItem} {following : List Char}
    (isItem : readItem? meaning text = some (item, rest)) (goesOn : rest.head? ≠ some ']')
    (areItems : readItems? meaning rest = some (items, following)) :
    readItems? meaning text = some (item :: items, following) := by
  rw [readItems?]
  split
  · simp_all
  · rename_i read
    rw [isItem] at read
    cases read
    rw [if_neg goesOn, areItems, Option.map_some]

/-- Written items are read up to the closing bracket, one by one: none of them begins with a hyphen
or a bracket. -/
theorem readItems?_written (item : ClassItem) (items : List ClassItem) (rest : List Char)
    (ordered : ∀ low high, .range low high ∈ item :: items → low ≤ high) :
    readItems? meaning ((item :: items).flatMap ClassItem.written ++ ']' :: rest) =
      some (item :: items, rest) := by
  induction items generalizing item with
  | nil =>
      have isItem : readItem? meaning (item.written ++ ']' :: rest) = some (item, ']' :: rest) :=
        readItem?_written item
          (fun low high same => ordered low high (by rw [same]; exact List.mem_cons_self)) (by simp)
      simpa using readItems?_of_last isItem
  | cons next items inductionHypothesis =>
      obtain ⟨first, isHead, notHyphen, notBracket, -⟩ :=
        next.head?_written (items.flatMap ClassItem.written ++ ']' :: rest)
      have areItems := inductionHypothesis next
        fun low high member => ordered low high (List.mem_cons_of_mem item member)
      have behind : (next :: items).flatMap ClassItem.written ++ ']' :: rest =
          next.written ++ (items.flatMap ClassItem.written ++ ']' :: rest) := by
        rw [List.flatMap_cons, List.append_assoc]
      rw [List.flatMap_cons, List.append_assoc]
      refine readItems?_of_next (readItem?_written item ?_ ?_) ?_ areItems
      · intro low high same
        exact ordered low high (by rw [same]; exact List.mem_cons_self)
      · rw [behind, isHead]
        simpa using notHyphen
      · rw [behind, isHead]
        simpa using notBracket

/-- An expression is read back from its written form, whatever follows. -/
theorem readBracket?_written {expression : BracketExpression} (wellFormed : expression.WellFormed)
    (rest : List Char) :
    readBracket? meaning (expression.written ++ rest) = some (expression, rest) := by
  obtain ⟨negated, items⟩ := expression
  obtain ⟨inhabited, ordered⟩ := wellFormed
  cases items with
  | nil => exact absurd rfl inhabited
  | cons item items =>
      have areItems : readItems? meaning ((item :: items).flatMap ClassItem.written ++ ']' :: rest) =
          some (item :: items, rest) :=
        readItems?_written item items rest ordered
      cases negated with
      | true =>
          simp only [BracketExpression.written, ↓reduceIte, List.cons_append, List.nil_append,
            List.append_assoc, readBracket?, areItems, Option.map_some]
      | false =>
          -- The text of the first item does not begin with a caret.
          obtain ⟨first, isHead, -, -, notCaret⟩ :=
            item.head?_written (items.flatMap ClassItem.written ++ ']' :: rest)
          have noCaret : ∀ text,
              (item :: items).flatMap ClassItem.written ++ ']' :: rest ≠ '^' :: text := by
            intro text same
            rw [List.flatMap_cons, List.append_assoc] at same
            rw [same] at isHead
            exact notCaret (Option.some.inj isHead).symm
          simp only [BracketExpression.written, Bool.false_eq_true, ↓reduceIte, List.cons_append,
            List.nil_append, List.append_assoc]
          rw [readBracket?.eq_2 _ _ noCaret, areItems, Option.map_some]

end Written

/-! ## Classes -/

namespace CharacterClass

/-- The expression that a class is written as. -/
def expression (set : CharacterClass) : BracketExpression where
  negated := false
  items := (if set.includesWords then [.words] else []) ++ set.others.map .single

theorem written_eq (set : CharacterClass) : set.written = set.expression.written := by
  obtain ⟨words, others⟩ := set
  have singles : (others.map ClassItem.single).flatMap ClassItem.written =
      others.flatMap writtenCharacter := by
    rw [List.flatMap_map]
    rfl
  cases words with
  | true => simp [written, expression, BracketExpression.written, singles, ClassItem.written]
  | false => simp [written, expression, BracketExpression.written, singles]

theorem range_not_mem_expression (set : CharacterClass) (low high : Char) :
    .range low high ∉ set.expression.items := by
  cases words : set.includesWords with
  | true => simp [expression, words]
  | false => simp [expression, words]

theorem characters_expression (set : CharacterClass) :
    set.expression.characters = {character | set.contains character = true} := by
  ext character
  cases words : set.includesWords with
  | true =>
      cases word : isWord character with
      | true =>
          simp [BracketExpression.characters, expression, contains, words, ClassItem.admits, word]
      | false =>
          simp [BracketExpression.characters, expression, contains, words, ClassItem.admits, word]
  | false => simp [BracketExpression.characters, expression, contains, words, ClassItem.admits]

/-- The class of some characters has an item for each of them. -/
theorem wellFormed_expression {characters : List Char} (given : characters ≠ []) :
    (ofCharacters characters).expression.WellFormed where
  inhabited := by
    obtain ⟨character, member⟩ := List.exists_mem_of_ne_nil _ given
    have admitted : character ∈ (ofCharacters characters).expression.characters := by
      rw [characters_expression]
      exact contains_ofCharacters.mpr (Or.inl member)
    intro noItem
    rw [BracketExpression.characters, noItem] at admitted
    exact admitted rfl
  ordered := fun low high member => absurd member (range_not_mem_expression _ low high)

/-- The written class of some characters is one complete bracket expression, whatever follows it. It is
not negated and has no ranges, and the characters that match it are the given ones, with all word
characters if one of these is a word character. -/
theorem written_denotes (characters : List Char) (given : characters ≠ [])
    (meaning : Char → Option ClassItem) (rest : List Char) :
    ∃ expression,
      readBracket? meaning ((ofCharacters characters).written ++ rest) = some (expression, rest) ∧
        expression.negated = false ∧ (∀ low high, .range low high ∉ expression.items) ∧
        expression.characters = withWords {character | character ∈ characters} := by
  refine ⟨(ofCharacters characters).expression, ?_, rfl, range_not_mem_expression _, ?_⟩
  · rw [written_eq, readBracket?_written (wellFormed_expression given)]
  · rw [characters_expression]
    ext character
    exact contains_ofCharacters

/-- Signs that mean something in a bracket expression, and a letter. -/
def signsAndLetter : List Char := ['^', '-', ']', '\\', 'é']

theorem written_denotes_signsAndLetter :
    signsAndLetter ≠ [] ∧
      ∃ expression,
        readBracket? (fun _ => none) ((ofCharacters signsAndLetter).written ++ ['*', '$']) =
            some (expression, ['*', '$']) ∧
          expression.negated = false ∧ ']' ∈ expression.characters ∧ '0' ∈ expression.characters ∧
          '[' ∉ expression.characters := by
  have given : signsAndLetter ≠ [] := by decide
  have letter : isWord 'é' = true := by decide
  have digit : isWord '0' = true := by decide
  have sign : isWord '[' = false := by decide
  obtain ⟨expression, isRead, notNegated, -, members⟩ :=
    written_denotes signsAndLetter given (fun _ => none) ['*', '$']
  refine ⟨given, expression, isRead, notNegated, ?_⟩
  rw [members]
  refine ⟨Or.inl (by decide), Or.inr ⟨digit, 'é', by decide, letter⟩, ?_⟩
  rintro (isGiven | ⟨word, -⟩)
  · exact absurd isGiven (by decide)
  · exact Bool.false_ne_true (sign.symm.trans word)

end CharacterClass

end LanguageClient.Completion
