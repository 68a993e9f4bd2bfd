import LanguageClient.Document.Snapshot
import Mathlib.Data.List.Flatten
import Mathlib.Data.List.Range
import Mathlib.Data.List.Sort
import Mathlib.Data.List.TakeWhile

/-!
# The lines of a text

The index of a text holds the offsets at which its lines start: the beginning, and every offset at which
a line break ends. A carriage return that a line feed follows does not end a break by itself. Between
two neighbouring starts stands the text of a line, and after it nothing but the break that ends it.
-/

namespace LanguageClient.Document

/-! ## Where breaks end -/

/-- Whether a line break ends at an offset: after a line feed, or after a carriage return that no line
feed follows. -/
def endsBreak (characters : List Char) : Nat → Bool
  | 0 => false
  | before + 1 =>
    characters[before]? = some '\n' ||
      characters[before]? = some '\r' && characters[before + 1]? ≠ some '\n'

/-- The texts of the line breaks. -/
def lineBreaks : List (List Char) := [['\r', '\n'], ['\r'], ['\n']]

variable {characters : List Char} {offset : Nat}

@[simp]
theorem endsBreak_cons_succ (character : Char) (characters : List Char) (before : Nat) :
    endsBreak (character :: characters) (before + 2) = endsBreak characters (before + 1) := rfl

theorem endsBreak_cons_one (character : Char) (characters : List Char) :
    endsBreak (character :: characters) 1 =
      (character = '\n' || character = '\r' && characters[0]? ≠ some '\n') := by
  simp [endsBreak]

theorem le_length_of_endsBreak (ends : endsBreak characters offset = true) :
    offset ≤ characters.length := by
  cases offset with
  | zero => exact Nat.zero_le _
  | succ before =>
      have inside : characters[before]? ≠ none := by
        intro outside
        simp [endsBreak, outside] at ends
      exact Nat.lt_of_not_le fun beyond => inside (List.getElem?_eq_none beyond)

/-- A break that ends in a text ends after its first character, or in what follows. -/
theorem exists_endsBreak_cons {character : Char} {rest : List Char} {start found : Nat} :
    (∃ place, endsBreak (character :: rest) place = true ∧ found = start + place) ↔
      endsBreak (character :: rest) 1 = true ∧ found = start + 1 ∨
        ∃ place, endsBreak rest place = true ∧ found = start + 1 + place := by
  constructor
  · rintro ⟨place, ends, rfl⟩
    match place, ends with
    | 1, ends => exact Or.inl ⟨ends, rfl⟩
    | before + 2, ends => exact Or.inr ⟨before + 1, ends, by omega⟩
  · rintro (⟨ends, rfl⟩ | ⟨place, ends, rfl⟩)
    · exact ⟨1, ends, rfl⟩
    · cases place with
      | zero => cases ends
      | succ before => exact ⟨before + 2, ends, by omega⟩

/-- The scan finds exactly the offsets at which a break ends. -/
theorem mem_breakEnds {start found : Nat} :
    found ∈ breakEnds start characters ↔
      ∃ place, endsBreak characters place = true ∧ found = start + place := by
  fun_induction breakEnds start characters with
  | case1 start =>
      constructor
      · intro member
        cases member
      · rintro ⟨place, ends, -⟩
        cases Nat.le_zero.mp (le_length_of_endsBreak ends)
        cases ends
  | case2 start rest inductionHypothesis =>
      have notBetween : endsBreak ('\r' :: '\n' :: rest) 1 = false := rfl
      have afterBoth : endsBreak ('\n' :: rest) 1 = true := rfl
      rw [List.mem_cons, inductionHypothesis, exists_endsBreak_cons, exists_endsBreak_cons, notBetween,
        afterBoth]
      simp
  | case3 start character rest notPair isBreakHere inductionHypothesis =>
      have here : endsBreak (character :: rest) 1 = true := by
        rw [endsBreak_cons_one]
        simp only [isBreak, Bool.or_eq_true, decide_eq_true_eq] at isBreakHere
        rcases isBreakHere with rfl | rfl
        · cases rest with
          | nil => rfl
          | cons next others =>
              have notFeed : next ≠ '\n' := fun same => notPair others rfl (by rw [same])
              simp [notFeed]
        · rfl
      rw [List.mem_cons, inductionHypothesis, exists_endsBreak_cons, here]
      simp
  | case4 start character rest notPair noBreakHere inductionHypothesis =>
      have here : endsBreak (character :: rest) 1 = false := by
        rw [endsBreak_cons_one]
        simp only [isBreak, Bool.or_eq_true, decide_eq_true_eq, not_or] at noBreakHere
        simp [noBreakHere]
      rw [inductionHypothesis, exists_endsBreak_cons, here]
      simp

theorem lt_of_mem_breakEnds {start found : Nat} (member : found ∈ breakEnds start characters) :
    start < found := by
  obtain ⟨place, ends, rfl⟩ := mem_breakEnds.mp member
  cases place with
  | zero => cases ends
  | succ before => omega

theorem breakEnds_pairwise (start : Nat) (characters : List Char) :
    (breakEnds start characters).Pairwise (· < ·) := by
  fun_induction breakEnds start characters with
  | case1 start => exact .nil
  | case2 start rest inductionHypothesis =>
      exact .cons (fun found member => lt_of_mem_breakEnds member) inductionHypothesis
  | case3 start character rest notPair isBreakHere inductionHypothesis =>
      exact .cons (fun found member => lt_of_mem_breakEnds member) inductionHypothesis
  | case4 start character rest notPair noBreakHere inductionHypothesis => exact inductionHypothesis

/-! ## The search -/

section Search

variable {entries : Array Nat} {bound low high : Nat}

theorem getElem_le_of_increasing
    (increasing : entries.toList.Pairwise (· < ·)) {first second : Nat} (order : first ≤ second)
    (inside : second < entries.size) :
    entries[first] ≤ entries[second] := by
  rcases Nat.eq_or_lt_of_le order with rfl | less
  · exact Nat.le_refl _
  · exact Nat.le_of_lt (List.pairwise_iff_getElem.mp increasing first second _ inside less)

/-- What a search knows: up to `low` no entry is beyond the bound, and from `high` on every entry is. -/
structure Narrows (entries : Array Nat) (bound low high : Nat) : Prop where
  order : low ≤ high
  size : high ≤ entries.size
  below : ∀ index (inside : index < entries.size), index < low → entries[index] ≤ bound
  beyond : ∀ index (inside : index < entries.size), high ≤ index → bound < entries[index]

/-- The search ends between the last entry up to the bound and the first one beyond it. -/
theorem Narrows.search
    (narrows : Narrows entries bound low high) (increasing : entries.toList.Pairwise (· < ·))
    (fuel : Nat) (enough : high - low ≤ fuel) :
    Narrows entries bound (searchGreater entries bound fuel low high)
      (searchGreater entries bound fuel low high) := by
  fun_induction searchGreater entries bound fuel low high with
  | case1 low high =>
      obtain rfl : high = low := Nat.le_antisymm (by omega) narrows.order
      exact narrows
  | case2 fuel low high active middle isBeyond inductionHypothesis =>
      have within := narrows.size
      have inside : middle < entries.size := by omega
      rw [Array.getD_eq_getD_getElem?, Array.getElem?_eq_getElem inside] at isBeyond
      refine inductionHypothesis ⟨by omega, by omega, narrows.below, fun index known after => ?_⟩
        (by omega)
      exact Nat.lt_of_lt_of_le isBeyond (getElem_le_of_increasing increasing after known)
  | case3 fuel low high active middle notBeyond inductionHypothesis =>
      have within := narrows.size
      have inside : middle < entries.size := by omega
      rw [Array.getD_eq_getD_getElem?, Array.getElem?_eq_getElem inside] at notBeyond
      refine inductionHypothesis ⟨by omega, within, fun index known before => ?_, narrows.beyond⟩
        (by omega)
      exact Nat.le_trans (getElem_le_of_increasing increasing (by omega) inside)
        (Nat.le_of_not_lt notBeyond)
  | case4 fuel low high idle =>
      obtain rfl : high = low := Nat.le_antisymm (Nat.le_of_not_lt idle) narrows.order
      exact narrows

end Search

namespace Snapshot

/-! ## The starts of lines -/

theorem lineStart_eq_ok_iff {snapshot : Snapshot} {line start : Nat} :
    snapshot.lineStart line = .ok start ↔ snapshot.lineStarts[line]? = some start := by
  by_cases inside : line < snapshot.lineStarts.size
  · simp [lineStart, lineCount, inside]
  · simp [lineStart, lineCount, inside]

variable {text : String} {line start : Nat}

theorem characters_ofText (text : String) : (ofText text).characters = text.toList := rfl

theorem length_ofText (text : String) : (ofText text).length = text.toList.length := rfl

theorem mem_lineStarts :
    start ∈ (ofText text).lineStarts ↔ start = 0 ∨ endsBreak text.toList start = true := by
  simp [ofText, mem_breakEnds]

theorem lineStarts_pairwise (text : String) : (ofText text).lineStarts.toList.Pairwise (· < ·) :=
  .cons (fun _ member => lt_of_mem_breakEnds member) (breakEnds_pairwise 0 text.toList)

theorem lineStart_zero (text : String) : (ofText text).lineStarts[0]? = some 0 := rfl

theorem lt_of_lineStarts
    {first second firstStart secondStart : Nat}
    (isFirst : (ofText text).lineStarts[first]? = some firstStart)
    (isSecond : (ofText text).lineStarts[second]? = some secondStart) (order : first < second) :
    firstStart < secondStart := by
  obtain ⟨inside, rfl⟩ := Array.getElem?_eq_some_iff.mp isFirst
  obtain ⟨insideToo, rfl⟩ := Array.getElem?_eq_some_iff.mp isSecond
  exact List.pairwise_iff_getElem.mp (lineStarts_pairwise text) first second inside insideToo order

theorem start_le_length (isStart : start ∈ (ofText text).lineStarts) :
    start ≤ text.toList.length := by
  rcases mem_lineStarts.mp isStart with rfl | ends
  · exact Nat.zero_le _
  · exact le_length_of_endsBreak ends

/-- An offset lies in a line: between its start and the start of the next one. -/
structure LiesIn (text : String) (offset line start : Nat) : Prop where
  isStart : (ofText text).lineStarts[line]? = some start
  notBefore : start ≤ offset
  notAfter : offset ≤ text.toList.length
  beforeNext : ∀ next, (ofText text).lineStarts[line + 1]? = some next → offset < next

theorem lineAt_ofText {offset : Nat} (inside : offset ≤ text.toList.length) :
    ∃ line start, (ofText text).lineAt offset = .ok line ∧ LiesIn text offset line start := by
  have known : (ofText text).lineAt offset = .ok
      (searchGreater (ofText text).lineStarts offset (ofText text).lineCount 0
        (ofText text).lineCount - 1) := by
    simp [lineAt, length_ofText, inside]
  have all : Narrows (ofText text).lineStarts offset 0 (ofText text).lineCount := by
    refine ⟨Nat.zero_le _, Nat.le_refl _, fun _ _ before => absurd before (Nat.not_lt_zero _), ?_⟩
    exact fun _ known after => absurd known (Nat.not_lt.mpr after)
  have found := all.search (lineStarts_pairwise text) (ofText text).lineCount (Nat.sub_le _ _)
  rw [known]
  generalize searchGreater (ofText text).lineStarts offset (ofText text).lineCount 0
    (ofText text).lineCount = place at found
  obtain ⟨-, size, below, beyond⟩ := found
  cases place with
  | zero =>
      -- The first line starts at the beginning, so no search ends before it.
      have first := beyond 0 (Nat.succ_pos _) (Nat.le_refl _)
      exact absurd first (Nat.not_lt_zero offset)
  | succ line =>
      refine ⟨line, (ofText text).lineStarts[line], rfl, Array.getElem?_eq_getElem size,
        below line size (Nat.lt_succ_self line), inside, fun next isNext => ?_⟩
      obtain ⟨known, rfl⟩ := Array.getElem?_eq_some_iff.mp isNext
      exact beyond (line + 1) known (Nat.le_refl _)

/-- A line that starts no later than an offset comes no later than the line of the offset. -/
theorem LiesIn.line_le
    {offset other otherStart : Nat} (lies : LiesIn text offset line start)
    (isOther : (ofText text).lineStarts[other]? = some otherStart) (notAfter : otherStart ≤ offset) :
    other ≤ line := by
  by_contra later
  obtain ⟨inside, rfl⟩ := Array.getElem?_eq_some_iff.mp isOther
  have next := lies.beforeNext _ (Array.getElem?_eq_getElem (by omega))
  have monotone := getElem_le_of_increasing (lineStarts_pairwise text) (Nat.lt_of_not_le later) inside
  exact absurd (Nat.le_trans monotone notAfter) (Nat.not_le.mpr next)

theorem LiesIn.unique
    {offset other otherStart : Nat} (lies : LiesIn text offset line start)
    (liesToo : LiesIn text offset other otherStart) : line = other ∧ start = otherStart := by
  obtain rfl : line = other := Nat.le_antisymm (liesToo.line_le lies.isStart lies.notBefore)
    (lies.line_le liesToo.isStart liesToo.notBefore)
  exact ⟨rfl, Option.some.inj (lies.isStart.symm.trans liesToo.isStart)⟩

/-- The lines up to the one of an offset are those that start no later. -/
theorem LiesIn.mem_take_iff
    {offset : Nat} (lies : LiesIn text offset line start) {first : Nat} :
    first ∈ (ofText text).lineStarts.toList.take (line + 1) ↔
      first ∈ (ofText text).lineStarts ∧ first ≤ offset := by
  have increasing := lineStarts_pairwise text
  obtain ⟨known, isStart⟩ := Array.getElem?_eq_some_iff.mp lies.isStart
  rw [List.mem_take_iff_getElem]
  constructor
  · rintro ⟨index, before, rfl⟩
    have monotone := getElem_le_of_increasing increasing (by omega : index ≤ line) known
    rw [isStart] at monotone
    exact ⟨Array.getElem_mem _, Nat.le_trans monotone lies.notBefore⟩
  · rintro ⟨member, notAfter⟩
    obtain ⟨index, inside, rfl⟩ := Array.mem_iff_getElem.mp member
    refine ⟨index, ?_, rfl⟩
    by_contra later
    have isLater : line + 1 ≤ index := by
      simp only [Array.length_toList] at later
      omega
    have next := lies.beforeNext _ (Array.getElem?_eq_getElem (by omega))
    exact absurd (Nat.le_trans (getElem_le_of_increasing increasing isLater inside) notAfter)
      (Nat.not_le.mpr next)

/-- The number of a line is the number of the breaks before it. -/
theorem LiesIn.countP
    {offset : Nat} (lies : LiesIn text offset line start) :
    (List.range (offset + 1)).countP (endsBreak text.toList) = line := by
  have inside := (Array.getElem?_eq_some_iff.mp lies.isStart).1
  have sameStarts : (ofText text).lineStarts.toList.take (line + 1) =
      0 :: (List.range (offset + 1)).filter (endsBreak text.toList) := by
    refine List.Pairwise.eq_of_mem_iff
      ((lineStarts_pairwise text).sublist (List.take_sublist _ _)) (.cons ?_ ?_) fun first => ?_
    · intro place member
      cases place with
      | zero => cases (List.mem_filter.mp member).2
      | succ before => exact Nat.succ_pos before
    · exact List.pairwise_lt_range.filter _
    · rw [lies.mem_take_iff, mem_lineStarts, List.mem_cons, List.mem_filter, List.mem_range]
      constructor
      · rintro ⟨rfl | ends, notAfter⟩
        · exact Or.inl rfl
        · exact Or.inr ⟨Nat.lt_succ_of_le notAfter, ends⟩
      · rintro (rfl | ⟨notAfter, ends⟩)
        · exact ⟨Or.inl rfl, Nat.zero_le _⟩
        · exact ⟨Or.inr ends, Nat.le_of_lt_succ notAfter⟩
  have sameLength := congrArg List.length sameStarts
  rw [List.length_take_of_le (Nat.succ_le_of_lt inside), List.length_cons,
    ← List.countP_eq_length_filter] at sameLength
  exact (Nat.succ.inj sameLength).symm

/-! ## The text of lines -/

/-- The characters from the start of a line to the start of the next one, or to the end. -/
def stretch (snapshot : Snapshot) (line : Nat) : List Char :=
  let start := snapshot.lineStarts.getD line 0
  (snapshot.characters.drop start).take (snapshot.lineEnd line - start)

/-- What stands in a line before its break. -/
def content (snapshot : Snapshot) (line : Nat) : List Char :=
  (snapshot.stretch line).takeWhile fun character => !isBreak character

/-- What stands in a line from its break on. -/
def ending (snapshot : Snapshot) (line : Nat) : List Char :=
  (snapshot.stretch line).dropWhile fun character => !isBreak character

theorem content_append_ending (snapshot : Snapshot) (line : Nat) :
    snapshot.content line ++ snapshot.ending line = snapshot.stretch line :=
  List.takeWhile_append_dropWhile

theorem not_isBreak_of_mem_content
    {snapshot : Snapshot} {character : Char} (member : character ∈ snapshot.content line) :
    isBreak character = false := by
  simpa using List.all_eq_true.mp List.all_takeWhile character member

theorem isBreak_of_ending
    {snapshot : Snapshot} {first : Char} {others : List Char}
    (starts : snapshot.ending line = first :: others) : isBreak first = true := by
  have inside : 0 < (snapshot.ending line).length := by
    rw [starts]
    exact Nat.succ_pos _
  have isFirst := List.dropWhile_get_zero_not _ (snapshot.stretch line) inside
  change ¬(!isBreak (snapshot.ending line)[0]) = true at isFirst
  simpa [starts] using isFirst

/-- A break that ends behind the start of a line ends no earlier than the line. -/
theorem next_of_endsBreak
    (isStart : (ofText text).lineStarts[line]? = some start) {place : Nat}
    (ends : endsBreak text.toList place = true) (behind : start < place) :
    ∃ next, (ofText text).lineStarts[line + 1]? = some next ∧ next ≤ place := by
  obtain ⟨index, inside, rfl⟩ := Array.mem_iff_getElem.mp (mem_lineStarts.mpr (Or.inr ends))
  obtain ⟨known, rfl⟩ := Array.getElem?_eq_some_iff.mp isStart
  have later : line < index := by
    by_contra notLater
    exact absurd behind (Nat.not_lt.mpr
      (getElem_le_of_increasing (lineStarts_pairwise text) (Nat.le_of_not_lt notLater) known))
  exact ⟨_, Array.getElem?_eq_getElem (Nat.lt_of_le_of_lt later inside),
    getElem_le_of_increasing (lineStarts_pairwise text) later inside⟩

theorem lineEnd_of_next
    {next : Nat} (isNext : (ofText text).lineStarts[line + 1]? = some next) :
    (ofText text).lineEnd line = next := by
  simp [lineEnd, Array.getD_eq_getD_getElem?, isNext]

theorem lineEnd_of_last (isLast : (ofText text).lineStarts[line + 1]? = none) :
    (ofText text).lineEnd line = text.toList.length := by
  simp [lineEnd, Array.getD_eq_getD_getElem?, isLast, length_ofText]

theorem lineEnd_le_length (text : String) (line : Nat) :
    (ofText text).lineEnd line ≤ text.toList.length := by
  cases isNext : (ofText text).lineStarts[line + 1]? with
  | none => exact Nat.le_of_eq (lineEnd_of_last isNext)
  | some next =>
      rw [lineEnd_of_next isNext]
      exact start_le_length (Array.mem_of_getElem? isNext)

theorem start_le_lineEnd (isStart : (ofText text).lineStarts[line]? = some start) :
    start ≤ (ofText text).lineEnd line := by
  cases isNext : (ofText text).lineStarts[line + 1]? with
  | none =>
      rw [lineEnd_of_last isNext]
      exact start_le_length (Array.mem_of_getElem? isStart)
  | some next =>
      rw [lineEnd_of_next isNext]
      exact Nat.le_of_lt (lt_of_lineStarts isStart isNext (Nat.lt_succ_self line))

section Stretch

variable (isStart : (ofText text).lineStarts[line]? = some start)

include isStart

theorem stretch_eq :
    (ofText text).stretch line =
      (text.toList.drop start).take ((ofText text).lineEnd line - start) := by
  simp [stretch, Array.getD_eq_getD_getElem?, isStart, characters_ofText]

theorem length_stretch :
    ((ofText text).stretch line).length = (ofText text).lineEnd line - start := by
  have within := lineEnd_le_length text line
  rw [stretch_eq isStart, List.length_take, List.length_drop]
  omega

theorem getElem?_stretch (index : Nat) (inside : start + index < (ofText text).lineEnd line) :
    ((ofText text).stretch line)[index]? = text.toList[start + index]? := by
  rw [stretch_eq isStart, List.getElem?_take_of_lt (by omega), List.getElem?_drop]

theorem length_ending :
    ((ofText text).content line).length + ((ofText text).ending line).length =
      (ofText text).lineEnd line - start := by
  rw [← length_stretch isStart, ← content_append_ending, List.length_append]

theorem getElem?_ending (index : Nat) (inside : index < ((ofText text).ending line).length) :
    ((ofText text).ending line)[index]? =
      text.toList[start + ((ofText text).content line).length + index]? := by
  have whole := length_ending isStart
  have skipped : ((ofText text).ending line)[index]? =
      ((ofText text).stretch line)[((ofText text).content line).length + index]? := by
    rw [← content_append_ending, List.getElem?_append_right (Nat.le_add_right _ _),
      Nat.add_sub_cancel_left]
  rw [skipped, getElem?_stretch isStart _ (by omega), Nat.add_assoc]

/-- After a line feed, or after a carriage return that none follows, no more of a line is left. -/
theorem length_ending_le
    (index : Nat)
    (ends : endsBreak text.toList (start + ((ofText text).content line).length + index + 1) = true) :
    ((ofText text).ending line).length ≤ index + 1 ∧
      ∃ next, (ofText text).lineStarts[line + 1]? = some next := by
  obtain ⟨next, isNext, notLater⟩ := next_of_endsBreak isStart ends (by omega)
  have whole := length_ending isStart
  rw [lineEnd_of_next isNext] at whole
  exact ⟨by omega, next, isNext⟩

/-- A line feed that follows a carriage return stands in the same line. -/
theorem lt_length_ending
    (isReturn : text.toList[start + ((ofText text).content line).length]? = some '\r')
    (isFeed : text.toList[start + ((ofText text).content line).length + 1]? = some '\n')
    (inside : 0 < ((ofText text).ending line).length) :
    1 < ((ofText text).ending line).length := by
  by_contra short
  have whole := length_ending isStart
  have isEnd : (ofText text).lineEnd line = start + ((ofText text).content line).length + 1 := by
    omega
  cases isNext : (ofText text).lineStarts[line + 1]? with
  | none =>
      rw [lineEnd_of_last isNext] at isEnd
      rw [← isEnd, List.getElem?_length] at isFeed
      cases isFeed
  | some next =>
      rw [lineEnd_of_next isNext] at isEnd
      subst isEnd
      rcases mem_lineStarts.mp (Array.mem_of_getElem? isNext) with isZero | ends
      · cases isZero
      · simp [endsBreak, isReturn, isFeed] at ends

/-- A line that another one follows has something after its text. -/
theorem ending_ne_nil_of_next
    {next : Nat} (isNext : (ofText text).lineStarts[line + 1]? = some next) :
    (ofText text).ending line ≠ [] := by
  intro nothing
  have order := lt_of_lineStarts isStart isNext (Nat.lt_succ_self line)
  obtain ⟨before, rfl⟩ : ∃ before, next = before + 1 := ⟨next - 1, by omega⟩
  have ends : endsBreak text.toList (before + 1) = true :=
    (mem_lineStarts.mp (Array.mem_of_getElem? isNext)).resolve_left (Nat.succ_ne_zero before)
  have isLast := getElem?_stretch isStart (before - start)
    (by rw [lineEnd_of_next isNext]; omega)
  rw [← content_append_ending, nothing, List.append_nil, show start + (before - start) = before by omega]
    at isLast
  have isBreakThere : ∃ character, text.toList[before]? = some character ∧ isBreak character = true := by
    simp only [endsBreak, Bool.or_eq_true, Bool.and_eq_true, decide_eq_true_eq] at ends
    rcases ends with isFeed | ⟨isReturn, -⟩
    · exact ⟨_, isFeed, rfl⟩
    · exact ⟨_, isReturn, rfl⟩
  obtain ⟨character, isThere, breaks⟩ := isBreakThere
  rw [not_isBreak_of_mem_content (List.mem_of_getElem? (isLast.trans isThere))] at breaks
  cases breaks

/-- What follows the text of a line is a break, after which another line starts. -/
theorem ending_mem_lineBreaks
    (something : (ofText text).ending line ≠ []) :
    (ofText text).ending line ∈ lineBreaks ∧
      ∃ next, (ofText text).lineStarts[line + 1]? = some next := by
  have found := getElem?_ending isStart
  have stops := length_ending_le isStart
  have goesOn := lt_length_ending isStart
  cases endingEq : (ofText text).ending line with
  | nil => exact absurd endingEq something
  | cons first others =>
      rw [endingEq] at found stops goesOn
      have isFirst := (found 0 (Nat.succ_pos _)).symm
      have breaks := isBreak_of_ending endingEq
      simp only [isBreak, Bool.or_eq_true, decide_eq_true_eq] at breaks
      rw [List.getElem?_cons_zero, Nat.add_zero] at isFirst
      have single (ends : endsBreak text.toList
          (start + ((ofText text).content line).length + 0 + 1) = true) :
          others = [] ∧ ∃ next, (ofText text).lineStarts[line + 1]? = some next := by
        obtain ⟨short, next⟩ := stops 0 ends
        exact ⟨List.eq_nil_of_length_eq_zero (Nat.le_zero.mp (Nat.le_of_succ_le_succ short)), next⟩
      rcases breaks with rfl | rfl
      · by_cases isFeed : text.toList[start + ((ofText text).content line).length + 1]? = some '\n'
        · have more := goesOn isFirst isFeed (Nat.succ_pos _)
          obtain ⟨short, next⟩ := stops 1 (by simp [endsBreak, isFeed])
          obtain ⟨second, rfl⟩ : ∃ second, others = [second] :=
            List.length_eq_one_iff.mp (by simpa using Nat.le_antisymm short more)
          have isSecond := found 1 more
          rw [isFeed] at isSecond
          exact ⟨by simp_all [lineBreaks], next⟩
        · obtain ⟨rfl, next⟩ := single (by simp [endsBreak, isFirst, isFeed])
          exact ⟨by simp [lineBreaks], next⟩
      · obtain ⟨rfl, next⟩ := single (by simp [endsBreak, isFirst])
        exact ⟨by simp [lineBreaks], next⟩

theorem not_mem_of_ending
    {character : Char} (member : character ∈ (ofText text).ending line) :
    isBreak character = true := by
  have something : (ofText text).ending line ≠ [] := List.ne_nil_of_mem member
  have isLineBreak := (ending_mem_lineBreaks isStart something).1
  simp only [lineBreaks, List.mem_cons, List.not_mem_nil, or_false] at isLineBreak
  rcases isLineBreak with same | same | same
  all_goals
    rw [same] at member
    simp only [List.mem_cons, List.not_mem_nil, or_false] at member
    rcases member with rfl | rfl <;> rfl

/-- Without its breaks a line is what stands before its break. -/
theorem lineText_of_start : (ofText text).lineText line = .ok ((ofText text).content line) := by
  have kept : ((ofText text).content line).filter (fun character => !isBreak character) =
      (ofText text).content line :=
    List.filter_eq_self.mpr fun character member => by simp [not_isBreak_of_mem_content member]
  have dropped : ((ofText text).ending line).filter (fun character => !isBreak character) = [] :=
    List.filter_eq_nil_iff.mpr fun character member => by simp [not_mem_of_ending isStart member]
  have whole : ((ofText text).stretch line).filter (fun character => !isBreak character) =
      (ofText text).content line := by
    rw [← content_append_ending, List.filter_append, kept, dropped, List.append_nil]
  rw [stretch_eq isStart] at whole
  rw [lineText, lineStart_eq_ok_iff.mpr isStart]
  exact congrArg Except.ok whole

/-- The lines up to one, with their breaks, are the beginning of the text. -/
theorem take_lineEnd :
    text.toList.take ((ofText text).lineEnd line) =
      (List.range (line + 1)).flatMap (ofText text).stretch := by
  induction line generalizing start with
  | zero =>
      obtain rfl : 0 = start := Option.some.inj ((lineStart_zero text).symm.trans isStart)
      simp [stretch_eq isStart]
  | succ line inductionHypothesis =>
      have inside : line < (ofText text).lineStarts.size :=
        Nat.lt_of_succ_lt (Array.getElem?_eq_some_iff.mp isStart).1
      have before := inductionHypothesis (Array.getElem?_eq_getElem inside)
      rw [lineEnd_of_next isStart] at before
      rw [List.range_succ, List.flatMap_append, ← before, List.flatMap_singleton, stretch_eq isStart,
        ← List.take_add, Nat.add_sub_cancel' (start_le_lineEnd isStart)]

end Stretch

theorem lineText_eq_ok
    {place : Int} {found : List Char} (isText : (ofText text).lineText place = .ok found) :
    ∃ line start, place = (line : Nat) ∧ (ofText text).lineStarts[line]? = some start ∧
      found = (ofText text).content line := by
  unfold lineText at isText
  cases isStart : (ofText text).lineStart place with
  | error fault =>
      rw [isStart] at isText
      cases isText
  | ok start =>
      have lower : 0 ≤ place := by
        by_contra negative
        simp [lineStart, negative] at isStart
      obtain ⟨line, rfl⟩ := Int.eq_ofNat_of_zero_le lower
      have known := lineStart_eq_ok_iff.mp isStart
      exact ⟨line, start, rfl, known, Except.ok.inj (isText.symm.trans (lineText_of_start known))⟩

/-- The last line has no break, and all lines with their breaks are the text. -/
theorem flatMap_stretch
    {others : Nat} (isCount : (ofText text).lineCount = others + 1) :
    (List.range others).flatMap (ofText text).stretch ++ (ofText text).content others =
      text.toList := by
  have inside : others < (ofText text).lineStarts.size := Nat.lt_of_succ_le (Nat.le_of_eq isCount.symm)
  have isStart : (ofText text).lineStarts[others]? = some _ := Array.getElem?_eq_getElem inside
  have isLast : (ofText text).lineStarts[others + 1]? = none :=
    Array.getElem?_eq_none (Nat.le_of_eq isCount)
  have nothing : (ofText text).ending others = [] := by
    by_contra something
    obtain ⟨-, next, isNext⟩ := ending_mem_lineBreaks isStart something
    rw [isLast] at isNext
    cases isNext
  have whole : (ofText text).content others = (ofText text).stretch others := by
    rw [← content_append_ending, nothing, List.append_nil]
  rw [whole, ← List.flatMap_singleton (ofText text).stretch others, ← List.flatMap_append,
    ← List.range_succ, ← take_lineEnd isStart, lineEnd_of_last isLast, List.take_length]

/-- The index of a text is exact: the lines start at the beginning and where a break ends, an offset
belongs to the line that is counted by the breaks before it, no line has a break within, and the lines
and the breaks between them are the text. -/
theorem lineIndex_exact (text : String) :
    let snapshot := ofText text
    snapshot.lineStarts.toList.Pairwise (· < ·) ∧
    (∀ start, start ∈ snapshot.lineStarts ↔ start = 0 ∨ endsBreak text.toList start = true) ∧
    (∀ offset : Nat, offset ≤ text.toList.length →
      snapshot.lineAt offset = .ok ((List.range (offset + 1)).countP (endsBreak text.toList))) ∧
    (∀ line found, snapshot.lineText line = .ok found → '\r' ∉ found ∧ '\n' ∉ found) ∧
    ∃ (ended : List (List Char × List Char)) (last : List Char),
      ended.length + 1 = snapshot.lineCount ∧
      (∀ (line : Nat) (inside : line < ended.length), ∃ start,
        snapshot.lineStart line = .ok start ∧ snapshot.lineText line = .ok ended[line].1 ∧
          ended[line].2 ∈ lineBreaks ∧
          snapshot.lineStart (line + 1 : Nat) =
            .ok (start + (ended[line].1.length + ended[line].2.length))) ∧
      snapshot.lineText ended.length = .ok last ∧
      ended.flatMap (fun entry => entry.1 ++ entry.2) ++ last = text.toList := by
  intro snapshot
  refine ⟨lineStarts_pairwise text, fun start => mem_lineStarts, ?_, ?_, ?_⟩
  · intro offset inside
    obtain ⟨line, start, isLine, lies⟩ := lineAt_ofText inside
    rw [lies.countP]
    exact isLine
  · intro place found isText
    obtain ⟨line, start, rfl, isStart, rfl⟩ := lineText_eq_ok isText
    constructor
    · intro member
      cases not_isBreak_of_mem_content member
    · intro member
      cases not_isBreak_of_mem_content member
  · obtain ⟨others, isCount⟩ : ∃ others, snapshot.lineCount = others + 1 :=
      ⟨(breakEnds 0 text.toList).length, rfl⟩
    have inside : others < snapshot.lineStarts.size :=
      Nat.lt_of_succ_le (Nat.le_of_eq isCount.symm)
    refine ⟨(List.range others).map fun line => (snapshot.content line, snapshot.ending line),
      snapshot.content others, by simp [isCount], ?_, ?_, ?_⟩
    · intro line known
      have isEarlier : line + 1 < snapshot.lineStarts.size := by
        simp only [List.length_map, List.length_range] at known
        omega
      have isStart : snapshot.lineStarts[line]? = some _ :=
        Array.getElem?_eq_getElem (Nat.lt_of_succ_lt isEarlier)
      have isNext : snapshot.lineStarts[line + 1]? = some _ := Array.getElem?_eq_getElem isEarlier
      have extent := length_ending isStart
      have order := start_le_lineEnd isStart
      rw [lineEnd_of_next isNext] at extent order
      rw [List.getElem_map, List.getElem_range]
      refine ⟨_, lineStart_eq_ok_iff.mpr isStart, lineText_of_start isStart,
        (ending_mem_lineBreaks isStart (ending_ne_nil_of_next isStart isNext)).1, ?_⟩
      rw [extent, Nat.add_sub_cancel' order]
      exact lineStart_eq_ok_iff.mpr isNext
    · rw [List.length_map, List.length_range]
      exact lineText_of_start (Array.getElem?_eq_getElem inside)
    · rw [List.flatMap_map]
      simp only [content_append_ending]
      exact flatMap_stretch isCount

end Snapshot

end LanguageClient.Document
