import LanguageClient.Proofs.Document.LineIndex

/-!
# Offsets and positions

Every offset of a text has one position, and the positions of offsets are those that lie within their
line. Other positions that resolve spill over: they name an offset in a later line, whose own position
is a different one.
-/

namespace LanguageClient

/-- Whether a position comes before another one: by line, and by character in the same line. -/
def Position.Precedes (first second : Position) : Prop :=
  first.line < second.line ∨ first.line = second.line ∧ first.character < second.character

namespace Document

namespace Snapshot

/-- Whether a position lies within its line: before the start of the next line or, in the last line, not
behind the end of the text. -/
def holds (snapshot : Snapshot) (position : Position) : Bool :=
  match snapshot.lineStart position.line, snapshot.lineStarts[position.line + 1]? with
  | .ok start, some next => position.character < next - start
  | .ok start, none => position.character ≤ snapshot.length - start
  | .error _, _ => false

variable {text : String} {position : Position} {offset line start : Nat}

theorem holds_iff :
    (ofText text).holds position = true ↔
      ∃ start, LiesIn text (start + position.character) position.line start := by
  cases isStart : (ofText text).lineStart position.line with
  | error fault =>
      simp only [holds, isStart, Bool.false_eq_true, false_iff]
      rintro ⟨start, lies⟩
      rw [lineStart_eq_ok_iff.mpr lies.isStart] at isStart
      cases isStart
  | ok start =>
      have known := lineStart_eq_ok_iff.mp isStart
      have fits : (ofText text).holds position = true ↔
          LiesIn text (start + position.character) position.line start := by
        cases isNext : (ofText text).lineStarts[position.line + 1]? with
        | none =>
            have inside := start_le_length (Array.mem_of_getElem? known)
            simp only [holds, isStart, isNext, decide_eq_true_eq]
            rw [length_ofText]
            constructor
            · intro within
              exact ⟨known, Nat.le_add_right _ _, by omega, by simp [isNext]⟩
            · intro lies
              have notAfter := lies.notAfter
              omega
        | some next =>
            have inside := start_le_length (Array.mem_of_getElem? isNext)
            simp only [holds, isStart, isNext, decide_eq_true_eq]
            constructor
            · intro within
              refine ⟨known, Nat.le_add_right _ _, by omega, fun other isOther => ?_⟩
              obtain rfl := Option.some.inj (isNext.symm.trans isOther)
              omega
            · intro lies
              have before := lies.beforeNext next isNext
              omega
      rw [fits]
      constructor
      · exact fun lies => ⟨start, lies⟩
      · rintro ⟨other, lies⟩
        obtain rfl := Option.some.inj (known.symm.trans lies.isStart)
        exact lies

theorem LiesIn.toPosition (lies : LiesIn text offset line start) :
    (ofText text).toPosition offset = .ok ⟨line, offset - start⟩ := by
  obtain ⟨found, foundStart, isLine, liesToo⟩ := lineAt_ofText lies.notAfter
  obtain ⟨rfl, rfl⟩ := lies.unique liesToo
  simp only [Snapshot.toPosition, isLine, lineStart_eq_ok_iff.mpr lies.isStart, bind, Except.bind]
  rfl

theorem toPosition_of_outside
    (text : String) (place : Int) (outside : ¬(0 ≤ place ∧ place ≤ text.toList.length)) :
    ∃ fault, (ofText text).toPosition place = .error fault := by
  refine ⟨.offsetOutside place text.toList.length, ?_⟩
  have unknown : (ofText text).lineAt place = .error (.offsetOutside place text.toList.length) := by
    rw [lineAt, length_ofText, if_neg (by simpa using outside)]
  rw [toPosition, unknown]
  rfl

theorem toPosition_eq_ok_iff :
    (ofText text).toPosition offset = .ok position ↔
      ∃ start, offset = start + position.character ∧ LiesIn text offset position.line start := by
  constructor
  · intro isPosition
    by_cases inside : offset ≤ text.toList.length
    · obtain ⟨line, start, -, lies⟩ := lineAt_ofText inside
      obtain rfl := Except.ok.inj (isPosition.symm.trans lies.toPosition)
      exact ⟨start, (Nat.add_sub_cancel' lies.notBefore).symm, lies⟩
    · obtain ⟨fault, fails⟩ := toPosition_of_outside text offset (by omega)
      rw [fails] at isPosition
      cases isPosition
  · rintro ⟨start, rfl, lies⟩
    rw [lies.toPosition, Nat.add_sub_cancel_left]

theorem toOffset_eq_ok_iff :
    (ofText text).toOffset position = .ok offset ↔
      ∃ start, (ofText text).lineStart position.line = .ok start ∧
        offset = start + position.character ∧ offset ≤ text.toList.length := by
  unfold toOffset
  cases isStart : (ofText text).lineStart position.line with
  | error fault =>
      by_cases outside : (ofText text).lineCount ≤ position.line
      · simp [outside, throw, throwThe, MonadExceptOf.throw, bind, Except.bind]
      · simp [outside, bind, Except.bind]
  | ok start =>
      have inside : ¬(ofText text).lineCount ≤ position.line := by
        rw [lineStart_eq_ok_iff] at isStart
        exact Nat.not_le.mpr (Array.getElem?_eq_some_iff.mp isStart).1
      by_cases beyond : text.toList.length < start + position.character
      · simp [inside, beyond, throw, throwThe, MonadExceptOf.throw, bind, Except.bind, length_ofText]
        omega
      · simp [inside, beyond, bind, Except.bind, pure, Except.pure, length_ofText]
        omega

/-- The positions of two offsets come in the order of the offsets. -/
theorem precedes_of_lt
    {first second : Nat} {firstPosition secondPosition : Position}
    (isFirst : (ofText text).toPosition first = .ok firstPosition)
    (isSecond : (ofText text).toPosition second = .ok secondPosition) (order : first < second) :
    firstPosition.Precedes secondPosition := by
  obtain ⟨firstStart, rfl, lies⟩ := toPosition_eq_ok_iff.mp isFirst
  obtain ⟨secondStart, rfl, liesToo⟩ := toPosition_eq_ok_iff.mp isSecond
  have lineOrder := liesToo.line_le lies.isStart (Nat.le_trans lies.notBefore (Nat.le_of_lt order))
  rcases Nat.lt_or_eq_of_le lineOrder with earlier | sameLine
  · exact Or.inl earlier
  · have sameStart : firstStart = secondStart :=
      Option.some.inj (lies.isStart.symm.trans (sameLine ▸ liesToo.isStart))
    exact Or.inr ⟨sameLine, by omega⟩

/-- The fields of the position of an offset are no larger than the offset. -/
theorem le_of_toPosition (isPosition : (ofText text).toPosition offset = .ok position) :
    position.line ≤ offset ∧ position.character ≤ offset := by
  obtain ⟨start, rfl, lies⟩ := toPosition_eq_ok_iff.mp isPosition
  refine ⟨?_, Nat.le_add_left _ _⟩
  have counted := lies.countP
  rw [List.range_succ_eq_map, List.countP_cons_of_neg (by simp [endsBreak])] at counted
  rw [← counted]
  exact Nat.le_trans List.countP_le_length (by simp)

/-- A position that resolves names an offset whose own position comes no earlier. It is the same
position if that lies within its line, and otherwise one in a later line. -/
theorem toPosition_of_toOffset (resolves : (ofText text).toOffset position = .ok offset) :
    ∃ own, (ofText text).toPosition offset = .ok own ∧ (ofText text).holds own = true ∧
      (ofText text).toOffset own = .ok offset ∧
      ((ofText text).holds position = true → own = position) ∧
      ((ofText text).holds position = false → position.line < own.line) := by
  obtain ⟨start, isStart, rfl, notAfter⟩ := toOffset_eq_ok_iff.mp resolves
  rw [lineStart_eq_ok_iff] at isStart
  obtain ⟨line, ownStart, -, lies⟩ := lineAt_ofText notAfter
  have split : start + position.character = ownStart + (start + position.character - ownStart) :=
    (Nat.add_sub_cancel' lies.notBefore).symm
  refine ⟨_, lies.toPosition, holds_iff.mpr ⟨ownStart, split ▸ lies⟩,
    toOffset_eq_ok_iff.mpr ⟨ownStart, lineStart_eq_ok_iff.mpr lies.isStart, split, notAfter⟩, ?_, ?_⟩
  · intro holds
    obtain ⟨otherStart, liesToo⟩ := holds_iff.mp holds
    obtain rfl : start = otherStart := Option.some.inj (isStart.symm.trans liesToo.isStart)
    obtain ⟨rfl, rfl⟩ := lies.unique liesToo
    rw [Nat.add_sub_cancel_left]
  · intro spills
    refine Nat.lt_of_le_of_ne (lies.line_le isStart (Nat.le_add_right _ _)) ?_
    rintro rfl
    rw [Option.some.inj (isStart.symm.trans lies.isStart)] at lies
    exact Bool.eq_false_iff.mp spills (holds_iff.mpr ⟨ownStart, lies⟩)

/-! ## The text before an offset -/

/-- Whether an offset stands between a carriage return and the line feed that follows it. -/
def splitsBreak (characters : List Char) : Nat → Bool
  | 0 => false
  | before + 1 => characters[before]? = some '\r' && characters[before + 1]? = some '\n'

/-- No line starts between a carriage return and a line feed. -/
theorem not_splitsBreak_of_start (isStart : (ofText text).lineStarts[line]? = some start) :
    splitsBreak text.toList start = false := by
  rcases mem_lineStarts.mp (Array.mem_of_getElem? isStart) with rfl | ends
  · rfl
  · cases start with
    | zero => rfl
    | succ before =>
        by_contra splits
        simp only [splitsBreak, Bool.not_eq_false, Bool.and_eq_true, decide_eq_true_eq] at splits
        simp [endsBreak, splits] at ends

theorem take_stretch
    (isStart : (ofText text).lineStarts[line]? = some start) {count : Nat}
    (within : count ≤ (ofText text).lineEnd line - start) :
    ((ofText text).stretch line).take count = (text.toList.drop start).take count := by
  rw [stretch_eq isStart, List.take_take, Nat.min_eq_left within]

theorem not_splitsBreak_of_content
    (isStart : (ofText text).lineStarts[line]? = some start) (notBefore : start ≤ offset)
    (within : offset - start ≤ ((ofText text).content line).length) :
    splitsBreak text.toList offset = false := by
  rcases Nat.eq_or_lt_of_le notBefore with rfl | after
  · exact not_splitsBreak_of_start isStart
  · obtain ⟨before, rfl⟩ : ∃ before, offset = before + 1 := ⟨offset - 1, by omega⟩
    by_contra splits
    simp only [splitsBreak, Bool.not_eq_false, Bool.and_eq_true, decide_eq_true_eq] at splits
    have whole := length_ending isStart
    have inside := getElem?_stretch isStart (before - start) (by omega)
    rw [← content_append_ending, List.getElem?_append_left (by omega), Nat.add_sub_cancel' (by omega),
      splits.1] at inside
    cases not_isBreak_of_mem_content (List.mem_of_getElem? inside)

/-- The text of a line up to an offset is the text between the start of the line and the offset; only
between a carriage return and a line feed it ends one character earlier. -/
theorem LiesIn.take_content (lies : LiesIn text offset line start) :
    splitsBreak text.toList offset = false ∧
        ((ofText text).content line).take (offset - start) =
          (text.toList.drop start).take (offset - start) ∨
      splitsBreak text.toList offset = true ∧ start < offset ∧
        ((ofText text).content line).take (offset - start) =
          (text.toList.drop start).take (offset - 1 - start) := by
  have isStart := lies.isStart
  have notBefore := lies.notBefore
  have whole := length_ending isStart
  have upTo (count : Nat) (within : count ≤ ((ofText text).content line).length) :
      ((ofText text).content line).take count = (text.toList.drop start).take count := by
    rw [← take_stretch isStart (by omega), ← content_append_ending,
      List.take_append_of_le_length within]
  by_cases within : offset - start ≤ ((ofText text).content line).length
  · exact Or.inl ⟨not_splitsBreak_of_content isStart notBefore within, upTo _ within⟩
  · -- Past its text a line has only its break, and the offset lies before the next line.
    have something : (ofText text).ending line ≠ [] := by
      intro nothing
      cases isNext : (ofText text).lineStarts[line + 1]? with
      | none =>
          rw [nothing, List.length_nil, lineEnd_of_last isNext] at whole
          have notAfter := lies.notAfter
          omega
      | some next => exact ending_ne_nil_of_next isStart isNext nothing
    obtain ⟨isBreak, next, isNext⟩ := ending_mem_lineBreaks isStart something
    have before := lies.beforeNext next isNext
    rw [lineEnd_of_next isNext] at whole
    have both : (ofText text).ending line = ['\r', '\n'] := by
      simp only [lineBreaks, List.mem_cons, List.not_mem_nil, or_false] at isBreak
      rcases isBreak with same | same | same
      · exact same
      all_goals
        rw [same, List.length_singleton] at whole
        omega
    rw [both, List.length_cons, List.length_singleton] at whole
    have isOffset : offset = start + ((ofText text).content line).length + 1 := by omega
    have isReturn := getElem?_ending isStart 0 (by simp [both])
    have isFeed := getElem?_ending isStart 1 (by simp [both])
    rw [both, Nat.add_zero] at isReturn
    rw [both] at isFeed
    refine Or.inr ⟨?_, by omega, ?_⟩
    · rw [isOffset]
      simp [splitsBreak, ← isReturn, ← isFeed]
    · rw [List.take_of_length_le (by omega), show offset - 1 - start =
        ((ofText text).content line).length by omega, ← upTo _ (Nat.le_refl _), List.take_length]

/-- The offsets of a text and the positions within its lines correspond one to one, in the same order. A
position resolves if its line is there and the text goes on as far as its character, and then the
position of its offset is the position itself, or one in a later line to which it spills over. -/
theorem offsets_biject_positions (text : String) (short : text.toList.length < Position.limit) :
    let snapshot := ofText text
    (∀ place : Int, (∃ position, snapshot.toPosition place = .ok position) ↔
      0 ≤ place ∧ place ≤ text.toList.length) ∧
    (∀ (first second : Nat) (firstPosition secondPosition : Position), first < second →
      snapshot.toPosition first = .ok firstPosition →
        snapshot.toPosition second = .ok secondPosition → firstPosition.Precedes secondPosition) ∧
    (∀ position : Position, (∃ offset : Nat, snapshot.toPosition offset = .ok position) ↔
      snapshot.holds position = true) ∧
    (∀ (offset : Nat) (position : Position), snapshot.toPosition offset = .ok position →
      Position.of? position.line position.character = some position ∧
        snapshot.toOffset position = .ok offset) ∧
    (∀ (position : Position) (offset : Nat), snapshot.toOffset position = .ok offset ↔
      ∃ start, snapshot.lineStart position.line = .ok start ∧
        offset = start + position.character ∧ offset ≤ text.toList.length) ∧
    ∀ (position : Position) (offset : Nat), snapshot.toOffset position = .ok offset →
      ∃ own, snapshot.toPosition offset = .ok own ∧ snapshot.holds own = true ∧
        snapshot.toOffset own = .ok offset ∧ (snapshot.holds position = true → own = position) ∧
        (snapshot.holds position = false → position.line < own.line) := by
  intro snapshot
  refine ⟨fun place => ⟨?_, ?_⟩, fun first second firstPosition secondPosition order isFirst isSecond =>
    precedes_of_lt isFirst isSecond order, fun position => ⟨?_, ?_⟩, ?_,
    fun position offset => toOffset_eq_ok_iff, fun position offset => toPosition_of_toOffset⟩
  · rintro ⟨position, isPosition⟩
    by_contra outside
    obtain ⟨fault, fails⟩ := toPosition_of_outside text place outside
    rw [fails] at isPosition
    cases isPosition
  · rintro ⟨lower, upper⟩
    obtain ⟨offset, rfl⟩ := Int.eq_ofNat_of_zero_le lower
    obtain ⟨line, start, -, lies⟩ := lineAt_ofText (Int.ofNat_le.mp upper)
    exact ⟨_, lies.toPosition⟩
  · rintro ⟨offset, isPosition⟩
    obtain ⟨start, rfl, lies⟩ := toPosition_eq_ok_iff.mp isPosition
    exact holds_iff.mpr ⟨start, lies⟩
  · intro holds
    obtain ⟨start, lies⟩ := holds_iff.mp holds
    exact ⟨start + position.character, toPosition_eq_ok_iff.mpr ⟨start, rfl, lies⟩⟩
  · intro offset position isPosition
    obtain ⟨start, isOffset, lies⟩ := toPosition_eq_ok_iff.mp isPosition
    obtain ⟨lineBound, characterBound⟩ := le_of_toPosition isPosition
    have inside := lies.notAfter
    refine ⟨?_, toOffset_eq_ok_iff.mpr
      ⟨start, lineStart_eq_ok_iff.mpr lies.isStart, isOffset, inside⟩⟩
    have lineFits : (position.line : Int) < Position.limit := by omega
    have characterFits : (position.character : Int) < Position.limit := by omega
    simp [Position.of?, lineFits, characterFits]

/-- Between a carriage return and a line feed an offset still belongs to the line that they end; a
position that goes on past them names an offset in the next line. -/
theorem offsets_biject_positions_carriageReturn :
    "a\r\nb".toList.length < Position.limit ∧
      (ofText "a\r\nb").toOffset ⟨0, 2⟩ = .ok 2 ∧
      Position.of? (0 : Nat) (2 : Nat) = some ⟨0, 2⟩ ∧
      (ofText "a\r\nb").toOffset ⟨0, 4⟩ = .ok 4 ∧
      (ofText "a\r\nb").holds ⟨0, 4⟩ = false ∧
      ∃ own, (ofText "a\r\nb").toPosition (4 : Nat) = .ok own ∧ 0 < own.line := by
  have short : "a\r\nb".toList.length < Position.limit := by decide
  obtain ⟨-, -, image, inverse, resolves, spills⟩ := offsets_biject_positions "a\r\nb" short
  have between : (ofText "a\r\nb").toPosition (2 : Nat) = .ok ⟨0, 2⟩ := by decide
  have beyond : (ofText "a\r\nb").toOffset ⟨0, 4⟩ = .ok 4 := (resolves _ _).mpr ⟨0, rfl, rfl, by decide⟩
  have outside : (ofText "a\r\nb").holds ⟨0, 4⟩ = false := by decide
  obtain ⟨own, isOwn, -, -, -, later⟩ := spills ⟨0, 4⟩ 4 beyond
  exact ⟨short, (inverse 2 ⟨0, 2⟩ between).2, (inverse 2 ⟨0, 2⟩ between).1, beyond, outside, own, isOwn,
    later outside⟩

end Snapshot

end Document

end LanguageClient
