import LanguageClient.Proofs.Completion.Token
import LanguageClient.Proofs.Document.Positions
import LanguageClient.Proofs.Editor.CompletionTurns

/-!
# The range of a completion

A completion says from where on the text up to the cursor is to be replaced. That is just the token that
its candidates were ranked for, unless the cursor stands between a carriage return and its line feed. The
carriage return is no part of the text of the line, but the cursor counts it, so the range lies one
character too far to the right there: it lacks the first character of the token and covers the break.
-/

namespace LanguageClient

/-! ## The text before the cursor -/

namespace Document

variable {characters ending : List Char} {first last : Nat}

/-- The characters of a text from one offset up to another one. -/
def between (characters : List Char) (first last : Nat) : List Char :=
  (characters.drop first).take (last - first)

theorem between_self (characters : List Char) (place : Nat) : between characters place place = [] := by
  rw [between, Nat.sub_self, List.take_zero]

theorem tail_between (characters : List Char) (first last : Nat) :
    (between characters first last).tail = between characters (first + 1) last := by
  rw [between, between, ← List.drop_one, List.drop_take, List.drop_drop, Nat.sub_sub]

theorem between_succ
    {character : Char} (order : first ≤ last) (isLast : characters[last]? = some character) :
    between characters first (last + 1) = between characters first last ++ [character] := by
  have there : (characters.drop first)[last - first]? = some character := by
    rw [List.getElem?_drop, Nat.add_sub_cancel' order, isLast]
  rw [between, between, show last + 1 - first = last - first + 1 by omega, List.take_add_one, there]
  rfl

/-- An ending of a part of a text is the part from some offset up to the same end. -/
theorem between_of_suffix
    (ends : ending <:+ between characters first last) (order : first ≤ last)
    (inside : last ≤ characters.length) :
    first + ending.length ≤ last ∧ between characters (last - ending.length) last = ending := by
  have whole : (between characters first last).length = last - first := by
    rw [between, List.length_take, List.length_drop]
    omega
  have fits := ends.length_le
  rw [whole] at fits
  have isDrop := List.suffix_iff_eq_drop.mp ends
  rw [whole, between, List.drop_take, List.drop_drop, Nat.sub_sub_self fits] at isDrop
  refine ⟨by omega, ?_⟩
  rw [between, Nat.sub_sub_self (by omega),
    show last - ending.length = first + (last - first - ending.length) by omega]
  exact isDrop.symm

namespace Snapshot

variable {text : String} {offset line start : Nat}

theorem isReturn_of_splitsBreak (splits : splitsBreak characters offset = true) :
    ∃ before, offset = before + 1 ∧ characters[before]? = some '\r' := by
  cases offset with
  | zero => cases splits
  | succ before =>
      simp only [splitsBreak, Bool.and_eq_true, decide_eq_true_eq] at splits
      exact ⟨before, rfl, splits.1⟩

/-- What stands in a line before a cursor. -/
def lineBefore (text : String) (line start cursor : Nat) : List Char :=
  ((ofText text).content line).take (cursor - start)

theorem not_isBreak_of_mem_lineBefore
    {character : Char} (member : character ∈ lineBefore text line start offset) :
    isBreak character = false :=
  not_isBreak_of_mem_content (List.mem_of_mem_take member)

/-- An ending of what stands in a line before a cursor lies right before the cursor in the text, or one
character further to the left if the cursor stands within a break. -/
theorem LiesIn.range_of_suffix
    (lies : LiesIn text offset line start) (ends : ending <:+ lineBefore text line start offset) :
    ending.length ≤ offset ∧
      (splitsBreak text.toList offset = false →
        between text.toList (offset - ending.length) offset = ending) ∧
      (splitsBreak text.toList offset = true → ending ≠ [] →
        ending.length < offset ∧
          between text.toList (offset - ending.length - 1) (offset - 1) = ending ∧
          between text.toList (offset - ending.length) offset = ending.tail ++ ['\r']) := by
  rcases lies.take_content with ⟨whole, upTo⟩ | ⟨splits, behind, upTo⟩
  · rw [lineBefore, upTo] at ends
    obtain ⟨fits, isEnding⟩ := between_of_suffix ends lies.notBefore lies.notAfter
    refine ⟨by omega, fun _ => isEnding, fun splits => ?_⟩
    rw [whole] at splits
    cases splits
  · rw [lineBefore, upTo] at ends
    obtain ⟨before, rfl, isReturn⟩ := isReturn_of_splitsBreak splits
    have notAfter := lies.notAfter
    obtain ⟨fits, isEnding⟩ := between_of_suffix ends (Nat.le_of_lt_succ behind) (by omega)
    refine ⟨by omega, fun whole => ?_, fun _ something => ⟨by omega, ?_, ?_⟩⟩
    · rw [splits] at whole
      cases whole
    · rw [show before + 1 - ending.length - 1 = before - ending.length by omega]
      exact isEnding
    · have notEmpty := List.length_pos_of_ne_nil something
      rw [between_succ (by omega) isReturn,
        show before + 1 - ending.length = before - ending.length + 1 by omega, ← tail_between]
      exact congrArg (·.tail ++ ['\r']) isEnding

end Snapshot

end Document

namespace Completion

open LanguageClient.Document LanguageClient.Document.Snapshot

variable {text : String} {cursor line start : Nat}

/-- The token for which candidates are ranked, if any. -/
def tokenBefore (candidates : List Candidate) (before : List Char) : List Char :=
  (token? candidates before).getD []

theorem start_rank (candidates : List Candidate) (before : List Char) (cursor : Int) :
    (rank candidates before cursor).start = cursor - (tokenBefore candidates before).length := by
  unfold rank tokenBefore
  cases token? candidates before with
  | none => simp
  | some token => rfl

theorem tokenBefore_suffix
    (candidates : List Candidate) {before : List Char} (oneLine : '\n' ∉ before) :
    tokenBefore candidates before <:+ before := by
  unfold tokenBefore
  rcases token?_of_line candidates oneLine with ⟨token, found, isLongest⟩ | ⟨nothing, _⟩
  · rw [found]
    exact isLongest.ends
  · rw [nothing]
    exact List.nil_suffix

end Completion

namespace Client

open LanguageClient.Completion LanguageClient.Document LanguageClient.Document.Snapshot
  LanguageClient.Json LanguageClient.Loop LanguageClient.Number LanguageClient.Protocol
  LanguageClient.Client.System

/-- A query is about the text of one line up to the cursor. -/
theorem completionQuery?_line
    {text : String} {triggers : List String} {offset : Int} {explicit : Bool} {query : CompletionQuery}
    (isQuery : completionQuery? (ofText text) triggers offset explicit = some query) :
    query.offset = offset ∧ ∃ cursor line start : Nat, offset = cursor ∧ LiesIn text cursor line start ∧
      query.before = lineBefore text line start cursor := by
  have resolved := completionQuery?_resolved isQuery
  obtain ⟨cursor, rfl⟩ : ∃ cursor : Nat, offset = cursor := by
    by_contra negative
    obtain ⟨fault, fails⟩ := toPosition_of_outside text offset
      fun inside => negative ⟨offset.toNat, (Int.toNat_of_nonneg inside.1).symm⟩
    rw [fails] at resolved
    cases resolved
  obtain ⟨start, isCursor, lies⟩ := toPosition_eq_ok_iff.mp resolved
  have isBefore : query.offset = cursor ∧
      query.before = ((ofText text).content query.position.line).take query.position.character := by
    unfold completionQuery? at isQuery
    simp only [resolved, lineText_of_start lies.isStart, Except.toOption, Option.bind_eq_bind,
      Option.bind_some, Option.bind_eq_some_iff] at isQuery
    obtain ⟨previous, _, isQuery⟩ := isQuery
    split at isQuery
    · rw [← Option.some.inj isQuery]
      exact ⟨rfl, rfl⟩
    · split at isQuery
      · rw [← Option.some.inj isQuery]
        exact ⟨rfl, rfl⟩
      · cases isQuery
  refine ⟨isBefore.1, cursor, query.position.line, start, rfl, lies, ?_⟩
  rw [isBefore.2, lineBefore, isCursor, Nat.add_sub_cancel_left]

/-- A completion that returns a result was ranked for an answer of the server, in the text as it was at
some moment since the call. The text from the start of the result up to the cursor is the token that it
was ranked for; but between a carriage return and its line feed it is the token without its first
character, with the carriage return instead. -/
theorem completions_cover_token
    (setup : EditorSetup) (inputs : Nat → Input) (allowed : ∀ place, (inputs place).OnEditor)
    (task place count : Nat) (offset : Int) (explicit : Bool)
    (called : CalledAt setup.start inputs task place (.complete 0 offset explicit))
    (since : place < count) (ranked : Ranked)
    (ended : (setup.start.after inputs count).ending? task =
      some (.returned (.completion (some ranked)))) :
    let run := setup.start.after inputs
    ∃ seen turn raw candidates, ∃ cursor line start first : Nat,
      let text := (run seen).documentText
      let before := lineBefore text line start cursor
      let token := tokenBefore candidates before
      place < seen ∧ seen ≤ turn ∧ turn < count ∧
      (run turn).ending? task = none ∧ (run turn).Answered task raw ∧
      (completionResultOf raw).bind candidatesOf = .ok (some candidates) ∧
      offset = cursor ∧ LiesIn text cursor line start ∧ ranked = rank candidates before offset ∧
      ranked.start = first ∧ first + token.length = cursor ∧
      (∀ character ∈ token, isBreak character = false) ∧
      (splitsBreak text.toList cursor = false ∨ token = [] →
        between text.toList first cursor = token) ∧
      (splitsBreak text.toList cursor = true → token ≠ [] →
        0 < first ∧ between text.toList (first - 1) (cursor - 1) = token ∧
          between text.toList first cursor = token.tail ++ ['\r']) ∧
      ((∀ moment, place < moment → moment < count → ∀ text, inputs moment ≠ .editText 0 text) →
        ∀ moment, place < moment → moment ≤ count → (run moment).documentText = text) := by
  intro run
  rcases completion_run setup allowed called since with
    ⟨found, _, unended, _⟩ | ⟨found, _, _, _, _, unended, _⟩ | ⟨outcome, isEnd, ranks⟩
  · rw [unended] at ended
    cases ended
  · rw [unended] at ended
    cases ended
  · obtain ⟨seen, turn, triggers, query, raw, afterCall, notLater, earlier, isQuery, wasUnended,
      answered, candidates, isAnswer, isRanked⟩ :=
        ranks ranked (Option.some.inj (isEnd.symm.trans ended))
    obtain ⟨sameOffset, cursor, line, start, rfl, lies, isBefore⟩ := completionQuery?_line isQuery
    rw [sameOffset, isBefore] at isRanked
    have oneLine : '\n' ∉ lineBefore (run seen).documentText line start cursor := fun member => by
      cases not_isBreak_of_mem_lineBefore member
    have ends := tokenBefore_suffix candidates oneLine
    obtain ⟨fits, whole, split⟩ := lies.range_of_suffix ends
    refine ⟨seen, turn, raw, candidates, cursor, line, start, cursor - _, afterCall, notLater, earlier,
      wasUnended, answered, isAnswer, rfl, lies, isRanked, ?_, Nat.sub_add_cancel fits,
      fun character member => not_isBreak_of_mem_lineBefore (ends.mem member), ?_, ?_, ?_⟩
    · rw [isRanked, start_rank]
      exact (Int.ofNat_sub fits).symm
    · rintro (unsplit | nothing)
      · exact whole unsplit
      · rw [nothing]
        exact between_self _ cursor
    · intro splits something
      obtain ⟨behind, shifted, covered⟩ := split splits something
      exact ⟨by omega, shifted, covered⟩
    · intro unedited moment afterCall' notLater'
      have same (other : Nat) (isAfter : place < other) (notAfter : other ≤ count) :
          (run other).documentText = (run (place + 1)).documentText :=
        documentText_of_unedited setup allowed isAfter fun moment after before =>
          unedited moment after (Nat.lt_of_lt_of_le before notAfter)
      rw [same moment afterCall' notLater', same seen afterCall (by omega)]

/-! ## A completion within a break -/

/-- An editor whose text is one word and a break of two characters. -/
def brokenEditor : EditorSetup := { hoveredEditor with text := "ab\r\n" }

/-- A server that completes the word. -/
def completionServer : Peer where
  script := [
    (Method.handshake, .always (some (.answer
      [("result", .object [("capabilities", .object [("completionProvider", .object [])])])]))),
    (Method.completion, .always (some (.answer
      [("result", .array [.object [("label", .string "abc")]])])))]

/-- Completions are asked for with the cursor behind the carriage return. -/
def splitCompletion : Nat → Input
  | 0 => .behave completionServer
  | 6 => .call (.complete 0 3 false)
  | _ => .turn

theorem splitCompletion_onEditor (place : Nat) : (splitCompletion place).OnEditor := by
  unfold splitCompletion
  split <;> first | rfl | trivial

/-- The candidates are ranked for the whole word, but replace its last letter and the carriage return. -/
theorem completions_cover_token_splitCompletion :
    (∀ place, (splitCompletion place).OnEditor) ∧
      CalledAt brokenEditor.start splitCompletion 1 6 (.complete 0 3 false) ∧
      ∃ ranked candidates, ∃ line start : Nat,
        (brokenEditor.start.after splitCompletion 11).ending? 1 =
          some (.returned (.completion (some ranked))) ∧
        ranked = rank candidates (lineBefore "ab\r\n" line start 3) 3 ∧
        tokenBefore candidates (lineBefore "ab\r\n" line start 3) = ['a', 'b'] ∧
        ranked.start = 1 ∧ between "ab\r\n".toList 1 3 = ['b', '\r'] := by
  have called : CalledAt brokenEditor.start splitCompletion 1 6 (.complete 0 3 false) :=
    ⟨rfl, by decide +kernel⟩
  have result : (brokenEditor.start.after splitCompletion 11).ending? 1 =
      some (.returned (.completion (some {
        start := 1
        candidates := [{
          label := "abc"
          insertText := "abc"
          sortKey := "abc"
          filterKey := "abc" }] }))) := by
    decide +kernel
  have sameText : (brokenEditor.start.after splitCompletion 11).documentText = "ab\r\n" := by
    decide +kernel
  obtain ⟨seen, turn, raw, candidates, cursor, line, start, first, afterCall, notLater, earlier, _, _, _,
    isCursor, _, isRanked, isFirst, whole, _, _, split, unedited⟩ :=
      completions_cover_token brokenEditor splitCompletion splitCompletion_onEditor 1 6 11 3 false called
        (by decide) _ result
  have noEdit (moment : Nat) (_ : 6 < moment) (_ : moment < 11) (text : String) :
      splitCompletion moment ≠ .editText 0 text := by
    unfold splitCompletion
    split <;> simp
  have text := unedited noEdit 11 (by decide) (by decide)
  rw [sameText] at text
  obtain rfl : cursor = 3 := by omega
  obtain rfl : first = 1 := by
    have isFirst : (1 : Int) = first := isFirst
    omega
  rw [← text] at isRanked whole split
  have something : tokenBefore candidates (lineBefore "ab\r\n" line start 3) ≠ [] := by
    intro nothing
    simp [nothing] at whole
  obtain ⟨-, isToken, -⟩ := split (by decide) something
  exact ⟨splitCompletion_onEditor, called, _, candidates, line, start, result, isRanked, isToken.symm,
    rfl, by decide⟩

end Client

end LanguageClient
