import Mathlib.Algebra.Group.Nat.Defs
import LanguageClient.CommandLine.Arguments
import LanguageClient.Proofs.Document.Diagnostics

/-!
# Printed diagnostics

The line that is printed for a diagnostic begins with the position of its start, written the way in
which the command line takes positions. What stands before its second colon is read back as that very
position, wherever the position of the server itself pointed.
-/

namespace LanguageClient

/-! ## Written numbers are read back -/

namespace Number

open LanguageClient.Text

section Digits

variable {digits : List Char}

theorem asciiDigit?_isSome_of_isDigit {character : Char} (isDigit : character.isDigit = true) :
    (asciiDigit? character).isSome = true := by
  have within : '0' ≤ character ∧ character ≤ '9' := by
    simpa [Char.isDigit, Char.le_def] using isDigit
  simp [asciiDigit?, within]

/-- A digit is an ASCII character that is neither a blank nor a sign nor an underscore. -/
theorem plain_of_isDigit {character : Char} (isDigit : character.isDigit = true) :
    character.toNat < 127 ∧ isAsciiBlank character = false ∧ character ≠ '_' ∧ character ≠ '-' ∧
      character ≠ '+' ∧ character ≠ ':' := by
  have within : 48 ≤ character.toNat ∧ character.toNat ≤ 57 := by
    simp only [Char.isDigit, Bool.and_eq_true, decide_eq_true_eq, ge_iff_le,
      UInt32.le_iff_toNat_le] at isDigit
    exact isDigit
  refine ⟨by omega, ?_, ?_, ?_, ?_, ?_⟩
  · have notSpace : character ≠ ' ' := by
      rintro rfl
      revert within
      decide
    have outside : ¬(9 ≤ character.toNat ∧ character.toNat ≤ 13) := by omega
    simpa [isAsciiBlank, notSpace] using outside
  all_goals
    rintro rfl
    revert within
    decide

theorem asciiForm_of_digits (allDigits : ∀ character ∈ digits, character.isDigit = true) :
    asciiForm digits = digits := by
  refine (List.map_congr_left fun character member => ?_).trans digits.map_id
  exact if_pos (plain_of_isDigit (allDigits character member)).1

theorem trimmed_of_digits (allDigits : ∀ character ∈ digits, character.isDigit = true) :
    trimmed digits = digits := by
  have keeps : ∀ list : List Char, (∀ character ∈ list, character.isDigit = true) →
      list.dropWhile isAsciiBlank = list := by
    intro list digitsOnly
    cases list with
    | nil => rfl
    | cons first rest =>
        have notBlank := (plain_of_isDigit (digitsOnly first List.mem_cons_self)).2.1
        rw [List.dropWhile_cons_of_neg (by simp [notBlank])]
  rw [trimmed, keeps digits allDigits,
    keeps _ fun character member => allDigits character (List.mem_reverse.mp member),
    List.reverse_reverse]

theorem withoutUnderscores?_of_digits
    (allDigits : ∀ character ∈ digits, character.isDigit = true) (afterDigit : Bool) :
    withoutUnderscores? afterDigit digits = some digits := by
  induction digits generalizing afterDigit with
  | nil => rfl
  | cons first rest inductionHypothesis =>
      have notUnderscore := (plain_of_isDigit (allDigits first List.mem_cons_self)).2.2.1
      have others := inductionHypothesis
        (fun character member => allDigits character (List.mem_cons_of_mem first member))
      rw [withoutUnderscores?.eq_3 _ _ _ (fun _ _ same _ => notUnderscore same), if_neg notUnderscore,
        others, Option.map_some]

theorem readSign_of_digits (allDigits : ∀ character ∈ digits, character.isDigit = true) :
    readSign digits = (false, digits) := by
  cases digits with
  | nil => rfl
  | cons first rest =>
      obtain ⟨-, -, -, notMinus, notPlus, -⟩ :=
        plain_of_isDigit (allDigits first List.mem_cons_self)
      simp [readSign, notMinus, notPlus]

theorem spanDigits_of_digits (allDigits : ∀ character ∈ digits, character.isDigit = true) :
    spanDigits digits = (digits, []) := by
  have digitsOnly : ∀ character ∈ digits, (asciiDigit? character).isSome = true :=
    fun character member => asciiDigit?_isSome_of_isDigit (allDigits character member)
  rw [spanDigits, List.span_eq_takeWhile_dropWhile, List.takeWhile_eq_self_iff.mpr digitsOnly,
    List.dropWhile_eq_nil_iff.mpr digitsOnly]

theorem readInt?_of_digits
    (allDigits : ∀ character ∈ digits, character.isDigit = true) (something : digits ≠ [])
    (few : digits.length ≤ maximalIntegerDigits) :
    readInt? (String.ofList digits) = some (digitsValue digits : Int) := by
  have notLong : ¬maximalIntegerDigits < digits.length := Nat.not_lt.mpr few
  simp [readInt?, asciiForm_of_digits allDigits, trimmed_of_digits allDigits,
    withoutUnderscores?_of_digits allDigits, readSign_of_digits allDigits,
    spanDigits_of_digits allDigits, something, notLong, signed]

end Digits

theorem intText_natCast (number : Nat) :
    Json.intText number = String.ofList (Nat.toDigits 10 number) := by
  have notNegative : ¬((number : Int) < 0) := by omega
  simp [Json.intText, notNegative]

theorem isDigit_of_mem_intText {number : Nat} {character : Char}
    (member : character ∈ (Json.intText number).toList) : character.isDigit = true := by
  rw [intText_natCast, String.toList_ofList] at member
  exact Nat.isDigit_of_mem_toDigits (by decide) (by decide) member

/-- The decimal notation of a number that is not too long is read back as the number. -/
theorem readInt?_intText {number : Nat} (bound : number < 10 ^ maximalIntegerDigits) :
    readInt? (Json.intText number) = some (number : Int) := by
  have value : digitsValue (Nat.toDigits 10 number) = number :=
    Eq.trans Nat.ofDigitChars_eq_foldl.symm Nat.ofDigitChars_ten_toDigits
  rw [intText_natCast, readInt?_of_digits
    (fun character member => Nat.isDigit_of_mem_toDigits (by decide) (by decide) member)
    Nat.toDigits_ne_nil ((Nat.length_toDigits_le_iff (by decide) (by decide)).mpr bound), value]

theorem readInt?_intText_of_lt_limit {number : Nat} (bound : number < Position.limit) :
    readInt? (Json.intText number) = some (number : Int) := by
  refine readInt?_intText (Nat.lt_of_lt_of_le bound ?_)
  calc Position.limit ≤ 10 ^ 10 := by decide
    _ ≤ 10 ^ maximalIntegerDigits := Nat.pow_le_pow_right (by decide) (by decide)

end Number

/-! ## Written positions are read back -/

namespace CommandLine

/-- The characters before the first colon after `colons` others, or all of them. -/
def beforeColon : Nat → List Char → List Char
  | _, [] => []
  | 0, character :: rest => if character = ':' then [] else character :: beforeColon 0 rest
  | colons + 1, character :: rest =>
    if character = ':' then character :: beforeColon colons rest
    else character :: beforeColon (colons + 1) rest

/-- The part of a line before its second colon. -/
def beforeSecondColon (line : String) : String := String.ofList (beforeColon 1 line.toList)

theorem beforeColon_append {plain : List Char} (noColon : ':' ∉ plain) (colons : Nat)
    (rest : List Char) : beforeColon colons (plain ++ rest) = plain ++ beforeColon colons rest := by
  induction plain with
  | nil => rfl
  | cons first others inductionHypothesis =>
      simp only [List.mem_cons, not_or] at noColon
      obtain ⟨notFirst, notOthers⟩ := noColon
      have unlike : first ≠ ':' := Ne.symm notFirst
      cases colons with
      | zero =>
          rw [List.cons_append, beforeColon, if_neg unlike, inductionHypothesis notOthers,
            List.cons_append]
      | succ colons =>
          rw [List.cons_append, beforeColon, if_neg unlike, inductionHypothesis notOthers,
            List.cons_append]

theorem splitAtColon?_eq {before after : String} (noColon : ':' ∉ before.toList) :
    splitAtColon? (before ++ ":" ++ after) = some (before, after) := by
  have plain : ∀ character ∈ before.toList, (character != ':') = true := by
    intro character member
    refine bne_iff_ne.mpr ?_
    rintro rfl
    exact noColon member
  have parts : (before ++ ":" ++ after).toList = before.toList ++ ':' :: after.toList := by simp
  rw [splitAtColon?, parts, List.span_eq_takeWhile_dropWhile, List.takeWhile_append_of_pos plain,
    List.dropWhile_append_of_pos plain]
  simp

theorem not_colon_mem_intText (number : Nat) : ':' ∉ (Json.intText number).toList := by
  intro member
  exact (Number.plain_of_isDigit (Number.isDigit_of_mem_intText member)).2.2.2.2.2 rfl

theorem of?_eq_some {position : Position} (lineFits : position.line < Position.limit)
    (characterFits : position.character < Position.limit) :
    Position.of? position.line position.character = some position := by
  have lineInRange : (position.line : Int) < Position.limit := Int.ofNat_lt.mpr lineFits
  have characterInRange : (position.character : Int) < Position.limit :=
    Int.ofNat_lt.mpr characterFits
  simp [Position.of?, lineInRange, characterInRange]

theorem readPosition?_eq
    {line character : String} {lineNumber characterNumber : Int} (noColon : ':' ∉ line.toList)
    (isLine : Number.readInt? line = some lineNumber)
    (isCharacter : Number.readInt? character = some characterNumber) :
    readPosition? (line ++ ":" ++ character) = Position.of? lineNumber characterNumber := by
  simp [readPosition?, splitAtColon?_eq noColon, isLine, isCharacter]

/-- A position within the limits is read back from its notation. -/
theorem readPosition?_intText {position : Position} (lineFits : position.line < Position.limit)
    (characterFits : position.character < Position.limit) :
    readPosition? (Json.intText position.line ++ ":" ++ Json.intText position.character) =
      some position :=
  (readPosition?_eq (not_colon_mem_intText position.line)
    (Number.readInt?_intText_of_lt_limit lineFits)
    (Number.readInt?_intText_of_lt_limit characterFits)).trans (of?_eq_some lineFits characterFits)

theorem beforeSecondColon_eq (line character : Nat) (rest : String) :
    beforeSecondColon (Json.intText line ++ ":" ++ Json.intText character ++ ": " ++ rest) =
      Json.intText line ++ ":" ++ Json.intText character := by
  have parts : (Json.intText line ++ ":" ++ Json.intText character ++ ": " ++ rest).toList =
      (Json.intText line).toList ++ ':' :: ((Json.intText character).toList ++
        ':' :: ' ' :: rest.toList) := by
    simp
  apply String.toList_injective
  rw [beforeSecondColon, parts, beforeColon_append (not_colon_mem_intText line), beforeColon,
    if_pos rfl, beforeColon_append (not_colon_mem_intText character), beforeColon, if_pos rfl]
  simp

end CommandLine

/-! ## Printed positions -/

namespace Document

open CommandLine LanguageClient.Protocol

variable {text : String} {position : Position} {offset : Nat}

/-- The line of a diagnostic at an offset that has a position begins with that position. -/
theorem diagnosticLine_of_toPosition
    (isPosition : (Snapshot.ofText text).toPosition offset = .ok position)
    (lineFits : position.line < Position.limit) (characterFits : position.character < Position.limit)
    (severity : Severity) (message : String) :
    ∃ line, diagnosticLine (Snapshot.ofText text) offset severity message = .ok line ∧
      readPosition? (beforeSecondColon line) = some position := by
  refine ⟨Json.intText position.line ++ ":" ++ Json.intText position.character ++ ": " ++
    (severity.name ++ ": " ++ message), ?_, ?_⟩
  · simp [diagnosticLine, isPosition, bind, Except.bind, pure, Except.pure, String.append_assoc]
  · rw [beforeSecondColon_eq, readPosition?_intText lineFits characterFits]

/-- Every record of a text that is not too long is printed, and what stands before the second colon
is read back as the position of the offset at which the record starts, which resolves to that offset
again. The record shows a diagnostic of the server; a position of the server that lies within its line
is the one that is printed, and one that spills over is printed by one of a later line. -/
theorem printed_position_readBack
    (text : String) (short : text.length < Position.limit) (diagnostics : List Diagnostic)
    (record : PlacedDiagnostic)
    (isRecord : record ∈ placeDiagnostics (Snapshot.ofText text) diagnostics) :
    ∃ line position, record.report (Snapshot.ofText text) = .ok line ∧
      readPosition? (beforeSecondColon line) = some position ∧
      (Snapshot.ofText text).toOffset position = .ok record.start ∧
      (Snapshot.ofText text).toPosition record.start = .ok position ∧
      ∃ diagnostic ∈ diagnostics, record.Shows (Snapshot.ofText text) diagnostic ∧
        ((Snapshot.ofText text).holds diagnostic.range.first = true →
          position = diagnostic.range.first) ∧
        ((Snapshot.ofText text).holds diagnostic.range.first = false →
          diagnostic.range.first.line < position.line) := by
  have member := (placeDiagnostics_perm (Snapshot.ofText text) diagnostics).mem_iff.mp isRecord
  obtain ⟨diagnostic, given, isShown⟩ := shows_of_mem_placed member
  obtain ⟨position, isPosition, -, resolves, stays, spills⟩ :=
    Snapshot.toPosition_of_toOffset isShown.start
  obtain ⟨-, -, -, inside⟩ := Snapshot.toOffset_eq_ok_iff.mp isShown.start
  rw [String.length_toList] at inside
  obtain ⟨lineBound, characterBound⟩ := Snapshot.le_of_toPosition isPosition
  obtain ⟨line, isLine, isRead⟩ := diagnosticLine_of_toPosition isPosition (by omega) (by omega)
    record.severity record.message
  exact ⟨line, position, isLine, isRead, resolves, isPosition, diagnostic, given, isShown, stays,
    spills⟩

/-- A remark whose start is given by a character behind the end of its line. -/
def overlongDiagnostic : Diagnostic where
  range := ⟨⟨0, 4⟩, ⟨1, 1⟩⟩
  message := "unused: name"
  severity := some .warning
  source := none
  code := .null

def overlongRecord : PlacedDiagnostic where
  start := 4
  stop := 4
  severity := .warning
  message := "unused: name"
  source := none
  code := .null

theorem printed_position_readBack_overlong :
    "a\r\nb".length < Position.limit ∧
      overlongRecord ∈ placeDiagnostics (Snapshot.ofText "a\r\nb") [overlongDiagnostic] ∧
      ∃ line position, overlongRecord.report (Snapshot.ofText "a\r\nb") = .ok line ∧
        readPosition? (beforeSecondColon line) = some position ∧ position ≠ ⟨0, 4⟩ ∧
        (Snapshot.ofText "a\r\nb").toOffset position = .ok 4 ∧
        (Snapshot.ofText "a\r\nb").toPosition (4 : Nat) = .ok position := by
  have short : "a\r\nb".length < Position.limit := by decide
  have isRecord : overlongRecord ∈
      placeDiagnostics (Snapshot.ofText "a\r\nb") [overlongDiagnostic] :=
    (placeDiagnostics_perm _ _).mem_iff.mpr (by decide)
  obtain ⟨line, position, isLine, isRead, resolves, isPosition, diagnostic, given, -, -, spills⟩ :=
    printed_position_readBack "a\r\nb" short [overlongDiagnostic] overlongRecord isRecord
  obtain rfl := List.mem_singleton.mp given
  have later : 0 < position.line := spills (by decide)
  refine ⟨short, isRecord, line, position, isLine, isRead, ?_, resolves, isPosition⟩
  rintro rfl
  cases later

end Document

end LanguageClient
