import Mathlib.Algebra.Order.Field.Basic
import Mathlib.Algebra.Order.Field.Rat
import Mathlib.Order.WithBot
import LanguageClient.Proofs.Editor.Waits

/-!
# Accepted options

Options that pass all checks have the address of a WebSocket, a document and a language, and waiting
times that a timer can wait for, unless these are not numbers: what is not a number is neither zero nor
less, so no check refuses it. An editor gets its waiting times from its options and never changes them.
So with accepted options no timer is ever armed with less than zero seconds.
-/

namespace LanguageClient

open LanguageClient.Json

/-! ## Exact values -/

namespace Number

/-- Rational numbers between two infinities. -/
abbrev Extended := WithBot (WithTop Rat)

def Extended.ofRat (value : Rat) : Extended := ((value : WithTop Rat) : Extended)

theorem Extended.ofRat_nonpos_iff {value : Rat} : Extended.ofRat value ≤ 0 ↔ value ≤ 0 :=
  WithBot.coe_le_coe.trans WithTop.coe_le_coe

theorem Extended.ofRat_neg_iff {value : Rat} : Extended.ofRat value < 0 ↔ value < 0 :=
  WithBot.coe_lt_coe.trans WithTop.coe_lt_coe

theorem Extended.zero_lt_top : (0 : Extended) < ⊤ := WithBot.coe_lt_coe.mpr (WithTop.coe_lt_top 0)

/-- The exact value of a number; an infinity is beyond all others. What is not a number has none. -/
def Binary64.value? : Binary64 → Option Extended
  | .finite negative significand exponent =>
    (Binary64.finite negative significand exponent).toRat?.map Extended.ofRat
  | .infinite false => some ⊤
  | .infinite true => some ⊥
  | .nan => none

namespace Quantity

/-- The exact value of a quantity, unless it is not a number. -/
def value? : Quantity → Option Extended
  | .bool value => some (Extended.ofRat (if value then 1 else 0))
  | .int value => some (Extended.ofRat value)
  | .float value => value.value?

/-- A quantity compares greater than zero. -/
def IsAboveZero (quantity : Quantity) : Prop := ∃ value, quantity.value? = some value ∧ 0 < value

/-- A quantity compares greater than or equal to zero. -/
def IsFromZero (quantity : Quantity) : Prop := ∃ value, quantity.value? = some value ∧ 0 ≤ value

end Quantity

section Comparison

variable {negative : Bool} {significand : Nat} {exponent : Int}

theorem magnitude_nonneg (significand : Nat) (exponent : Int) :
    0 ≤ (significand : Rat) * 2 ^ exponent :=
  mul_nonneg (Nat.cast_nonneg significand) (Rat.zpow_pos (by decide)).le

theorem magnitude_eq_zero_iff : (significand : Rat) * 2 ^ exponent = 0 ↔ significand = 0 := by
  have positive : (0 : Rat) < 2 ^ exponent := Rat.zpow_pos (by decide)
  rw [mul_eq_zero, Nat.cast_eq_zero]
  exact or_iff_left positive.ne'

/-- The sign of a finite number tells on which side of zero its value is. -/
theorem Binary64.finite_cases (negative : Bool) (significand : Nat) (exponent : Int) :
    ∃ value : Rat, (Binary64.finite negative significand exponent).toRat? = some value ∧
      (value < 0 ↔ negative = true ∧ significand ≠ 0) ∧ (value = 0 ↔ significand = 0) := by
  have isZero : (significand : Rat) * 2 ^ exponent = 0 ↔ significand = 0 := magnitude_eq_zero_iff
  have nonneg := magnitude_nonneg significand exponent
  cases negative with
  | false =>
      refine ⟨_, rfl, ?_, isZero⟩
      simpa using nonneg
  | true =>
      refine ⟨_, rfl, ?_, neg_eq_zero.trans isZero⟩
      have below : -((significand : Rat) * 2 ^ exponent) < 0 ↔ significand ≠ 0 := by
        rw [neg_lt_zero, nonneg.lt_iff_ne']
        exact not_congr isZero
      simpa using below

end Comparison

/-- The comparisons of the checks are those of the exact value; what is not a number passes them. -/
theorem Quantity.value?_cases (quantity : Quantity) :
    quantity = .float .nan ∧ quantity.isAtMostZero = false ∧ quantity.isNegative = false ∨
      ∃ value, quantity.value? = some value ∧
        (quantity.isAtMostZero = true ↔ value ≤ 0) ∧ (quantity.isNegative = true ↔ value < 0) := by
  cases quantity with
  | bool value =>
      refine Or.inr ⟨_, rfl, ?_, ?_⟩
      · rw [Extended.ofRat_nonpos_iff]
        cases value <;> simp [isAtMostZero]
      · rw [Extended.ofRat_neg_iff]
        cases value <;> simp [isNegative]
  | int value =>
      refine Or.inr ⟨_, rfl, ?_, ?_⟩
      · rw [Extended.ofRat_nonpos_iff]
        simp [isAtMostZero]
      · rw [Extended.ofRat_neg_iff]
        simp [isNegative]
  | float value =>
      cases value with
      | nan => exact Or.inl ⟨rfl, rfl, rfl⟩
      | infinite negative =>
          cases negative with
          | false =>
              have above := Extended.zero_lt_top
              refine Or.inr ⟨⊤, rfl, ?_, ?_⟩
              · simp [isAtMostZero, Binary64.isNegative, Binary64.isZero, above.ne]
              · simp [isNegative, Binary64.isNegative]
          | true =>
              refine Or.inr ⟨⊥, rfl, ?_, ?_⟩
              · simp [isAtMostZero, Binary64.isNegative]
              · simp [isNegative, Binary64.isNegative]
      | finite negative significand exponent =>
          obtain ⟨value, isValue, below, isZero⟩ :=
            Binary64.finite_cases negative significand exponent
          refine Or.inr ⟨Extended.ofRat value, ?_, ?_, ?_⟩
          · rw [value?, Binary64.value?, isValue, Option.map_some]
          · rw [Extended.ofRat_nonpos_iff, le_iff_lt_or_eq, below, isZero]
            simp [isAtMostZero, Binary64.isNegative, Binary64.isZero]
          · rw [Extended.ofRat_neg_iff, below]
            simp [isNegative, Binary64.isNegative]

/-- A quantity that is not refused as zero or less is above zero, or it is not a number. -/
theorem Quantity.isAtMostZero_eq_false_iff {quantity : Quantity} :
    quantity.isAtMostZero = false ↔ quantity = .float .nan ∨ quantity.IsAboveZero := by
  rcases quantity.value?_cases with ⟨rfl, passes, -⟩ | ⟨value, isValue, atMost, -⟩
  · simp [passes]
  · have isNumber : quantity ≠ .float .nan := by
      rintro rfl
      cases isValue
    simp [IsAboveZero, isValue, isNumber, ← Bool.not_eq_true, atMost]

theorem Quantity.isNegative_eq_false_iff {quantity : Quantity} :
    quantity.isNegative = false ↔ quantity = .float .nan ∨ quantity.IsFromZero := by
  rcases quantity.value?_cases with ⟨rfl, -, passes⟩ | ⟨value, isValue, -, below⟩
  · simp [passes]
  · have isNumber : quantity ≠ .float .nan := by
      rintro rfl
      cases isValue
    simp [IsFromZero, isValue, isNumber, ← Bool.not_eq_true, below]

theorem Quantity.IsAboveZero.isFromZero {quantity : Quantity} (above : quantity.IsAboveZero) :
    quantity.IsFromZero :=
  above.imp fun _ comparison => ⟨comparison.1, comparison.2.le⟩

/-- A rounded fraction is a number with the sign asked for; it may have become infinite. -/
theorem Binary64.ofRatio_cases (negative : Bool) (numerator denominator : Nat) :
    ofRatio negative numerator denominator = .infinite negative ∨
      ∃ significand exponent,
        ofRatio negative numerator denominator = .finite negative significand exponent := by
  have sized (tooLarge : Prop) [Decidable tooLarge] (significand : Nat) (exponent : Int) :
      (if tooLarge then infinite negative else finite negative significand exponent) =
          .infinite negative ∨
        ∃ kept power,
          (if tooLarge then infinite negative else finite negative significand exponent) =
            .finite negative kept power := by
    split
    · exact Or.inl rfl
    · exact Or.inr ⟨_, _, rfl⟩
  unfold ofRatio
  split
  · exact Or.inr ⟨0, -1074, rfl⟩
  · exact sized _ _ _

theorem Quantity.isFromZero_of_not_negative {quantity : Quantity}
    (passes : quantity.isNegative = false) (isNumber : quantity ≠ .float .nan) :
    quantity.IsFromZero :=
  (isNegative_eq_false_iff.mp passes).resolve_left isNumber

theorem Binary64.isFromZero_ofRatio (numerator denominator : Nat) :
    (Quantity.float (ofRatio false numerator denominator)).IsFromZero := by
  rcases ofRatio_cases false numerator denominator with isInfinite | ⟨significand, exponent, isFinite⟩
  · rw [isInfinite]
    exact Quantity.isFromZero_of_not_negative rfl nofun
  · rw [isFinite]
    exact Quantity.isFromZero_of_not_negative rfl nofun

theorem Quantity.isFromZero_int {value : Int} (isNatural : 0 ≤ value) :
    (Quantity.int value).IsFromZero :=
  isFromZero_of_not_negative (by simpa [isNegative] using isNatural) nofun

/-- A multiple of a quantity above zero compares greater than or equal to zero. -/
theorem Quantity.IsAboveZero.scale {quantity : Quantity} (above : quantity.IsAboveZero) {factor : Nat}
    (something : factor ≠ 0) : (quantity.scale factor).IsFromZero := by
  have passes : quantity.isAtMostZero = false := isAtMostZero_eq_false_iff.mpr (Or.inr above)
  cases quantity with
  | bool value => exact isFromZero_int (by split <;> omega)
  | int value =>
      have positive : 0 < value := by simpa [isAtMostZero] using passes
      exact isFromZero_int (Int.mul_nonneg positive.le (Int.natCast_nonneg factor))
  | float value =>
      cases value with
      | nan =>
          obtain ⟨_, isValue, -⟩ := above
          cases isValue
      | infinite negative =>
          obtain rfl : negative = false := by
            simpa [isAtMostZero, Binary64.isNegative, Binary64.isZero] using passes
          have isInfinite : (Binary64.infinite false).scale factor = .infinite false := by
            simp [Binary64.scale, something]
          rw [Quantity.scale, isInfinite]
          exact isFromZero_of_not_negative rfl nofun
      | finite negative significand exponent =>
          have signed : negative = false := by
            simp only [isAtMostZero, Binary64.isNegative, Binary64.isZero, Bool.or_eq_false_iff,
              Bool.and_eq_false_iff, bne_eq_false_iff_eq, decide_eq_false_iff_not] at passes
            exact passes.1.resolve_right passes.2
          subst signed
          exact Binary64.isFromZero_ofRatio _ _

end Number

/-! ## Accepted options -/

/-- A folder was read from a value: an object with its uri and its name. -/
structure WorkspaceFolder.IsGivenBy (folder : WorkspaceFolder) (given : Value) : Prop where
  uri : given.get? "uri" = some (.string folder.uri)
  name : given.get? "name" = some (.string folder.name)

namespace Options

open LanguageClient.Number LanguageClient.Protocol

/-- Options that pass all checks. What is not a number passes those of the waiting times. -/
structure IsAccepted (options : Options) : Prop where
  address : "ws://".toList <+: options.serverUri.toList ∨ "wss://".toList <+: options.serverUri.toList
  document : options.documentUri.truthy = true
  language : options.languageId.truthy = true
  timeout : options.timeout = .float .nan ∨ options.timeout.IsAboveZero
  debounce : options.debounce = .float .nan ∨ options.debounce.IsFromZero

/-- What an editor with some options waits for: an answer to a request, the answer to the handshake,
and further edits. -/
def waits (options : Options) : List Quantity :=
  [options.timeout, options.timeout.scale handshakeFactor, options.debounce]

/-- There are no folders, or one folder for each item that is given, in the same order. -/
inductive FoldersGivenBy (given : Value) : Option (List WorkspaceFolder) → Prop where
  | absent (isNull : given = .null) : FoldersGivenBy given none
  | listed {items : List Value} {found : List WorkspaceFolder} (isSequence : items? given = some items)
      (each : List.Forall₂ WorkspaceFolder.IsGivenBy found items) : FoldersGivenBy given (some found)

theorem isWebSocketUri_iff {uri : String} :
    isWebSocketUri uri = true ↔ "ws://".toList <+: uri.toList ∨ "wss://".toList <+: uri.toList := by
  rw [isWebSocketUri, Bool.or_eq_true, List.isPrefixOf_iff_prefix, List.isPrefixOf_iff_prefix]

/-- Exactly the options that pass all checks are accepted, and they stay as they are. -/
theorem check_eq_ok_iff {options result : Options} :
    check options = .ok result ↔ result = options ∧ options.IsAccepted := by
  have checks : options.IsAccepted ↔ isWebSocketUri options.serverUri = true ∧
      options.documentUri.truthy = true ∧ options.languageId.truthy = true ∧
      options.timeout.isAtMostZero = false ∧ options.debounce.isNegative = false := by
    rw [isWebSocketUri_iff, Quantity.isAtMostZero_eq_false_iff, Quantity.isNegative_eq_false_iff]
    exact ⟨fun ⟨address, document, language, timeout, debounce⟩ =>
      ⟨address, document, language, timeout, debounce⟩,
      fun ⟨address, document, language, timeout, debounce⟩ =>
        ⟨address, document, language, timeout, debounce⟩⟩
  rw [checks]
  unfold check
  grind

/-- Each wait of accepted options is a number that a timer can wait for, unless the timeout or the
debounce time is not a number. -/
theorem IsAccepted.wait_cases
    {options : Options} (accepted : options.IsAccepted) {wait : Quantity}
    (isWait : wait ∈ options.waits) :
    wait.IsFromZero ∨
      wait = .float .nan ∧ (options.timeout = .float .nan ∨ options.debounce = .float .nan) := by
  obtain ⟨-, -, -, timeout, debounce⟩ := accepted
  simp only [waits, List.mem_cons, List.not_mem_nil, or_false] at isWait
  rcases isWait with rfl | rfl | rfl
  · exact timeout.symm.imp Quantity.IsAboveZero.isFromZero fun isNan => ⟨isNan, Or.inl isNan⟩
  · rcases timeout with isNan | above
    · exact Or.inr ⟨by rw [isNan]; rfl, Or.inl isNan⟩
    · exact Or.inl (above.scale (by decide))
  · exact debounce.symm.imp id fun isNan => ⟨isNan, Or.inr isNan⟩

/-! ## Options of a host -/

theorem bind_eq_ok_iff
    {Fault First Result : Type} {first : Except Fault First} {next : First → Except Fault Result}
    {result : Result} :
    (first >>= next) = .ok result ↔ ∃ found, first = .ok found ∧ next found = .ok result := by
  cases first with
  | error fault => simp [bind, Except.bind]
  | ok found => simp [bind, Except.bind]

theorem require_eq_ok_iff {key : String} {value found : Value} :
    require key value = .ok found ↔ value.get? key = some found := by
  unfold require
  cases value.get? key <;> simp

theorem folder_isGivenBy {given : Value} {found : WorkspaceFolder} (isRead : folder given = .ok found) :
    found.IsGivenBy given := by
  cases given with
  | object members =>
      simp only [folder, bind_eq_ok_iff, require_eq_ok_iff] at isRead
      obtain ⟨uri, isUri, name, isName, isRead⟩ := isRead
      split at isRead
      · obtain rfl := Except.ok.inj isRead
        exact ⟨isUri, isName⟩
      · cases isRead
  | _ => cases isRead

theorem mapM_folder_isGivenBy
    {items : List Value} {found : List WorkspaceFolder} (areRead : items.mapM folder = .ok found) :
    List.Forall₂ WorkspaceFolder.IsGivenBy found items := by
  induction items generalizing found with
  | nil =>
      obtain rfl := Except.ok.inj areRead
      exact .nil
  | cons item rest inductionHypothesis =>
      simp only [List.mapM_cons, bind_eq_ok_iff] at areRead
      obtain ⟨first, isFirst, others, areOthers, isAll⟩ := areRead
      obtain rfl := Except.ok.inj isAll
      exact .cons (folder_isGivenBy isFirst) (inductionHypothesis areOthers)

theorem folders_givenBy
    {given : Value} {found : Option (List WorkspaceFolder)} (areRead : folders given = .ok found) :
    FoldersGivenBy given found := by
  cases given with
  | null =>
      obtain rfl := Except.ok.inj areRead
      exact .absent rfl
  | array items =>
      cases result : items.mapM folder with
      | error fault =>
          rw [folders, result] at areRead
          cases areRead
      | ok list =>
          rw [folders, result] at areRead
          obtain rfl := Except.ok.inj areRead
          exact .listed rfl (mapM_folder_isGivenBy result)
  | string text =>
      rw [folders] at areRead
      split at areRead
      · rename_i isEmpty
        obtain rfl := Except.ok.inj areRead
        have noItems : items? (.string text) = some [] := by rw [isEmpty]; rfl
        exact .listed noItems .nil
      · cases areRead
  | object members =>
      rw [folders] at areRead
      split at areRead
      · rename_i isEmpty
        obtain rfl := Except.ok.inj areRead
        have noItems : items? (.object members) = some [] := by
          rw [List.isEmpty_iff.mp isEmpty]
          rfl
        exact .listed noItems .nil
      · cases areRead
  | bool value => cases areRead
  | int value => cases areRead
  | float value => cases areRead

/-- Options of a host are accepted if they pass the checks, and their folders are those given. -/
theorem ofValue_isAccepted {value : Value} {options : Options} (isRead : ofValue value = .ok options) :
    options.IsAccepted ∧
      FoldersGivenBy ((value.get? "workspaceFolders").getD .null) options.workspaceFolders := by
  cases value with
  | object members =>
      simp only [ofValue, ofMembers, bind_eq_ok_iff] at isRead
      obtain ⟨list, isList, address, -, document, -, language, -, timeout, -, debounce, -, isRead⟩ :=
        isRead
      split at isRead
      · obtain ⟨rfl, accepted⟩ := check_eq_ok_iff.mp isRead
        exact ⟨accepted, folders_givenBy isList⟩
      · cases isRead
  | _ => cases isRead

end Options

/-! ## Editors with accepted options -/

namespace Client

open LanguageClient.Loop LanguageClient.Number LanguageClient.Client.System

section Runs

variable {inputs : Nat → Input}

/-- Each timer of a run was armed by an input, with one of the waits that the options tell. -/
theorem EditorSetup.timers_wait
    (setup : EditorSetup) (allowed : ∀ place, (inputs place).IsForEditor) (count : Nat) :
    let run := setup.created.after inputs
    (run count).ServesEditors ∧ (run count).waits = setup.options.waits ∧
      ∀ timer ∈ (run count).loop.timers, ∃ place < count, ∃ wait ∈ setup.options.waits,
        (run place).WaitsFor timer wait := by
  intro run
  induction count with
  | zero =>
      refine ⟨fun task found entry => ?_, rfl, fun timer member => ?_⟩
      · cases entry
      · cases member
  | succ count inductionHypothesis =>
      obtain ⟨serves, sameWaits, timers⟩ := inductionHypothesis
      obtain ⟨kept, armed⟩ := step_waits serves (allowed count)
      refine ⟨serves.step (allowed count), kept.trans sameWaits, fun timer member => ?_⟩
      -- A timer that was there before was armed by an earlier input; a new one by this input.
      rcases armed timer member with earlier | ⟨wait, isWait, waits⟩
      · obtain ⟨place, before, armedThen⟩ := timers timer earlier
        exact ⟨place, before.trans (Nat.lt_succ_self count), armedThen⟩
      · exact ⟨count, Nat.lt_succ_self count, wait, sameWaits ▸ isWait, waits⟩

/-- Options that are accepted have the address of a WebSocket, a document and a language, and one
folder for each that is given, in the same order. The timeout is greater than zero and the debounce
time at least zero, unless they are not a number. Each timer that an editor with these options ever
arms, whatever happens to it, waits for a number that is at least zero, unless one of the two is not
a number. -/
theorem accepted_options_usable
    {value : Value} {options : Options} (accepted : Options.ofValue value = .ok options) :
    options.IsAccepted ∧
      Options.FoldersGivenBy ((value.get? "workspaceFolders").getD .null)
        options.workspaceFolders ∧
      ∀ (setup : EditorSetup) (inputs : Nat → Input), setup.options = options →
        (∀ place, (inputs place).IsForEditor) →
          ∀ count, ∀ timer ∈ (setup.created.after inputs count).loop.timers,
            ∃ place < count, ∃ wait ∈ options.waits,
              (setup.created.after inputs place).WaitsFor timer wait ∧
                (wait.IsFromZero ∨ wait = .float .nan ∧
                  (options.timeout = .float .nan ∨ options.debounce = .float .nan)) := by
  obtain ⟨isAccepted, folders⟩ := Options.ofValue_isAccepted accepted
  refine ⟨isAccepted, folders, ?_⟩
  rintro setup inputs rfl allowed count timer member
  obtain ⟨place, before, wait, isWait, waits⟩ := (setup.timers_wait allowed count).2.2 timer member
  exact ⟨place, before, wait, isWait, waits, isAccepted.wait_cases isWait⟩

end Runs

/-! ## A timeout that is not a number -/

/-- The options of a host whose timeout is not a number. -/
def timelessOptions : Value :=
  .object [("serverUri", .string "ws://localhost:3000/lsp"),
    ("documentUri", .string "file:///test/doc.py"), ("languageId", .string "python"),
    ("workspaceFolders", .array [.object [("uri", .string "file:///test"), ("name", .string "t")]]),
    ("timeout", .string "nan")]

/-- An editor with these options. -/
def timelessEditor : EditorSetup where
  resolution := 0
  options := {
    serverUri := "ws://localhost:3000/lsp"
    documentUri := .string "file:///test/doc.py"
    languageId := .string "python"
    workspaceFolders := some [{ uri := "file:///test", name := "t" }]
    timeout := .float .nan
    debounce := Options.defaultDebounce }
  text := ""
  listener := .nobody
  unreachable := none

/-- The editor is started. -/
def timelessStart : Nat → Input
  | 0 => .call (.start 0)
  | _ => .turn

theorem timelessStart_isForEditor (place : Nat) : (timelessStart place).IsForEditor := by
  unfold timelessStart
  split <;> first | rfl | trivial

/-- The options are accepted, and the handshake arms a timer that is due at once. -/
theorem accepted_options_usable_timeless :
    Options.ofValue timelessOptions = .ok timelessEditor.options ∧
      timelessEditor.options.timeout = .float .nan ∧ timelessEditor.options.IsAccepted ∧
      (∀ place, (timelessStart place).IsForEditor) ∧
      ∃ timer ∈ (timelessEditor.created.after timelessStart 2).loop.timers,
        timer.deadline = some 0 ∧ ∃ place < 2, ∃ wait ∈ timelessEditor.options.waits,
          (timelessEditor.created.after timelessStart place).WaitsFor timer wait := by
  have read : Options.ofValue timelessOptions = .ok timelessEditor.options := by decide +kernel
  have armed : (timelessEditor.created.after timelessStart 2).loop.timers =
      [{ id := 0, deadline := some 0, action := .expire 0 "1" }] := by
    decide +kernel
  obtain ⟨isAccepted, -, waits⟩ := accepted_options_usable read
  obtain ⟨place, before, wait, isWait, waitsFor, -⟩ :=
    waits timelessEditor timelessStart rfl timelessStart_isForEditor 2 _
      (armed ▸ List.mem_singleton_self _)
  exact ⟨read, rfl, isAccepted, timelessStart_isForEditor, _, armed ▸ List.mem_singleton_self _, rfl,
    place, before, wait, isWait, waitsFor⟩

end Client

end LanguageClient
