import LanguageClient.Document.PlacedDiagnostic
import LanguageClient.Proofs.Document.Positions
import LanguageClient.Proofs.StableOrder
import Mathlib.Data.List.Perm.Basic

/-!
# Diagnostics at offsets

The diagnostics of a text are shown by one record for each whose two ends resolve. The records stand in
the order of their starts, and those that start at one offset in the order of the server.
-/

namespace LanguageClient.Document

open LanguageClient.Protocol

/-- A record shows a diagnostic at the offsets of its ends. -/
structure PlacedDiagnostic.Shows
    (snapshot : Snapshot) (diagnostic : Diagnostic) (record : PlacedDiagnostic) : Prop where
  start : snapshot.toOffset diagnostic.range.first = .ok record.start
  stop : snapshot.toOffset diagnostic.range.last = .ok record.stop
  severity : record.severity = Severity.ofServer diagnostic.severity
  message : record.message = diagnostic.message
  source : record.source = diagnostic.source
  code : record.code = diagnostic.code

/-- Whether both ends of a diagnostic resolve. -/
def resolves (snapshot : Snapshot) (diagnostic : Diagnostic) : Bool :=
  (snapshot.toOffset diagnostic.range.first).isOk && (snapshot.toOffset diagnostic.range.last).isOk

/-- Whether both ends of a diagnostic resolve, the first one to a given offset. -/
def resolvesFrom (snapshot : Snapshot) (offset : Nat) (diagnostic : Diagnostic) : Bool :=
  resolves snapshot diagnostic && (snapshot.toOffset diagnostic.range.first).toOption == some offset

section Records

variable {snapshot : Snapshot} {diagnostic : Diagnostic} {record : PlacedDiagnostic}

/-- A diagnostic whose ends resolve has a record that shows it, and no other diagnostic has one. -/
theorem placeDiagnostic_cases (snapshot : Snapshot) (diagnostic : Diagnostic) :
    (resolves snapshot diagnostic = true ∧
      ∃ record, (placeDiagnostic snapshot diagnostic).toOption = some record ∧
        record.Shows snapshot diagnostic) ∨
      resolves snapshot diagnostic = false ∧ (placeDiagnostic snapshot diagnostic).toOption = none := by
  cases isStart : snapshot.toOffset diagnostic.range.first with
  | error fault =>
      refine Or.inr ⟨by simp [resolves, isStart, Except.isOk, Except.toBool], ?_⟩
      simp [placeDiagnostic, isStart, bind, Except.bind, Except.toOption]
  | ok start =>
      cases isStop : snapshot.toOffset diagnostic.range.last with
      | error fault =>
          refine Or.inr ⟨by simp [resolves, isStop, Except.isOk, Except.toBool], ?_⟩
          simp [placeDiagnostic, isStart, isStop, bind, Except.bind, Except.toOption]
      | ok stop =>
          refine Or.inl ⟨by simp [resolves, isStart, isStop, Except.isOk, Except.toBool], ?_⟩
          simp only [placeDiagnostic, isStart, isStop, bind, Except.bind, pure, Except.pure,
            Except.toOption]
          exact ⟨_, rfl, isStart, isStop, rfl, rfl, rfl, rfl⟩

theorem PlacedDiagnostic.Shows.resolvesFrom_iff
    (shows_ : record.Shows snapshot diagnostic) (offset : Nat) :
    resolvesFrom snapshot offset diagnostic = true ↔ record.start = offset := by
  simp [resolvesFrom, resolves, shows_.start, shows_.stop, Except.isOk, Except.toBool,
    Except.toOption]

/-- The records of a list of diagnostics, before they are put in order. -/
def placed (snapshot : Snapshot) (diagnostics : List Diagnostic) : List PlacedDiagnostic :=
  diagnostics.filterMap fun diagnostic => (placeDiagnostic snapshot diagnostic).toOption

theorem placed_cons (snapshot : Snapshot) (diagnostic : Diagnostic) (others : List Diagnostic) :
    placed snapshot (diagnostic :: others) =
      (placeDiagnostic snapshot diagnostic).toOption.toList ++ placed snapshot others := by
  simp only [placed, List.filterMap_cons]
  split <;> rename_i isRecord <;> simp only [isRecord, Option.toList_none, Option.toList_some] <;> rfl

/-- Every record shows one of the diagnostics. -/
theorem shows_of_mem_placed
    {diagnostics : List Diagnostic} (member : record ∈ placed snapshot diagnostics) :
    ∃ diagnostic ∈ diagnostics, record.Shows snapshot diagnostic := by
  obtain ⟨diagnostic, inside, isRecord⟩ := List.mem_filterMap.mp member
  rcases placeDiagnostic_cases snapshot diagnostic with ⟨-, other, isOther, shown⟩ | ⟨-, nothing⟩
  · obtain rfl := Option.some.inj (isOther.symm.trans isRecord)
    exact ⟨diagnostic, inside, shown⟩
  · rw [nothing] at isRecord
    cases isRecord

theorem placed_shows (snapshot : Snapshot) (diagnostics : List Diagnostic) :
    List.Forall₂ (PlacedDiagnostic.Shows snapshot) (diagnostics.filter (resolves snapshot))
      (placed snapshot diagnostics) := by
  induction diagnostics with
  | nil => exact .nil
  | cons diagnostic others inductionHypothesis =>
      rcases placeDiagnostic_cases snapshot diagnostic with
        ⟨resolved, record, isRecord, shown⟩ | ⟨unresolved, nothing⟩
      · rw [List.filter_cons_of_pos resolved, placed_cons, isRecord]
        exact .cons shown inductionHypothesis
      · rw [List.filter_cons_of_neg (by simp [unresolved]), placed_cons, nothing]
        exact inductionHypothesis

/-- The records that start at an offset show the diagnostics that start there, one by one. -/
theorem placed_shows_from (snapshot : Snapshot) (diagnostics : List Diagnostic) (offset : Nat) :
    List.Forall₂ (PlacedDiagnostic.Shows snapshot)
      (diagnostics.filter (resolvesFrom snapshot offset))
      ((placed snapshot diagnostics).filter fun record => record.start = offset) := by
  induction diagnostics with
  | nil => exact .nil
  | cons diagnostic others inductionHypothesis =>
      rcases placeDiagnostic_cases snapshot diagnostic with
        ⟨resolved, record, isRecord, shown⟩ | ⟨unresolved, nothing⟩
      · rw [placed_cons, isRecord, Option.toList_some, List.singleton_append]
        by_cases startsHere : record.start = offset
        · rw [List.filter_cons_of_pos ((shown.resolvesFrom_iff offset).mpr startsHere),
            List.filter_cons_of_pos (p := fun record : PlacedDiagnostic => decide (record.start = offset))
              (decide_eq_true startsHere)]
          exact .cons shown inductionHypothesis
        · rw [List.filter_cons_of_neg (mt (shown.resolvesFrom_iff offset).mp startsHere),
            List.filter_cons_of_neg (by simpa using startsHere)]
          exact inductionHypothesis
      · rw [List.filter_cons_of_neg (by simp [resolvesFrom, unresolved]), placed_cons, nothing]
        exact inductionHypothesis

end Records

/-! ## The order -/

section Order

variable (snapshot : Snapshot) (diagnostics : List Diagnostic)

theorem startOrder_trans (first second third : PlacedDiagnostic)
    (earlier : decide (first.start ≤ second.start) = true)
    (later : decide (second.start ≤ third.start) = true) :
    decide (first.start ≤ third.start) = true :=
  decide_eq_true (Nat.le_trans (of_decide_eq_true earlier) (of_decide_eq_true later))

theorem startOrder_total (first second : PlacedDiagnostic) :
    (decide (first.start ≤ second.start) || decide (second.start ≤ first.start)) = true := by
  simpa using Nat.le_total first.start second.start

theorem placeDiagnostics_perm : (placeDiagnostics snapshot diagnostics).Perm (placed snapshot diagnostics) :=
  List.mergeSort_perm _ _

theorem placeDiagnostics_pairwise :
    (placeDiagnostics snapshot diagnostics).Pairwise fun first second => first.start ≤ second.start :=
  (List.pairwise_mergeSort startOrder_trans startOrder_total _).imp of_decide_eq_true

/-- Records that start at the same offset keep their order. -/
theorem filter_placeDiagnostics (offset : Nat) :
    (placeDiagnostics snapshot diagnostics).filter (fun record => record.start = offset) =
      (placed snapshot diagnostics).filter fun record => record.start = offset := by
  refine filter_mergeSort _ startOrder_trans startOrder_total ?_ _
  intro first second isFirst isSecond
  rw [of_decide_eq_true isFirst, of_decide_eq_true isSecond]
  exact decide_eq_true (Nat.le_refl offset)

/-- The records show exactly the diagnostics that resolve, each of them once. -/
theorem placeDiagnostics_shows :
    ∃ shown, shown.Perm (diagnostics.filter (resolves snapshot)) ∧
      List.Forall₂ (PlacedDiagnostic.Shows snapshot) shown (placeDiagnostics snapshot diagnostics) := by
  have composed : Relation.Comp (List.Forall₂ (PlacedDiagnostic.Shows snapshot)) List.Perm
      (diagnostics.filter (resolves snapshot)) (placeDiagnostics snapshot diagnostics) :=
    ⟨_, placed_shows snapshot diagnostics, (placeDiagnostics_perm snapshot diagnostics).symm⟩
  rw [List.forall₂_comp_perm_eq_perm_comp_forall₂] at composed
  obtain ⟨shown, sameOnes, oneByOne⟩ := composed
  exact ⟨shown, sameOnes.symm, oneByOne⟩

end Order

/-- Every diagnostic whose two ends resolve against a text has exactly one record, with its message, source
and code and the offsets of its ends, and no other diagnostic has any. The records stand in the order of
their starts, which lie in the text as their ends do, and those that start at one offset stand in the
order of the server. -/
theorem placeDiagnostics_stable (text : String) (diagnostics : List Diagnostic) :
    let snapshot := Snapshot.ofText text
    let records := placeDiagnostics snapshot diagnostics
    (∃ shown, shown.Perm (diagnostics.filter (resolves snapshot)) ∧
      List.Forall₂ (PlacedDiagnostic.Shows snapshot) shown records) ∧
    (∀ record ∈ records, record.start ≤ text.toList.length ∧ record.stop ≤ text.toList.length) ∧
    records.Pairwise (fun first second => first.start ≤ second.start) ∧
    ∀ offset, List.Forall₂ (PlacedDiagnostic.Shows snapshot)
      (diagnostics.filter (resolvesFrom snapshot offset))
      (records.filter fun record => record.start = offset) := by
  intro snapshot records
  obtain ⟨shown, sameOnes, oneByOne⟩ := placeDiagnostics_shows snapshot diagnostics
  refine ⟨⟨shown, sameOnes, oneByOne⟩, fun record member => ?_,
    placeDiagnostics_pairwise snapshot diagnostics, fun offset => ?_⟩
  · obtain ⟨diagnostic, _, isShown⟩ :=
      shows_of_mem_placed ((placeDiagnostics_perm snapshot diagnostics).mem_iff.mp member)
    obtain ⟨_, _, _, startInside⟩ := Snapshot.toOffset_eq_ok_iff.mp isShown.start
    obtain ⟨_, _, _, stopInside⟩ := Snapshot.toOffset_eq_ok_iff.mp isShown.stop
    exact ⟨startInside, stopInside⟩
  · rw [filter_placeDiagnostics]
    exact placed_shows_from snapshot diagnostics offset

end LanguageClient.Document
