import LanguageClient.Proofs.Synchronizer.Consistency
import LanguageClient.Proofs.Synchronizer.Stranding

/-!
# The hand-over of unsent edits

While the host cancels nothing but flushes and every other send succeeds, the duty to send an edit
is handed over from the timer to the sends and back. An unsent edit stays covered exactly as long as
no input strands it.
-/

namespace LanguageClient.Client

open LanguageClient.Json LanguageClient.Loop LanguageClient.Number LanguageClient.Protocol

/-- An input of a calm run: the host cancels nothing but flushes, and the peer takes every change. -/
structure System.TakesCalmly (uri : String) (system : System) (input : Input) : Prop where
  allowed : input.OnSynchronizer
  flushes : ∀ task, input = .cancel task → system.Flushes uri task
  succeed : input = .turn → system.SendsSucceed uri

/-- An input takes an edit away from all who would send it, or leaves every edit covered. -/
theorem CalmWorld.step
    {uri : String} {holder : Option (Nat × Change)} {synchronizer : Synchronizer}
    {system : System} {input : Input} (calm : CalmWorld uri holder synchronizer system)
    (takes : system.TakesCalmly uri input) :
    ∃ laterHolder later, CalmWorld uri laterHolder later (system.step input) ∧
      (system.Covers uri → ((system.step input).Covers uri ↔ ¬ system.Strands uri input)) := by
  cases input with
  | turn => exact calm.turn (takes.succeed rfl)
  | edit other text =>
      obtain rfl : other = 0 := takes.allowed
      obtain ⟨later, edited, covers⟩ := calm.edit
      exact ⟨holder, later, edited, fun _ => covers⟩
  | cancel task =>
      obtain ⟨cancelled, covers⟩ := calm.cancel (takes.flushes task rfl)
      exact ⟨holder, synchronizer, cancelled, covers⟩
  | tick moment =>
      obtain ⟨ticked, covers⟩ := calm.tick moment
      exact ⟨holder, synchronizer, ticked, fun before =>
        ⟨fun _ => nofun, fun _ => covers.mpr before⟩⟩
  | _ =>
      obtain ⟨later, covers⟩ :=
        calm.of_event (input_event calm.world takes.allowed nofun nofun nofun nofun)
      exact ⟨holder, synchronizer, later, fun before =>
        ⟨fun _ => nofun, fun _ => covers before⟩⟩

section Runs

variable {uri : String} {start : System} {inputs : Nat → Input}

theorem calm_world
    (world : ∃ holder synchronizer, CalmWorld uri holder synchronizer start) (count : Nat)
    (takes : ∀ place < count, (start.after inputs place).TakesCalmly uri (inputs place)) :
    ∃ holder synchronizer, CalmWorld uri holder synchronizer (start.after inputs count) := by
  induction count with
  | zero =>
      exact world
  | succ count inductionHypothesis =>
      obtain ⟨holder, synchronizer, earlier⟩ :=
        inductionHypothesis fun place inside => takes place (Nat.lt_succ_of_lt inside)
      obtain ⟨laterHolder, later, calm, _⟩ := earlier.step (takes count (Nat.lt_succ_self count))
      exact ⟨laterHolder, later, calm⟩

/-- Edits stay covered along a calm run exactly if no input strands one. -/
theorem covers_run
    (world : ∃ holder synchronizer, CalmWorld uri holder synchronizer start) (count : Nat)
    (takes : ∀ place < count, (start.after inputs place).TakesCalmly uri (inputs place)) :
    (∀ place ≤ count, (start.after inputs place).Covers uri) ↔
      start.Covers uri ∧
        ∀ place < count, ¬ (start.after inputs place).Strands uri (inputs place) := by
  induction count with
  | zero =>
      simp only [Nat.le_zero_eq, forall_eq, Nat.not_lt_zero, false_implies, implies_true, and_true]
      exact Iff.rfl
  | succ count inductionHypothesis =>
      have earlierTakes : ∀ place < count,
          (start.after inputs place).TakesCalmly uri (inputs place) :=
        fun place inside => takes place (Nat.lt_succ_of_lt inside)
      obtain ⟨holder, synchronizer, calm⟩ := calm_world world count earlierTakes
      obtain ⟨_, _, _, steps⟩ := calm.step (takes count (Nat.lt_succ_self count))
      have earlier := inductionHypothesis earlierTakes
      constructor
      · intro covers
        obtain ⟨starts, kept⟩ := earlier.mp fun place inside =>
          covers place (Nat.le_succ_of_le inside)
        refine ⟨starts, fun place inside => ?_⟩
        rcases Nat.lt_succ_iff_lt_or_eq.mp inside with before | rfl
        · exact kept place before
        · exact (steps (covers place (Nat.le_succ place))).mp (covers _ (Nat.le_refl _))
      · rintro ⟨starts, kept⟩ place inside
        have before := earlier.mpr ⟨starts, fun place inside =>
          kept place (Nat.lt_succ_of_lt inside)⟩
        rcases Nat.le_or_eq_of_le_succ inside with earlierPlace | rfl
        · exact before place earlierPlace
        · exact (steps (before count (Nat.le_refl count))).mpr
            (kept count (Nat.lt_succ_self count))

end Runs

/-- A document that is attached with another text than the peer has is covered by the timer, if the
wait can be counted. -/
theorem Attachment.calm_start (attachment : Attachment) :
    ∃ synchronizer, CalmWorld attachment.uri none synchronizer attachment.start ∧
      (attachment.start.Covers attachment.uri ↔
        attachment.text = attachment.openedText ∨ attachment.debounce.delay? ≠ none) := by
  obtain ⟨timer?, world, noTasks, ready, counted, hasTimer⟩ := attachment.start_world True
  have calm : CalmWorld attachment.uri none (attachment.attached timer?) attachment.start := {
    world
    settles := fun task found entry => by
      rw [noTasks] at entry
      cases entry
    timer := hasTimer }
  have notClosing : ¬ attachment.start.IsClosing := by
    rintro ⟨found, member, _⟩
    rw [noTasks] at member
    cases member
  have nobody : ∀ text task, ¬ attachment.start.Transmits attachment.uri text task := by
    rintro text task ⟨found, entry, _⟩
    rw [noTasks] at entry
    cases entry
  refine ⟨_, calm, ?_⟩
  rw [calm.covers_iff]
  simp only [ready, notClosing, nobody, not_false_eq_true, forall_const, exists_false, or_false]
  have unsent : (attachment.attached timer?).dirty = true ↔
      attachment.text ≠ attachment.openedText := decide_eq_true_iff
  by_cases same : attachment.text = attachment.openedText
  · simp [unsent, same]
  · have armed : (attachment.attached timer?).timer ≠ none ↔
        attachment.debounce.delay? ≠ none := by
      rw [← Option.isSome_iff_ne_none, ← Option.isSome_iff_ne_none, ← counted same]
      rfl
    simpa [unsent, same] using armed

/-- Every unsent edit of an open document is covered by an armed timer or by a send exactly as long
as no input strands it. -/
theorem covers_iff_not_strands
    (attachment : Attachment) (inputs : Nat → Input) (count : Nat)
    (takes : ∀ place < count,
      (attachment.start.after inputs place).TakesCalmly attachment.uri (inputs place)) :
    (∀ place ≤ count, (attachment.start.after inputs place).Covers attachment.uri) ↔
      (attachment.text = attachment.openedText ∨ attachment.debounce.delay? ≠ none) ∧
        ∀ place < count,
          ¬ (attachment.start.after inputs place).Strands attachment.uri (inputs place) := by
  obtain ⟨synchronizer, calm, covers⟩ := attachment.calm_start
  rw [covers_run ⟨none, synchronizer, calm⟩ count takes, covers]

/-! ## A run -/

/-- An edit whose flush is cancelled while the peer holds its frame back. -/
def abandonedDocument : Nat → Input
  | 0 => .edit 0 "second"
  | 1 => .behave { holding := true }
  | 2 => .call (.flush 0 false)
  | 4 => .cancel 0
  | _ => .turn

/-- The flush of the edit while its frame is held back. -/
def heldFlush : TaskState Frame where
  stack := changeFrames openedDocument.uri 0 ⟨1, "second", true⟩
  awaiting := some 1
  cancelRequested := false
  completion := 0

/-- The synchronizer of the edit while its frame is held back. -/
def heldSynchronizer : Synchronizer :=
  { openedDocument.synchronizer with
    text := "second"
    file := some 0
    lock := { held := true } }

theorem abandonedDocument_abandons :
    (openedDocument.start.after abandonedDocument 5).Abandons openedDocument.uri 0 := by
  have tasks : (openedDocument.start.after abandonedDocument 5).loop.tasks = [heldFlush] := by
    decide +kernel
  have only : (openedDocument.start.after abandonedDocument 5).synchronizers =
      [heldSynchronizer] := by
    decide +kernel
  refine ⟨heldFlush, 0, ⟨1, "second", true⟩, [], heldSynchronizer, ?_, ?_, rfl, only, ?_, ?_, ?_,
    ?_, ?_⟩
  · rw [tasks]
    rfl
  · decide +kernel
  · decide +kernel
  · rintro ⟨found, member, settles⟩
    rw [tasks] at member
    rw [List.mem_singleton.mp member] at settles
    cases settles
  · refine Or.inr ⟨rfl, fun reply => ?_⟩
    have told : (openedDocument.start.after abandonedDocument 5).signalOf heldFlush =
        .cancelled := by
      decide +kernel
    rw [told]
    nofun
  · rintro ⟨found, member, timer, armed, _⟩
    rw [only] at member
    rw [List.mem_singleton.mp member] at armed
    cases armed
  · rintro other ⟨found, entry, _⟩
    rw [tasks] at entry
    cases other with
    | zero => rfl
    | succ _ => cases entry

theorem abandonedDocument_takesCalmly (place : Nat) (inside : place < 6) :
    (openedDocument.start.after abandonedDocument place).TakesCalmly openedDocument.uri
      (abandonedDocument place) where
  allowed := by
    unfold abandonedDocument
    split <;> first | rfl | trivial
  flushes := fun task cancels => by
    match place, inside with
    | 4, _ =>
      obtain rfl : 0 = task := by simpa [abandonedDocument] using cancels
      have tasks : (openedDocument.start.after abandonedDocument 4).loop.tasks = [heldFlush] := by
        decide +kernel
      refine ⟨heldFlush, ?_, .changes 0 ⟨1, "second", true⟩⟩
      rw [tasks]
      rfl
    | 0, _ | 1, _ | 2, _ | 3, _ | 5, _ => cases cancels
  succeed := fun _ => by
    match place, inside with
    | 0, _ | 1, _ | 2, _ | 3, _ | 4, _ | 5, _ =>
      apply sendsSucceed_of_unrefused <;> decide +kernel

/-- The edit is abandoned although every send that is not cancelled succeeds. -/
theorem covers_iff_not_strands_abandonedDocument :
    (∀ place < 6, (openedDocument.start.after abandonedDocument place).TakesCalmly
      openedDocument.uri (abandonedDocument place)) ∧
      ¬ ∀ place ≤ 6, (openedDocument.start.after abandonedDocument place).Covers
        openedDocument.uri := by
  refine ⟨abandonedDocument_takesCalmly, fun covers => ?_⟩
  obtain ⟨_, kept⟩ := (covers_iff_not_strands openedDocument abandonedDocument 6
    abandonedDocument_takesCalmly).mp covers
  have goesOn : (openedDocument.start.after abandonedDocument 5).comingCallback? =
      some (.resume 0) := by
    decide +kernel
  exact kept 5 (by decide) (.ends 0 goesOn abandonedDocument_abandons)

end LanguageClient.Client
