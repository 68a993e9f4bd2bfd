import LanguageClient.Proofs.Editor.Order

/-!
# Queries that come late

The frames about the document of an editor come in order in every run, but for the queries that have
waited for their flush while the document was closed.
-/

namespace LanguageClient.Client

open LanguageClient.Json LanguageClient.Loop LanguageClient.Number LanguageClient.Protocol

theorem Stage.through_closed (deeds : List Deed) : deeds.foldl Stage.next .closed = .closed := by
  induction deeds with
  | nil => rfl
  | cons deed deeds inductionHypothesis => exact inductionHypothesis

theorem Deed.retract_of_closing
    {deed : Deed} {handed : List Value} {frame : Value} (hands : deed.Hands handed)
    (member : frame ∈ handed) (isClosing : methodOf? frame = some Method.didClose) :
    ∃ file, deed = .retract file := by
  cases deed with
  | announce file =>
      obtain ⟨_, rfl, isMethod⟩ := hands
      rw [List.mem_singleton.mp member, isMethod] at isClosing
      exact absurd isClosing (by decide)
  | change file =>
      obtain ⟨_, rfl, isMethod⟩ := hands
      rw [List.mem_singleton.mp member, isMethod] at isClosing
      exact absurd isClosing (by decide)
  | ask =>
      obtain ⟨_, method, rfl, isMethod, isQuery⟩ := hands
      rw [List.mem_singleton.mp member, isMethod] at isClosing
      rw [Option.some.inj isClosing] at isQuery
      exact absurd isQuery (by decide)
  | retract file => exact ⟨file, rfl⟩
  | withdraw workspace uri =>
      obtain rfl := hands
      cases member
  | forget file =>
      obtain rfl := hands
      cases member
  | clear workspace =>
      obtain rfl := hands
      cases member

section Step

open LanguageClient.Client.System

variable {before after : System} {input : Input} {stage : Stage} {deeds : List Deed} {frame : Value}

/-- A frame that an input hands over belongs to one of its deeds. -/
theorem OrderStep.handed
    (step : OrderStep stage before input deeds (before.step input))
    (member : frame ∈ before.handedIn input) :
    frame ∈ (before.step input).wire ∧
      ∃ deed ∈ deeds, ∃ handed, deed.Hands handed ∧ frame ∈ handed := by
  obtain ⟨frames, wire, belong⟩ := step.does.hands
  rw [handedIn, wire, List.drop_left] at member
  rw [wire]
  exact ⟨List.mem_append_right _ member, belong frame member⟩

/-- Who waits for his flush after the document is closed did so before. -/
theorem OrderStep.of_closing
    (step : OrderStep stage before input deeds (before.step input))
    (member : frame ∈ before.handedIn input)
    (isClosing : methodOf? frame = some Method.didClose) :
    EditorOrder .closed (before.step input) ∧
      ∀ task, (before.step input).FlushesIn task → before.FlushesIn task := by
  obtain ⟨said, deed, isDeed, handed, hands, belongs⟩ := step.handed member
  obtain ⟨file, rfl⟩ := Deed.retract_of_closing hands belongs isClosing
  have closed := step.order.exchange.closed_of_mem said isClosing
  refine ⟨closed ▸ step.order, fun task flushing => ?_⟩
  rcases step.flushes task flushing with earlier | ⟨_, kept⟩
  · exact earlier
  · exact (kept file isDeed).elim

/-- What is handed over after the document is closed is a query that has waited for its flush. -/
theorem OrderStep.of_closed
    (step : OrderStep .closed before input deeds (before.step input))
    (order : EditorOrder .closed before) (member : frame ∈ before.handedIn input) :
    (∃ method ∈ queryMethods, methodOf? frame = some method) ∧ input = .turn ∧
      ∃ task stack, before.comingTask? = some (task, stack) ∧ before.FlushesIn task := by
  obtain ⟨_, deed, isDeed, handed, hands, belongs⟩ := step.handed member
  have nothing := order.registers.nothing (by decide)
  rcases step.does.asks_of_unregistered nothing (step.silent (by decide)) deed isDeed handed hands
    with rfl | rfl
  · cases belongs
  · obtain ⟨_, method, rfl, isMethod, isQuery⟩ := hands
    obtain ⟨isTurn, task, stack, coming, flushes⟩ := step.asks isDeed
    rw [List.mem_singleton.mp belongs]
    refine ⟨⟨method, isQuery, isMethod⟩, isTurn, task, stack, coming, ?_⟩
    exact flushes.resolve_right nofun

end Step

/-! ## Runs of an editor -/

theorem startingCourse_count {deeds : List Deed} (isWord : deeds ∈ startingCourse) :
    deeds.countP Deed.isAnnouncement ≤ 1 := by
  obtain ⟨first, ⟨workspace, uri, isFirst⟩, last, isLast, rfl⟩ := Language.mem_mul.mp isWord
  have clears : last.countP Deed.isAnnouncement = 0 := by
    rcases isLast with rfl | ⟨cleared, rfl⟩
    · rfl
    · rfl
  rw [List.countP_append, clears, Nat.add_zero]
  rcases isFirst with rfl | ⟨file, rfl | rfl⟩
  · exact Nat.zero_le 1
  · exact Nat.le_refl 1
  · exact Nat.le_refl 1

theorem EditorSetup.start_order (setup : EditorSetup) : EditorOrder .unopened setup.start := by
  have only (task : Nat) (found : TaskState Frame)
      (entry : setup.start.loop.tasks[task]? = some found) :
      task = 0 ∧ found.stack = [.begin (.start 0)] := by
    cases task with
    | zero => exact ⟨rfl, by rw [← Option.some.inj entry]⟩
    | succ other => cases entry
  refine ⟨.silent, ?_, ?_, ?_, ?_⟩
  · intro workspace file uri registered
    have nothing : setup.start.openFile? workspace uri = none := rfl
    rw [nothing] at registered
    cases registered
  · intro task found entry
    exact Or.inl ⟨_, (only task found entry).2, trivial⟩
  · intro task found entry deeds isWord
    obtain ⟨rfl, begins⟩ := only task found entry
    rw [begins, courseOf_begin] at isWord
    exact startingCourse_count isWord
  · rintro _ task ⟨found, entry, frame, member, flushing⟩
    rw [(only task found entry).2, List.mem_singleton] at member
    rw [member] at flushing
    exact flushing

section Runs

variable {inputs : Nat → Input}

theorem editor_order
    (setup : EditorSetup) (allowed : ∀ place, (inputs place).OnEditor) (count : Nat) :
    ∃ stage, EditorOrder stage (setup.start.after inputs count) := by
  induction count with
  | zero => exact ⟨.unopened, setup.start_order⟩
  | succ count inductionHypothesis =>
      obtain ⟨stage, order⟩ := inductionHypothesis
      obtain ⟨deeds, step⟩ := order.step (allowed count)
      exact ⟨_, step.order⟩

/-- Once the document is closed it stays so, and only those who waited for their flush then still
do. -/
theorem editor_closed
    (setup : EditorSetup) (allowed : ∀ place, (inputs place).OnEditor) {place count : Nat}
    {closing : Value} (since : place < count)
    (member : closing ∈ (setup.start.after inputs place).handedIn (inputs place))
    (isClosing : methodOf? closing = some Method.didClose) :
    EditorOrder .closed (setup.start.after inputs count) ∧
      ∀ task, (setup.start.after inputs count).FlushesIn task →
        (setup.start.after inputs place).FlushesIn task := by
  induction count, since using Nat.le_induction with
  | base =>
      obtain ⟨stage, order⟩ := editor_order setup allowed place
      obtain ⟨deeds, step⟩ := order.step (allowed place)
      exact step.of_closing member isClosing
  | succ count since inductionHypothesis =>
      obtain ⟨order, earlier⟩ := inductionHypothesis
      obtain ⟨deeds, step⟩ := order.step (allowed count)
      refine ⟨Stage.through_closed deeds ▸ step.order, fun task flushing => ?_⟩
      rcases step.flushes task flushing with before | ⟨opened, _⟩
      · exact earlier task before
      · cases opened

/-- In every run of an editor, the frames about its document begin with one opening, and changes and
queries follow until one closing. After the closing nothing comes but queries, and each of them comes
from a task that waited for its flush when the closing was handed over. -/
theorem frames_in_order
    (setup : EditorSetup) (inputs : Nat → Input) (allowed : ∀ place, (inputs place).OnEditor)
    (count : Nat) :
    let run := setup.start.after inputs
    (∃ stage, Exchange (run count).wire stage) ∧
      ∀ (place : Nat) (closing frame : Value), place < count →
        closing ∈ (run place).handedIn (inputs place) →
          methodOf? closing = some Method.didClose →
            frame ∈ (run count).handedIn (inputs count) →
              (∃ method ∈ queryMethods, methodOf? frame = some method) ∧ inputs count = .turn ∧
                ∃ task stack, (run count).comingTask? = some (task, stack) ∧
                  (run place).FlushesIn task := by
  intro run
  obtain ⟨stage, order⟩ := editor_order setup allowed count
  refine ⟨⟨stage, order.exchange⟩, fun place closing frame since closed isClosing handed => ?_⟩
  obtain ⟨closedOrder, earlier⟩ := editor_closed setup allowed since closed isClosing
  obtain ⟨deeds, step⟩ := closedOrder.step (allowed count)
  obtain ⟨isQuery, isTurn, task, stack, coming, flushing⟩ := step.of_closed closedOrder handed
  exact ⟨isQuery, isTurn, task, stack, coming, earlier task flushing⟩

end Runs

/-! ## A hover that comes late -/

/-- The editor is closed while the flush of a hover still sends an edit. -/
def lateHover : Nat → Input
  | 0 => .behave hoverServer
  | 6 => .behave { hoverServer with holding := true }
  | 7 => .editText 0 "ab"
  | 8 => .call (.hover 0 2)
  | 10 => .call (.closeEditor 0)
  | 12 => .release 0
  | _ => .turn

theorem lateHover_onEditor (place : Nat) : (lateHover place).OnEditor := by
  unfold lateHover
  split <;> first | rfl | trivial

theorem frames_in_order_lateHover :
    (∀ place, (lateHover place).OnEditor) ∧
      let run := hoveredEditor.start.after lateHover
      (∃ stage, Exchange (run 14).wire stage) ∧
      (run 14).wire.map methodOf? = [some Method.didOpen, some Method.didChange,
        some Method.didClose, some Method.hover] ∧
      (∃ closing ∈ (run 11).handedIn (lateHover 11), methodOf? closing = some Method.didClose) ∧
      (∃ frame ∈ (run 13).handedIn (lateHover 13), methodOf? frame = some Method.hover) ∧
      ∃ task stack, (run 13).comingTask? = some (task, stack) ∧ (run 11).FlushesIn task := by
  refine ⟨lateHover_onEditor, ?_⟩
  intro run
  have ordered := frames_in_order hoveredEditor lateHover lateHover_onEditor
  have closes : ∃ closing ∈ (run 11).handedIn (lateHover 11),
      methodOf? closing = some Method.didClose := by
    decide +kernel
  have asks : ∃ frame ∈ (run 13).handedIn (lateHover 13), methodOf? frame = some Method.hover := by
    decide +kernel
  obtain ⟨closing, isHanded, isClosing⟩ := closes
  obtain ⟨frame, isLate, isHover⟩ := asks
  obtain ⟨_, _, task, stack, coming, flushing⟩ :=
    (ordered 13).2 11 closing frame (by decide) isHanded isClosing isLate
  exact ⟨(ordered 14).1, by decide +kernel, ⟨closing, isHanded, isClosing⟩, ⟨frame, isLate, isHover⟩,
    task, stack, coming, flushing⟩

end LanguageClient.Client
