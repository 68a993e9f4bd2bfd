import LanguageClient.Proofs.Editor.Answers

/-!
# The query of a completion

A completion looks its offset up once, in its first turn, and keeps the query until the answer has come.
What it returns then is that answer, ranked for the text that stood before the cursor in its first turn.
-/

namespace LanguageClient.Client

open LanguageClient.Json LanguageClient.Loop LanguageClient.Number LanguageClient.Protocol

/-- Where the task of a completion can be while it has a query, and what it awaits there. -/
inductive Pursues (query : CompletionQuery) : List Frame → Option Nat → Prop where
  | flushes (inner : List Frame) (awaiting : Option Nat) :
    Pursues query (inner ++ [.flushingForCompletion 0 query]) awaiting
  | sends (link : Nat) (frame : Value) (subject : String) (promise : Nat) (awaiting : Option Nat) :
    Pursues query [.sending link frame, .writing subject, .requesting promise, .completing query]
      awaiting
  | asks (promise : Nat) : Pursues query [.completing query] (some promise)

/-- The result of a query when the server has answered it. -/
def CompletionQuery.Ranks (query : CompletionQuery) (raw : Value) (ranked : Completion.Ranked) : Prop :=
  ∃ candidates, (completionResultOf raw).bind Completion.candidatesOf = .ok (some candidates) ∧
    ranked = Completion.rank candidates query.before query.offset

/-- What the turn of a completion with a query leads to, if certain answers have come. -/
inductive Step.Completes (query : CompletionQuery) (answered : Value → Prop) : Step → Prop where
  | ends (later : System) (outcome : Outcome Reply)
      (ranks : ∀ ranked, outcome = .returned (.completion (some ranked)) →
        ∃ raw, answered raw ∧ query.Ranks raw ranked) :
    Completes query answered (later, .ended outcome)
  | waits (later : System) (frames : List Frame) (promise : Nat)
      (pursues : Pursues query frames (some promise)) :
    Completes query answered (later, .suspended frames promise)

/-- What comes of a request: it fails, or its sender waits until it is sent, or for its answer. -/
inductive Step.AwaitsAnswer : Step → Prop where
  | fails (later : System) (failure : Failure) : AwaitsAnswer (later, .ended (.failed failure))
  | sends (later : System) (link : Nat) (frame : Value) (subject : String) (promise awaited : Nat) :
    AwaitsAnswer
      (later, .suspended [.sending link frame, .writing subject, .requesting promise] awaited)
  | waits (later : System) (promise : Nat) : AwaitsAnswer (later, .suspended [] promise)

namespace System

theorem write_awaitsAnswer
    {registered : System} {session promise : Nat} {found : Session} (subject : String) (frame : Value)
    (known : registered.sessions[session]? = some found) (fresh : registered.IsFresh promise) :
    ((registered.write session subject frame).andThen (.requesting promise)
      (resumeRequesting promise)).AwaitsAnswer := by
  rcases write_cases subject frame known with ⟨failure, _, result⟩ | result | result
  · rw [result]
    exact .fails _ _
  · rw [result]
    exact .sends _ _ _ _ promise _
  · rw [result]
    have taken := fresh.of_promises
      ((registered.note (.handed found.link frame)).accept found.link frame) rfl
    simp only [Step.andThen, resumeRequesting]
    rw [await_of_unsettled taken.unsettled]
    exact .waits _ promise

theorem request_awaitsAnswer
    (system : System) (session : Nat) (method : String) (params : Option Value)
    (timeout : Option Quantity) :
    (system.request session method params timeout).AwaitsAnswer := by
  unfold request
  split
  · exact .fails _ _
  · rename_i found known
    split
    · exact .fails _ _
    · simp only
      split
      · exact .fails _ _
      · rename_i delay _
        split
        · exact write_awaitsAnswer method _
            (registerRequest_session session _ method _ delay (countRequest_session session known))
            (registerRequest_isFresh _ session _ method _ delay)
        · exact .fails _ _

theorem requestOf_awaitsAnswer
    (system : System) (editor : Editor) (method : String) (params : Value) :
    (system.requestOf editor method params).AwaitsAnswer := by
  unfold requestOf
  split
  · exact .fails _ _
  · exact request_awaitsAnswer _ _ _ _ _

variable {query : CompletionQuery} {answered : Value → Prop} {outcome : Outcome Reply}

theorem completes_of_fruitless
    (later : System) (fruitless : ∀ ranked, outcome ≠ .returned (.completion (some ranked))) :
    Step.Completes query answered (later, .ended outcome) :=
  .ends later outcome fun ranked returned => (fruitless ranked returned).elim

theorem recover_completes (system : System) (failure : Failure) :
    (system.recover failure (.completion none)).Completes query answered := by
  unfold recover
  split <;> exact completes_of_fruitless _ (by simp)

theorem resumeCompleting_completes
    (system : System) (answers : ∀ raw, outcome = .returned (.result raw) → answered raw) :
    (resumeCompleting query system outcome).Completes query answered := by
  cases outcome with
  | returned reply =>
      cases reply with
      | result raw =>
          simp only [resumeCompleting]
          split
          · exact recover_completes system _
          · exact completes_of_fruitless _ (by simp)
          · rename_i candidates isAnswer
            refine .ends _ _ fun ranked returned => ⟨raw, answers raw rfl, candidates, isAnswer, ?_⟩
            simpa using returned.symm
      | _ => exact completes_of_fruitless _ (by simp)
  | failed failure => exact recover_completes system failure
  | cancelled => exact completes_of_fruitless _ (by simp)

theorem completes_of_unreturned
    (system : System) (notReturned : ∀ reply, outcome ≠ .returned reply) :
    (resumeCompleting query system outcome).Completes query answered :=
  resumeCompleting_completes system fun _ returned => (notReturned _ returned).elim

theorem resumeFlushing_completes (system : System) (outcome : Outcome Reply) :
    (resumeFlushingForCompletion 0 query system outcome).Completes query answered := by
  cases outcome with
  | returned reply =>
      unfold resumeFlushingForCompletion
      cases system.editors[0]? with
      | none => exact completes_of_fruitless _ (by simp)
      | some editor =>
          have requested := system.requestOf_awaitsAnswer editor Method.completion
            (completionParams editor.documentUri.display query.position query.trigger)
          simp only
          generalize system.requestOf editor Method.completion
            (completionParams editor.documentUri.display query.position query.trigger) = step
            at requested ⊢
          cases requested with
          | fails later failure =>
              have notReturned (reply : Reply) : Outcome.failed failure ≠ .returned reply := by simp
              exact completes_of_unreturned later notReturned
          | sends later link frame subject promise awaited =>
              exact .waits _ _ _ (.sends link frame subject promise _)
          | waits later promise => exact .waits _ _ _ (.asks promise)
  | failed failure =>
      unfold resumeFlushingForCompletion
      exact recover_completes system failure
  | cancelled => exact completes_of_fruitless _ (by simp)

/-- A completion goes on when the edits are flushed, and asks its query. -/
theorem flushing_completes (step : Step) :
    (step.andThen (.flushingForCompletion 0 query) (resumeFlushingForCompletion 0 query)).Completes
      query answered := by
  obtain ⟨later, outcome | ⟨frames, promise⟩⟩ := step
  · exact resumeFlushing_completes later outcome
  · exact .waits _ _ _ (.flushes frames _)

/-- The frame of a query has been sent or not. Its answer may have come already. -/
theorem sending_completes
    (system : System) (link : Nat) (frame : Value) (subject : String) (promise : Nat)
    (outcome : Outcome Reply)
    (answers : ∀ raw, system.loop.outcome? promise = some (.returned (.result raw)) → answered raw) :
    (system.resumeStack outcome
      [.sending link frame, .writing subject, .requesting promise, .completing query]).Completes query
        answered := by
  rcases resumeStack_sending system link frame subject [.requesting promise, .completing query]
    outcome with ⟨_, _, _, result⟩ | ⟨ending, notReturned, _, result⟩
  · rw [result, resumeStack_pair]
    simp only [resumeFrame, resumeRequesting]
    have samePromises : (system.accept link frame).loop.outcome? promise =
        system.loop.outcome? promise := rfl
    cases settled : (system.accept link frame).loop.outcome? promise with
    | none =>
        rw [await_of_unsettled settled]
        exact .waits _ _ _ (.asks promise)
    | some verdict =>
        rw [await_of_settled settled]
        refine resumeCompleting_completes _ fun raw isResult => answers raw ?_
        rw [← samePromises, settled, isResult]
  · rw [result, resumeStack_pair]
    cases ending with
    | returned reply => exact (notReturned reply rfl).elim
    | failed failure => exact completes_of_unreturned _ notReturned
    | cancelled => exact completes_of_unreturned _ notReturned

variable {before : System} {task : Nat} {rest : ClientLoop} {found : TaskState Frame}

/-- The turn of a completion that has a query. -/
theorem Resumes.completes
    (resumes : Resumes before task rest found) (pursues : Pursues query found.stack found.awaiting)
    (settled : ∀ promise, found.awaiting = some promise → before.loop.outcome? promise ≠ none) :
    (before.resumption rest task found).Completes query (before.Answered task) := by
  have answers (promise : Nat) (held : promise ∈ heldPromises found.stack found.awaiting) (raw : Value)
      (isSettled : before.loop.outcome? promise = some (.returned (.result raw))) :
      before.Answered task raw := ⟨found, promise, resumes.entry, held, isSettled⟩
  unfold resumption
  generalize stackEq : found.stack = stack at pursues
  generalize awaitingEq : found.awaiting = awaiting at pursues
  cases pursues with
  | flushes inner =>
      rw [resumeStack_concat]
      exact flushing_completes _
  | sends link frame subject promise =>
      refine sending_completes _ link frame subject promise _ fun raw isSettled => ?_
      rw [resumes.resumed_outcome?] at isSettled
      exact answers promise (by simp [stackEq, heldPromises, Frame.promises]) raw isSettled
  | asks promise =>
      rw [resumeStack_singleton]
      refine resumeCompleting_completes _ fun raw isResult => ?_
      rcases signalOf_of_settled awaitingEq (settled promise awaitingEq) with cancelled | isSettled
      · rw [cancelled] at isResult
        cases isResult
      · rw [isResult] at isSettled
        exact answers promise (by simp [awaitingEq, heldPromises]) raw isSettled

/-- In its first turn a completion ends without a result, or it looks up a query and pursues it. -/
theorem resumption_begins_completion
    {offset : Int} {explicit : Bool} {editor : Editor} (rest : ClientLoop) (task : Nat)
    (editors : before.editors = [editor]) (own : editor.synchronizer = 0)
    (begins : found.stack = [.begin (.complete 0 offset explicit)]) :
    (∃ later outcome, before.resumption rest task found = (later, .ended outcome) ∧
      ∀ ranked, outcome ≠ .returned (.completion (some ranked))) ∨
    ∃ triggers query, completionQuery? (.ofText before.documentText) triggers offset explicit =
        some query ∧
      (before.resumption rest task found).Completes query (before.Answered task) := by
  have same : (before.resumed rest task).editors = [editor] := editors
  have text : (before.resumed rest task).snapshotOf editor = .ofText before.documentText := by
    rw [snapshotOf, editorText, own]
    rfl
  unfold resumption
  rw [begins]
  cases before.signalOf found with
  | returned reply =>
      rw [resumeStack_begin]
      simp only [System.call, complete, same, List.getElem?_cons_zero, own, text]
      split
      · exact Or.inl ⟨_, _, rfl, by simp⟩
      · rename_i triggers _
        split
        · exact Or.inl ⟨_, _, rfl, by simp⟩
        · rename_i query isQuery
          exact Or.inr ⟨triggers, query, isQuery, flushing_completes _⟩
  | failed failure => exact Or.inl ⟨_, _, resumeStack_not_begin _ _ (by simp), by simp⟩
  | cancelled => exact Or.inl ⟨_, _, resumeStack_not_begin _ _ (by simp), by simp⟩

end System

/-! ## Runs -/

section Runs

open LanguageClient.Client.System

variable (start : System) (inputs : Nat → Input) (offset : Int) (explicit : Bool) (task place : Nat)

/-- How far a completion is that was called at some place of a run. -/
inductive CompletionStage (count : Nat) : Prop where
  | begins (found : TaskState Frame)
      (entry : (start.after inputs count).loop.tasks[task]? = some found)
      (unended : (start.after inputs count).ending? task = none)
      (begins : found.stack = [.begin (.complete 0 offset explicit)])
  | pursues (found : TaskState Frame) (seen : Nat) (triggers : List String) (query : CompletionQuery)
      (entry : (start.after inputs count).loop.tasks[task]? = some found)
      (unended : (start.after inputs count).ending? task = none) (afterCall : place < seen)
      (notLater : seen ≤ count)
      (isQuery : completionQuery? (.ofText (start.after inputs seen).documentText) triggers offset
        explicit = some query)
      (pursues : Pursues query found.stack found.awaiting)
  | ended (outcome : Outcome Reply) (ended : (start.after inputs count).ending? task = some outcome)
      (ranks : ∀ ranked, outcome = .returned (.completion (some ranked)) →
        ∃ seen turn triggers query raw, place < seen ∧ seen ≤ turn ∧ turn < count ∧
          completionQuery? (.ofText (start.after inputs seen).documentText) triggers offset explicit =
            some query ∧
          (start.after inputs turn).ending? task = none ∧
          (start.after inputs turn).Answered task raw ∧ query.Ranks raw ranked)

variable {start inputs offset explicit task place}
  {uri : String} {opened : Bool} {holder : Option (Nat × Change)} {view : View} {count : Nat}

/-- A completion stays where it is while somebody else has his turn. -/
theorem CompletionStage.others
    (stage : CompletionStage start inputs offset explicit task place count)
    (keeps : (start.after inputs count).KeepsTask (start.after inputs (count + 1)) task) :
    CompletionStage start inputs offset explicit task place (count + 1) := by
  cases stage with
  | begins found entry unended begins =>
      obtain ⟨_, laterEntry⟩ := keeps.entry found entry
      exact .begins _ laterEntry (keeps.ending.trans unended) begins
  | pursues found seen triggers query entry unended afterCall notLater isQuery pursues =>
      obtain ⟨_, laterEntry⟩ := keeps.entry found entry
      exact .pursues _ seen triggers query laterEntry (keeps.ending.trans unended) afterCall
        (Nat.le_succ_of_le notLater) isQuery pursues
  | ended outcome ended ranks =>
      refine .ended outcome (keeps.ending.trans ended) fun ranked returned => ?_
      obtain ⟨seen, turn, triggers, query, raw, afterCall, notLater, earlier, rest⟩ :=
        ranks ranked returned
      exact ⟨seen, turn, triggers, query, raw, afterCall, notLater, Nat.lt_succ_of_lt earlier, rest⟩

/-- A completion that has a query pursues it in its turn, or it ends. -/
theorem EditorWorld.completionStage
    {rest : ClientLoop} {found : TaskState Frame} {seen : Nat} {triggers : List String}
    {query : CompletionQuery}
    (world : EditorWorld uri opened holder view (start.after inputs count))
    (isTurn : inputs count = .turn) (resumes : Resumes (start.after inputs count) task rest found)
    (afterCall : place < seen) (notLater : seen ≤ count)
    (isQuery : completionQuery? (.ofText (start.after inputs seen).documentText) triggers offset
      explicit = some query)
    (completes : ((start.after inputs count).resumption rest task found).Completes query
      ((start.after inputs count).Answered task)) :
    CompletionStage start inputs offset explicit task place (count + 1) := by
  have stepped : start.after inputs (count + 1) = (start.after inputs count).step .turn := by
    rw [System.after, isTurn]
  obtain ⟨_, passage⟩ := world.resumption_passage resumes
  obtain ⟨⟨_, entry⟩, ending⟩ := resumes.leaves_turn passage.loop
  rw [← stepped] at entry ending
  generalize (start.after inputs count).resumption rest task found = step at completes entry ending
  cases completes with
  | ends later outcome ranks =>
      refine .ended outcome ending fun ranked returned => ?_
      obtain ⟨raw, answered, isRanked⟩ := ranks ranked returned
      exact ⟨seen, count, triggers, query, raw, afterCall, notLater, Nat.lt_succ_self count, isQuery,
        ending?_of_unended resumes.unended, answered, isRanked⟩
  | waits later frames promise pursues =>
      exact .pursues _ seen triggers query entry ending afterCall (Nat.le_succ_of_le notLater) isQuery
        pursues

/-- A completion in its own turn. -/
theorem CompletionStage.own
    {rest : ClientLoop} {found : TaskState Frame}
    (stage : CompletionStage start inputs offset explicit task place count)
    (world : EditorWorld uri opened holder view (start.after inputs count)) (since : place < count)
    (isTurn : inputs count = .turn) (resumes : Resumes (start.after inputs count) task rest found) :
    CompletionStage start inputs offset explicit task place (count + 1) := by
  cases stage with
  | begins other entry unended begins =>
      obtain rfl : other = found := Option.some.inj (entry.symm.trans resumes.entry)
      obtain ⟨editor, editors, own, _⟩ := world.parts.editor
      rcases resumption_begins_completion rest task editors own begins with
        ⟨later, outcome, result, fruitless⟩ | ⟨triggers, query, isQuery, completes⟩
      · have ended := world.ending?_of_ended resumes result
        rw [← isTurn] at ended
        exact .ended outcome ended fun ranked returned => (fruitless ranked returned).elim
      · exact world.completionStage isTurn resumes since (Nat.le_refl _) isQuery completes
  | pursues other seen triggers query entry unended afterCall notLater isQuery pursues =>
      obtain rfl : other = found := Option.some.inj (entry.symm.trans resumes.entry)
      exact world.completionStage isTurn resumes afterCall notLater isQuery
        (resumes.completes pursues (fun _ => resumes.settled world.punctual))
  | ended outcome ended ranks =>
      rw [ending?_of_unended resumes.unended] at ended
      cases ended

/-- A completion that was called begins, pursues its query, or has ended. -/
theorem completion_run
    (setup : EditorSetup) (allowed : ∀ place, (inputs place).OnEditor)
    (called : CalledAt setup.start inputs task place (.complete 0 offset explicit))
    (since : place < count) :
    CompletionStage setup.start inputs offset explicit task place count := by
  obtain ⟨made, rfl⟩ := called
  induction count, since using Nat.le_induction with
  | base =>
      have stepped : setup.start.after inputs (place + 1) =
          (setup.start.after inputs place).spawn (.complete 0 offset explicit) := by
        rw [System.after, made]
        rfl
      have entry := spawn_task (setup.start.after inputs place) (.complete 0 offset explicit)
      rw [← stepped] at entry
      refine .begins _ entry ?_ rfl
      rw [ending?_of_entry entry, stepped]
      exact (Scheduler.spawn_outcome? _ [.begin (.complete 0 offset explicit)] _).trans
        (Scheduler.outcome?_eq_none_of_le (Nat.le_refl _))
  | succ count since stage =>
      obtain ⟨view, ⟨_, _, world⟩, _⟩ := known_run setup allowed count
      by_cases own : ∃ rest found, inputs count = .turn ∧
        Resumes (setup.start.after inputs count) (setup.start.after inputs place).nextTask rest found
      · obtain ⟨rest, found, isTurn, resumes⟩ := own
        exact stage.own world since isTurn resumes
      · refine stage.others (world.keepsTask_step (allowed count) ?_
          fun rest found isTurn resumes => own ⟨rest, found, isTurn, resumes⟩)
        cases stage with
        | begins found entry => exact (List.getElem?_eq_some_iff.mp entry).1
        | pursues found seen triggers query entry => exact (List.getElem?_eq_some_iff.mp entry).1
        | ended outcome ended => exact known_of_ending ended

end Runs

end LanguageClient.Client
