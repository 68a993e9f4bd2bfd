import LanguageClient.Proofs.Isolation.Hidden

/-!
# Clients that are alike apart from a request

Two clients correspond in all that others can see. Promises have other numbers in the two, since the
request may have taken more of them in one, so a relation pairs the promises of others. It grows when a
task or an entry is added, and when somebody waits for something that the peer holds back.
-/

namespace LanguageClient.Client

open LanguageClient.Json LanguageClient.Loop LanguageClient.Number LanguageClient.Protocol

/-- Frames of others that go on in the same way. -/
inductive FrameAlike (target : Target) (paired : Nat → Nat → Prop) : Frame → Frame → Prop where
  | sending (link : Nat) {frame : Value} (other : target.bears frame = false) :
    FrameAlike target paired (.sending link frame) (.sending link frame)
  | writing (subject : String) : FrameAlike target paired (.writing subject) (.writing subject)
  | requesting {promise counterpart : Nat} (pair : paired promise counterpart) :
    FrameAlike target paired (.requesting promise) (.requesting counterpart)
  | closingLink : FrameAlike target paired .closingLink .closingLink

/-- Stacks of others that go on in the same way. -/
inductive StackAlike (target : Target) (paired : Nat → Nat → Prop) : List Frame → List Frame → Prop where
  | begins {call : Call} (onSession : call.OnSession) :
    StackAlike target paired [.begin call] [.begin call]
  | goesOn {stack counterpart : List Frame}
      (frames : List.Forall₂ (FrameAlike target paired) stack counterpart) :
    StackAlike target paired stack counterpart

structure TaskAlike (target : Target) (paired : Nat → Nat → Prop) (left right : TaskState Frame) :
    Prop where
  stack : StackAlike target paired left.stack right.stack
  awaiting : Option.Rel paired left.awaiting right.awaiting
  cancelRequested : left.cancelRequested = right.cancelRequested
  completion : paired left.completion right.completion

/-- Entries that stand for the same request of others. -/
structure EntryAlike (paired : Nat → Nat → Prop) (left right : PendingRequest) : Prop where
  id : left.id = right.id
  method : left.method = right.method
  timeout : left.timeout = right.timeout
  promise : paired left.promise right.promise

/-- Two clients are alike apart from a request. -/
structure Alike (target : Target) (paired : Nat → Nat → Prop) (left right : System) : Prop where
  secludedLeft : Secluded target (fun promise => ∃ counterpart, paired promise counterpart) left
  secludedRight : Secluded target (fun counterpart => ∃ promise, paired promise counterpart) right
  unique : ∀ first firstOther second secondOther, paired first firstOther →
    paired second secondOther → (first = second ↔ firstOther = secondOther)
  outcomes : ∀ promise counterpart, paired promise counterpart →
    left.loop.outcome? promise = right.loop.outcome? counterpart
  nextTask : left.nextTask = right.nextTask
  tasks : ∀ task, task ≠ target.task →
    Option.Rel (TaskAlike target paired) left.loop.tasks[task]? right.loop.tasks[task]?
  outline : left.outline = right.outline
  opens : ∀ entry, entry.id ≠ target.id → left.Opens entry →
    ∃ counterpart, right.Opens counterpart ∧ EntryAlike paired entry counterpart
  opened : ∀ counterpart, counterpart.id ≠ target.id → right.Opens counterpart →
    ∃ entry, left.Opens entry ∧ EntryAlike paired entry counterpart
  handed : target.others left.handedFrames = target.others right.handedFrames
  accepted : target.others left.acceptedFrames = target.others right.acceptedFrames

section Relations

variable {target : Target} {paired wider : Nat → Nat → Prop}

theorem rel_map
    {First Second Third Fourth : Type} {relation : First → Second → Prop}
    {other : Third → Fourth → Prop} {first : Option First} {second : Option Second}
    {change : First → Third} {changeOther : Second → Fourth}
    (related : Option.Rel relation first second)
    (implies : ∀ left right, relation left right → other (change left) (changeOther right)) :
    Option.Rel other (first.map change) (second.map changeOther) := by
  cases related with
  | some related => exact .some (implies _ _ related)
  | none => exact .none

theorem rel_imp
    {First Second : Type} {relation other : First → Second → Prop} {first : Option First}
    {second : Option Second} (related : Option.Rel relation first second)
    (implies : ∀ left right, relation left right → other left right) :
    Option.Rel other first second := by
  cases related with
  | some related => exact .some (implies _ _ related)
  | none => exact .none

theorem rel_swap
    {First Second : Type} {relation : First → Second → Prop} {first : Option First}
    {second : Option Second} (related : Option.Rel relation first second) :
    Option.Rel (fun right left => relation left right) second first := by
  cases related with
  | some related => exact .some related
  | none => exact .none

theorem FrameAlike.mono
    {left right : Frame} (alike : FrameAlike target paired left right)
    (more : ∀ promise counterpart, paired promise counterpart → wider promise counterpart) :
    FrameAlike target wider left right := by
  cases alike with
  | sending link other => exact .sending link other
  | writing subject => exact .writing subject
  | requesting pair => exact .requesting (more _ _ pair)
  | closingLink => exact .closingLink

theorem FrameAlike.symm
    {left right : Frame} (alike : FrameAlike target paired left right) :
    FrameAlike target (fun counterpart promise => paired promise counterpart) right left := by
  cases alike with
  | sending link other => exact .sending link other
  | writing subject => exact .writing subject
  | requesting pair => exact .requesting pair
  | closingLink => exact .closingLink

theorem StackAlike.mono
    {left right : List Frame} (alike : StackAlike target paired left right)
    (more : ∀ promise counterpart, paired promise counterpart → wider promise counterpart) :
    StackAlike target wider left right := by
  cases alike with
  | begins onSession => exact .begins onSession
  | goesOn frames => exact .goesOn (frames.imp fun _ _ frame => frame.mono more)

theorem StackAlike.symm
    {left right : List Frame} (alike : StackAlike target paired left right) :
    StackAlike target (fun counterpart promise => paired promise counterpart) right left := by
  cases alike with
  | begins onSession => exact .begins onSession
  | goesOn frames => exact .goesOn (List.Forall₂.flip (frames.imp fun _ _ frame => frame.symm))

theorem TaskAlike.mono
    {left right : TaskState Frame} (alike : TaskAlike target paired left right)
    (more : ∀ promise counterpart, paired promise counterpart → wider promise counterpart) :
    TaskAlike target wider left right where
  stack := alike.stack.mono more
  awaiting := rel_imp alike.awaiting more
  cancelRequested := alike.cancelRequested
  completion := more _ _ alike.completion

theorem TaskAlike.symm
    {left right : TaskState Frame} (alike : TaskAlike target paired left right) :
    TaskAlike target (fun counterpart promise => paired promise counterpart) right left where
  stack := alike.stack.symm
  awaiting := rel_swap alike.awaiting
  cancelRequested := alike.cancelRequested.symm
  completion := alike.completion

theorem EntryAlike.mono
    {left right : PendingRequest} (alike : EntryAlike paired left right)
    (more : ∀ promise counterpart, paired promise counterpart → wider promise counterpart) :
    EntryAlike wider left right :=
  { alike with promise := more _ _ alike.promise }

theorem EntryAlike.symm
    {left right : PendingRequest} (alike : EntryAlike paired left right) :
    EntryAlike (fun counterpart promise => paired promise counterpart) right left :=
  ⟨alike.id.symm, alike.method.symm, alike.timeout.symm, alike.promise⟩

end Relations

namespace Alike

variable {target : Target} {paired : Nat → Nat → Prop} {left right later : System}
  (alike : Alike target paired left right)

include alike

theorem symm : Alike target (fun counterpart promise => paired promise counterpart) right left where
  secludedLeft := alike.secludedRight
  secludedRight := alike.secludedLeft
  unique := fun first firstOther second secondOther pair otherPair =>
    (alike.unique firstOther first secondOther second pair otherPair).symm
  outcomes := fun promise counterpart pair => (alike.outcomes counterpart promise pair).symm
  nextTask := alike.nextTask.symm
  tasks := fun task other => rel_swap (rel_imp (alike.tasks task other) fun _ _ same => same.symm)
  outline := alike.outline.symm
  opens := fun entry other isOpen => by
    obtain ⟨counterpart, isOpenThere, same⟩ := alike.opened entry other isOpen
    exact ⟨counterpart, isOpenThere, same.symm⟩
  opened := fun entry other isOpen => by
    obtain ⟨counterpart, isOpenThere, same⟩ := alike.opens entry other isOpen
    exact ⟨counterpart, isOpenThere, same.symm⟩
  handed := alike.handed.symm
  accepted := alike.accepted.symm

/-- The sessions of the two have the same outline. -/
theorem sessions :
    ∃ found counterpart, left.sessions = [found] ∧ right.sessions = [counterpart] ∧
      found.outline = counterpart.outline := by
  obtain ⟨found, only⟩ := alike.secludedLeft.session
  obtain ⟨counterpart, otherOnly⟩ := alike.secludedRight.session
  have same := congrArg Prod.fst alike.outline
  simp only [System.outline, only, otherOnly, List.map_singleton, List.singleton_inj] at same
  exact ⟨found, counterpart, only, otherOnly, same⟩

/-! ## What others do not see -/

theorem hide_left
    (hides : Hides target (fun promise => ∃ counterpart, paired promise counterpart) left later) :
    Alike target paired later right where
  secludedLeft := hides.secluded
  secludedRight := alike.secludedRight
  unique := alike.unique
  outcomes := fun promise counterpart pair =>
    (hides.outcomes promise ⟨counterpart, pair⟩).trans (alike.outcomes promise counterpart pair)
  nextTask := hides.nextTask.trans alike.nextTask
  tasks := fun task other => by
    rw [hides.tasks task other]
    exact alike.tasks task other
  outline := hides.outline.trans alike.outline
  opens := fun entry other isOpen => alike.opens entry other (hides.opened entry other isOpen)
  opened := fun counterpart other isOpen => by
    obtain ⟨entry, isOpenThere, same⟩ := alike.opened counterpart other isOpen
    have otherEntry : entry.id ≠ target.id := same.id ▸ other
    exact ⟨entry, hides.opens entry otherEntry ⟨_, same.promise⟩ isOpenThere, same⟩
  handed := hides.handed.trans alike.handed
  accepted := hides.accepted.trans alike.accepted

theorem hide_right
    (hides : Hides target (fun counterpart => ∃ promise, paired promise counterpart) right later) :
    Alike target paired left later :=
  (alike.symm.hide_left hides).symm

theorem unseen
    {laterRight : System} (unseenLeft : Unseen left later) (unseenRight : Unseen right laterRight) :
    Alike target paired later laterRight :=
  (alike.hide_left (unseenLeft.hides alike.secludedLeft)).hide_right
    (unseenRight.hides alike.secludedRight)

/-! ## Promises -/

section Settle

variable {promise counterpart : Nat} (pair : paired promise counterpart) (outcome : Outcome Reply)

include pair

theorem settle_opens
    {entry : PendingRequest} (other : entry.id ≠ target.id)
    (isOpen : (left.settle promise outcome).Opens entry) :
    ∃ entryThere, (right.settle counterpart outcome).Opens entryThere ∧
      EntryAlike paired entry entryThere := by
  obtain ⟨entryThere, isOpenThere, same⟩ := alike.opens entry other isOpen.of_settle
  refine ⟨entryThere, isOpenThere.settle (fun isCounterpart => ?_) outcome, same⟩
  have isPromise := (alike.unique _ _ _ _ same.promise pair).mpr isCounterpart
  have settled := System.settle_settles (alike.secludedLeft.known _ ⟨_, pair⟩) outcome
  rw [← isPromise] at settled
  exact Option.some_ne_none _ (settled.symm.trans (isPromise ▸ isOpen.2))

/-- What others wait for is settled on both sides. -/
theorem settle : Alike target paired (left.settle promise outcome) (right.settle counterpart outcome) where
  secludedLeft := alike.secludedLeft.settle promise outcome
  secludedRight := alike.secludedRight.settle counterpart outcome
  unique := alike.unique
  outcomes := fun other otherCounterpart otherPair => by
    have iff := alike.unique other otherCounterpart promise counterpart otherPair pair
    by_cases same : other = promise
    · have sameCounterpart := iff.mp same
      subst same sameCounterpart
      rw [System.settle_settles (alike.secludedLeft.known _ ⟨_, pair⟩),
        System.settle_settles (alike.secludedRight.known _ ⟨_, pair⟩), alike.outcomes _ _ pair]
    · have different := fun isCounterpart => same (iff.mpr isCounterpart)
      calc
        _ = left.loop.outcome? other := Scheduler.settle_outcome?_of_ne outcome left.loop same
        _ = right.loop.outcome? otherCounterpart := alike.outcomes _ _ otherPair
        _ = _ := (Scheduler.settle_outcome?_of_ne outcome right.loop different).symm
  nextTask := by
    have sameLeft : (left.settle promise outcome).nextTask = left.nextTask :=
      congrArg List.length (Scheduler.settle_tasks promise outcome left.loop)
    have sameRight : (right.settle counterpart outcome).nextTask = right.nextTask :=
      congrArg List.length (Scheduler.settle_tasks counterpart outcome right.loop)
    rw [sameLeft, sameRight]
    exact alike.nextTask
  tasks := fun task other => by
    have sameLeft := Scheduler.settle_tasks promise outcome left.loop
    have sameRight := Scheduler.settle_tasks counterpart outcome right.loop
    simp only [System.settle, System.onLoop, sameLeft, sameRight]
    exact alike.tasks task other
  outline := alike.outline
  opens := fun _ other isOpen => alike.settle_opens pair outcome other isOpen
  opened := fun _ other isOpen => by
    obtain ⟨entry, isOpenThere, same⟩ := alike.symm.settle_opens pair outcome other isOpen
    exact ⟨entry, isOpenThere, same.symm⟩
  handed := alike.handed
  accepted := alike.accepted

end Settle

/-! ## The journal, the session and the tasks -/

theorem note (occurrence : Occurrence) :
    Alike target paired (left.note occurrence) (right.note occurrence) where
  secludedLeft := alike.secludedLeft.of_same rfl (fun _ => id) rfl (fun _ => rfl) rfl fun _ => id
  secludedRight := alike.secludedRight.of_same rfl (fun _ => id) rfl (fun _ => rfl) rfl fun _ => id
  unique := alike.unique
  outcomes := alike.outcomes
  nextTask := alike.nextTask
  tasks := alike.tasks
  outline := alike.outline
  opens := alike.opens
  opened := alike.opened
  handed := by
    simp only [System.handedFrames_note, Target.others, List.filter_append]
    exact congrArg (· ++ _) alike.handed
  accepted := by
    simp only [System.acceptedFrames_note, Target.others, List.filter_append]
    exact congrArg (· ++ _) alike.accepted

/-- The session changes in what all requests have in common. -/
theorem modifySession
    (change : Session → Session) (pending : ∀ found, (change found).pending = found.pending)
    (outline : ∀ found counterpart : Session, found.outline = counterpart.outline →
      (change found).outline = (change counterpart).outline) :
    Alike target paired (left.modifySession 0 change) (right.modifySession 0 change) := by
  obtain ⟨found, counterpart, only, otherOnly, same⟩ := alike.sessions
  have pendingLeft : (left.modifySession 0 change).sessions.map (·.pending) =
      left.sessions.map (·.pending) := by
    simp [System.modifySession, only, pending]
  have pendingRight : (right.modifySession 0 change).sessions.map (·.pending) =
      right.sessions.map (·.pending) := by
    simp [System.modifySession, otherOnly, pending]
  have opensLeft (entry : PendingRequest) :
      (left.modifySession 0 change).Opens entry ↔ left.Opens entry :=
    System.opens_congr rfl pendingLeft
  have opensRight (entry : PendingRequest) :
      (right.modifySession 0 change).Opens entry ↔ right.Opens entry :=
    System.opens_congr rfl pendingRight
  exact {
    secludedLeft :=
      alike.secludedLeft.of_same rfl (fun _ => id) rfl (fun _ => rfl) pendingLeft fun _ => id
    secludedRight :=
      alike.secludedRight.of_same rfl (fun _ => id) rfl (fun _ => rfl) pendingRight fun _ => id
    unique := alike.unique
    outcomes := alike.outcomes
    nextTask := alike.nextTask
    tasks := alike.tasks
    outline := by
      have links := congrArg Prod.snd alike.outline
      simpa [System.outline, System.modifySession, only, otherOnly, outline _ _ same] using links
    opens := fun entry other isOpen => by
      simp only [opensLeft, opensRight] at isOpen ⊢
      exact alike.opens entry other isOpen
    opened := fun entry other isOpen => by
      simp only [opensLeft, opensRight] at isOpen ⊢
      exact alike.opened entry other isOpen
    handed := alike.handed
    accepted := alike.accepted }

/-- The task of somebody else changes in the same way on both sides. -/
theorem modifyTask
    {task : Nat} (isOther : task ≠ target.task) (change : TaskState Frame → TaskState Frame)
    (completion : ∀ found, (change found).completion = found.completion)
    (related : ∀ found counterpart, TaskAlike target paired found counterpart →
      TaskAlike target paired (change found) (change counterpart))
    (waitsLeft : ∀ found promise, left.loop.tasks[task]? = some found →
      found.awaiting = some promise → left.loop.outcome? promise = none →
        (change found).awaiting = some promise)
    (waitsRight : ∀ found promise, right.loop.tasks[task]? = some found →
      found.awaiting = some promise → right.loop.outcome? promise = none →
        (change found).awaiting = some promise) :
    Alike target paired (left.onLoop (·.modifyTask task change))
      (right.onLoop (·.modifyTask task change)) where
  secludedLeft := alike.secludedLeft.modifyTask task change completion
    (fun _ same => (isOther same).elim) fun found promise _ => waitsLeft found promise
  secludedRight := alike.secludedRight.modifyTask task change completion
    (fun _ same => (isOther same).elim) fun found promise _ => waitsRight found promise
  unique := alike.unique
  outcomes := alike.outcomes
  nextTask := by
    have sameLeft : (left.onLoop (·.modifyTask task change)).nextTask = left.nextTask :=
      left.loop.modifyTask_nextTask task change
    have sameRight : (right.onLoop (·.modifyTask task change)).nextTask = right.nextTask :=
      right.loop.modifyTask_nextTask task change
    rw [sameLeft, sameRight]
    exact alike.nextTask
  tasks := fun other isOtherToo => by
    simp only [System.onLoop, Scheduler.modifyTask, List.getElem?_modify]
    refine rel_map (alike.tasks other isOtherToo) fun found counterpart same => ?_
    by_cases isTask : task = other
    · simp only [if_pos isTask]
      exact related found counterpart same
    · simp only [if_neg isTask]
      exact same
  outline := alike.outline
  opens := alike.opens
  opened := alike.opened
  handed := alike.handed
  accepted := alike.accepted

end Alike

end LanguageClient.Client
