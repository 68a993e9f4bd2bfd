import LanguageClient.Proofs.Editor.Exchange
import LanguageClient.Proofs.Editor.Positions

/-!
# The order of the frames of an editor

In every run of an editor what is said about its document is an exchange: one opening, changes and
queries, one closing. A query asks whether the document is open when it begins, and not again after
its edits are flushed. So a query that waits for its flush while the document is closed comes late,
and no other frame does.
-/

namespace LanguageClient.Client

open LanguageClient.Json LanguageClient.Loop LanguageClient.Number LanguageClient.Protocol

/-- A query that waits until the edits are flushed. -/
def Frame.IsFlushing : Frame → Prop
  | .flushingForHover _ _ | .flushingForCompletion _ _ => True
  | _ => False

/-- A task whose query waits until the edits are flushed. -/
def System.FlushesIn (system : System) (task : Nat) : Prop :=
  ∃ found, system.loop.tasks[task]? = some found ∧ ∃ frame ∈ found.stack, frame.IsFlushing

/-! ## Courses that lack some deeds -/

/-- No word of a language has an unwanted deed in it. -/
def Lacks (language : Language Deed) (unwanted : Deed → Prop) : Prop :=
  ∀ deeds ∈ language, ∀ deed ∈ deeds, ¬ unwanted deed

section Lacks

variable {first second : Language Deed} {unwanted : Deed → Prop}

theorem lacks_one : Lacks 1 unwanted := by
  intro deeds isWord deed member
  rw [(Language.mem_one deeds).mp isWord] at member
  cases member

theorem Lacks.mul (lacksFirst : Lacks first unwanted) (lacksSecond : Lacks second unwanted) :
    Lacks (first * second) unwanted := by
  intro deeds isWord deed member
  obtain ⟨head, isHead, tail, isTail, rfl⟩ := Language.mem_mul.mp isWord
  exact (List.mem_append.mp member).elim (lacksFirst head isHead deed) (lacksSecond tail isTail deed)

theorem flushingCourse_lacks (wanted : ∀ file, ¬ unwanted (.change file)) :
    Lacks flushingCourse unwanted := by
  rintro _ ⟨file, rfl | rfl⟩ deed member
  · cases member
  · rw [List.mem_singleton.mp member]
    exact wanted file

theorem askingCourse_lacks (wanted : ¬ unwanted .ask) : Lacks askingCourse unwanted := by
  rintro _ (rfl | rfl) deed member
  · cases member
  · rw [List.mem_singleton.mp member]
    exact wanted

theorem clearingCourse_lacks (wanted : ∀ workspace, ¬ unwanted (.clear workspace)) :
    Lacks clearingCourse unwanted := by
  rintro _ (rfl | ⟨workspace, rfl⟩) deed member
  · cases member
  · rw [List.mem_singleton.mp member]
    exact wanted workspace

theorem closingCourse_lacks
    (wanted : ∀ file, ¬ unwanted (.retract file) ∧ ¬ unwanted (.forget file)) (file : Nat) :
    Lacks (closingCourse file) unwanted := by
  rintro _ (rfl | rfl | rfl) deed member
  · cases member
  · rw [List.mem_singleton.mp member]
    exact (wanted file).1
  · rw [List.mem_singleton.mp member]
    exact (wanted file).2

theorem detachingCourse_lacks
    (wanted : ∀ file, ¬ unwanted (.retract file) ∧ ¬ unwanted (.forget file)) :
    Lacks detachingCourse unwanted := by
  rintro deeds ⟨file, isWord⟩
  exact closingCourse_lacks wanted file deeds isWord

theorem openingCourse_lacks
    (workspace : Nat) (uri : String) (announced : ∀ file, ¬ unwanted (.announce file))
    (withdrawn : ∀ workspace uri, ¬ unwanted (.withdraw workspace uri)) :
    Lacks (openingCourse workspace uri) unwanted := by
  rintro _ (rfl | ⟨file, rfl | rfl⟩) deed member
  · cases member
  · rw [List.mem_singleton.mp member]
    exact announced file
  · rcases List.mem_cons.mp member with rfl | isLast
    · exact announced file
    · rw [List.mem_singleton.mp isLast]
      exact withdrawn workspace uri

theorem startingCourse_lacks
    (announced : ∀ file, ¬ unwanted (.announce file))
    (withdrawn : ∀ workspace uri, ¬ unwanted (.withdraw workspace uri))
    (cleared : ∀ workspace, ¬ unwanted (.clear workspace)) : Lacks startingCourse unwanted := by
  refine Lacks.mul ?_ (clearingCourse_lacks cleared)
  rintro deeds ⟨workspace, uri, isWord⟩
  exact openingCourse_lacks workspace uri announced withdrawn deeds isWord

end Lacks

/-! ## Who asks -/

/-- Only a query that waits for its flush can still be asked. -/
theorem Frame.lacks_ask {frame : Frame} (inner : frame.IsInner) (other : ¬ frame.IsFlushing) :
    Lacks frame.course (· = .ask) := by
  cases frame with
  | begin call => exact inner.elim
  | startingCommand command => exact inner.elim
  | hoveringCommand command => exact inner.elim
  | completingCommand command => exact inner.elim
  | waitingCommand command => exact inner.elim
  | closingCommand ending => exact inner.elim
  | flushingForHover editor offset => exact (other trivial).elim
  | flushingForCompletion editor query => exact (other trivial).elim
  | opening workspace uri file =>
      rintro _ (rfl | rfl) deed member
      · cases member
      · rw [List.mem_singleton.mp member]
        nofun
  | locking synchronizer promise force => exact flushingCourse_lacks nofun
  | settlingSends synchronizer => exact detachingCourse_lacks fun _ => ⟨nofun, nofun⟩
  | creatingWorkspace editor => exact startingCourse_lacks nofun nofun nofun
  | openingDocument editor text => exact clearingCourse_lacks nofun
  | closingSynchronizer editor => exact clearingCourse_lacks nofun
  | _ => exact lacks_one

theorem exists_isFlushing
    {frames : List Frame} {deeds : List Deed} (inner : ∀ frame ∈ frames, frame.IsInner)
    (isWord : deeds ∈ courseOf frames) (asks : .ask ∈ deeds) :
    ∃ frame ∈ frames, frame.IsFlushing := by
  by_contra none
  have lacks : ∀ frames : List Frame, (∀ frame ∈ frames, Lacks frame.course (· = .ask)) →
      Lacks (courseOf frames) (· = .ask) := by
    intro frames each
    induction frames with
    | nil => exact lacks_one
    | cons frame others inductionHypothesis =>
        have isCourse : courseOf (frame :: others) = frame.course * courseOf others :=
          List.prod_cons
        rw [isCourse]
        exact (each frame List.mem_cons_self).mul
          (inductionHypothesis fun other member => each other (List.mem_cons_of_mem _ member))
  refine lacks frames (fun frame member => ?_) deeds isWord .ask asks rfl
  exact Frame.lacks_ask (inner frame member) fun flushing => none ⟨frame, member, flushing⟩

/-- A query that waits for its flush may still ask, and nothing else is done then. -/
theorem ask_mem_courseOf
    {frames : List Frame} {frame : Frame} (inner : ∀ frame ∈ frames, frame.IsInner)
    (member : frame ∈ frames) (flushing : frame.IsFlushing) : [.ask] ∈ courseOf frames := by
  induction frames with
  | nil => cases member
  | cons first others inductionHypothesis =>
      have innerOthers : ∀ frame ∈ others, frame.IsInner := fun other isOther =>
        inner other (List.mem_cons_of_mem _ isOther)
      have isCourse : courseOf (first :: others) = first.course * courseOf others := List.prod_cons
      rw [isCourse]
      rcases List.mem_cons.mp member with rfl | isOther
      · have asks : [Deed.ask] ∈ frame.course := by
          cases frame with
          | flushingForHover editor offset => exact Or.inr rfl
          | flushingForCompletion editor query => exact Or.inr rfl
          | _ => exact flushing.elim
        exact Language.append_mem_mul asks (nil_mem_courseOf innerOthers)
      · exact Language.append_mem_mul (nil_mem_course_of_inner (inner first List.mem_cons_self))
          (inductionHypothesis innerOthers isOther)

namespace System

variable {before system : System} {task : Nat} {rest : ClientLoop} {found : TaskState Frame}
  {input : Input} {stage : Stage}

/-! ## Queries while no document is open -/

theorem not_isReady
    (nothing : ∀ workspace uri, system.openFile? workspace uri = none) (synchronizer : Nat) :
    system.isReady synchronizer = false := by
  unfold isReady
  split
  · rfl
  · unfold isOpen
    split
    · rfl
    · simp [nothing]

theorem hover_ends
    (nothing : ∀ workspace uri, system.openFile? workspace uri = none) (editor : Nat)
    (offset : Int) : ∃ outcome, system.hover editor offset = (system, .ended outcome) := by
  unfold hover
  split
  · exact ⟨_, rfl⟩
  · rename_i found _
    have notReady : system.readyWorkspace? found = none := by
      simp [readyWorkspace?, not_isReady nothing]
    rw [notReady]
    exact ⟨_, rfl⟩

theorem complete_ends
    (nothing : ∀ workspace uri, system.openFile? workspace uri = none) (editor : Nat)
    (offset : Int) (explicit : Bool) :
    ∃ outcome, system.complete editor offset explicit = (system, .ended outcome) := by
  unfold complete
  split
  · exact ⟨_, rfl⟩
  · rename_i found _
    have notReady : system.readyWorkspace? found = none := by
      simp [readyWorkspace?, not_isReady nothing]
    rw [notReady]
    exact ⟨_, rfl⟩

/-- A call that asks a query does nothing unless a document is registered. -/
theorem Resumes.turned_of_query
    {call : Call} (resumes : Resumes before task rest found) (begins : found.stack = [.begin call])
    (isQuery : call.IsQuery)
    (nothing : ∀ workspace uri, before.openFile? workspace uri = none) :
    Turned before task 1 (before.step .turn) := by
  have nothingHere : ∀ workspace uri, (before.resumed rest task).openFile? workspace uri = none :=
    nothing
  have ends : ∃ outcome, (before.resumed rest task).call call =
      (before.resumed rest task, .ended outcome) := by
    cases call with
    | hover editor offset => exact hover_ends nothingHere editor offset
    | complete editor offset explicit => exact complete_ends nothingHere editor offset explicit
    | _ => exact isQuery.elim
  have idle : (before.resumption rest task found).Conducts [] (before.resumed rest task) 1
      (before.resumed rest task) := by
    rcases before.resumption_begin rest task begins with result | ⟨outcome, _, result⟩
    · obtain ⟨outcome, same⟩ := ends
      rw [result, same]
      exact (Idles.refl (.refl [] _)).ended Language.nil_mem_one outcome
    · rw [result]
      exact (Idles.refl (.refl [] _)).ended Language.nil_mem_one outcome
  exact resumes.turned idle

/-- Who asks in a turn has waited for his flush, or he begins while some document is registered and
retracts none. -/
theorem Resumes.turned_asking
    (resumes : Resumes before task rest found) (tracked : IsTracked found.stack) :
    ∃ language, language ≤ courseOf found.stack ∧
      Turned before task language (before.step .turn) ∧
        ∀ deeds ∈ language, .ask ∈ deeds → before.FlushesIn task ∨
          (¬ ∀ workspace uri, before.openFile? workspace uri = none) ∧
            ∀ file, .retract file ∉ deeds := by
  have whole := resumes.turned (before.resumption_conducts rest task tracked)
  rcases tracked with ⟨call, begins, plain⟩ | inner
  · by_cases isQuery : call.IsQuery
    · by_cases nothing : ∀ workspace uri, before.openFile? workspace uri = none
      · refine ⟨1, ?_, resumes.turned_of_query begins isQuery nothing, ?_⟩
        · rintro _ rfl
          rw [begins, courseOf_begin]
          cases call with
          | hover editor offset => exact nil_mem_queryCourse
          | complete editor offset explicit => exact nil_mem_queryCourse
          | _ => exact isQuery.elim
        · rintro _ rfl asks
          cases asks
      · refine ⟨_, le_refl _, whole, fun deeds isWord _ => Or.inr ⟨nothing, fun file member => ?_⟩⟩
        rw [begins, courseOf_begin] at isWord
        have lacks : Lacks (flushingCourse * askingCourse) (· = .retract file) :=
          (flushingCourse_lacks nofun).mul (askingCourse_lacks nofun)
        cases call with
        | hover editor offset => exact lacks deeds isWord _ member rfl
        | complete editor offset explicit => exact lacks deeds isWord _ member rfl
        | _ => exact isQuery.elim
    · refine ⟨_, le_refl _, whole, fun deeds isWord asks => ?_⟩
      rw [begins, courseOf_begin] at isWord
      have lacks : Lacks call.course (· = .ask) := by
        cases call with
        | request session method params timeout => exact plain.elim
        | notify session method params => exact plain.elim
        | runCommand command => exact plain.elim
        | hover editor offset => exact (isQuery trivial).elim
        | complete editor offset explicit => exact (isQuery trivial).elim
        | openFile workspace uri languageId text listeners =>
            exact openingCourse_lacks workspace uri nofun nofun
        | changeFile file version text =>
            rintro _ (rfl | rfl) deed member
            · cases member
            · rw [List.mem_singleton.mp member]
              nofun
        | closeFile file => exact closingCourse_lacks (fun _ => ⟨nofun, nofun⟩) file
        | closeWorkspace workspace => exact clearingCourse_lacks nofun
        | flush synchronizer force => exact flushingCourse_lacks nofun
        | sendDebounced synchronizer => exact flushingCourse_lacks nofun
        | refresh editor => exact flushingCourse_lacks nofun
        | closeSynchronizer synchronizer => exact detachingCourse_lacks fun _ => ⟨nofun, nofun⟩
        | start editor => exact startingCourse_lacks nofun nofun nofun
        | closeEditor editor =>
            exact (detachingCourse_lacks fun _ => ⟨nofun, nofun⟩).mul (clearingCourse_lacks nofun)
        | _ => exact lacks_one
      exact (lacks deeds isWord _ asks rfl).elim
  · refine ⟨_, le_refl _, whole, fun deeds isWord asks => Or.inl ⟨found, resumes.entry, ?_⟩⟩
    exact exists_isFlushing inner isWord asks

end System

/-! ## The invariant -/

/-- How many announcements a task has left. Only the first task announces, and only once. -/
def Stage.allowance (stage : Stage) (task : Nat) : Nat :=
  if stage = .unopened ∧ task = 0 then 1 else 0

/-- What is known about a client with one editor at some stage of its document. -/
structure EditorOrder (stage : Stage) (system : System) : Prop where
  exchange : Exchange system.wire stage
  registers : stage.Registers system
  tracked : ∀ (task : Nat) (found : TaskState Frame), system.loop.tasks[task]? = some found →
    System.IsTracked found.stack
  announcements : ∀ (task : Nat) (found : TaskState Frame),
    system.loop.tasks[task]? = some found → ∀ deeds ∈ courseOf found.stack,
      deeds.countP Deed.isAnnouncement ≤ stage.allowance task
  unasked : stage = .unopened → ∀ task, ¬ system.FlushesIn task

/-- What one input does about the document. -/
structure OrderStep (stage : Stage) (before : System) (input : Input) (deeds : List Deed)
    (after : System) : Prop where
  does : System.Does before deeds after
  order : EditorOrder (deeds.foldl Stage.next stage) after
  silent : stage ≠ .unopened → deeds.countP Deed.isAnnouncement = 0
  flushes : ∀ task, after.FlushesIn task → before.FlushesIn task ∨
    stage = .opened ∧ ∀ file, .retract file ∉ deeds
  asks : .ask ∈ deeds → input = .turn ∧ ∃ task stack, before.comingTask? = some (task, stack) ∧
    (before.FlushesIn task ∨ stage = .opened)

theorem lacks_announcement_of_onEditor
    {call : Call} (allowed : (Input.call call).OnEditor ∨ IsOwnBeginning [.begin call]) :
    ∀ deeds ∈ call.course, deeds.countP Deed.isAnnouncement = 0 := by
  have lacks : Lacks call.course (·.isAnnouncement = true) := by
    have own : call.IsQuery ∨ call.course = flushingCourse ∨ call.course = 1 ∨
        call.course = detachingCourse * clearingCourse := by
      rcases allowed with onEditor | ⟨session, id, begins⟩ | ⟨synchronizer, begins⟩
      · cases call with
        | hover editor offset => exact Or.inl trivial
        | complete editor offset explicit => exact Or.inl trivial
        | refresh editor => exact Or.inr (Or.inl rfl)
        | closeEditor editor => exact Or.inr (Or.inr (Or.inr rfl))
        | _ => exact onEditor.elim
      · rw [Frame.begin.inj (List.cons.inj begins).1]
        exact Or.inr (Or.inr (Or.inl rfl))
      · rw [Frame.begin.inj (List.cons.inj begins).1]
        exact Or.inr (Or.inl rfl)
    rcases own with isQuery | isCourse | isCourse | isCourse
    · have queries : Lacks (flushingCourse * askingCourse) (·.isAnnouncement = true) :=
        (flushingCourse_lacks nofun).mul (askingCourse_lacks nofun)
      cases call with
      | hover editor offset => exact queries
      | complete editor offset explicit => exact queries
      | _ => exact isQuery.elim
    · rw [isCourse]
      exact flushingCourse_lacks nofun
    · rw [isCourse]
      exact lacks_one
    · rw [isCourse]
      exact (detachingCourse_lacks fun _ => ⟨nofun, nofun⟩).mul (clearingCourse_lacks nofun)
  exact fun deeds isWord => List.countP_eq_zero.mpr fun deed member => lacks deeds isWord deed member

section Step

open LanguageClient.Client.System

variable {before after : System} {task : Nat} {rest : ClientLoop} {found : TaskState Frame}
  {input : Input} {stage later : Stage}

/-- What is known about a task that has not just had its turn. -/
theorem EditorOrder.of_stays
    {laterFound : TaskState Frame} (order : EditorOrder stage before) (allowed : input.OnEditor)
    (stays : Stays before input task laterFound) :
    IsTracked laterFound.stack ∧
      (∀ deeds ∈ courseOf laterFound.stack,
        deeds.countP Deed.isAnnouncement ≤ stage.allowance task) ∧
      ((∃ frame ∈ laterFound.stack, frame.IsFlushing) → before.FlushesIn task) := by
  rcases stays with ⟨earlier, entry, same, _⟩ | ⟨_, _, begins⟩
  · rw [same]
    exact ⟨order.tracked task earlier entry, order.announcements task earlier entry,
      fun flushing => ⟨earlier, entry, flushing⟩⟩
  · obtain ⟨call, isCall, isAllowed⟩ : ∃ call : Call, laterFound.stack = [.begin call] ∧
        ((Input.call call).OnEditor ∨ IsOwnBeginning [.begin call]) := by
      rcases begins with own | ⟨call, rfl, begins⟩
      · have isOwn := own
        rcases own with ⟨session, id, begins⟩ | ⟨synchronizer, begins⟩
        · exact ⟨_, begins, Or.inr (begins ▸ isOwn)⟩
        · exact ⟨_, begins, Or.inr (begins ▸ isOwn)⟩
      · exact ⟨call, begins, Or.inl allowed⟩
    rw [isCall, courseOf_begin]
    refine ⟨Or.inl ⟨call, rfl, ?_⟩, fun deeds isWord => ?_, fun ⟨frame, member, flushing⟩ => ?_⟩
    · rcases isAllowed with onEditor | ⟨session, id, begins⟩ | ⟨synchronizer, begins⟩
      · cases call with
        | hover editor offset => trivial
        | complete editor offset explicit => trivial
        | refresh editor => trivial
        | closeEditor editor => trivial
        | _ => exact onEditor.elim
      · rw [Frame.begin.inj (List.cons.inj begins).1]
        trivial
      · rw [Frame.begin.inj (List.cons.inj begins).1]
        trivial
    · rw [lacks_announcement_of_onEditor isAllowed deeds isWord]
      exact Nat.zero_le _
    · rw [List.mem_singleton.mp member] at flushing
      exact flushing.elim

/-- An input that does nothing about the document. -/
theorem EditorOrder.aside
    (order : EditorOrder stage before) (allowed : input.OnEditor) (aside : Aside before after)
    (stays : ∀ (task : Nat) (later : TaskState Frame), after.loop.tasks[task]? = some later →
      Stays before input task later) :
    OrderStep stage before input [] after where
  does := .aside aside
  order := {
    exchange := aside.wire ▸ order.exchange
    registers := aside.registers order.registers
    tracked := fun task later entry => (order.of_stays allowed (stays task later entry)).1
    announcements := fun task later entry =>
      (order.of_stays allowed (stays task later entry)).2.1
    unasked := fun unopened task ⟨later, entry, flushing⟩ => order.unasked unopened task
      ((order.of_stays allowed (stays task later entry)).2.2 flushing) }
  silent := fun _ => rfl
  flushes := fun task ⟨later, entry, flushing⟩ => Or.inl
    ((order.of_stays allowed (stays task later entry)).2.2 flushing)
  asks := fun member => absurd member List.not_mem_nil

theorem Stage.allowance_of_not_first (stage : Stage) (notFirst : task ≠ 0) :
    stage.allowance task = 0 :=
  if_neg fun both => notFirst both.2

theorem Stage.allowance_of_opened (opened : stage ≠ .unopened) (task : Nat) :
    stage.allowance task = 0 :=
  if_neg fun both => opened both.1

theorem Stage.allowance_through
    {deeds : List Deed} (silent : deeds.countP Deed.isAnnouncement = 0) (task : Nat) :
    (deeds.foldl Stage.next stage).allowance task = stage.allowance task := by
  simp only [Stage.allowance, Stage.through_eq_unopened_iff stage silent]

/-- The turn of a task. -/
theorem EditorOrder.turn
    (order : EditorOrder stage before) (resumes : Resumes before task rest found) :
    ∃ deeds, OrderStep stage before .turn deeds (before.step .turn) := by
  have onTurn : Input.turn.OnEditor := trivial
  have tracked := order.tracked task found resumes.entry
  obtain ⟨language, within, turned, asking⟩ := resumes.turned_asking tracked
  obtain ⟨deeds, left, does, entry, words, inner⟩ := turned.does
  have isWord : deeds ∈ language := by
    have whole := words [] (nil_mem_courseOf inner)
    rwa [List.append_nil] at whole
  have count := order.announcements task found resumes.entry
  have counted : deeds.countP Deed.isAnnouncement ≤ stage.allowance task :=
    count deeds (within isWord)
  -- Who asks begins while the document is open, or has waited for his flush.
  have asks {word : List Deed} (isWord : word ∈ language) (asked : .ask ∈ word) :
      before.FlushesIn task ∨ stage = .opened ∧ ∀ file, .retract file ∉ word := by
    refine (asking word isWord asked).imp_right fun ⟨registered, kept⟩ => ⟨?_, kept⟩
    by_contra notOpen
    exact registered (order.registers.nothing notOpen)
  have permits : stage.Permits deeds := by
    refine stage.permits_of_count ?_ fun unopened asked => ?_
    · refine Nat.le_trans counted ?_
      by_cases unopened : stage = .unopened
      · rw [if_pos unopened]
        unfold Stage.allowance
        split <;> omega
      · rw [if_neg unopened, Stage.allowance_of_opened unopened]
    · rcases asks isWord asked with flushing | ⟨opened, _⟩
      · exact order.unasked unopened task flushing
      · rw [unopened] at opened
        cases opened
  obtain ⟨exchange, registers⟩ := does.exchange order.exchange order.registers permits
  have flushes (other : Nat) (flushing : (before.step .turn).FlushesIn other) :
      before.FlushesIn other ∨ stage = .opened ∧ ∀ file, .retract file ∉ deeds := by
    obtain ⟨laterFound, laterEntry, isFlushing⟩ := flushing
    by_cases same : other = task
    · subst same
      obtain rfl := Option.some.inj (entry.symm.trans laterEntry)
      obtain ⟨frame, member, isFlushing⟩ := isFlushing
      have mayAsk := words [.ask] (ask_mem_courseOf inner member isFlushing)
      refine (asks mayAsk (List.mem_append_right _ (List.mem_singleton.mpr rfl))).imp_right ?_
      exact fun ⟨opened, kept⟩ =>
        ⟨opened, fun file isDeed => kept file (List.mem_append_left _ isDeed)⟩
    · exact Or.inl ((order.of_stays onTurn
        (turned.others other laterFound same laterEntry)).2.2 isFlushing)
  refine ⟨deeds, does, ⟨exchange, registers, ?_, ?_, ?_⟩, fun opened => ?_, flushes, fun asked => ?_⟩
  · intro other laterFound laterEntry
    by_cases same : other = task
    · subst same
      obtain rfl := Option.some.inj (entry.symm.trans laterEntry)
      exact Or.inr inner
    · exact (order.of_stays onTurn (turned.others other laterFound same laterEntry)).1
  · intro other laterFound laterEntry word isRest
    by_cases same : other = task
    · subst same
      obtain rfl := Option.some.inj (entry.symm.trans laterEntry)
      have both := count _ (within (words word isRest))
      rw [List.countP_append] at both
      by_cases silent : deeds.countP Deed.isAnnouncement = 0
      · rw [Stage.allowance_through silent]
        omega
      · have single : stage.allowance other ≤ 1 := by
          unfold Stage.allowance
          split <;> omega
        omega
    · have kept := (order.of_stays onTurn
        (turned.others other laterFound same laterEntry)).2.1 word isRest
      by_cases silent : deeds.countP Deed.isAnnouncement = 0
      · rwa [Stage.allowance_through silent]
      · -- The first task has announced, so the other one is not the first.
        have first : task = 0 := by
          by_contra notFirst
          rw [Stage.allowance_of_not_first stage notFirst] at counted
          exact silent (Nat.le_zero.mp counted)
        rw [Stage.allowance_of_not_first stage (first ▸ same)] at kept
        exact Nat.le_trans kept (Nat.zero_le _)
  · intro unopened other flushing
    have wasUnopened : stage = .unopened := by
      by_contra opened
      exact Stage.through_of_opened opened unopened
    rcases flushes other flushing with earlier | ⟨opened, _⟩
    · exact order.unasked wasUnopened other earlier
    · rw [wasUnopened] at opened
      cases opened
  · rw [Stage.allowance_of_opened opened] at counted
    exact Nat.le_zero.mp counted
  · exact ⟨rfl, task, found.stack, resumes.comingTask?,
      (asks isWord asked).imp_right And.left⟩

theorem EditorOrder.step
    (order : EditorOrder stage before) (allowed : input.OnEditor) :
    ∃ deeds, OrderStep stage before input deeds (before.step input) := by
  cases step_conducted order.tracked input with
  | aside aside stays => exact ⟨[], order.aside allowed aside stays⟩
  | turn task rest found isTurn resumes turned =>
      subst isTurn
      exact order.turn resumes

end Step

end LanguageClient.Client
