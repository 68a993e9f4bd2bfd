import Mathlib.Data.List.Nodup
import LanguageClient.Proofs.Inquiry.Inertness
import LanguageClient.Proofs.Session.Pending

/-!
# Answers to the peer

Every request of the peer that an open session takes is answered once, with null and its own id, and
the answers are handed over in the order in which the requests came. Only if the session is closed
before its task begins is a request left without an answer. Nothing else notices the requests of the
peer and their answers, whatever ids they have and whatever comes of the writes.
-/

namespace LanguageClient.Client

open LanguageClient.Json LanguageClient.Loop LanguageClient.Number LanguageClient.Protocol

variable {registered : List Registration} {system start : System} {input : Input}
  {inputs : Nat → Input} {task count : Nat} {rest : ClientLoop} {found : TaskState Frame}
  {inquiry : Inquiry}

/-- The host uses the session alone, and leaves the answers to it: it neither answers requests of
the peer nor cancels the tasks that do. -/
structure System.HostsSession (start : System) (inputs : Nat → Input) : Prop where
  onSession : ∀ place, (inputs place).OnSession
  answersNothing : ∀ place session id, inputs place ≠ .call (.answer session id)
  cancelsNothing : ∀ place, ∀ inquiry ∈ start.inquiries inputs place,
    inputs place ≠ .cancel inquiry.task

/-- The requests of the peer whose tasks began with some of the inputs of a run, in order, whether
they were answered or cancelled. -/
def System.startingInquiries (system : System) (inputs : Nat → Input) (count : Nat) :
    List Inquiry :=
  (List.range count).filterMap fun place =>
    (system.after inputs place).startingInquiry? (inputs place)

/-! ## One step -/

/-- A request of the peer that is answered begins its task. -/
theorem startingInquiry?_of_answered (answered : system.answeredInquiry? input = some inquiry) :
    system.startingInquiry? input = some inquiry := by
  obtain ⟨task, goesOn, begins⟩ := Option.bind_eq_some_iff.mp answered
  obtain ⟨call, begun, asked⟩ := Option.bind_eq_some_iff.mp begins
  cases call with
  | answer session id =>
      obtain rfl := Option.some.inj asked
      obtain ⟨found, entry, isCall⟩ := Option.bind_eq_some_iff.mp begun
      split at isCall
      · cases isCall
      · split at isCall
        · rename_i stackEq
          obtain rfl := Option.some.inj isCall
          simp only [System.startingInquiry?, goesOn, Option.bind_some]
          exact System.inquiryOf?_eq_some_iff.mpr ⟨found, session, entry, stackEq, rfl⟩
        · cases isCall
  | _ => cases asked

/-- A request of the peer whose task begins is answered, unless the task was cancelled. -/
theorem InquiryWorld.answers_or_cancelled
    (world : InquiryWorld registered system)
    (starts : system.startingInquiry? input = some inquiry) :
    inquiry ∈ system.waitingInquiries ∧
      (system.answeredInquiry? input = some inquiry ∨
        ∃ found : TaskState Frame, system.loop.tasks[inquiry.task]? = some found ∧
          found.cancelRequested = true) := by
  obtain ⟨task, goesOn, asked⟩ := Option.bind_eq_some_iff.mp starts
  obtain ⟨found, session, entry, stackEq, rfl⟩ := System.inquiryOf?_eq_some_iff.mp asked
  have isReady : inquiry.task ∈ resumed system.loop.ready := by
    cases input with
    | turn =>
        obtain ⟨callback, coming, isResume⟩ := Option.bind_eq_some_iff.mp goesOn
        obtain ⟨⟨next, rest⟩, isNext, rfl⟩ := Option.map_eq_some_iff.mp coming
        have taken := Scheduler.taken_of_next? isNext
        rw [← taken.resumed]
        simp only [resumed, List.filterMap_cons_some isResume, List.mem_cons, true_or]
    | _ => cases goesOn
  have waits : inquiry ∈ system.waitingInquiries :=
    List.mem_filterMap.mpr ⟨inquiry.task, isReady, asked⟩
  refine ⟨waits, ?_⟩
  cases cancelled : found.cancelRequested with
  | true => exact Or.inr ⟨found, entry, cancelled⟩
  | false =>
      left
      have unended := world.unended inquiry waits
      rw [ending?_of_entry entry] at unended
      have begun : system.begunCall? inquiry.task = some (.answer session inquiry.id) := by
        simp [System.begunCall?, entry, Scheduler.hasEnded, Scheduler.isSettled, unended,
          cancelled, stackEq]
      simp only [System.answeredInquiry?, goesOn, begun, Option.bind_some, Call.inquiry?]

/-- An arriving request of the peer waits, if it was not there before. -/
theorem InquiryWorld.waiting_cases
    {after : System} {arrives leaves answers : Option Inquiry} {running : Option Nat}
    {cancels : Nat → Prop} (handles : Handles arrives leaves answers running cancels system after)
    (waits : inquiry ∈ after.waitingInquiries) :
    inquiry ∈ system.waitingInquiries ∨ arrives = some inquiry := by
  have member : inquiry ∈ system.waitingInquiries ++ arrives.toList := by
    rw [handles.queue]
    exact List.mem_append_right _ waits
  simpa using member

/-- Every input keeps the invariant. -/
theorem InquiryWorld.step
    (world : InquiryWorld registered system) (onSession : input.OnSession)
    (answersNothing : ∀ session id, input ≠ .call (.answer session id)) :
    InquiryWorld (registered ++ (system.registration? input).toList) (system.step input) := by
  obtain ⟨running, _, handles⟩ := world.handlesInput onSession answersNothing
  refine ⟨(input_step world.session onSession).world, ?_, ?_, handles.hears.trans world.hears⟩
  · intro task found entry
    by_cases runs : running = some task
    · exact Or.inr (handles.left task found runs entry)
    · rcases Nat.lt_or_ge task system.nextTask with known | isNew
      · obtain ⟨earlier, earlierEntry⟩ : ∃ earlier, system.loop.tasks[task]? = some earlier :=
          ⟨_, List.getElem?_eq_getElem known⟩
        obtain ⟨_, laterEntry, _⟩ := handles.tasks task earlier earlierEntry runs
        rw [laterEntry] at entry
        obtain rfl := Option.some.inj entry
        exact world.frames task earlier earlierEntry
      · exact Or.inl (handles.started task found isNew entry).2
  · intro inquiry waits
    rcases InquiryWorld.waiting_cases handles waits with earlier | arrives
    · obtain ⟨_, found, session, entry, _⟩ := System.mem_waitingInquiries.mp earlier
      obtain ⟨_, later, laterSession, laterEntry, begins⟩ := System.mem_waitingInquiries.mp waits
      have known : inquiry.task < system.nextTask := (List.getElem?_eq_some_iff.mp entry).1
      rw [← world.unended inquiry earlier]
      refine (world.session.keepsTask onSession known fun isTurn rest state resumes => ?_).ending
      subst isTurn
      have exchange := (world.turn_handles resumes).left inquiry.task later rfl laterEntry
      exact exchange (.begin (.answer laterSession inquiry.id))
        (by rw [begins]; exact List.mem_cons_self)
    · exact handles.fresh inquiry arrives

/-- No task goes on when a text is heard. -/
theorem resumedTask?_of_heard {text : String} (heard : system.heardText? 0 input = some text) :
    system.resumedTask? input = none := by
  cases input with
  | turn =>
      simp only [System.heardText?] at heard
      split at heard
      · rename_i coming
        simp only [System.resumedTask?, coming, Option.bind_some, Callback.resumed?]
      · cases heard
  | _ => rfl

/-- An arriving request of the peer joins the queue at its end, with a task of its own. -/
theorem InquiryWorld.arrival
    (world : InquiryWorld registered system) (onSession : input.OnSession)
    (answersNothing : ∀ session id, input ≠ .call (.answer session id))
    (arrives : system.arrivingInquiry? input = some inquiry) :
    inquiry.task = system.nextTask ∧ inquiry ∈ (system.step input).waitingInquiries := by
  obtain ⟨text, heard, taken⟩ := Option.bind_eq_some_iff.mp arrives
  obtain ⟨running, _, handles⟩ := world.handlesInput onSession answersNothing
  have isNew : inquiry.task = system.nextTask := by
    obtain ⟨id, _, opened⟩ := Option.bind_eq_some_iff.mp taken
    obtain ⟨found, _, isInquiry⟩ := Option.bind_eq_some_iff.mp opened
    split at isInquiry
    · cases isInquiry
    · rw [← Option.some.inj isInquiry]
  have queue := handles.queue
  rw [(starts_of_waiting (resumedTask?_of_heard heard)).1, arrives] at queue
  have joined : system.waitingInquiries ++ [inquiry] = (system.step input).waitingInquiries := queue
  exact ⟨isNew, joined ▸ List.mem_append_right _ List.mem_cons_self⟩

/-- A task that answers goes on as one, or stays where it is. -/
theorem InquiryWorld.keeps_answer
    (world : InquiryWorld registered system) (onSession : input.OnSession)
    (entry : system.loop.tasks[task]? = some found) (answers : IsAnswerStack found.stack) :
    ∃ later : TaskState Frame, (system.step input).loop.tasks[task]? = some later ∧
      IsAnswerStack later.stack := by
  by_cases goesOn : input = .turn ∧ ∃ rest state, System.Resumes system task rest state
  · obtain ⟨rfl, rest, state, resumes⟩ := goesOn
    obtain rfl : state = found := Option.some.inj (resumes.entry.symm.trans entry)
    have ran := world.session.resumption_passage resumes
    obtain ⟨⟨cancelRequested, left⟩, _⟩ := resumes.leaves_turn ran.passage.loop
    obtain ⟨session, only, _⟩ := world.session.parts.session
    have sessionFound : (system.resumed rest task).sessions[0]? = some session := by
      have same : (system.resumed rest task).sessions = [session] := only
      rw [same]
      rfl
    have ends : Unobtrusive task _ _ ∧ IsAnswerStack _ :=
      answers.goesOn sessionFound (system.signalOf state)
    exact ⟨_, left, ends.2⟩
  · have waits : input = .turn → ∀ rest state, ¬ System.Resumes system task rest state :=
      fun isTurn rest state resumes => goesOn ⟨isTurn, rest, state, resumes⟩
    have known : task < system.nextTask := (List.getElem?_eq_some_iff.mp entry).1
    obtain ⟨cancelRequested, later⟩ :=
      (world.session.keepsTask onSession known waits).entry found entry
    exact ⟨_, later, answers⟩

/-- The turn of a task that answers leaves all else alone, also when the task has ended. -/
theorem InquiryWorld.resumed_inert
    (world : InquiryWorld registered system) (goesOn : system.resumedTask? input = some task)
    (entry : system.loop.tasks[task]? = some found) (answers : IsAnswerStack found.stack) :
    Inert task system (system.step input) := by
  cases input with
  | turn =>
      obtain ⟨callback, coming, isResume⟩ := Option.bind_eq_some_iff.mp goesOn
      obtain rfl := Callback.resumed?_eq_some_iff.mp isResume
      rcases system.step_turn_cases with ⟨nothing, _⟩ | ⟨other, rest, next, runs⟩
      · simp [System.comingCallback?, nothing] at coming
      · obtain rfl : other = .resume task := by
          simpa [System.comingCallback?, next] using coming
        rcases System.resume_cases next with ⟨state, resumes⟩ | ⟨_, stays⟩
        · obtain rfl := Option.some.inj (entry.symm.trans resumes.entry)
          exact world.answer_inert resumes answers
        · rw [runs, stays]
          exact .of_taken (Scheduler.taken_of_next? next) (.refl _)
  | _ => cases goesOn

/-! ## A run -/

theorem ofSession_inquiryWorld (resolution : Rat) (defaultTimeout : Quantity) :
    InquiryWorld [] (System.ofSession resolution defaultTimeout) where
  session := ofSession_world resolution defaultTimeout
  frames := fun task found entry => by
    simp [System.ofSession, System.addLink, System.addSession] at entry
  unended := fun inquiry waits => absurd waits List.not_mem_nil
  hears := rfl

theorem filterMap_range_succ {Item : Type} (found : Nat → Option Item) (count : Nat) :
    (List.range (count + 1)).filterMap found =
      (List.range count).filterMap found ++ (found count).toList := by
  rw [List.range_succ, List.filterMap_append]
  cases last : found count with
  | none => rw [List.filterMap_cons_none last]; rfl
  | some item => rw [List.filterMap_cons_some last]; rfl

/-- What is answered comes in the order in which the answers began. -/
theorem answeredInquiries_sublist (start : System) (inputs : Nat → Input) (count : Nat) :
    (start.answeredInquiries inputs count).Sublist (start.startingInquiries inputs count) := by
  induction count with
  | zero => exact List.Sublist.refl []
  | succ count inductionHypothesis =>
      unfold System.answeredInquiries System.startingInquiries
      rw [filterMap_range_succ, filterMap_range_succ]
      refine List.Sublist.append inductionHypothesis ?_
      cases answered : (start.after inputs count).answeredInquiry? (inputs count) with
      | none => exact List.nil_sublist _
      | some inquiry =>
          rw [startingInquiry?_of_answered answered]

section Runs

variable (world : InquiryWorld [] start) (hosts : start.HostsSession inputs)

include world hosts

theorem inquiry_world (count : Nat) :
    InquiryWorld (start.registrations inputs count) (start.after inputs count) := by
  induction count with
  | zero => exact world
  | succ count inductionHypothesis =>
      exact inductionHypothesis.step (hosts.onSession count) (hosts.answersNothing count)

theorem inquiry_handles (count : Nat) : (start.after inputs count).HandlesInput (inputs count) :=
  (inquiry_world world hosts count).handlesInput (hosts.onSession count)
    (hosts.answersNothing count)

/-- The answers that were handed over are those of the tasks that began to answer. -/
theorem handedReplies_eq (mute : start.handedReplies = []) (count : Nat) :
    (start.after inputs count).handedReplies =
      (start.answeredInquiries inputs count).map fun inquiry => answerMessage inquiry.id := by
  induction count with
  | zero => exact mute
  | succ count inductionHypothesis =>
      obtain ⟨_, _, handles⟩ := inquiry_handles world hosts count
      unfold System.answeredInquiries
      rw [filterMap_range_succ, List.map_append]
      exact handles.replies.trans (congrArg (· ++ _) inductionHypothesis)

/-- A request of the peer that came is answered by a task that does nothing else. -/
theorem inquiry_answers (count : Nat) :
    ∀ inquiry ∈ start.inquiries inputs count, ∃ found : TaskState Frame,
      (start.after inputs count).loop.tasks[inquiry.task]? = some found ∧
        IsAnswerStack found.stack := by
  induction count with
  | zero => exact fun inquiry member => absurd member List.not_mem_nil
  | succ count inductionHypothesis =>
      intro inquiry member
      have worldNow := inquiry_world world hosts count
      unfold System.inquiries at member
      rw [filterMap_range_succ] at member
      rcases List.mem_append.mp member with earlier | arrives
      · obtain ⟨found, entry, answers⟩ := inductionHypothesis inquiry earlier
        exact worldNow.keeps_answer (hosts.onSession count) entry answers
      · obtain ⟨_, waits⟩ := worldNow.arrival (hosts.onSession count)
          (hosts.answersNothing count) (Option.mem_toList.mp arrives)
        obtain ⟨_, found, session, entry, begins⟩ := System.mem_waitingInquiries.mp waits
        refine ⟨found, entry, Or.inr (Or.inl ⟨inquiry.id, ?_⟩)⟩
        rcases (inquiry_world world hosts (count + 1)).session.orderly.tasks found
          (List.mem_of_getElem? entry) with ⟨call, onSession, callBegins, _⟩ | frames
        · rw [begins] at callBegins
          simp only [List.cons.injEq, Frame.begin.injEq, and_true] at callBegins
          subst callBegins
          obtain rfl : session = 0 := onSession
          exact begins
        · exact (frames (.begin (.answer session inquiry.id))
            (by rw [begins]; exact List.mem_cons_self)).elim

/-- Each request of the peer that came has a task of its own. -/
theorem inquiries_nodup (count : Nat) : (start.inquiries inputs count).Nodup := by
  induction count with
  | zero => exact List.nodup_nil
  | succ count inductionHypothesis =>
      unfold System.inquiries
      rw [filterMap_range_succ]
      refine List.Nodup.append inductionHypothesis (Option.toList_nodup _) ?_
      intro inquiry earlier arrives
      obtain ⟨isNew, _⟩ := (inquiry_world world hosts count).arrival (hosts.onSession count)
        (hosts.answersNothing count) (Option.mem_toList.mp arrives)
      obtain ⟨_, entry, _⟩ := inquiry_answers world hosts count inquiry earlier
      have known : inquiry.task < (start.after inputs count).nextTask :=
        (List.getElem?_eq_some_iff.mp entry).1
      exact absurd isNew (Nat.ne_of_lt known)

variable (silent : start.waitingInquiries = [])

include silent

/-- The tasks of the requests that came began in that order, and the others wait in that order. -/
theorem inquiries_eq (count : Nat) :
    start.inquiries inputs count =
      start.startingInquiries inputs count ++ (start.after inputs count).waitingInquiries := by
  induction count with
  | zero => exact silent.symm
  | succ count inductionHypothesis =>
      obtain ⟨_, _, handles⟩ := inquiry_handles world hosts count
      unfold System.inquiries System.startingInquiries
      rw [filterMap_range_succ, filterMap_range_succ, List.append_assoc]
      calc
        _ = start.startingInquiries inputs count ++
            ((start.after inputs count).waitingInquiries ++
              ((start.after inputs count).arrivingInquiry? (inputs count)).toList) := by
          rw [← List.append_assoc, ← inductionHypothesis]
          rfl
        _ = _ := congrArg (_ ++ ·) handles.queue

/-- Only the end of the session cancels a task that waits to answer. -/
theorem closes_of_cancelled (count : Nat) {inquiry : Inquiry} {found : TaskState Frame}
    (waits : inquiry ∈ (start.after inputs count).waitingInquiries)
    (entry : (start.after inputs count).loop.tasks[inquiry.task]? = some found)
    (cancelled : found.cancelRequested = true) :
    ∃ place < count, (start.after inputs place).ClosesSession (inputs place) ∧
      inquiry ∈ (start.after inputs place).waitingInquiries := by
  induction count generalizing found with
  | zero => exact absurd waits (by rw [System.after, silent]; exact List.not_mem_nil)
  | succ count inductionHypothesis =>
      have worldNow := inquiry_world world hosts count
      obtain ⟨running, _, handles⟩ := inquiry_handles world hosts count
      obtain ⟨_, same, session, sameEntry, begins⟩ := System.mem_waitingInquiries.mp waits
      obtain rfl : same = found := Option.some.inj (sameEntry.symm.trans entry)
      have stays : running ≠ some inquiry.task := fun runs =>
        handles.left inquiry.task same runs entry (.begin (.answer session inquiry.id))
          (by rw [begins]; exact List.mem_cons_self)
      rcases InquiryWorld.waiting_cases handles waits with earlier | arrives
      · obtain ⟨_, before, _, beforeEntry, _⟩ := System.mem_waitingInquiries.mp earlier
        obtain ⟨cancelRequested, laterEntry, flag⟩ :=
          handles.tasks inquiry.task before beforeEntry stays
        have isLater := Option.some.inj (laterEntry.symm.trans entry)
        subst isLater
        rcases flag with kept | closes | isCancel
        · obtain ⟨place, before, closes⟩ :=
            inductionHypothesis earlier beforeEntry (kept.symm.trans cancelled)
          exact ⟨place, Nat.lt_succ_of_lt before, closes⟩
        · exact ⟨count, Nat.lt_succ_self count, closes, earlier⟩
        · refine absurd isCancel (hosts.cancelsNothing count inquiry ?_)
          rw [inquiries_eq world hosts silent count]
          exact List.mem_append_right _ earlier
      · obtain ⟨isNew, _⟩ := worldNow.arrival (hosts.onSession count)
          (hosts.answersNothing count) arrives
        rw [(handles.started inquiry.task same (Nat.le_of_eq isNew.symm) entry).1] at cancelled
        cases cancelled

/-- A request of the peer is answered, unless it waits or the session was closed while it did. -/
theorem inquiry_cases (count : Nat) {inquiry : Inquiry}
    (came : inquiry ∈ start.inquiries inputs count) :
    inquiry ∈ start.answeredInquiries inputs count ∨
      inquiry ∈ (start.after inputs count).waitingInquiries ∨
      ∃ place < count, (start.after inputs place).ClosesSession (inputs place) ∧
        inquiry ∈ (start.after inputs place).waitingInquiries := by
  rw [inquiries_eq world hosts silent count] at came
  rcases List.mem_append.mp came with begun | waits
  · obtain ⟨place, before, starts⟩ := List.mem_filterMap.mp begun
    obtain ⟨waits, answered | ⟨found, entry, cancelled⟩⟩ :=
      (inquiry_world world hosts place).answers_or_cancelled starts
    · exact Or.inl (List.mem_filterMap.mpr ⟨place, before, answered⟩)
    · obtain ⟨earlier, isBefore, closes⟩ :=
        closes_of_cancelled world hosts silent place waits entry cancelled
      exact Or.inr (Or.inr ⟨earlier, isBefore.trans (List.mem_range.mp before), closes⟩)
  · exact Or.inr (Or.inl waits)

end Runs

/-- The peer asks twice, first with the id of a request of the host, and refuses that answer. -/
def refusedAnswer : Nat → Input
  | 0 => .call (.request 0 "first" none none)
  | 2 => .receive 0 "\x7b\"id\": \"1\", \"method\": \"ask\"\x7d"
  | 3 => .receive 0 "\x7b\"id\": 7, \"method\": \"ask\"\x7d"
  | 4 => .behave { refusal := some ⟨.reset, none⟩ }
  | 6 => .behave {}
  | _ => .turn

end LanguageClient.Client
