import LanguageClient.Proofs.Tenure.World

/-!
# Steps that change no document

Handshakes, requests, answers, the opening and the closing of documents, and the end of sessions. Such
a step hands no change to a connection, and of the synchronizer it can at most end the attachment and
disarm the timer.
-/

namespace LanguageClient.Client

open LanguageClient.Json LanguageClient.Loop LanguageClient.Number LanguageClient.Protocol

/-! ## What such a step leaves -/

/-- A synchronizer comes from another one while nothing is edited or sent. It may forget its file and
its timer. -/
structure Synchronizer.Leaves (before after : Synchronizer) : Prop where
  text : after.text = before.text
  dirty : after.dirty = before.dirty
  version : after.version = before.version
  lock : after.lock = before.lock
  sends : after.sends = before.sends
  file : after.file = before.file ∨ after.file = none
  timer : after.timer = before.timer ∨ after.timer = none

namespace Synchronizer.Leaves

variable {before middle after : Synchronizer}

theorem refl (synchronizer : Synchronizer) : synchronizer.Leaves synchronizer :=
  ⟨rfl, rfl, rfl, rfl, rfl, Or.inl rfl, Or.inl rfl⟩

theorem forgotten_trans
    {first second third : Option Nat} (later : third = second ∨ third = none)
    (earlier : second = first ∨ second = none) :
    third = first ∨ third = none := by
  rcases later with same | isNone
  · rw [same]
    exact earlier
  · exact Or.inr isNone

theorem trans (first : before.Leaves middle) (second : middle.Leaves after) :
    before.Leaves after where
  text := second.text.trans first.text
  dirty := second.dirty.trans first.dirty
  version := second.version.trans first.version
  lock := second.lock.trans first.lock
  sends := second.sends.trans first.sends
  file := forgotten_trans second.file first.file
  timer := forgotten_trans second.timer first.timer

end Synchronizer.Leaves

/-- Where a task waits when it changes no document. -/
structure AsideWait (after : System) (frames : List Frame) (promise : Nat) : Prop where
  plain : after.loop.IsPlain promise
  aside : ∀ frame ∈ frames, frame.IsAside
  requests : ∀ other, .requesting other ∈ frames → after.loop.IsPlain other

/-- A step that changes no document. -/
structure AsideRun
    (running : Option Nat) (before : System) (synchronizer : Synchronizer)
    (changes : List Occurrence) (result : Step) :
    Prop where
  reached : ∃ later, synchronizer.Leaves later ∧
    TenurePassage running before later changes result.1
  suspended : ∀ frames promise, result.2 = .suspended frames promise →
    AsideWait result.1 frames promise

section Asides

variable {running : Option Nat} {before system : System} {synchronizer : Synchronizer}
  {changes : List Occurrence}

theorem AsideRun.ended
    (passage : TenurePassage running before synchronizer changes system)
    (outcome : Outcome Reply) :
    AsideRun running before synchronizer changes (system, .ended outcome) :=
  ⟨⟨synchronizer, .refl synchronizer, passage⟩, nofun⟩

theorem AsideRun.of_leaves
    {middle : Synchronizer} {result : Step} (leaves : synchronizer.Leaves middle)
    (run : AsideRun running before middle changes result) :
    AsideRun running before synchronizer changes result := by
  obtain ⟨⟨later, laterLeaves, passage⟩, suspended⟩ := run
  exact ⟨⟨later, leaves.trans laterLeaves, passage⟩, suspended⟩

/-- A step that begins within a passage. -/
theorem AsideRun.of_rebase
    {result : Step} (passage : TenurePassage running before synchronizer changes system)
    (run : AsideRun running system synchronizer changes result) :
    AsideRun running before synchronizer changes result := by
  obtain ⟨⟨later, leaves, next⟩, suspended⟩ := run
  exact ⟨⟨later, leaves, passage.trans next⟩, suspended⟩

theorem AsideRun.andThen
    {step : Step} {frame : Frame} {rest : System → Outcome Reply → Step}
    (first : AsideRun running before synchronizer changes step) (aside : frame.IsAside)
    (requests : ∀ promise, frame = .requesting promise → step.1.loop.IsPlain promise)
    (second : ∀ later after outcome, step = (after, .ended outcome) →
      TenurePassage running before later changes after →
        AsideRun running before later changes (rest after outcome)) :
    AsideRun running before synchronizer changes (step.andThen frame rest) := by
  obtain ⟨⟨later, leaves, passage⟩, suspended⟩ := first
  obtain ⟨after, outcome | ⟨frames, promise⟩⟩ := step
  · exact .of_leaves leaves (second later after outcome rfl passage)
  · have place := suspended frames promise rfl
    refine ⟨⟨later, leaves, passage⟩, fun others other same => ?_⟩
    obtain ⟨rfl, rfl⟩ := Progress.suspended.inj same
    exact {
      plain := place.plain
      aside := fun found member => by
        rcases List.mem_append.mp member with inner | isFrame
        · exact place.aside found inner
        · rw [List.mem_singleton.mp isFrame]
          exact aside
      requests := fun found member => by
        rcases List.mem_append.mp member with inner | isFrame
        · exact place.requests found inner
        · exact requests found (List.mem_singleton.mp isFrame).symm }

/-! ## Writing and requests -/

theorem await_aside
    {promise : Nat} (passage : TenurePassage running before synchronizer changes system)
    (plain : system.loop.IsPlain promise) :
    AsideRun running before synchronizer changes (system.await promise) := by
  cases settled : system.loop.outcome? promise with
  | some outcome =>
      rw [System.await_of_settled settled]
      exact .ended passage outcome
  | none =>
      rw [System.await_of_unsettled settled]
      refine ⟨⟨synchronizer, .refl synchronizer, passage⟩, fun frames other suspends => ?_⟩
      obtain ⟨rfl, rfl⟩ := Progress.suspended.inj suspends
      exact {
        plain := plain
        aside := fun frame member => (List.not_mem_nil member).elim
        requests := fun other member => (List.not_mem_nil member).elim }

theorem takeFrame_aside
    {frame : Value} (passage : TenurePassage running before synchronizer changes system)
    (link : Nat) (other : isChange frame = false) :
    AsideRun running before synchronizer changes (system.takeFrame link frame) := by
  cases refused : system.peer.refusalOf? frame with
  | some failure =>
      rw [System.takeFrame_of_refusal link refused]
      exact .ended passage _
  | none =>
      have accepted := passage.accept link frame
      simp only [other, Bool.false_eq_true, if_false, List.append_nil] at accepted
      rw [System.takeFrame_of_acceptance link refused]
      exact .ended accepted _

theorem write_aside
    {frame : Value} (passage : TenurePassage running before synchronizer changes system)
    (session : Nat) (subject : String) (other : isChange frame = false) :
    AsideRun running before synchronizer changes (system.write session subject frame) := by
  cases sessionFound : system.sessions[session]? with
  | none =>
      have result : system.write session subject frame = (system, .ended (.failed .missing)) := by
        simp only [System.write, sessionFound]
        rfl
      rw [result]
      exact .ended passage _
  | some found =>
      have handed : TenurePassage running before synchronizer changes
          (system.note (.handed found.link frame)) := passage.note other
      rcases System.write_cases subject frame sessionFound with
        ⟨failure, _, result⟩ | result | result
      · rw [result]
        exact .ended handed _
      · rw [result]
        refine ⟨⟨synchronizer, .refl synchronizer, handed.holdBack⟩, fun frames promise suspends => ?_⟩
        obtain ⟨rfl, rfl⟩ := Progress.suspended.inj suspends
        exact {
          plain := handed.loop.orderly.addPromise_isPlain {}
          aside := fun held member => by
            simp only [List.mem_cons, List.not_mem_nil, or_false] at member
            rcases member with rfl | rfl
            · exact other
            · trivial
          requests := by simp }
      · have accepted := handed.accept found.link frame
        simp only [other, Bool.false_eq_true, if_false, List.append_nil] at accepted
        rw [result]
        exact .ended accepted _

theorem resumeWriting_aside
    (passage : TenurePassage running before synchronizer changes system) (subject : String)
    (outcome : Outcome Reply) :
    AsideRun running before synchronizer changes
      (System.resumeWriting subject system outcome) := by
  cases outcome <;> exact .ended passage _

theorem resumeRequesting_aside
    {promise : Nat} (passage : TenurePassage running before synchronizer changes system)
    (plain : system.loop.IsPlain promise) (outcome : Outcome Reply) :
    AsideRun running before synchronizer changes
      (System.resumeRequesting promise system outcome) := by
  have cancelled : TenurePassage running before synchronizer changes
      (system.settle promise .cancelled) :=
    passage.settle plain.noCompletion (fun _ _ => nofun) (Or.inl nofun)
  cases outcome with
  | returned reply => exact await_aside passage plain
  | failed failure => exact .ended cancelled _
  | cancelled => exact .ended cancelled _

theorem request_aside
    {method : String} (passage : TenurePassage running before synchronizer changes system)
    (session : Nat) (params : Option Value) (timeout : Option Quantity)
    (other : method ≠ Method.didChange) :
    AsideRun running before synchronizer changes
      (system.request session method params timeout) := by
  have counted : TenurePassage running before synchronizer changes
      (system.countRequest session) :=
    passage.modifySession session fun _ _ => id
  unfold System.request
  split
  · exact .ended passage _
  · rename_i found _
    split
    · exact .ended passage _
    · simp only
      split
      · exact .ended counted _
      · rename_i delay _
        obtain ⟨registered, plain⟩ := counted.registerRequest session
          (requestId (found.requests + 1)) method (timeout.getD found.defaultTimeout) delay
        split
        · -- The promise of the request stays plain while its message is written.
          refine .of_rebase registered ?_
          have written := write_aside registered.rebase session method
            (isChange_requestMessage (requestId (found.requests + 1)) params other)
          refine written.andThen trivial ?_ ?_
          · intro promise same
            obtain ⟨later, _, next⟩ := written.reached
            rw [← Frame.requesting.inj same]
            exact next.loop.advances.plain _ plain
          · intro later after outcome _ next
            exact resumeRequesting_aside next (next.loop.advances.plain _ plain) outcome
        · exact .ended registered _

theorem notify_aside
    {method : String} (passage : TenurePassage running before synchronizer changes system)
    (session : Nat) (params : Option Value) (other : method ≠ Method.didChange) :
    AsideRun running before synchronizer changes (system.notify session method params) := by
  unfold System.notify
  split
  · exact .ended passage _
  · split
    · exact .ended passage _
    · split
      · exact write_aside passage session method (isChange_notificationMessage params other)
      · exact .ended passage _

theorem answer_aside
    (passage : TenurePassage running before synchronizer changes system) (session : Nat)
    (id : Value) :
    AsideRun running before synchronizer changes (system.answer session id) :=
  write_aside passage session "response" (isChange_answerMessage id)

/-! ## Closing a session -/

theorem TenurePassage.abandonEntries
    {entries : List PendingRequest}
    (passage : TenurePassage running before synchronizer changes system) (reason : SessionEnd)
    (promised : ∀ entry ∈ entries, entry.promise ∈ system.promised) :
    TenurePassage running before synchronizer changes
      (entries.foldl (System.abandonRequest reason) system) := by
  induction entries generalizing system with
  | nil => exact passage
  | cons entry others inductionHypothesis =>
      refine inductionHypothesis ?_ fun other member =>
        promised other (List.mem_cons_of_mem entry member)
      exact (passage.disarm entry.timer).settle_promised (promised entry List.mem_cons_self) _

theorem TenurePassage.abandonRequests
    (passage : TenurePassage running before synchronizer changes system) (session : Nat)
    (reason : SessionEnd) :
    TenurePassage running before synchronizer changes (system.abandonRequests session reason) := by
  unfold System.abandonRequests
  split
  · exact passage
  · rename_i found sessionFound
    have abandoned := passage.abandonEntries reason fun entry member =>
      System.mem_promised.mpr
        (Or.inr ⟨found, List.mem_of_getElem? sessionFound, entry, member, rfl⟩)
    exact abandoned.modifySession session fun _ _ member => (List.not_mem_nil member).elim

theorem TenurePassage.cancelAll
    (passage : TenurePassage running before synchronizer changes system) (tasks : List Nat) :
    TenurePassage running before synchronizer changes
      (system.onLoop fun loop => tasks.foldl (fun loop task => loop.cancel task) loop) := by
  induction tasks generalizing system with
  | nil => exact passage
  | cons task others inductionHypothesis => exact inductionHypothesis (passage.cancel task)

theorem closeLink_aside
    (passage : TenurePassage running before synchronizer changes system) (link : Nat) :
    AsideRun running before synchronizer changes (system.closeLink link) := by
  have told : TenurePassage running before synchronizer changes
      { system.note (.closedLink link) with
        links := system.links.modify link fun found => { found with closed := true } } :=
    (passage.note rfl).beside rfl rfl rfl fun _ => id
  unfold System.closeLink
  simp only
  split
  · refine await_aside (told.detain _ fun promise member => ?_)
      (told.loop.orderly.addPromise_isPlain {})
    simp only [Peer.detained, List.mem_append, List.mem_singleton] at member ⊢
    rcases member with frame | closing | added
    · exact Or.inl (Or.inl frame)
    · exact Or.inl (Or.inr closing)
    · exact Or.inr added
  · split
    · exact .ended told _
    · exact .ended told _

theorem resumeClosingLink_aside
    (passage : TenurePassage running before synchronizer changes system)
    (outcome : Outcome Reply) :
    AsideRun running before synchronizer changes (system.resumeClosingLink outcome) := by
  cases outcome <;> exact .ended passage _

theorem closeSession_aside
    (passage : TenurePassage running before synchronizer changes system) (session : Nat) :
    AsideRun running before synchronizer changes (system.closeSession session) := by
  unfold System.closeSession
  split
  · exact .ended passage _
  · rename_i found _
    split
    · exact .ended passage _
    · have closed : TenurePassage running before synchronizer changes
          (system.modifySession session fun found => { found with closed := true }) :=
        passage.modifySession session fun _ _ => id
      have left := (closed.abandonRequests session .closed).cancelAll found.answers
      exact (closeLink_aside left found.link).andThen trivial nofun fun _ _ outcome _ next =>
        resumeClosingLink_aside next outcome

/-! ## Workspaces -/

theorem resumeAbandoningHandshake_aside
    (passage : TenurePassage running before synchronizer changes system)
    (ending outcome : Outcome Reply) :
    AsideRun running before synchronizer changes
      (System.resumeAbandoningHandshake ending system outcome) := by
  cases outcome <;> exact .ended passage _

theorem abandonHandshake_aside
    (passage : TenurePassage running before synchronizer changes system) (session : Nat)
    (serverUri : String) (ending : Outcome Reply) :
    AsideRun running before synchronizer changes
      (system.abandonHandshake session serverUri ending) :=
  (closeSession_aside (passage.log _ _ _) session).andThen trivial nofun
    fun _ _ outcome _ next => resumeAbandoningHandshake_aside next ending outcome

theorem resumeConfirming_aside
    (passage : TenurePassage running before synchronizer changes system) (session : Nat)
    (serverUri : String) (result : InitializeResult) (outcome : Outcome Reply) :
    AsideRun running before synchronizer changes
      (System.resumeConfirming session serverUri result system outcome) := by
  cases outcome with
  | returned reply => exact .ended (passage.addWorkspace session result) _
  | failed failure => exact abandonHandshake_aside passage session serverUri _
  | cancelled => exact abandonHandshake_aside passage session serverUri _

theorem resumeHandshaking_aside
    (passage : TenurePassage running before synchronizer changes system) (session : Nat)
    (serverUri : String) (outcome : Outcome Reply) :
    AsideRun running before synchronizer changes
      (System.resumeHandshaking session serverUri system outcome) := by
  unfold System.resumeHandshaking
  split
  · split
    · exact abandonHandshake_aside passage session serverUri _
    · rename_i result _
      exact (notify_aside passage session _ (by decide)).andThen trivial nofun
        fun _ _ outcome _ next => resumeConfirming_aside next session serverUri result outcome
  · exact abandonHandshake_aside passage session serverUri _
  · exact abandonHandshake_aside passage session serverUri _
  · exact abandonHandshake_aside passage session serverUri _

theorem createWorkspace_aside
    (passage : TenurePassage running before synchronizer changes system)
    (request : WorkspaceRequest) :
    AsideRun running before synchronizer changes (system.createWorkspace request) := by
  have dialled : TenurePassage running before synchronizer changes
      (system.note (.dialled request.serverUri)) :=
    passage.note rfl
  unfold System.createWorkspace
  simp only
  split
  · exact .ended dialled _
  · have connected := (dialled.connect).addSession
      (system.note (.dialled request.serverUri)).connect.2 request.timeout
    exact (request_aside connected _ _ _ (by decide)).andThen trivial nofun
      fun _ _ outcome _ next => resumeHandshaking_aside next _ request.serverUri outcome

theorem closeWorkspace_aside
    (passage : TenurePassage running before synchronizer changes system) (workspace : Nat) :
    AsideRun running before synchronizer changes (system.closeWorkspace workspace) := by
  unfold System.closeWorkspace
  split
  · exact .ended passage _
  · exact closeSession_aside (passage.modifyWorkspace workspace _) _

/-! ## Files -/

theorem notifyIn_aside
    {method : String} (passage : TenurePassage running before synchronizer changes system)
    (workspace : Nat) (params : Value) (other : method ≠ Method.didChange) :
    AsideRun running before synchronizer changes
      (system.notifyIn workspace method params) := by
  unfold System.notifyIn
  split
  · exact .ended passage _
  · exact notify_aside passage _ _ other

theorem resumeOpening_aside
    (passage : TenurePassage running before synchronizer changes system) (workspace : Nat)
    (uri : String) (file : Nat) (outcome : Outcome Reply) :
    AsideRun running before synchronizer changes
      (System.resumeOpening workspace uri file system outcome) := by
  have unregistered : TenurePassage running before synchronizer changes
      (system.unregister workspace uri) :=
    passage.modifyWorkspace workspace _
  cases outcome with
  | returned reply => exact .ended passage _
  | failed failure => exact .ended unregistered _
  | cancelled => exact .ended unregistered _

theorem openFile_aside
    (passage : TenurePassage running before synchronizer changes system) (workspace : Nat)
    (uri : String) (languageId : Value) (text : String)
    (listeners : List (String × DocumentListener)) :
    AsideRun running before synchronizer changes
      (system.openFile workspace uri languageId text listeners) := by
  unfold System.openFile
  split
  · exact .ended passage _
  · exact (notifyIn_aside (passage.addFile _) workspace _ (by decide)).andThen trivial nofun
      fun _ _ outcome _ next => resumeOpening_aside next workspace uri _ outcome

theorem resumeClosingFile_aside
    (passage : TenurePassage running before synchronizer changes system) (uri : String)
    (outcome : Outcome Reply) :
    AsideRun running before synchronizer changes
      (System.resumeClosingFile uri system outcome) := by
  cases outcome with
  | returned reply => exact .ended passage _
  | failed failure => exact .ended (passage.log _ _ _) _
  | cancelled => exact .ended passage _

theorem closeFile_aside
    (passage : TenurePassage running before synchronizer changes system) (file : Nat) :
    AsideRun running before synchronizer changes (system.closeFile file) := by
  unfold System.closeFile
  split
  · exact .ended passage _
  · rename_i found _
    split
    · exact .ended passage _
    · have unregistered : TenurePassage running before synchronizer changes
          (system.unregister found.workspace found.uri) :=
        passage.modifyWorkspace found.workspace _
      exact (notifyIn_aside unregistered found.workspace _ (by decide)).andThen trivial nofun
        fun _ _ outcome _ next => resumeClosingFile_aside next found.uri outcome

/-! ## The end of an attachment -/

theorem resumeDetaching_aside
    (passage : TenurePassage running before synchronizer changes system)
    (outcome : Outcome Reply) :
    AsideRun running before synchronizer changes (System.resumeDetaching 0 system outcome) := by
  cases outcome with
  | returned reply =>
      have detached := passage.modifySynchronizer (fun found => { found with file := none }) rfl
        passage.parts.books
      have leaves : synchronizer.Leaves { synchronizer with file := none } :=
        { Synchronizer.Leaves.refl synchronizer with file := Or.inr rfl }
      exact ⟨⟨_, leaves, detached⟩, nofun⟩
  | failed failure => exact .ended passage _
  | cancelled => exact .ended passage _

theorem closeAttached_aside
    (passage : TenurePassage running before synchronizer changes system) :
    AsideRun running before synchronizer changes (system.closeAttached 0) := by
  unfold System.closeAttached
  split
  · exact .ended passage _
  · rename_i file _
    exact (closeFile_aside passage file).andThen rfl nofun fun _ _ outcome _ next =>
      resumeDetaching_aside next outcome

theorem resumeSettlingSends_aside
    (passage : TenurePassage running before synchronizer changes system)
    (outcome : Outcome Reply) :
    AsideRun running before synchronizer changes
      (System.resumeSettlingSends 0 system outcome) := by
  cases outcome with
  | returned reply => exact closeAttached_aside passage
  | failed failure => exact .ended passage _
  | cancelled => exact .ended passage _

theorem Synchronizer.untimed_leaves (synchronizer : Synchronizer) :
    synchronizer.Leaves { synchronizer with timer := none } :=
  { Synchronizer.Leaves.refl synchronizer with timer := Or.inr rfl }

theorem TenurePassage.cancelTimer
    (passage : TenurePassage running before synchronizer changes system) :
    TenurePassage running before { synchronizer with timer := none } changes
      (system.cancelTimer 0) := by
  simp only [System.cancelTimer, passage.parts.synchronizers, List.getElem?_cons_zero,
    Option.bind_some]
  cases armed : synchronizer.timer with
  | none =>
      have same : { synchronizer with timer := none } = synchronizer := by
        rw [← armed]
      rw [same]
      exact passage
  | some timer =>
      have books := passage.parts.books
      rw [armed] at books
      exact (passage.disarm timer).modifySynchronizer
        (fun found => { found with timer := none }) rfl
        (books.of_disarm books.debounce.disarmed)

theorem TenurePassage.cancelTimer_sends
    (passage : TenurePassage running before synchronizer changes system) :
    ((system.cancelTimer 0).synchronizers[0]?.map (·.sends)).getD [] = synchronizer.sends := by
  rw [passage.cancelTimer.parts.synchronizers]
  rfl

theorem closeSynchronizer_aside
    (passage : TenurePassage running before synchronizer changes system) :
    AsideRun running before { synchronizer with timer := none } changes
      (system.closeSynchronizer 0) := by
  have cancelled := passage.cancelTimer
  unfold System.closeSynchronizer
  simp only [passage.cancelTimer_sends]
  split
  · exact closeAttached_aside cancelled
  · refine AsideRun.andThen (await_aside (cancelled.gather cancelled.parts.books.known)
      (Scheduler.gather_isPlain cancelled.loop.orderly _ Reply.nothing)) ?_ ?_ ?_
    · rfl
    · nofun
    · exact fun _ _ outcome _ next => resumeSettlingSends_aside next outcome

/-! ## Stacks -/

theorem resumeFrame_aside
    {frame : Frame} (passage : TenurePassage running before synchronizer changes system)
    (aside : frame.IsAside)
    (requests : ∀ promise, frame = .requesting promise → system.loop.IsPlain promise)
    (outcome : Outcome Reply) :
    AsideRun running before synchronizer changes (System.resumeFrame frame system outcome) := by
  cases frame with
  | sending link value =>
      cases outcome with
      | returned reply => exact takeFrame_aside passage link aside
      | failed failure => exact .ended passage _
      | cancelled => exact .ended passage _
  | writing subject => exact resumeWriting_aside passage subject outcome
  | requesting promise => exact resumeRequesting_aside passage (requests promise rfl) outcome
  | closingLink => exact resumeClosingLink_aside passage outcome
  | handshaking session serverUri => exact resumeHandshaking_aside passage session serverUri outcome
  | confirming session serverUri result =>
      exact resumeConfirming_aside passage session serverUri result outcome
  | abandoningHandshake ending => exact resumeAbandoningHandshake_aside passage ending outcome
  | opening workspace uri file => exact resumeOpening_aside passage workspace uri file outcome
  | closingFile uri => exact resumeClosingFile_aside passage uri outcome
  | settlingSends synchronizer =>
      obtain rfl : synchronizer = 0 := aside
      exact resumeSettlingSends_aside passage outcome
  | detaching synchronizer =>
      obtain rfl : synchronizer = 0 := aside
      exact resumeDetaching_aside passage outcome
  | _ => exact aside.elim

theorem resumeStack_aside
    {frames : List Frame} (passage : TenurePassage running before synchronizer changes system)
    (aside : ∀ frame ∈ frames, frame.IsAside)
    (requests : ∀ promise, .requesting promise ∈ frames → system.loop.IsPlain promise)
    (outcome : Outcome Reply) :
    AsideRun running before synchronizer changes (system.resumeStack outcome frames) := by
  induction frames generalizing system synchronizer outcome with
  | nil => exact .ended passage outcome
  | cons frame others inductionHypothesis =>
      have othersAside : ∀ other ∈ others, other.IsAside :=
        fun other member => aside other (List.mem_cons_of_mem frame member)
      have run := resumeFrame_aside passage.rebase (aside frame List.mem_cons_self)
        (fun promise same => requests promise (same ▸ List.mem_cons_self)) outcome
      obtain ⟨⟨later, leaves, next⟩, suspended⟩ := run
      have laterRequests : ∀ promise, .requesting promise ∈ others →
          (System.resumeFrame frame system outcome).1.loop.IsPlain promise := fun promise member =>
        next.loop.advances.plain _ (requests promise (List.mem_cons_of_mem frame member))
      rcases result : System.resumeFrame frame system outcome with
        ⟨after, ending | ⟨inner, promise⟩⟩
      · rw [result] at next laterRequests
        rw [System.resumeStack_of_ended _ result]
        exact .of_leaves leaves
          (inductionHypothesis (passage.trans next) othersAside laterRequests ending)
      · rw [result] at next suspended laterRequests
        have place := suspended inner promise rfl
        rw [System.resumeStack_of_suspended _ result]
        refine ⟨⟨later, leaves, passage.trans next⟩, fun frames other suspends => ?_⟩
        obtain ⟨rfl, rfl⟩ := Progress.suspended.inj suspends
        exact {
          plain := place.plain
          aside := fun found member =>
            (List.mem_append.mp member).elim (place.aside found) (othersAside found)
          requests := fun found member =>
            (List.mem_append.mp member).elim (place.requests found) (laterRequests found) }

end Asides

end LanguageClient.Client
