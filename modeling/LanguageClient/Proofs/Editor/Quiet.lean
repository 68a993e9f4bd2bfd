import LanguageClient.Proofs.Editor.Passage

/-!
# Quiet steps of an editor

Steps that deliver nothing of the document and leave its text as it is: the handshake, requests,
answers, and all that is done to close an editor. Such a step hands at most one query to a
connection, and it is suspended with quiet frames only.
-/

namespace LanguageClient.Client

open LanguageClient.Json LanguageClient.Loop LanguageClient.Number LanguageClient.Protocol

/-! ## What a quiet step keeps -/

/-- No query. -/
def noQuery (_query : Value) : Prop := False

/-- A view comes from another one while nothing is delivered and at most one query of some kind is
handed on. The synchronizer may forget its file. -/
structure View.Keeps (asks : Value → Prop) (view later : View) : Prop where
  text : later.synchronizer.text = view.synchronizer.text
  dirty : later.synchronizer.dirty = view.synchronizer.dirty
  version : later.synchronizer.version = view.synchronizer.version
  lock : later.synchronizer.lock = view.synchronizer.lock
  file : later.synchronizer.file = view.synchronizer.file ∨ later.synchronizer.file = none
  delivered : later.delivered = view.delivered
  asked : later.asked = view.asked ∨ ∃ query, asks query ∧ later.asked = view.asked ++ [query]

namespace View.Keeps

variable {asks wider : Value → Prop} {view middle later : View}

theorem refl (view : View) : view.Keeps asks view :=
  ⟨rfl, rfl, rfl, rfl, Or.inl rfl, rfl, Or.inl rfl⟩

theorem mono (keeps : view.Keeps asks later) (more : ∀ query, asks query → wider query) :
    view.Keeps wider later :=
  { keeps with
    asked := keeps.asked.imp id fun ⟨query, asked, same⟩ => ⟨query, more query asked, same⟩ }

theorem asked_of_none (keeps : view.Keeps noQuery later) : later.asked = view.asked := by
  rcases keeps.asked with same | ⟨_, impossible, _⟩
  · exact same
  · exact impossible.elim

private theorem file_trans
    (first : middle.synchronizer.file = view.synchronizer.file ∨ middle.synchronizer.file = none)
    (second : later.synchronizer.file = middle.synchronizer.file ∨ later.synchronizer.file = none) :
    later.synchronizer.file = view.synchronizer.file ∨ later.synchronizer.file = none := by
  rcases second with same | forgotten
  · exact first.imp same.trans same.trans
  · exact Or.inr forgotten

theorem trans (first : view.Keeps asks middle) (second : middle.Keeps noQuery later) :
    view.Keeps asks later where
  text := second.text.trans first.text
  dirty := second.dirty.trans first.dirty
  version := second.version.trans first.version
  lock := second.lock.trans first.lock
  file := file_trans first.file second.file
  delivered := second.delivered.trans first.delivered
  asked := by
    rw [second.asked_of_none]
    exact first.asked

theorem trans_asking (first : view.Keeps noQuery middle) (second : middle.Keeps asks later) :
    view.Keeps asks later where
  text := second.text.trans first.text
  dirty := second.dirty.trans first.dirty
  version := second.version.trans first.version
  lock := second.lock.trans first.lock
  file := file_trans first.file second.file
  delivered := second.delivered.trans first.delivered
  asked := by
    rw [← first.asked_of_none]
    exact second.asked

end View.Keeps

theorem Account.of_keeps
    {opened : Bool} {change? : Option Change} {asks : Value → Prop} {view later : View}
    (account : Account opened change? view) (keeps : view.Keeps asks later) :
    Account opened change? later := by
  cases account with
  | unopened nothing detached free =>
      refine .unopened (keeps.delivered.trans nothing) ?_ (by rw [keeps.lock, free])
      rcases keeps.file with same | forgotten
      · exact same.trans detached
      · exact forgotten
  | opened ledger =>
      refine .opened ?_
      rw [keeps.delivered]
      exact ledger.of_same (by rw [keeps.lock]) keeps.version keeps.dirty keeps.text

theorem View.handing_keeps (view : View) (frame : Value) :
    view.Keeps (fun query => query = frame ∧ isQuery query = true) (view.handing frame) := by
  refine ⟨rfl, rfl, rfl, rfl, Or.inl rfl, rfl, ?_⟩
  cases query : isQuery frame with
  | false => exact Or.inl (by simp [View.handing, query])
  | true => exact Or.inr ⟨frame, ⟨rfl, query⟩, by simp [View.handing, query]⟩

/-- A quiet step is suspended with quiet frames. -/
structure Suspension (uri : String) (after : System) (frames : List Frame) (promise : Nat) :
    Prop where
  plain : after.loop.IsPlain promise
  quiet : ∀ frame ∈ frames, frame.IsQuiet uri
  requests : ∀ other, .requesting other ∈ frames → after.loop.IsPlain other

/-- A step that delivers nothing of the document. -/
structure QuietRun
    (uri : String) (running : Option Nat) (before : System) (view : View) (asks : Value → Prop)
    (result : Step) :
    Prop where
  reached : ∃ later, view.Keeps asks later ∧ EditorPassage uri running before later result.1
  suspended : ∀ frames promise, result.2 = .suspended frames promise →
    Suspension uri result.1 frames promise

section Quiet

variable {uri : String} {running : Option Nat} {before system : System} {view : View}
  {asks : Value → Prop}

theorem QuietRun.ended
    (passage : EditorPassage uri running before view system) (outcome : Outcome Reply) :
    QuietRun uri running before view asks (system, .ended outcome) :=
  ⟨⟨view, .refl view, passage⟩, nofun⟩

theorem QuietRun.mono
    {wider : Value → Prop} {result : Step} (run : QuietRun uri running before view asks result)
    (more : ∀ query, asks query → wider query) :
    QuietRun uri running before view wider result := by
  obtain ⟨⟨later, keeps, passage⟩, suspended⟩ := run
  exact ⟨⟨later, keeps.mono more, passage⟩, suspended⟩

theorem QuietRun.of_keeps
    {middle : View} {result : Step} (keeps : view.Keeps noQuery middle)
    (run : QuietRun uri running before middle asks result) :
    QuietRun uri running before view asks result := by
  obtain ⟨⟨later, laterKeeps, passage⟩, suspended⟩ := run
  exact ⟨⟨later, keeps.trans_asking laterKeeps, passage⟩, suspended⟩

/-- A quiet run that begins within a passage. -/
theorem QuietRun.of_rebase
    {result : Step} (passage : EditorPassage uri running before view system)
    (run : QuietRun uri running system view asks result) :
    QuietRun uri running before view asks result := by
  obtain ⟨⟨later, keeps, next⟩, suspended⟩ := run
  exact ⟨⟨later, keeps, passage.trans next⟩, suspended⟩

/-- A quiet step may go on with quiet steps that ask nothing. -/
theorem QuietRun.andThen
    {step : Step} {frame : Frame} {rest : System → Outcome Reply → Step}
    (first : QuietRun uri running before view asks step) (quiet : frame.IsQuiet uri)
    (requests : ∀ promise, frame = .requesting promise → step.1.loop.IsPlain promise)
    (second : ∀ later after outcome, step = (after, .ended outcome) →
      EditorPassage uri running before later after →
        QuietRun uri running before later noQuery (rest after outcome)) :
    QuietRun uri running before view asks (step.andThen frame rest) := by
  obtain ⟨⟨later, keeps, passage⟩, suspended⟩ := first
  obtain ⟨after, outcome | ⟨frames, promise⟩⟩ := step
  · obtain ⟨⟨last, lastKeeps, lastPassage⟩, lastSuspended⟩ := second later after outcome rfl passage
    exact ⟨⟨last, keeps.trans lastKeeps, lastPassage⟩, lastSuspended⟩
  · have place := suspended frames promise rfl
    refine ⟨⟨later, keeps, passage⟩, fun others other same => ?_⟩
    obtain ⟨rfl, rfl⟩ := Progress.suspended.inj same
    exact {
      plain := place.plain
      quiet := fun found member => by
        rcases List.mem_append.mp member with inner | isFrame
        · exact place.quiet found inner
        · rw [List.mem_singleton.mp isFrame]
          exact quiet
      requests := fun found member => by
        rcases List.mem_append.mp member with inner | isFrame
        · exact place.requests found inner
        · exact requests found (List.mem_singleton.mp isFrame).symm }

/-! ## Writing and requests -/

theorem await_quiet
    {promise : Nat} (passage : EditorPassage uri running before view system)
    (plain : system.loop.IsPlain promise) :
    QuietRun uri running before view asks (system.await promise) := by
  cases settled : system.loop.outcome? promise with
  | some outcome =>
      rw [System.await_of_settled settled]
      exact .ended passage outcome
  | none =>
      rw [System.await_of_unsettled settled]
      refine ⟨⟨view, .refl view, passage⟩, fun frames other suspends => ?_⟩
      obtain ⟨rfl, rfl⟩ := Progress.suspended.inj suspends
      exact {
        plain := plain
        quiet := fun frame member => (List.not_mem_nil member).elim
        requests := fun other member => (List.not_mem_nil member).elim }

theorem takeFrame_quiet
    {frame : Value} (passage : EditorPassage uri running before view system) (link : Nat)
    (nothing : delivery? uri frame = none) :
    QuietRun uri running before view asks (system.takeFrame link frame) := by
  cases refused : system.peer.refusalOf? frame with
  | some failure =>
      rw [System.takeFrame_of_refusal link refused]
      exact .ended passage _
  | none =>
      have accepted := passage.accept link frame
      rw [view.accepting_of_nothing nothing] at accepted
      rw [System.takeFrame_of_acceptance link refused]
      exact .ended accepted _

theorem write_quiet
    {frame : Value} (passage : EditorPassage uri running before view system) (session : Nat)
    (subject : String) (nothing : delivery? uri frame = none) :
    QuietRun uri running before view (fun query => query = frame ∧ isQuery query = true)
      (system.write session subject frame) := by
  cases sessionFound : system.sessions[session]? with
  | none =>
      have result : system.write session subject frame = (system, .ended (.failed .missing)) := by
        simp only [System.write, sessionFound]
        rfl
      rw [result]
      exact .ended passage _
  | some found =>
      have handed := passage.hand found.link frame
      have keeps := view.handing_keeps frame
      rcases System.write_cases subject frame sessionFound with
        ⟨failure, _, result⟩ | result | result
      · rw [result]
        exact ⟨⟨_, keeps, handed⟩, (by simp)⟩
      · rw [result]
        refine ⟨⟨_, keeps, handed.holdBack⟩, fun frames promise suspends => ?_⟩
        obtain ⟨rfl, rfl⟩ := Progress.suspended.inj suspends
        exact {
          plain := handed.loop.orderly.addPromise_isPlain {}
          quiet := fun other member => by
            simp only [List.mem_cons, List.not_mem_nil, or_false] at member
            rcases member with rfl | rfl
            · exact nothing
            · trivial
          requests := by simp }
      · have accepted := handed.accept found.link frame
        rw [View.accepting_of_nothing _ nothing] at accepted
        rw [result]
        exact ⟨⟨_, keeps, accepted⟩, (by simp)⟩

theorem recover_quiet
    (passage : EditorPassage uri running before view system) (failure : Failure) (without : Reply) :
    QuietRun uri running before view asks (system.recover failure without) := by
  unfold System.recover
  split
  · exact .ended passage _
  · exact .ended passage _

theorem resumeWriting_quiet
    (passage : EditorPassage uri running before view system) (subject : String)
    (outcome : Outcome Reply) :
    QuietRun uri running before view asks (System.resumeWriting subject system outcome) := by
  cases outcome <;> exact .ended passage _

theorem resumeRequesting_quiet
    {promise : Nat} (passage : EditorPassage uri running before view system)
    (plain : system.loop.IsPlain promise) (outcome : Outcome Reply) :
    QuietRun uri running before view asks
      (System.resumeRequesting promise system outcome) := by
  have cancelled : EditorPassage uri running before view (system.settle promise .cancelled) :=
    passage.settle plain.noCompletion fun _ _ => nofun
  cases outcome with
  | returned reply => exact await_quiet passage plain
  | failed failure => exact .ended cancelled _
  | cancelled => exact .ended cancelled _

/-- Only the opening and the changes of a document deliver something of it. -/
theorem delivery?_of_method
    {frame : Value} {method : String} (uri : String) (isMethod : methodOf? frame = some method)
    (noOpening : method ≠ Method.didOpen) (noChange : method ≠ Method.didChange) :
    delivery? uri frame = none := by
  simp only [delivery?, isMethod, Option.some.injEq, noOpening, noChange, if_false]
  cases frame.get? "params" with
  | none => rfl
  | some params =>
      cases params.get? "textDocument" with
      | none => simp
      | some found => simp

/-- A request asks at most with its own message. -/
theorem request_quiet
    {method : String} (passage : EditorPassage uri running before view system) (session : Nat)
    (params : Option Value) (timeout : Option Quantity) (noOpening : method ≠ Method.didOpen)
    (noChange : method ≠ Method.didChange) :
    QuietRun uri running before view
      (fun query => (∃ id, query = requestMessage id method params) ∧ isQuery query = true)
      (system.request session method params timeout) := by
  have counted : EditorPassage uri running before view (system.countRequest session) :=
    passage.modifySession session fun _ _ => id
  unfold System.request
  split
  · exact .ended passage _
  · rename_i found _
    split
    · exact .ended passage _
    · simp only
      split
      · exact .ended counted _
      · rename_i delay _
        obtain ⟨registered, plain⟩ := counted.registerRequest session
          (requestId (found.requests + 1)) method (timeout.getD found.defaultTimeout) delay
        split
        · have nothing : delivery? uri
              (requestMessage (requestId (found.requests + 1)) method params) = none :=
            delivery?_of_method uri (methodOf?_requestMessage _ method params) noOpening noChange
          -- The promise of the request stays plain while its message is written.
          refine .of_rebase registered ?_
          have written := write_quiet registered.rebase session method nothing
          refine QuietRun.andThen (written.mono ?_) trivial ?_ ?_
          · rintro query ⟨rfl, asks⟩
            exact ⟨⟨_, rfl⟩, asks⟩
          · intro promise same
            obtain ⟨later, _, next⟩ := written.reached
            rw [← Frame.requesting.inj same]
            exact next.loop.advances.plain _ plain
          · intro later after outcome _ next
            exact resumeRequesting_quiet next (next.loop.advances.plain _ plain) outcome
        · exact .ended registered _

/-- A request of another kind asks nothing. -/
theorem request_silent
    {method : String} (passage : EditorPassage uri running before view system) (session : Nat)
    (params : Option Value) (timeout : Option Quantity) (noOpening : method ≠ Method.didOpen)
    (noChange : method ≠ Method.didChange) (noHover : method ≠ Method.hover)
    (noCompletion : method ≠ Method.completion) :
    QuietRun uri running before view noQuery (system.request session method params timeout) := by
  refine (request_quiet passage session params timeout noOpening noChange).mono ?_
  rintro query ⟨⟨id, rfl⟩, asks⟩
  simp [isQuery, methodOf?_requestMessage, noHover, noCompletion] at asks

theorem notify_quiet
    {method : String} {params : Option Value}
    (passage : EditorPassage uri running before view system) (session : Nat)
    (nothing : delivery? uri (notificationMessage method params) = none)
    (other : isQuery (notificationMessage method params) = false) :
    QuietRun uri running before view noQuery (system.notify session method params) := by
  unfold System.notify
  split
  · exact .ended passage _
  · split
    · exact .ended passage _
    · split
      · refine (write_quiet passage session method nothing).mono ?_
        rintro query ⟨rfl, asks⟩
        rw [other] at asks
        cases asks
      · exact .ended passage _

theorem answer_quiet
    (passage : EditorPassage uri running before view system) (session : Nat) (id : Value) :
    QuietRun uri running before view noQuery (system.answer session id) := by
  refine (write_quiet passage session "response" (delivery?_answerMessage uri id)).mono ?_
  rintro query ⟨rfl, asks⟩
  simp [isQuery, methodOf?, answerMessage, messageVersion, Value.get?, member?] at asks

/-! ## Closing a session -/

theorem EditorPassage.abandonEntries
    {entries : List PendingRequest} (passage : EditorPassage uri running before view system)
    (reason : SessionEnd)
    (promised : ∀ entry ∈ entries, entry.promise ∈ system.promised) :
    EditorPassage uri running before view
      (entries.foldl (System.abandonRequest reason) system) := by
  induction entries generalizing system with
  | nil => exact passage
  | cons entry others inductionHypothesis =>
      refine inductionHypothesis ?_ fun other member =>
        promised other (List.mem_cons_of_mem entry member)
      exact (passage.disarm entry.timer).settle_promised (promised entry List.mem_cons_self) _

theorem EditorPassage.abandonRequests
    (passage : EditorPassage uri running before view system) (session : Nat)
    (reason : SessionEnd) :
    EditorPassage uri running before view (system.abandonRequests session reason) := by
  unfold System.abandonRequests
  split
  · exact passage
  · rename_i found sessionFound
    have abandoned := passage.abandonEntries reason fun entry member =>
      System.mem_promised.mpr
        (Or.inr ⟨found, List.mem_of_getElem? sessionFound, entry, member, rfl⟩)
    exact abandoned.modifySession session fun _ _ member => (List.not_mem_nil member).elim

theorem EditorPassage.cancelAll
    (passage : EditorPassage uri running before view system) (tasks : List Nat) :
    EditorPassage uri running before view
      (system.onLoop fun loop => tasks.foldl (fun loop task => loop.cancel task) loop) := by
  induction tasks generalizing system with
  | nil => exact passage
  | cons task others inductionHypothesis => exact inductionHypothesis (passage.cancel task)

theorem closeLink_quiet
    (passage : EditorPassage uri running before view system) (link : Nat) :
    QuietRun uri running before view noQuery (system.closeLink link) := by
  have told : EditorPassage uri running before view (system.note (.closedLink link)) :=
    passage.note trivial
  have noted : EditorPassage uri running before view { system.note (.closedLink link) with
      links := system.links.modify link fun found => { found with closed := true } } :=
    told.of_sameLoop rfl { told.parts with }
  unfold System.closeLink
  simp only
  split
  · refine await_quiet (noted.detain _ fun promise member => ?_)
      (noted.loop.orderly.addPromise_isPlain {})
    simp only [Peer.detained, List.mem_append, List.mem_singleton] at member ⊢
    rcases member with frame | closing | added
    · exact Or.inl (Or.inl frame)
    · exact Or.inl (Or.inr closing)
    · exact Or.inr added
  · split
    · exact .ended noted _
    · exact .ended noted _

theorem resumeClosingLink_quiet
    (passage : EditorPassage uri running before view system) (outcome : Outcome Reply) :
    QuietRun uri running before view noQuery (system.resumeClosingLink outcome) := by
  cases outcome <;> exact .ended passage _

theorem closeSession_quiet
    (passage : EditorPassage uri running before view system) (session : Nat) :
    QuietRun uri running before view noQuery (system.closeSession session) := by
  unfold System.closeSession
  split
  · exact .ended passage _
  · rename_i found _
    split
    · exact .ended passage _
    · have closed : EditorPassage uri running before view (system.modifySession session
          fun found => { found with closed := true }) :=
        passage.modifySession session fun _ _ => id
      have left := (closed.abandonRequests session .closed).cancelAll found.answers
      exact (closeLink_quiet left found.link).andThen trivial nofun fun _ _ outcome _ next =>
        resumeClosingLink_quiet next outcome

theorem closeWorkspace_quiet
    (passage : EditorPassage uri running before view system) (workspace : Nat) :
    QuietRun uri running before view noQuery (system.closeWorkspace workspace) := by
  unfold System.closeWorkspace
  split
  · exact .ended passage _
  · exact closeSession_quiet (passage.modifyWorkspace workspace _) _

theorem closeWorkspaceOf_quiet
    {frame : Frame} {rest : System → Outcome Reply → Step}
    (passage : EditorPassage uri running before view system) (editor : Nat)
    (quiet : frame.IsQuiet uri) (noRequest : ∀ promise, frame ≠ .requesting promise)
    (goesOn : ∀ later after outcome, EditorPassage uri running before later after →
      QuietRun uri running before later noQuery (rest after outcome)) :
    QuietRun uri running before view noQuery (system.closeWorkspaceOf editor frame rest) := by
  unfold System.closeWorkspaceOf
  split
  · exact .ended passage _
  · exact (closeWorkspace_quiet passage _).andThen quiet
      (fun promise same => (noRequest promise same).elim)
      fun later after outcome _ next => goesOn later after outcome next

end Quiet

end LanguageClient.Client
