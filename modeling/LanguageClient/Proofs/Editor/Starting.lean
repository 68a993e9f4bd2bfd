import LanguageClient.Proofs.Editor.Sends

/-!
# The start of an editor

A start creates the workspace, announces the document and attaches the synchronizer, in the same turn
in which the peer accepts the announcement. From then on the ledger of the document is right.
-/

namespace LanguageClient.Client

open LanguageClient.Json LanguageClient.Loop LanguageClient.Number LanguageClient.Protocol

@[simp]
theorem delivery?_didOpenFrame (uri : String) (languageId : Value) (text : String) :
    delivery? uri (didOpenFrame uri languageId text) = some (.opened text) := by
  simp [delivery?, didOpenFrame, notificationMessage, paramsMember, didOpenParams, messageVersion,
    Value.get?, member?, methodOf?, textOf?]

theorem isQuery_didOpenFrame (uri : String) (languageId : Value) (text : String) :
    isQuery (didOpenFrame uri languageId text) = false := by
  simp [isQuery, didOpenFrame, notificationMessage, methodOf?, messageVersion, Value.get?, member?,
    Method.didOpen, Method.hover, Method.completion]

/-- Where a start is suspended before the document is open. -/
inductive StartPlace (uri : String) (after : System) (promise : Nat) : List Frame → Prop where
  | creates (frames : List Frame) (place : Suspension uri after frames promise) :
    StartPlace uri after promise (frames ++ [.creatingWorkspace 0])
  | opens (link : Nat) (languageId : Value) (text : String) (workspace file : Nat)
      (plain : after.loop.IsPlain promise) :
    StartPlace uri after promise (openingFrames uri link languageId text workspace file)

/-- What a start does before the document is open, and whether it is open then. -/
structure StartRun
    (uri : String) (running : Option Nat) (before : System) (view : View) (result : Step)
    (later : View) (opened : Bool) :
    Prop where
  passage : EditorPassage uri running before later result.1
  account : Account opened none later
  text : later.synchronizer.text = view.synchronizer.text
  asked : later.asked = view.asked
  lock : later.synchronizer.lock = view.synchronizer.lock
  attached : opened = true → later.synchronizer.file ≠ none
  suspended : ∀ frames promise, result.2 = .suspended frames promise →
    Suspension uri result.1 frames promise ∨
      opened = false ∧ StartPlace uri result.1 promise frames

section Starting

variable {uri : String} {running : Option Nat} {before system : System} {view : View}

theorem QuietRun.start
    {result : Step} (run : QuietRun uri running before view noQuery result)
    (account : Account false none view) :
    ∃ later opened, StartRun uri running before view result later opened := by
  obtain ⟨⟨later, keeps, passage⟩, suspended⟩ := run
  exact ⟨later, false, {
    passage
    account := account.of_keeps keeps
    text := keeps.text
    asked := keeps.asked_of_none
    lock := keeps.lock
    attached := nofun
    suspended := fun frames promise suspends => Or.inl (suspended frames promise suspends) }⟩

theorem StartRun.of_keeps
    {middle later : View} {opened : Bool} {result : Step} (keeps : view.Keeps noQuery middle)
    (run : StartRun uri running before middle result later opened) :
    StartRun uri running before view result later opened where
  passage := run.passage
  account := run.account
  text := run.text.trans keeps.text
  asked := run.asked.trans keeps.asked_of_none
  lock := run.lock.trans keeps.lock
  attached := run.attached
  suspended := run.suspended

/-! ## Timers and attaching -/

/-- A new wait is armed, unless no clock can count it. -/
theorem schedule_run (passage : EditorPassage uri running before view system) :
    ∃ timer?, EditorPassage uri running before
      { view with synchronizer := { view.synchronizer with timer := timer? } }
      (system.schedule 0).1 := by
  have cancelled := passage.cancelTimer
  have found : (system.cancelTimer 0).synchronizers[0]? = some view.untimed.synchronizer := by
    rw [cancelled.parts.synchronizers]
    rfl
  simp only [System.schedule, found]
  cases view.untimed.synchronizer.debounce.delay? with
  | none => exact ⟨none, cancelled⟩
  | some delay =>
      have armed : EditorPassage uri running before view.untimed
          ((system.cancelTimer 0).onLoop (·.arm delay (.debounce 0))) :=
        cancelled.arm delay rfl
      exact ⟨some (system.cancelTimer 0).loop.timersArmed, armed.modifySynchronizer
        (fun found => { found with timer := some (system.cancelTimer 0).loop.timersArmed }) rfl⟩

/-- A synchronizer is attached when exactly the text that opens the document was delivered. -/
theorem attach_run
    (file : Nat) {text : String} (passage : EditorPassage uri running before view system)
    (delivered : view.delivered = [.opened text]) (free : view.synchronizer.lock.held = false) :
    ∃ later, EditorPassage uri running before later (system.attach 0 file text).1 ∧
      Account true none later ∧ later.synchronizer.text = view.synchronizer.text ∧
      later.asked = view.asked ∧ later.synchronizer.lock = view.synchronizer.lock ∧
      later.synchronizer.file = some file := by
  have attached := passage.modifySynchronizer
    (fun found => { found with
      file := some file, version := 0, dirty := found.text ≠ text }) rfl
  have isRight (timer? : Option Nat) : Account true none { view with
      synchronizer := { view.synchronizer with
        file := some file, version := 0, dirty := view.synchronizer.text ≠ text,
        timer := timer? } } := by
    refine .opened {
      held := free
      versions := by
        rw [delivered]
        rfl
      settled := fun _ clean => ?_
      next := nofun
      current := nofun
      earlier := nofun }
    have sameText : view.synchronizer.text = text := by simpa using clean
    rw [delivered, sameText]
    rfl
  simp only [System.attach, attached.parts.synchronizers, List.getElem?_cons_zero, Option.map_some,
    Option.getD_some]
  split
  · obtain ⟨timer?, scheduled⟩ := schedule_run attached
    exact ⟨_, scheduled, isRight timer?, rfl, rfl, rfl, rfl⟩
  · exact ⟨_, attached, isRight view.synchronizer.timer, rfl, rfl, rfl, rfl⟩

/-! ## Opening the document -/

/-- The opening of a document fails, or its announcement is held back, or is accepted. -/
theorem openFile_runs
    (passage : EditorPassage uri running before view system) (workspace : Nat)
    (languageId : Value) (text : String) (listeners : List (String × DocumentListener)) :
    (∃ after failure, EditorPassage uri running before view after ∧
      system.openFile workspace uri languageId text listeners =
        (after, .ended (.failed failure))) ∨
    (∃ after link file promise, EditorPassage uri running before view after ∧
      after.loop.IsPlain promise ∧
      system.openFile workspace uri languageId text listeners =
        (after, .suspended [.sending link (didOpenFrame uri languageId text),
          .writing Method.didOpen, .opening workspace uri file] promise)) ∨
    ∃ after file,
      EditorPassage uri running before (view.accepting uri (didOpenFrame uri languageId text))
        after ∧
      system.openFile workspace uri languageId text listeners =
        (after, .ended (.returned (.file file))) := by
  have fails (later : System) (failure : Failure)
      (laterPassage : EditorPassage uri running before view later) :
      ∃ after ending, EditorPassage uri running before view after ∧
        Step.andThen (later, .ended (.failed failure)) (.opening workspace uri system.files.length)
          (System.resumeOpening workspace uri system.files.length) =
            (after, .ended (.failed ending)) :=
    ⟨_, failure, laterPassage.modifyWorkspace workspace _, rfl⟩
  unfold System.openFile
  split
  · exact Or.inl ⟨system, _, passage, rfl⟩
  · have added : EditorPassage uri running before view
        (system.addFile { workspace, uri, languageId, listeners }) :=
      passage.addFile rfl
    simp only
    generalize system.addFile { workspace, uri, languageId, listeners } = current at added ⊢
    unfold System.notifyIn
    split
    · exact Or.inl (fails current .missing added)
    · unfold System.notify
      split
      · exact Or.inl (fails current .missing added)
      · rename_i session sessionFound
        split
        · exact Or.inl (fails current _ added)
        · split
          · have handed := added.hand session.link (didOpenFrame uri languageId text)
            rw [view.handing_of_other (isQuery_didOpenFrame uri languageId text)] at handed
            rcases System.write_cases Method.didOpen (didOpenFrame uri languageId text)
              sessionFound with ⟨failure, _, result⟩ | result | result
            · rw [didOpenFrame] at result
              rw [result]
              exact Or.inl (fails _ _ handed)
            · rw [didOpenFrame] at result
              rw [result]
              exact Or.inr (Or.inl ⟨_, session.link, _, _, handed.holdBack,
                handed.loop.orderly.addPromise_isPlain {}, rfl⟩)
            · rw [didOpenFrame] at result
              rw [result]
              exact Or.inr (Or.inr ⟨_, _, handed.accept session.link _, rfl⟩)
          · exact Or.inl (fails current .nestedTooDeep added)

/-- A start whose document was not opened closes the workspace again. -/
theorem resumeOpeningDocument_abandons
    (text : String) (passage : EditorPassage uri running before view system)
    (account : Account false none view) {outcome : Outcome Reply}
    (unreturned : ∀ reply, outcome ≠ .returned reply) :
    ∃ later opened, StartRun uri running before view
      (System.resumeOpeningDocument 0 text system outcome) later opened := by
  have abandons : System.resumeOpeningDocument 0 text system outcome =
      system.closeWorkspaceOf 0 (.abandoningStart 0 outcome)
        (System.resumeAbandoningStart 0 outcome) := by
    cases outcome with
    | returned reply => exact (unreturned reply rfl).elim
    | failed _ => rfl
    | cancelled => rfl
  have closed : QuietRun uri running before view noQuery
      (system.closeWorkspaceOf 0 (.abandoningStart 0 outcome)
        (System.resumeAbandoningStart 0 outcome)) :=
    closeWorkspaceOf_quiet passage 0 trivial nofun fun _ _ later next =>
      resumeAbandoningStart_quiet next 0 outcome later
  rw [abandons]
  exact closed.start account

/-- When the announcement was accepted, the synchronizer is attached. -/
theorem resumeOpeningDocument_attaches
    (file : Nat) {languageId : Value} {text : String}
    (passage : EditorPassage uri running before
      (view.accepting uri (didOpenFrame uri languageId text)) system)
    (account : Account false none view) :
    ∃ later opened, StartRun uri running before view
      (System.resumeOpeningDocument 0 text system (.returned (.file file))) later opened := by
  cases account with
  | unopened nothing detached free =>
      obtain ⟨found, editors, synchronizer, _⟩ := passage.parts.editor
      have delivered : (view.accepting uri (didOpenFrame uri languageId text)).delivered =
          [.opened text] := by
        simp [View.accepting, nothing]
      obtain ⟨later, attached, attachedAccount, sameText, sameAsked, sameLock, isAttached⟩ :=
        attach_run file passage delivered free
      have hasFile : later.synchronizer.file ≠ none := by
        rw [isAttached]
        exact Option.some_ne_none file
      simp only [System.resumeOpeningDocument, editors, List.getElem?_cons_zero, synchronizer]
      split
      · rename_i after result
        rw [result] at attached
        exact ⟨later, true, attached, attachedAccount, sameText, sameAsked, sameLock,
          fun _ => hasFile, fun _ _ suspends => by cases suspends⟩
      · rename_i after failure result
        rw [result] at attached
        exact ⟨later, true, attached, attachedAccount, sameText, sameAsked, sameLock,
          fun _ => hasFile, fun _ _ suspends => by cases suspends⟩

theorem resumeCreatingWorkspace_run
    (passage : EditorPassage uri running before view system) (account : Account false none view)
    (outcome : Outcome Reply) :
    ∃ later opened, StartRun uri running before view
      (System.resumeCreatingWorkspace 0 system outcome) later opened := by
  unfold System.resumeCreatingWorkspace
  split
  · rename_i workspace found entry
    obtain ⟨only, editors, synchronizer, documentUri⟩ := passage.parts.editor
    rw [editors] at entry
    obtain rfl : found = only := (List.mem_singleton.mp (List.mem_of_getElem? entry))
    have noted : EditorPassage uri running before view
        (system.modifyEditor 0 fun found => { found with workspace := some workspace }) :=
      passage.modifyEditor 0 fun _ => ⟨rfl, rfl⟩
    simp only
    generalize system.modifyEditor 0 (fun found => { found with workspace := some workspace }) =
      current at noted ⊢
    unfold System.openDocument
    split
    · rename_i name isString
      obtain rfl : name = uri := by
        rw [isString] at documentUri
        exact documentUri
      rcases openFile_runs noted workspace found.languageId (current.editorText found)
          [(Method.publishDiagnostics, .editor 0)] with
        ⟨after, failure, failed, result⟩ | ⟨after, link, file, promise, held, plain, result⟩ |
          ⟨after, file, accepted, result⟩
      · have unreturned : ∀ reply : Reply, Outcome.failed failure ≠ .returned reply := nofun
        rw [result]
        exact resumeOpeningDocument_abandons (current.editorText found) failed account unreturned
      · rw [result]
        exact ⟨view, false, {
          passage := held
          account
          text := rfl
          asked := rfl
          lock := rfl
          attached := nofun
          suspended := fun frames other suspends => by
            obtain ⟨rfl, rfl⟩ := Progress.suspended.inj suspends
            exact Or.inr ⟨rfl, .opens link _ _ workspace file plain⟩ }⟩
      · rw [result]
        exact resumeOpeningDocument_attaches file accepted account
    · have unreturned : ∀ reply : Reply, Outcome.failed .wrongType ≠ .returned reply := nofun
      exact resumeOpeningDocument_abandons (current.editorText found) noted account unreturned
  · exact (QuietRun.ended passage _).start account
  · exact (QuietRun.ended passage _).start account
  · exact (QuietRun.ended passage _).start account

/-- The announcement that was held back is accepted now, or the start is abandoned. -/
theorem resumeOpeningFrames_run
    (link : Nat) (languageId : Value) (text : String) (workspace file : Nat)
    (passage : EditorPassage uri running before view system) (account : Account false none view)
    (signal : Outcome Reply) :
    ∃ later opened, StartRun uri running before view
      (system.resumeStack signal (openingFrames uri link languageId text workspace file)) later
        opened := by
  rcases System.resumeStack_sending system link (didOpenFrame uri languageId text) Method.didOpen
      [.opening workspace uri file, .openingDocument 0 text] signal with
    ⟨reply, _, _, result⟩ | ⟨ending, unreturned, _, result⟩
  · rw [openingFrames, result, System.resumeStack_of_ended _ rfl, System.resumeStack_singleton]
    exact resumeOpeningDocument_attaches file (passage.accept link _) account
  · have unregistered : EditorPassage uri running before view (system.unregister workspace uri) :=
      passage.modifyWorkspace workspace _
    have givesUp : System.resumeFrame (.opening workspace uri file) system ending =
        (system.unregister workspace uri, .ended ending) := by
      cases ending with
      | returned reply => exact (unreturned reply rfl).elim
      | failed _ => rfl
      | cancelled => rfl
    rw [openingFrames, result, System.resumeStack_of_ended _ givesUp,
      System.resumeStack_singleton]
    exact resumeOpeningDocument_abandons text unregistered account unreturned

/-! ## The start as a whole -/

/-- The frames of a handshake go on, and the document is opened when they have ended. -/
theorem resumeCreatingFrames_run
    {frames : List Frame} (passage : EditorPassage uri running before view system)
    (account : Account false none view) (quiet : ∀ frame ∈ frames, frame.IsQuiet uri)
    (requests : ∀ promise, .requesting promise ∈ frames → system.loop.IsPlain promise)
    (signal : Outcome Reply) :
    ∃ later opened, StartRun uri running before view
      (system.resumeStack signal (frames ++ [.creatingWorkspace 0])) later opened := by
  rcases resumeStack_quiet passage quiet requests signal [.creatingWorkspace 0] with
    ⟨middle, after, ending, keeps, next, result⟩ |
      ⟨middle, after, inner, promise, keeps, next, place, result⟩
  · rw [result, System.resumeStack_singleton]
    obtain ⟨later, opened, run⟩ :=
      resumeCreatingWorkspace_run next (account.of_keeps keeps) ending
    exact ⟨later, opened, run.of_keeps keeps⟩
  · rw [result]
    exact ⟨middle, false, {
      passage := next
      account := account.of_keeps keeps
      text := keeps.text
      asked := keeps.asked_of_none
      lock := keeps.lock
      attached := nofun
      suspended := fun frames other suspends => by
        obtain ⟨rfl, rfl⟩ := Progress.suspended.inj suspends
        exact Or.inr ⟨rfl, .creates inner place⟩ }⟩

theorem start_run
    (passage : EditorPassage uri running before view system) (account : Account false none view) :
    ∃ later opened, StartRun uri running before view (system.start 0) later opened := by
  obtain ⟨found, editors, _⟩ := passage.parts.editor
  simp only [System.start, editors, List.getElem?_cons_zero]
  have created := createWorkspace_quiet passage {
    serverUri := found.serverUri
    rootUri := found.rootUri
    folders := found.folders
    timeout := found.timeout
    unreachable := found.unreachable }
  generalize system.createWorkspace _ = step at created ⊢
  obtain ⟨⟨middle, keeps, next⟩, suspended⟩ := created
  obtain ⟨after, outcome | ⟨frames, promise⟩⟩ := step
  · obtain ⟨later, opened, run⟩ :=
      resumeCreatingWorkspace_run next (account.of_keeps keeps) outcome
    exact ⟨later, opened, run.of_keeps keeps⟩
  · exact ⟨middle, false, {
      passage := next
      account := account.of_keeps keeps
      text := keeps.text
      asked := keeps.asked_of_none
      lock := keeps.lock
      attached := nofun
      suspended := fun others other suspends => by
        obtain ⟨rfl, rfl⟩ := Progress.suspended.inj suspends
        exact Or.inr ⟨rfl, .creates frames (suspended frames promise rfl)⟩ }⟩

end Starting

end LanguageClient.Client
