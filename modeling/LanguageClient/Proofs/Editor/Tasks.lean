import LanguageClient.Proofs.Editor.Queries

/-!
# What a task of an editor does when it goes on

A task goes on from one of a few places. If it hands a query to a connection, that speaks about the
text that its send was about, or about the text as it is now.
-/

namespace LanguageClient.Client

open LanguageClient.Json LanguageClient.Loop LanguageClient.Number LanguageClient.Protocol

/-- The frame that a call leaves behind its send when it begins while the editor has some text. -/
inductive Begins (text : String) : Call → Frame → Prop where
  | hover (offset : Int) : Begins text (.hover 0 offset) (.flushingForHover 0 offset)
  | complete (offset : Int) (explicit : Bool) (query : CompletionQuery)
      (resolved : (Document.Snapshot.ofText text).toPosition offset = .ok query.position) :
    Begins text (.complete 0 offset explicit) (.flushingForCompletion 0 query)
  | refresh : Begins text (.refresh 0) .refreshing
  | sendDebounced : Begins text (.sendDebounced 0) (.sendingDebounced 0)

theorem Begins.awaitsSend
    {text : String} {call : Call} {caller : Frame} (begins : Begins text call caller) :
    caller.AwaitsSend := by
  cases begins with
  | hover offset => rfl
  | complete offset explicit query resolved => rfl
  | refresh => trivial
  | sendDebounced => rfl

/-- The frame behind the send of a task that goes on while the editor has some text, and the text
that the peer has when that send returns. -/
inductive Sends (uri text : String) : List Frame → Frame → String → Prop where
  | begins (call : Call) (caller : Frame) (begins : Begins text call caller) :
    Sends uri text [.begin call] caller text
  | locks (promise : Nat) (force : Bool) (caller : Frame) (sends : caller.AwaitsSend) :
    Sends uri text [.locking 0 promise force, caller] caller text
  | changes (link : Nat) (change : Change) (caller : Frame) (sends : caller.AwaitsSend) :
    Sends uri text (changeFrames uri link change ++ [caller]) caller change.text

theorem Sends.awaitsSend
    {uri text sent : String} {stack : List Frame} {caller : Frame}
    (sends : Sends uri text stack caller sent) :
    caller.AwaitsSend := by
  cases sends with
  | begins call caller begins => exact begins.awaitsSend
  | locks promise force caller sends => exact sends
  | changes link change caller sends => exact sends

/-- A task that went on from some frames is left waiting. A new promise of the lock is nobody
else's. -/
inductive LeftWaiting
    (uri : String) (task : Nat) (view later : View) (opened : Bool)
    (holder : Option (Nat × Change)) (stack : List Frame) (after : System) (promise : Nat) :
    List Frame → Prop where
  | quiet (frames : List Frame) (place : Suspension uri after frames promise) :
    LeftWaiting uri task view later opened holder stack after promise frames
  | starts (frames : List Frame) (unopened : opened = false) (starting : IsStarting stack)
      (place : StartPlace uri after promise frames) :
    LeftWaiting uri task view later opened holder stack after promise frames
  | locks (force : Bool) (caller : Frame) (plain : after.loop.IsPlain promise)
      (source : Sends uri view.synchronizer.text stack caller view.synchronizer.text)
      (waits : promise ∈ later.synchronizer.lock.waiters)
      (own : promise ∈ view.synchronizer.lock.waiters →
        ∃ earlier outer, stack = .locking 0 promise earlier :: outer) :
    LeftWaiting uri task view later opened holder stack after promise
      [.locking 0 promise force, caller]
  | changes (link : Nat) (change : Change) (caller : Frame) (plain : after.loop.IsPlain promise)
      (source : Sends uri view.synchronizer.text stack caller view.synchronizer.text)
      (same : change.text = view.synchronizer.text) (isHolder : holder = some (task, change)) :
    LeftWaiting uri task view later opened holder stack after promise
      (changeFrames uri link change ++ [caller])

/-- What a task does with its frames. It asks at most one query, when its send has returned. -/
structure EditorRun
    (uri : String) (task : Nat) (system : System) (opened : Bool) (holder : Option (Nat × Change))
    (view : View) (stack : List Frame) (result : Step) (later : View) (laterOpened : Bool)
    (laterHolder : Option (Nat × Change)) :
    Prop where
  passage : EditorPassage uri (some task) system later result.1
  account : Account laterOpened (laterHolder.map (·.2)) later
  text : later.synchronizer.text = view.synchronizer.text
  opens : laterOpened = opened ∨ IsStarting stack ∧ later.synchronizer.file ≠ none
  waiters : ∀ promise ∈ view.synchronizer.lock.waiters,
    promise ∈ later.synchronizer.lock.waiters ∨
      ∃ force outer, stack = .locking 0 promise force :: outer
  holder : ∀ other change, holder = some (other, change) → other ≠ task →
    laterHolder = some (other, change)
  asked : later.asked = view.asked ∨
    ∃ query caller sent, Sends uri view.synchronizer.text stack caller sent ∧
      Asks uri view.synchronizer.text caller query ∧ later.asked = view.asked ++ [query] ∧
      (result.1.isReady 0 = true → result.1.deliveredText? uri = some sent)
  suspended : ∀ frames promise, result.2 = .suspended frames promise →
    LeftWaiting uri task view later laterOpened laterHolder stack result.1 promise frames

section Runs

variable {uri : String} {task : Nat} {system : System} {opened : Bool}
  {holder : Option (Nat × Change)} {view : View} {stack : List Frame}

theorem QuietRun.editorRun
    {result : Step} (run : QuietRun uri (some task) system view noQuery result)
    (account : Account opened (holder.map (·.2)) view) :
    ∃ later, EditorRun uri task system opened holder view stack result later opened holder := by
  obtain ⟨⟨later, keeps, passage⟩, suspended⟩ := run
  exact ⟨later, {
    passage
    account := account.of_keeps keeps
    text := keeps.text
    opens := Or.inl rfl
    waiters := fun promise member => by
      rw [keeps.lock]
      exact Or.inl member
    holder := fun _ _ same _ => same
    asked := Or.inl keeps.asked_of_none
    suspended := fun frames promise suspends => .quiet frames (suspended frames promise suspends) }⟩

theorem StartRun.editorRun
    {result : Step} {later : View} {laterOpened : Bool}
    (run : StartRun uri (some task) system view result later laterOpened)
    (starting : IsStarting stack) :
    EditorRun uri task system false none view stack result later laterOpened none where
  passage := run.passage
  account := run.account
  text := run.text
  opens := by
    cases laterOpened with
    | false => exact Or.inl rfl
    | true => exact Or.inr ⟨starting, run.attached rfl⟩
  waiters := fun promise member => by
    rw [run.lock]
    exact Or.inl member
  holder := nofun
  asked := Or.inl run.asked
  suspended := fun frames promise suspends => by
    rcases run.suspended frames promise suspends with place | ⟨unopened, place⟩
    · exact .quiet frames place
    · exact .starts frames unopened starting place

theorem holderAfter_map
    {change? : Option Change} (task : Nat)
    (others : ∀ change, holder.map (·.2) = some change → change? = some change) :
    (holderAfter holder task change?).map (·.2) = change? := by
  cases holder with
  | none => exact holderAfter_none task change?
  | some holding => exact (others holding.2 rfl).symm

/-- When the send of a task has ended, its caller goes on in the same turn. -/
theorem callerRun
    {caller : Frame} {sent : String} {middle : View} {after : System} {change? : Option Change}
    {laterHolder : Option (Nat × Change)} (outcome : Outcome Reply)
    (source : Sends uri view.synchronizer.text stack caller sent)
    (passage : EditorPassage uri (some task) system middle after)
    (account : Account opened change? middle) (isHolder : laterHolder.map (·.2) = change?)
    (text : middle.synchronizer.text = view.synchronizer.text) (asked : middle.asked = view.asked)
    (waiters : ∀ promise ∈ view.synchronizer.lock.waiters,
      promise ∈ middle.synchronizer.lock.waiters ∨
        ∃ force outer, stack = .locking 0 promise force :: outer)
    (holds : ∀ other change, holder = some (other, change) → other ≠ task →
      laterHolder = some (other, change))
    (delivered : ∀ reply, outcome = .returned reply → after.isReady 0 = true →
      after.deliveredText? uri = some sent) :
    ∃ later, EditorRun uri task system opened holder view stack
      (System.resumeFrame caller after outcome) later opened laterHolder := by
  have documents := resumeCaller_keepsDocuments source.awaitsSend after outcome
  obtain ⟨⟨later, keeps, next⟩, suspended⟩ := resumeCaller_quiet passage source.awaitsSend outcome
  refine ⟨later, {
    passage := next
    account := by
      rw [isHolder]
      exact account.of_keeps keeps
    text := keeps.text.trans text
    opens := Or.inl rfl
    waiters := fun promise member => by
      rw [keeps.lock]
      exact waiters promise member
    holder := holds
    asked := ?_
    suspended := fun frames promise suspends => .quiet frames (suspended frames promise suspends) }⟩
  rcases keeps.asked with same | ⟨query, ⟨⟨reply, returned⟩, asks⟩, same⟩
  · exact Or.inl (same.trans asked)
  · rw [text] at asks
    rw [asked] at same
    refine Or.inr ⟨query, caller, sent, source, asks, same, fun isReady => ?_⟩
    -- The caller opens and closes nothing, so the document was open when the send returned.
    have wasReady : after.isReady 0 = true := by
      rw [next.isReady_iff] at isReady
      rw [passage.isReady_iff]
      obtain ⟨file, attached, isOpen⟩ := isReady
      rw [documents.isOpen] at isOpen
      rcases keeps.file with sameFile | forgotten
      · exact ⟨file, sameFile.symm.trans attached, isOpen⟩
      · rw [forgotten] at attached
        cases attached
    rw [next.deliveredText?, keeps.delivered, ← passage.deliveredText?]
    exact delivered reply returned wasReady

theorem SendRun.editorRun
    {caller : Frame} {started middle : View} {step : Step} {change? : Option Change}
    (run : SendRun uri (some task) system opened started (holder.map (·.2)) step middle change?)
    (source : Sends uri view.synchronizer.text stack caller view.synchronizer.text)
    (text : started.synchronizer.text = view.synchronizer.text) (asked : started.asked = view.asked)
    (waiters : ∀ promise ∈ view.synchronizer.lock.waiters,
      promise ∈ started.synchronizer.lock.waiters ∨
        ∃ force outer, stack = .locking 0 promise force :: outer) :
    ∃ later, EditorRun uri task system opened holder view stack
      (step.andThen caller (System.resumeFrame caller)) later opened
      (holderAfter holder task change?) := by
  have isHolder := holderAfter_map task run.others
  have laterWaiters : ∀ promise ∈ view.synchronizer.lock.waiters,
      promise ∈ middle.synchronizer.lock.waiters ∨
        ∃ force outer, stack = .locking 0 promise force :: outer :=
    fun promise member => (waiters promise member).imp (run.waiters promise) id
  have holds : ∀ other change, holder = some (other, change) → other ≠ task →
      holderAfter holder task change? = some (other, change) := by
    intro other change same _
    rw [same]
    rfl
  obtain ⟨passage, account, sameText, sameAsked, _, others, returned, suspended⟩ := run
  obtain ⟨after, outcome | ⟨frames, promise⟩⟩ := step
  · refine callerRun outcome source passage account isHolder (sameText.trans text)
      (sameAsked.trans asked) laterWaiters holds fun reply isReturned isReady => ?_
    rw [← text]
    exact returned reply (congrArg Progress.ended isReturned) isReady
  · refine ⟨middle, {
      passage
      account := by
        rw [isHolder]
        exact account
      text := sameText.trans text
      opens := Or.inl rfl
      waiters := laterWaiters
      holder := holds
      asked := Or.inl (sameAsked.trans asked)
      suspended := fun others other suspends => ?_ }⟩
    obtain ⟨rfl, rfl⟩ := Progress.suspended.inj suspends
    obtain ⟨plain, ⟨link, change, free, taken, same, rfl⟩ | ⟨force, waits, new, rfl⟩⟩ :=
      suspended frames promise rfl
    · refine .changes link change caller plain source (same.trans text) ?_
      rw [Option.map_eq_none_iff.mp free, taken]
      rfl
    · refine .locks force caller plain source waits fun member => ?_
      exact (waiters promise member).resolve_left new

/-! ## Calls -/

theorem completionQuery?_resolved
    {snapshot : Document.Snapshot} {triggers : List String} {offset : Int} {explicit : Bool}
    {query : CompletionQuery}
    (isQuery : System.completionQuery? snapshot triggers offset explicit = some query) :
    snapshot.toPosition offset = .ok query.position := by
  unfold System.completionQuery? at isQuery
  cases resolved : snapshot.toPosition offset with
  | error fault => simp [resolved, Except.toOption] at isQuery
  | ok position =>
      simp only [resolved, Except.toOption, Option.bind_eq_bind, Option.bind_some,
        Option.bind_eq_some_iff] at isQuery
      obtain ⟨line, _, previous, _, isQuery⟩ := isQuery
      split at isQuery
      · rw [← Option.some.inj isQuery]
      · split at isQuery
        · rw [← Option.some.inj isQuery]
        · cases isQuery

theorem Account.change?_of_unopened
    {change? : Option Change} (account : Account false change? view) : change? = none := by
  cases account
  rfl

/-- A call flushes the edits, and goes on when they are sent. -/
theorem flushing_run
    {call : Call} {caller : Frame} (force : Bool)
    (begins : Begins view.synchronizer.text call caller)
    (passage : EditorPassage uri (some task) system view system)
    (account : Account opened (holder.map (·.2)) view) :
    ∃ later laterOpened laterHolder,
      EditorRun uri task system opened holder view [.begin call]
        ((system.flush 0 force).andThen caller (System.resumeFrame caller)) later laterOpened
        laterHolder := by
  obtain ⟨middle, change?, run⟩ := flush_run force passage account
  obtain ⟨later, editorRun⟩ :=
    run.editorRun (.begins call caller begins) rfl rfl fun _ => Or.inl
  exact ⟨later, opened, _, editorRun⟩

theorem QuietRun.run
    {result : Step} (run : QuietRun uri (some task) system view noQuery result)
    (account : Account opened (holder.map (·.2)) view) :
    ∃ later laterOpened laterHolder,
      EditorRun uri task system opened holder view stack result later laterOpened laterHolder := by
  obtain ⟨later, editorRun⟩ := run.editorRun account
  exact ⟨later, opened, holder, editorRun⟩

theorem hover_run
    (offset : Int) (passage : EditorPassage uri (some task) system view system)
    (account : Account opened (holder.map (·.2)) view) :
    ∃ later laterOpened laterHolder,
      EditorRun uri task system opened holder view [.begin (.hover 0 offset)]
        (system.hover 0 offset) later laterOpened laterHolder := by
  obtain ⟨found, editors, synchronizer, _⟩ := passage.parts.editor
  simp only [System.hover, editors, List.getElem?_cons_zero, synchronizer]
  split
  · exact (QuietRun.ended passage _).run account
  · split
    · exact flushing_run false (.hover offset) passage account
    · exact (QuietRun.ended passage _).run account

theorem complete_run
    (offset : Int) (explicit : Bool) (passage : EditorPassage uri (some task) system view system)
    (account : Account opened (holder.map (·.2)) view) :
    ∃ later laterOpened laterHolder,
      EditorRun uri task system opened holder view [.begin (.complete 0 offset explicit)]
        (system.complete 0 offset explicit) later laterOpened laterHolder := by
  obtain ⟨found, editors, synchronizer, _⟩ := passage.parts.editor
  simp only [System.complete, editors, List.getElem?_cons_zero, synchronizer,
    passage.snapshotOf synchronizer]
  split
  · exact (QuietRun.ended passage _).run account
  · split
    · exact (QuietRun.ended passage _).run account
    · rename_i query isQuery
      exact flushing_run false
        (.complete offset explicit query (completionQuery?_resolved isQuery)) passage account

theorem refresh_run
    (passage : EditorPassage uri (some task) system view system)
    (account : Account opened (holder.map (·.2)) view) :
    ∃ later laterOpened laterHolder,
      EditorRun uri task system opened holder view [.begin (.refresh 0)] (system.refresh 0) later
        laterOpened laterHolder := by
  obtain ⟨found, editors, synchronizer, _⟩ := passage.parts.editor
  simp only [System.refresh, editors, List.getElem?_cons_zero, synchronizer]
  split
  · exact (QuietRun.ended passage _).run account
  · exact flushing_run true .refresh passage account

theorem sendDebounced_run
    (passage : EditorPassage uri (some task) system view system)
    (account : Account opened (holder.map (·.2)) view) :
    ∃ later laterOpened laterHolder,
      EditorRun uri task system opened holder view [.begin (.sendDebounced 0)]
        (system.sendDebounced 0) later laterOpened laterHolder := by
  obtain ⟨middle, change?, run⟩ := sendChange_run false passage account
  obtain ⟨later, editorRun⟩ :=
    run.editorRun (.begins _ _ .sendDebounced) rfl rfl fun _ => Or.inl
  exact ⟨later, opened, _, editorRun⟩

/-- A start begins or goes on while the document is not open yet. -/
theorem starts_editorRun
    {result : Step}
    (run : Account false none view →
      ∃ later laterOpened, StartRun uri (some task) system view result later laterOpened)
    (unopened : opened = false) (starting : IsStarting stack)
    (account : Account opened (holder.map (·.2)) view) :
    ∃ later laterOpened laterHolder,
      EditorRun uri task system opened holder view stack result later laterOpened laterHolder := by
  subst unopened
  have none := account.change?_of_unopened
  rw [none] at account
  obtain rfl := Option.map_eq_none_iff.mp none
  obtain ⟨later, laterOpened, startRun⟩ := run account
  exact ⟨later, laterOpened, _, startRun.editorRun starting⟩

/-- A call that begins, unless it was cancelled before. -/
theorem begin_editorRun
    {call : Call} (allowed : call.AtEditor) (signal : Outcome Reply)
    (unopened : ∀ editor, call = .start editor → opened = false)
    (passage : EditorPassage uri (some task) system view system)
    (account : Account opened (holder.map (·.2)) view) :
    ∃ later laterOpened laterHolder,
      EditorRun uri task system opened holder view [.begin call]
        (system.resumeStack signal [.begin call]) later laterOpened laterHolder := by
  by_cases returned : ∃ reply, signal = .returned reply
  · obtain ⟨reply, rfl⟩ := returned
    rw [System.resumeStack_begin]
    cases call with
    | start editor =>
        obtain rfl : editor = 0 := allowed
        have starting : IsStarting [.begin (.start 0)] := ⟨_, List.mem_cons_self, trivial⟩
        exact starts_editorRun (start_run passage) (unopened 0 rfl) starting account
    | hover editor offset =>
        obtain rfl : editor = 0 := allowed
        exact hover_run offset passage account
    | complete editor offset explicit =>
        obtain rfl : editor = 0 := allowed
        exact complete_run offset explicit passage account
    | refresh editor =>
        obtain rfl : editor = 0 := allowed
        exact refresh_run passage account
    | sendDebounced synchronizer =>
        obtain rfl : synchronizer = 0 := allowed
        exact sendDebounced_run passage account
    | closeEditor editor => exact (closeEditor_quiet passage editor).run account
    | answer session id => exact (answer_quiet passage session id).run account
    | _ => exact allowed.elim
  · have unreturned : ∀ reply, signal ≠ .returned reply := fun reply same => returned ⟨reply, same⟩
    rw [System.resumeStack_not_begin _ _ unreturned]
    exact (QuietRun.ended passage signal).run account

/-! ## Tasks that have waited -/

/-- A task that has waited for the lock takes it, or no longer waits. -/
theorem locks_editorRun
    {promise : Nat} {force : Bool} {caller : Frame} {signal : Outcome Reply}
    (sends : caller.AwaitsSend) (waits : promise ∈ view.synchronizer.lock.waiters)
    (granted : ∀ reply, signal = .returned reply →
      system.loop.outcome? promise = some (.returned reply))
    (passage : EditorPassage uri (some task) system view system)
    (account : Account opened (holder.map (·.2)) view) :
    ∃ later laterOpened laterHolder,
      EditorRun uri task system opened holder view [.locking 0 promise force, caller]
        (system.resumeStack signal [.locking 0 promise force, caller]) later laterOpened
        laterHolder := by
  have source : Sends uri view.synchronizer.text [.locking 0 promise force, caller] caller
      view.synchronizer.text :=
    .locks promise force caller sends
  have remains : ∀ other ∈ view.synchronizer.lock.waiters,
      other ∈ (view.without promise).synchronizer.lock.waiters ∨
        ∃ earlier outer, [Frame.locking 0 promise force, caller] =
          .locking 0 other earlier :: outer := by
    intro other member
    by_cases same : other = promise
    · exact Or.inr ⟨force, [caller], by rw [same]⟩
    · exact Or.inl (List.mem_filter.mpr ⟨member, decide_eq_true same⟩)
  rw [resumeStack_cons, ← andThen_eq_goOn]
  by_cases returned : ∃ reply, signal = .returned reply
  · obtain ⟨reply, rfl⟩ := returned
    obtain ⟨free, middle, change?, run⟩ :=
      resumeLocking_granted_run force passage account waits (granted reply rfl)
    obtain rfl := Option.map_eq_none_iff.mp free
    have sendRun : SendRun uri (some task) system opened (view.without promise)
        ((none : Option (Nat × Change)).map (·.2))
        (System.resumeFrame (.locking 0 promise force) system (.returned reply)) middle change? :=
      run
    obtain ⟨later, editorRun⟩ := sendRun.editorRun source rfl rfl remains
    exact ⟨later, opened, _, editorRun⟩
  · have unreturned : ∀ reply, signal ≠ .returned reply := fun reply same => returned ⟨reply, same⟩
    obtain ⟨after, result, left⟩ := resumeLocking_givesUp_run promise force passage unreturned
    have resultEq : System.resumeFrame (.locking 0 promise force) system signal =
        (after, .ended signal) := result
    rw [resultEq]
    obtain ⟨later, editorRun⟩ := callerRun signal source left
      (account.withWaiters _) rfl rfl rfl remains (fun _ _ same _ => same)
      fun reply isReturned => (unreturned reply isReturned).elim
    exact ⟨later, opened, _, editorRun⟩

/-- A change that was held back is delivered now, or its edit counts as unsent again. -/
theorem changes_editorRun
    {link : Nat} {change : Change} {caller : Frame} (sends : caller.AwaitsSend)
    (signal : Outcome Reply) (isHolder : holder = some (task, change))
    (passage : EditorPassage uri (some task) system view system)
    (account : Account opened (holder.map (·.2)) view) :
    ∃ later laterOpened laterHolder,
      EditorRun uri task system opened holder view (changeFrames uri link change ++ [caller])
        (system.resumeStack signal (changeFrames uri link change ++ [caller])) later laterOpened
        laterHolder := by
  subst isHolder
  have source : Sends uri view.synchronizer.text (changeFrames uri link change ++ [caller]) caller
      change.text :=
    .changes link change caller sends
  cases account with
  | opened ledger =>
      have holds : ∀ other otherChange, some (task, change) = some (other, otherChange) →
          other ≠ task → (none : Option (Nat × Change)) = some (other, otherChange) := by
        intro other otherChange same different
        exact (different (Prod.mk.inj (Option.some.inj same)).1.symm).elim
      have framesEq : changeFrames uri link change ++ [caller] =
          .sending link (changeFrame uri change.version change.text) ::
            .writing Method.didChange ::
              [.changing 0 change.version change.wasDirty, caller] := rfl
      rcases System.resumeStack_sending system link (changeFrame uri change.version change.text)
          Method.didChange [.changing 0 change.version change.wasDirty, caller] signal with
        ⟨reply, _, _, result⟩ | ⟨ending, unreturned, _, result⟩
      · obtain ⟨committed, committedAccount, _, delivered⟩ := commitChange_run passage ledger link
        have commits : System.resumeFrame (.changing 0 change.version change.wasDirty)
            (system.accept link (changeFrame uri change.version change.text))
            (.returned .nothing) = _ :=
          resumeChanging_returned change.version change.wasDirty _ .nothing
        rw [framesEq, result, System.resumeStack_of_ended _ commits,
          System.resumeStack_singleton]
        obtain ⟨later, editorRun⟩ := callerRun (.returned .nothing) source committed
          committedAccount rfl rfl rfl (fun _ => Or.inl) holds fun _ _ _ => delivered
        exact ⟨later, true, none, editorRun⟩
      · obtain ⟨restored, restoredAccount⟩ := restoreChange_run passage ledger
        have restores : System.resumeFrame (.changing 0 change.version change.wasDirty) system
            ending = _ :=
          resumeChanging_not_returned change.version change.wasDirty system unreturned
        rw [framesEq, result, System.resumeStack_of_ended _ restores,
          System.resumeStack_singleton]
        obtain ⟨later, editorRun⟩ := callerRun ending source restored restoredAccount
          rfl rfl rfl (fun _ => Or.inl) holds
          fun reply isReturned => (unreturned reply isReturned).elim
        exact ⟨later, true, none, editorRun⟩

theorem quiet_editorRun
    {frames : List Frame} (quiet : ∀ frame ∈ frames, frame.IsQuiet uri)
    (requests : ∀ promise, .requesting promise ∈ frames → system.loop.IsPlain promise)
    (signal : Outcome Reply) (passage : EditorPassage uri (some task) system view system)
    (account : Account opened (holder.map (·.2)) view) :
    ∃ later laterOpened laterHolder,
      EditorRun uri task system opened holder view frames (system.resumeStack signal frames) later
        laterOpened laterHolder := by
  have goesOn := resumeStack_quiet passage quiet requests signal []
  rw [List.append_nil] at goesOn
  have run : QuietRun uri (some task) system view noQuery (system.resumeStack signal frames) := by
    rcases goesOn with ⟨later, after, ending, keeps, next, result⟩ |
      ⟨later, after, inner, promise, keeps, next, place, result⟩
    · rw [result]
      exact ⟨⟨later, keeps, next⟩, nofun⟩
    · rw [result, List.append_nil]
      refine ⟨⟨later, keeps, next⟩, fun others other suspends => ?_⟩
      obtain ⟨rfl, rfl⟩ := Progress.suspended.inj suspends
      exact place
  exact run.run account

end Runs

end LanguageClient.Client
