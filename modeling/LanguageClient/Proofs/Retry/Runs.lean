import LanguageClient.Proofs.Retry.Turns

/-!
# Editors that are started again

An editor may be started as often as the host likes. As long as no start has succeeded, every start that
has ended has left the editor as it was before, apart from the text, and the next one has the same
chance.
-/

namespace LanguageClient.Client

open LanguageClient.Json LanguageClient.Loop LanguageClient.Number LanguageClient.Protocol

/-- The text that a document has after some inputs: that of the last edit. -/
def latestText (text : String) (inputs : Nat → Input) : Nat → String
  | 0 => text
  | count + 1 =>
    match inputs count with
    | .editText _ edited => edited
    | _ => latestText text inputs count

/-- A client with one editor after some inputs, when the peer can be reached at some moments only. -/
def EditorSetup.tried
    (setup : EditorSetup) (reach : Nat → Option Failure) (inputs : Nat → Input) : Nat → System
  | 0 => setup.created
  | count + 1 => ((setup.tried reach inputs count).facing (reach count)).step (inputs count)

/-- The host starts and closes the editor as often as it likes, but only one after the other, and it
cancels no start that is being abandoned. -/
structure StartsInTurn (setup : EditorSetup) (reach : Nat → Option Failure) (inputs : Nat → Input) :
    Prop where
  allowed : ∀ place, (inputs place).IsAttempt
  alone : ∀ place later call other, place < later → inputs place = .call call →
    inputs later = .call other → call.IsLifecycle → other.IsLifecycle →
      (setup.tried reach inputs later).ending? (setup.tried reach inputs place).nextTask ≠ none
  spared : ∀ place task, inputs place = .cancel task →
    ¬ (setup.tried reach inputs place).IsRetreating task

/-- The document of an editor is not open, and nothing is left of an attempt to open it. -/
structure System.IsUnstarted (system : System) : Prop where
  editor : ∃ found : Editor, system.editors = [found] ∧ found.workspace = none
  synchronizer : ∃ found : Synchronizer, system.synchronizers = [found] ∧ found.version = 0 ∧
    found.timer = none
  unready : system.isReady 0 = false
  timers : system.loop.Avoids Action.IsDebounce
  sessions : ∀ session ∈ system.sessions, session.closed = true

section Runs

open LanguageClient.Client.System

variable {setup : EditorSetup} {reach : Nat → Option Failure} {inputs : Nat → Input}
  {place count : Nat} {text : String}

/-- The workspace of a call was added at some moment since, when the editor had some text. -/
def AnnouncedSince
    (setup : EditorSetup) (reach : Nat → Option Failure) (inputs : Nat → Input) (place count : Nat)
    (text : String) : Prop :=
  ∃ moment, place < moment ∧ moment < count ∧
    (setup.tried reach inputs moment).workspaces.length <
      (setup.tried reach inputs (moment + 1)).workspaces.length ∧
    text = (setup.tried reach inputs moment).documentText

/-- A call that starts or closes the editor. -/
structure CallsLifecycle (inputs : Nat → Input) (place : Nat) (call : Call) : Prop where
  made : inputs place = .call call
  lifecycle : call.IsLifecycle

/-- All calls that start or close the editor have ended, but for one at most, and none of them has
started it. -/
def EndedBut (setup : EditorSetup) (reach : Nat → Option Failure) (inputs : Nat → Input)
    (current : Option Nat) (count : Nat) : Prop :=
  ∀ place call, place < count → CallsLifecycle inputs place call → current ≠ some place →
    ∃ outcome, (setup.tried reach inputs count).ending? (setup.tried reach inputs place).nextTask =
        some outcome ∧
      (call = .start 0 → ∀ reply, outcome ≠ .returned reply)

/-- Where the calls that start or close the editor are after some inputs. -/
inductive Attempts (setup : EditorSetup) (reach : Nat → Option Failure) (inputs : Nat → Input)
    (count : Nat) : Prop where
  | rests (ended : EndedBut setup reach inputs none count)
      (rests : (setup.tried reach inputs count).Rests setup)
  | engages (place : Nat) (call : Call) (before : place < count)
      (calls : CallsLifecycle inputs place call)
      (ended : EndedBut setup reach inputs (some place) count)
      (engages : (setup.tried reach inputs count).Engages setup (setup.tried reach inputs place).wire
        (AnnouncedSince setup reach inputs place count) call
        (setup.tried reach inputs place).nextTask)

/-- What is known of a run in which no start has succeeded. -/
structure UnstartedRun (setup : EditorSetup) (reach : Nat → Option Failure) (inputs : Nat → Input)
    (count : Nat) : Prop where
  world : ∃ view, EditorWorld setup.uri false none view (setup.tried reach inputs count)
  separate : Separate (setup.tried reach inputs count)
  text : (setup.tried reach inputs count).documentText = latestText setup.text inputs count
  attempts : Attempts setup reach inputs count

/-- The start of some place has opened the document after some inputs. -/
structure Opened (setup : EditorSetup) (reach : Nat → Option Failure) (inputs : Nat → Input)
    (place count : Nat) (text : String) (outcome : Outcome Reply) : Prop where
  before : place < count
  made : inputs place = .call (.start 0)
  others : EndedBut setup reach inputs (some place) count
  announced : AnnouncedSince setup reach inputs place count text
  attached : Attached setup (setup.tried reach inputs place).wire text (setup.tried reach inputs count)
  ended : (setup.tried reach inputs count).ending? (setup.tried reach inputs place).nextTask =
    some outcome
  ending : outcome = .returned .nothing ∨ setup.options.debounce.delay? = none

/-! ## One input -/

theorem AnnouncedSince.succ (announced : AnnouncedSince setup reach inputs place count text) :
    AnnouncedSince setup reach inputs place (count + 1) text := by
  obtain ⟨moment, since, before, grown, isText⟩ := announced
  exact ⟨moment, since, Nat.lt_succ_of_lt before, grown, isText⟩

theorem latestText_of_unedited
    (text : String) (unedited : ∀ editor edited, inputs count ≠ .editText editor edited) :
    latestText text inputs (count + 1) = latestText text inputs count := by
  rw [latestText]
  split
  · rename_i editor edited isEdit
    exact (unedited editor edited isEdit).elim
  · rfl

theorem EditorWorld.unopened_step
    {uri : String} {view : View} {before : System} {input : Input} {workspace alive : Option Nat}
    (world : EditorWorld uri false none view before) (allowed : input.IsAttempt)
    (idle : input = .call (.start 0) → before.Bystanders fun _ => False)
    (unopened : Unopened setup workspace alive (before.step input)) :
    ∃ later, EditorWorld uri false none later (before.step input) ∧
      ((∀ text, input ≠ .editText 0 text) →
        later.synchronizer.text = view.synchronizer.text) := by
  rcases allowed with rfl | onEditor
  · refine ⟨view, world.spawn_start fun task found entry => ?_, fun _ => rfl⟩
    exact ((idle rfl task found entry).resolve_left id).not_starting
  · obtain ⟨laterOpened, holder, later, laterWorld, step, opens⟩ := world.step onEditor
    have detached : later.synchronizer.file = none := by
      obtain ⟨text, dirty, only⟩ := unopened.synchronizer
      rw [laterWorld.parts.synchronizers] at only
      rw [(List.cons.inj only).1]
      rfl
    obtain rfl : laterOpened = false := opens.resolve_right fun attached => attached detached
    obtain rfl : holder = none := by
      have account := laterWorld.account
      cases holder with
      | none => rfl
      | some holder => cases account
    exact ⟨later, laterWorld, step.documentText⟩

/-- The text of an editor whose document is not open is that of the last edit. -/
theorem documentText_eq_latestText
    {view later : View} {workspace alive : Option Nat}
    (world : EditorWorld setup.uri false none view (setup.tried reach inputs count))
    (laterWorld : EditorWorld setup.uri false none later (setup.tried reach inputs (count + 1)))
    (same : (∀ text, inputs count ≠ .editText 0 text) →
      later.synchronizer.text = view.synchronizer.text)
    (unopened : Unopened setup workspace alive (setup.tried reach inputs count))
    (allowed : (inputs count).IsAttempt)
    (text : (setup.tried reach inputs count).documentText = latestText setup.text inputs count) :
    (setup.tried reach inputs (count + 1)).documentText =
      latestText setup.text inputs (count + 1) := by
  by_cases edits : ∃ editor edited, inputs count = .editText editor edited
  · obtain ⟨editor, edited, isEdit⟩ := edits
    obtain rfl : editor = 0 := by
      rw [isEdit] at allowed
      rcases allowed with isCall | onEditor
      · cases isCall
      · exact onEditor
    have faced := (sustains_facing _ (reach count)).unopened _ _ unopened
    have isText : latestText setup.text inputs (count + 1) = edited := by
      simp only [latestText, isEdit]
    rw [isText, EditorSetup.tried, isEdit]
    exact (faced.edited edited).2
  · have unedited (editor : Nat) (edited : String) : inputs count ≠ .editText editor edited :=
      fun isEdit => edits ⟨editor, edited, isEdit⟩
    rw [latestText_of_unedited setup.text unedited, ← text, laterWorld.parts.documentText,
      world.parts.documentText]
    exact same (unedited 0)

/-! ## The calls of a run -/

theorem Attempts.unopened (attempts : Attempts setup reach inputs count) :
    ∃ workspace alive, Unopened setup workspace alive (setup.tried reach inputs count) := by
  cases attempts with
  | rests ended rests => exact ⟨_, _, rests.unopened⟩
  | engages place call before calls ended engages =>
      obtain ⟨_, _, engaged, _⟩ := engages.place
      exact engaged.unopened

theorem Attempts.tracked
    (attempts : Attempts setup reach inputs count) (task : Nat) (found : TaskState Frame)
    (entry : (setup.tried reach inputs count).loop.tasks[task]? = some found) :
    IsTracked found.stack := by
  cases attempts with
  | rests ended rests => exact rests.tracked task found entry
  | engages place call before calls ended engages => exact engages.tracked task found entry

/-- When the editor is started or closed, no other such call is under way. -/
theorem Attempts.rests_of_calls
    {call : Call} (attempts : Attempts setup reach inputs count)
    (plan : StartsInTurn setup reach inputs) (calls : CallsLifecycle inputs count call) :
    EndedBut setup reach inputs none count ∧ (setup.tried reach inputs count).Rests setup := by
  cases attempts with
  | rests ended rests => exact ⟨ended, rests⟩
  | engages place other before earlier ended engages =>
      exact (plan.alone place count other call before earlier.made calls.made earlier.lifecycle
        calls.lifecycle engages.unended).elim

/-- What has ended stays so, and only a call that is made now is new. -/
theorem EndedBut.succ
    {view : View} {current : Option Nat} (ended : EndedBut setup reach inputs current count)
    (world : EditorWorld setup.uri false none view (setup.tried reach inputs count))
    (allowed : (inputs count).IsAttempt)
    (here : ∀ call, CallsLifecycle inputs count call → current = some count) :
    EndedBut setup reach inputs current (count + 1) := by
  intro place call before calls other
  rcases Nat.lt_succ_iff_lt_or_eq.mp before with earlier | rfl
  · obtain ⟨outcome, isEnd, unsuccessful⟩ := ended place call earlier calls other
    exact ⟨outcome, (world.facing (reach count)).ended_step allowed isEnd, unsuccessful⟩
  · exact (other (here call calls)).elim

/-- The last call that was under way has ended as well. -/
theorem EndedBut.all
    {call : Call} {outcome : Outcome Reply} (ended : EndedBut setup reach inputs (some place) count)
    (calls : CallsLifecycle inputs place call)
    (isEnd : (setup.tried reach inputs count).ending? (setup.tried reach inputs place).nextTask =
      some outcome)
    (unsuccessful : call = .start 0 → ∀ reply, outcome ≠ .returned reply) :
    EndedBut setup reach inputs none count := by
  intro other otherCall before otherCalls _
  by_cases same : other = place
  · subst same
    obtain rfl : call = otherCall := by
      have made := calls.made.symm.trans otherCalls.made
      cases made
      rfl
    exact ⟨outcome, isEnd, unsuccessful⟩
  · exact ended other otherCall before otherCalls fun isSome => same (Option.some.inj isSome).symm

/-- A run goes on when it is known where its calls are. -/
theorem UnstartedRun.of_attempts
    (known : UnstartedRun setup reach inputs count) (plan : StartsInTurn setup reach inputs)
    (attempts : Attempts setup reach inputs (count + 1)) :
    UnstartedRun setup reach inputs (count + 1) := by
  obtain ⟨view, world⟩ := known.world
  obtain ⟨_, _, unopened⟩ := known.attempts.unopened
  obtain ⟨_, _, laterUnopened⟩ := attempts.unopened
  have faced := world.facing (reach count)
  have allowed := plan.allowed count
  have idle (isStart : inputs count = .call (.start 0)) :
      ((setup.tried reach inputs count).facing (reach count)).Bystanders fun _ => False :=
    (known.attempts.rests_of_calls plan ⟨isStart, rfl⟩).2.bystanders
  obtain ⟨later, laterWorld, same⟩ := faced.unopened_step allowed idle laterUnopened
  exact ⟨⟨later, laterWorld⟩,
    (separate_facing known.separate (reach count)).step faced.holdsPlain known.attempts.tracked _,
    documentText_eq_latestText world laterWorld same unopened allowed known.text, attempts⟩

/-- The turn of a call that is under way. -/
theorem UnstartedRun.turn
    {call : Call} {rest : ClientLoop} {found : TaskState Frame}
    (known : UnstartedRun setup reach inputs count) (plan : StartsInTurn setup reach inputs)
    (before : place < count) (calls : CallsLifecycle inputs place call)
    (ended : EndedBut setup reach inputs (some place) count)
    (engages : (setup.tried reach inputs count).Engages setup (setup.tried reach inputs place).wire
      (AnnouncedSince setup reach inputs place count) call (setup.tried reach inputs place).nextTask)
    (isTurn : inputs count = .turn)
    (resumes : System.Resumes ((setup.tried reach inputs count).facing (reach count))
      (setup.tried reach inputs place).nextTask rest found) :
    UnstartedRun setup reach inputs (count + 1) ∨
      ∃ place text outcome, Opened setup reach inputs place (count + 1) text outcome := by
  obtain ⟨view, world⟩ := known.world
  have uncalled (other : Call) (here : CallsLifecycle inputs count other) :
      some place = some count := by
    have made := isTurn.symm.trans here.made
    cases made
  have laterEnded := ended.succ world (plan.allowed count) uncalled
  have laterBefore := Nat.lt_succ_of_lt before
  have turned := (engages.facing (reach count)).turn (world.facing (reach count)) resumes
  have isStep : ((setup.tried reach inputs count).facing (reach count)).step .turn =
      setup.tried reach inputs (count + 1) := by
    rw [EditorSetup.tried, isTurn]
  rw [isStep] at turned
  have since (text : String) (announced : AnnouncedSince setup reach inputs place count text ∨
      text = (setup.tried reach inputs count).documentText ∧
        (setup.tried reach inputs count).workspaces.length <
          (setup.tried reach inputs (count + 1)).workspaces.length) :
      AnnouncedSince setup reach inputs place (count + 1) text := by
    rcases announced with earlier | ⟨isText, grown⟩
    · exact earlier.succ
    · exact ⟨count, before, Nat.lt_succ_self count, grown, isText⟩
  cases turned with
  | ends outcome isEnd unsuccessful rests =>
      exact Or.inl (known.of_attempts plan
        (.rests (laterEnded.all calls isEnd unsuccessful) rests))
  | engages engages =>
      exact Or.inl (known.of_attempts plan
        (.engages place call laterBefore calls laterEnded (engages.mono since)))
  | attaches text outcome isEnd isStart isAnnounced attached ending =>
      exact Or.inr ⟨place, text, outcome, laterBefore, isStart ▸ calls.made, laterEnded,
        since text isAnnounced, attached, isEnd, ending⟩

/-- One input opens the document, or no start has succeeded still. -/
theorem UnstartedRun.step
    (known : UnstartedRun setup reach inputs count) (plan : StartsInTurn setup reach inputs) :
    UnstartedRun setup reach inputs (count + 1) ∨
      ∃ place text outcome, Opened setup reach inputs place (count + 1) text outcome := by
  obtain ⟨view, world⟩ := known.world
  have faced := world.facing (reach count)
  have apart := separate_facing known.separate (reach count)
  have allowed := plan.allowed count
  by_cases calls : ∃ call, CallsLifecycle inputs count call
  · obtain ⟨call, calls⟩ := calls
    obtain ⟨ended, rests⟩ := known.attempts.rests_of_calls plan calls
    have engages : (setup.tried reach inputs (count + 1)).Engages setup
        (setup.tried reach inputs count).wire (AnnouncedSince setup reach inputs count (count + 1))
        call (setup.tried reach inputs count).nextTask := by
      rw [EditorSetup.tried, calls.made]
      exact (rests.facing (reach count)).spawn_engages faced apart calls.lifecycle
    have others : EndedBut setup reach inputs (some count) count :=
      fun place other before made _ => ended place other before made nofun
    exact Or.inl (known.of_attempts plan (.engages count call (Nat.lt_succ_self count) calls
      (others.succ world allowed fun _ _ => rfl) engages))
  · have uncalled (call : Call) (made : inputs count = .call call) : ¬ call.IsLifecycle :=
      fun lifecycle => calls ⟨call, made, lifecycle⟩
    have onEditor : (inputs count).OnEditor :=
      allowed.resolve_left fun isStart => uncalled _ isStart rfl
    cases known.attempts with
    | rests ended rests =>
        refine Or.inl (known.of_attempts plan (.rests (ended.succ world allowed ?_)
          ((rests.facing (reach count)).step faced onEditor uncalled)))
        exact fun call here => (calls ⟨call, here⟩).elim
    | engages place call before earlier ended engages =>
        by_cases turns : ∃ rest found, inputs count = .turn ∧
            Resumes ((setup.tried reach inputs count).facing (reach count))
              (setup.tried reach inputs place).nextTask rest found
        · obtain ⟨rest, found, isTurn, resumes⟩ := turns
          exact known.turn plan before earlier ended engages isTurn resumes
        · have stays := (engages.facing (reach count)).others faced onEditor uncalled apart
            (plan.spared count _) fun rest found isTurn resumes =>
              turns ⟨rest, found, isTurn, resumes⟩
          refine Or.inl (known.of_attempts plan (.engages place call (Nat.lt_succ_of_lt before) earlier
            (ended.succ world allowed ?_) (stays.mono fun _ => AnnouncedSince.succ)))
          exact fun other here => (calls ⟨other, here⟩).elim

/-! ## Runs -/

/-- No start has succeeded yet, or has attached the synchronizer without a clock that can count the time
without edits. -/
structure NoneSucceeded (setup : EditorSetup) (reach : Nat → Option Failure) (inputs : Nat → Input)
    (count : Nat) : Prop where
  unreturned : ∀ moment ≤ count, ∀ place < moment, inputs place = .call (.start 0) →
    ∀ reply, (setup.tried reach inputs moment).ending? (setup.tried reach inputs place).nextTask ≠
      some (.returned reply)
  unattached : setup.options.debounce.delay? = none → ∀ moment ≤ count,
    ∀ found ∈ (setup.tried reach inputs moment).synchronizers, found.file = none

theorem unstartedRun_zero : UnstartedRun setup reach inputs 0 where
  world := ⟨_, setup.created_world⟩
  separate := ⟨nofun, nofun, nofun⟩
  text := rfl
  attempts := by
    refine .rests (fun _ _ before => (Nat.not_lt_zero _ before).elim) ⟨?_, nofun⟩
    exact ⟨⟨setup.text, false, rfl⟩, ⟨setup.unreachable, rfl⟩, nofun, nofun,
      .of_empty rfl rfl rfl⟩

theorem unstartedRun
    (plan : StartsInTurn setup reach inputs) (none : NoneSucceeded setup reach inputs count) :
    ∀ moment ≤ count, UnstartedRun setup reach inputs moment
  | 0, _ => unstartedRun_zero
  | moment + 1, within => by
    have earlier := unstartedRun plan none moment (Nat.le_of_succ_le within)
    rcases earlier.step plan with goesOn | ⟨place, text, outcome, opened⟩
    · exact goesOn
    · rcases opened.ending with rfl | noDelay
      · exact (none.unreturned _ within place opened.before opened.made _ opened.ended).elim
      · obtain ⟨found, only, _, hasFile, _⟩ := opened.attached.synchronizer
        refine (hasFile (none.unattached noDelay _ within found ?_)).elim
        rw [only]
        exact List.mem_singleton_self found

/-- When no start is under way, nothing is left of the starts there were. -/
theorem Attempts.isUnstarted
    (attempts : Attempts setup reach inputs count)
    (ended : ∀ place call, place < count → CallsLifecycle inputs place call →
      (setup.tried reach inputs count).ending? (setup.tried reach inputs place).nextTask ≠ none) :
    (setup.tried reach inputs count).IsUnstarted := by
  cases attempts with
  | engages place call before calls others engages =>
      exact (ended place call before calls engages.unended).elim
  | rests others rests =>
      have unopened := rests.unopened
      obtain ⟨found, editors, _, isWorkspace, _⟩ := unopened.editors_eq
      obtain ⟨text, dirty, only⟩ := unopened.synchronizer
      refine ⟨⟨found, editors, isWorkspace⟩, ⟨_, only, rfl, rfl⟩, unopened.isReady_eq,
        unopened.timers, fun session member => ?_⟩
      obtain ⟨number, inside, rfl⟩ := List.mem_iff_getElem.mp member
      rw [← Bool.not_eq_false]
      intro isOpen
      cases unopened.sessions number _ (List.getElem?_eq_getElem inside) isOpen

end Runs

/-! ## A start that is tried again -/

/-- The server refuses the document first. It takes it at the second start, but slowly. -/
def retriedStart : Nat → Input
  | 0 => .behave { hoverServer with refusal := some ⟨.transport, some [Method.didOpen]⟩ }
  | 1 => .call (.start 0)
  | 6 => .editText 0 "ab"
  | 7 => .behave hoverServer
  | 8 => .call (.start 0)
  | 12 => .behave { hoverServer with holding := true }
  | 14 => .release 0
  | 16 => .editText 0 "abc"
  | 17 => .release 0
  | _ => .turn

theorem retriedStart_isAttempt (place : Nat) : (retriedStart place).IsAttempt := by
  unfold retriedStart
  split <;> first | exact Or.inl rfl | exact Or.inr rfl | exact Or.inr trivial

/-- The two starts are the only calls. -/
theorem place_of_retriedStart
    {place : Nat} {call : Call} (made : retriedStart place = .call call) :
    (place = 1 ∨ place = 8) ∧ call = .start 0 := by
  unfold retriedStart at made
  split at made <;> cases made
  · exact ⟨Or.inl rfl, rfl⟩
  · exact ⟨Or.inr rfl, rfl⟩

/-- The system with the two starts. -/
def retriedRun : Nat → System := hoveredEditor.tried (fun _ => none) retriedStart

theorem retriedRun_states :
    ((retriedRun 1).nextTask = 0 ∧ (retriedRun 8).nextTask = 1) ∧
      (retriedRun 8).ending? 0 = some (.failed (.transport "refused")) ∧
      (retriedRun 19).ending? 1 = some (.returned .nothing) ∧
      ∀ moment < 19,
        ((retriedRun moment).ending? 0 = none ∨
          (retriedRun moment).ending? 0 = some (.failed (.transport "refused"))) ∧
        (retriedRun moment).ending? 1 = none ∧
        ((retriedRun moment).workspaces.length < (retriedRun (moment + 1)).workspaces.length →
          8 < moment → (retriedRun moment).documentText = "ab") := by
  decide +kernel

theorem retriedStart_inTurn : StartsInTurn hoveredEditor (fun _ => none) retriedStart := by
  obtain ⟨⟨first, _⟩, failed, _⟩ := retriedRun_states
  refine ⟨retriedStart_isAttempt, fun place later call other before made laterMade _ _ => ?_,
    fun place task made => ?_⟩
  · have isFirst : place = 1 ∧ later = 8 := by
      have := (place_of_retriedStart made).1
      have := (place_of_retriedStart laterMade).1
      omega
    obtain ⟨rfl, rfl⟩ := isFirst
    change (retriedRun 8).ending? (retriedRun 1).nextTask ≠ none
    rw [first, failed]
    exact Option.some_ne_none _
  · unfold retriedStart at made
    split at made <;> cases made

theorem retriedStart_noneSucceeded
    {count : Nat} (within : count ≤ 18) :
    NoneSucceeded hoveredEditor (fun _ => none) retriedStart count := by
  obtain ⟨⟨isFirst, isSecond⟩, _, _, states⟩ := retriedRun_states
  refine ⟨fun moment before place _ made reply => ?_, fun noDelay => ?_⟩
  · obtain ⟨first, second, _⟩ := states moment (by omega)
    change (retriedRun moment).ending? (retriedRun place).nextTask ≠ some (.returned reply)
    rcases (place_of_retriedStart made).1 with rfl | rfl
    · rw [isFirst]
      rcases first with unended | ended
      · exact fun returned => nomatch unended.symm.trans returned
      · exact fun returned => nomatch ended.symm.trans returned
    · rw [isSecond, second]
      nofun
  · exact absurd noDelay (by decide)

end LanguageClient.Client
