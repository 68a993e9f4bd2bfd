import LanguageClient.Proofs.Closure.Arrival
import LanguageClient.Proofs.Editor.Answers

/-!
# What an editor has in a run

The task that starts an editor and the tasks that use it are always where they may be, whoever closes
the editor meanwhile and how often. What an editor that has been started gives up it never gets again.

Besides the turns of tasks nothing gives an editor a session or a workspace, or takes one away; only a
connection that is lost closes its session.
-/

namespace LanguageClient.Client

open LanguageClient.Json LanguageClient.Loop LanguageClient.Number LanguageClient.Protocol

/-! ## Around the turns of tasks -/

theorem Parted.mono
    {lost known : Prop} {link : Nat} {closed : Bool} {closings : List Nat}
    (parted : Parted lost link closed closings) (implies : lost → known) :
    Parted known link closed closings := by
  cases parted with
  | talking => exact .talking
  | closed => exact .closed
  | dropped isLost => exact .dropped (implies isLost)

theorem Tenancy.mono
    {lost known : Prop} {holdings : Holdings} (tenancy : Tenancy lost holdings)
    (implies : lost → known) : Tenancy known holdings := by
  cases tenancy with
  | vacant handles => exact .vacant handles
  | meeting link closed handles closings parted =>
      exact .meeting link closed handles closings (parted.mono implies)
  | holding link closed handles closings parted =>
      exact .holding link closed handles closings (parted.mono implies)
  | left link handles closings parted => exact .left link handles closings (parted.mono implies)

namespace System

/-- Nobody gets a session or a workspace. -/
structure Forgoes (task promise : Nat) (lost : Prop) (before after : System) : Prop
    extends Heeds task promise before after where
  tenancy : Tenancy lost after.holdings
  follows : before.holdings.Follows after.holdings

section Inputs

variable {uri : String} {task promise : Nat} {lost : Prop} {before after system : System}

theorem Abstains.forgoes
    (abstains : Abstains task promise before after) (tenancy : Tenancy lost before.holdings) :
    Forgoes task promise lost before after :=
  ⟨abstains.toHeeds, abstains.holdings ▸ tenancy, abstains.holdings ▸ .refl _⟩

theorem noteEscaped_abstains
    {result : System × Option Failure} (abstains : Abstains task promise before result.1) :
    Abstains task promise before (noteEscaped result) := by
  obtain ⟨later, failure | failure⟩ := result
  · exact abstains
  · exact abstains.trans (.note later rfl)

theorem editText_abstains (system : System) (editor : Nat) (text : String) :
    Abstains task promise system (system.editText editor text).1 := by
  unfold editText
  split
  · exact .refl system
  · exact edit_abstains system _ text

/-- What the peer lets go is awaited by others. -/
theorem Releases.abstains (releases : before.Releases after) :
    Abstains task promise before after := by
  cases releases with
  | nothing => exact .refl before
  | @promise other peer detained fewer kept =>
      refine (Abstains.withDetained fewer).trans_from (fun collects => ?_) id rfl
      refine (Abstains.settle (fun _ => ?_) _).toHeeds
      exact collects.ne_of_promised (List.mem_append_left _ detained)

/-- A callback that lets no task go on. -/
theorem runCallback_abstains
    {callback : Callback Action} (system : System) (allowed : (editorScope uri).callback callback)
    (noTask : ∀ task, callback ≠ .resume task) :
    Abstains task promise system (system.runCallback callback) := by
  cases callback with
  | resume other => exact (noTask other rfl).elim
  | memberEnded group => exact .onLoop fun collects => collects.loop.endMember group
  | skipped => exact .refl system
  | fire timer action =>
      cases action with
      | debounce synchronizer => exact debounce_abstains system synchronizer
      | expire session name => exact expire_abstains system session name
      | _ => exact allowed.elim
  | act action =>
      cases action with
      | discard session name => exact discard_abstains system session name
      | answerEnded session answered => exact endAnswer_abstains system session answered
      | deliver link text => exact receive_abstains system link text
      | sendEnded synchronizer ended => exact endSend_abstains system synchronizer ended
      | _ => exact allowed.elim

theorem withLoop_abstains
    {callback : Callback Action} {rest : ClientLoop}
    (taken : Scheduler.Taken before.loop callback rest) :
    Abstains task promise before { before with loop := rest } := by
  have same : Abstains task promise before (before.onLoop fun _ => rest) :=
    .onLoop fun collects => collects.loop.of_same taken.promises taken.tasks
  exact same

/-- A connection that is lost closes its session. -/
theorem drop_forgoes (tenancy : Tenancy lost system.holdings) (isLost : lost) (link : Nat) :
    Forgoes task promise lost system (system.drop link) := by
  have stays : Forgoes task promise lost system system := (Abstains.refl system).forgoes tenancy
  unfold drop
  split
  · exact stays
  · rename_i session _
    have missing (others : system.sessions[session]? = none) :
        Forgoes task promise lost system (system.loseConnection session) := by
      simpa only [loseConnection, others] using stays
    have parts {source : Nat} {closed : Bool} (only : system.holdings.sessions = [(source, closed)])
        (parted : Parted lost source closed system.holdings.closings)
        (build : ∀ closings, Parted lost source true closings →
          Tenancy lost { system.holdings with sessions := [(source, true)], closings }) :
        Forgoes task promise lost system (system.loseConnection session) := by
      cases session with
      | succ other =>
          obtain ⟨found, sessions, _⟩ := session_of_holdings only
          exact missing (by rw [sessions]; rfl)
      | zero =>
          obtain ⟨closings, heeds, laterParted, same⟩ :=
            loseConnection_parts task promise only parted isLost
          refine ⟨heeds, same ▸ build closings laterParted, ?_⟩
          rw [same]
          exact ⟨fun _ => ⟨source, rfl⟩, by rw [only]; rfl, rfl, id, Nat.le_refl _⟩
    generalize same : system.holdings = holdings at tenancy parts
    cases tenancy with
    | vacant handles =>
        have sessions : system.sessions = [] :=
          List.map_eq_nil_iff.mp (congrArg Holdings.sessions same)
        exact missing (by rw [sessions]; rfl)
    | meeting source closed handles closings parted =>
        exact parts rfl parted fun later laterParted => .meeting source true handles later laterParted
    | holding source closed handles closings parted =>
        exact parts rfl parted fun later laterParted => .holding source true handles later laterParted
    | left source handles closings parted =>
        exact parts rfl parted fun later laterParted => .left source handles later laterParted

/-- A turn in which no task goes on. -/
theorem turn_abstains
    {opened : Bool} {holder : Option (Nat × Change)} {view : View}
    (world : EditorWorld uri opened holder view before)
    (waits : ∀ other rest found, ¬ Resumes before other rest found) :
    Abstains task promise before (before.step .turn) := by
  rcases before.step_turn_cases with ⟨_, same⟩ | ⟨callback, rest, next, runs⟩
  · rw [same]
    exact .refl before
  · have taken := Scheduler.taken_of_next? next
    have begun : Abstains task promise before { before with loop := rest } := withLoop_abstains taken
    by_cases isResume : ∃ other, callback = .resume other
    · obtain ⟨other, rfl⟩ := isResume
      rcases resume_cases next with ⟨found, resumes⟩ | ⟨_, stays⟩
      · exact (waits other rest found resumes).elim
      · rw [runs, stays]
        exact begun
    · rw [runs]
      exact begun.trans (runCallback_abstains _ (world.taken taken).2 fun other same =>
        isResume ⟨other, same⟩)

/-- With an input in which no task goes on, only a connection that is lost takes something away. -/
theorem step_forgoes
    {opened : Bool} {holder : Option (Nat × Change)} {view : View} {input : Input}
    (world : EditorWorld uri opened holder view before) (tenancy : Tenancy lost before.holdings)
    (allowed : input.OnEditor) (uncancelled : input ≠ .cancel task)
    (waits : ∀ other rest found, input = .turn → ¬ Resumes before other rest found)
    (isLost : ∀ link, input = .drop link → lost) :
    Forgoes task promise lost before (before.step input) := by
  cases input with
  | turn =>
      exact (turn_abstains world fun other rest found => waits other rest found rfl).forgoes tenancy
  | call call => exact (Abstains.spawn before call).forgoes tenancy
  | cancel other =>
      have cancelled : Abstains task promise before (before.onLoop (·.cancel other)) :=
        .onLoop fun collects => collects.loop.cancel fun same => uncancelled (same ▸ rfl)
      exact cancelled.forgoes tenancy
  | editText editor text =>
      exact (noteEscaped_abstains (editText_abstains before editor text)).forgoes tenancy
  | receive link text => exact (receive_abstains before link text).forgoes tenancy
  | drop link => exact drop_forgoes tenancy (isLost link rfl) link
  | behave peer =>
      have behaves : Abstains task promise before (before.withPeer peer) :=
        .withDetained fun _ => id
      exact behaves.forgoes tenancy
  | release place => exact (before.releaseFrame_releases place).abstains.forgoes tenancy
  | releaseClose place => exact (before.releaseClosing_releases place).abstains.forgoes tenancy
  | tick moment =>
      have ticks : Abstains task promise before (before.onLoop (·.moveClock moment)) :=
        .onLoop fun collects => collects.loop.of_same rfl rfl
      exact ticks.forgoes tenancy
  | _ => exact allowed.elim

end Inputs

end System

/-! ## Where tasks are -/

namespace System

/-- Between two turns, every task of an editor that has not ended is where it may be. The editor has a
workspace when its start has returned. -/
structure Tenants (lost : Prop) (system : System) : Prop where
  tenancy : Tenancy lost system.holdings
  anchored : system.Anchored
  starter : ∃ found, system.loop.tasks[0]? = some found ∧
    (system.ending? 0 = none → Starter system.holdings found.stack)
  guests : ∀ (task : Nat) (found : TaskState Frame), task ≠ 0 →
    system.loop.tasks[task]? = some found → system.ending? task = none →
      Guest system.holdings found.stack
  housed : ∀ reply, system.ending? 0 = some (.returned reply) → system.holdings.workspaces = [0]

theorem Tenants.mono
    {lost known : Prop} {system : System} (tenants : Tenants lost system) (implies : lost → known) :
    Tenants known system :=
  { tenants with tenancy := tenants.tenancy.mono implies }

section Step

variable {uri : String} {opened : Bool} {holder : Option (Nat × Change)} {view : View}
  {task promise other : Nat} {lost known : Prop} {before after system : System} {input : Input}
  {rest : ClientLoop} {found : TaskState Frame}

theorem settleTask_holdings {completion : Nat} {step : Step} :
    (settleTask task completion step).holdings = step.1.holdings := by
  obtain ⟨later, outcome | ⟨frames, awaited⟩⟩ := step
  · simp [settleTask, System.holdings, closings, settle, onLoop, note, Occurrence.closing?]
  · rfl

theorem settleTask_anchored {completion : Nat} {step : Step} (anchored : step.1.Anchored) :
    (settleTask task completion step).Anchored := by
  obtain ⟨later, outcome | ⟨frames, awaited⟩⟩ := step
  · exact anchored
  · exact anchored

theorem isGuest_of_onEditor {call : Call} (allowed : (Input.call call).OnEditor) :
    call.IsGuest := by
  cases call with
  | closeEditor editor => exact allowed
  | hover editor offset => trivial
  | complete editor offset explicit => trivial
  | refresh editor => trivial
  | _ => exact allowed.elim

/-- A task that has not had its turn is where it was, or it is a new guest. -/
theorem Stays.guest
    {later : TaskState Frame} (stays : Stays before input task later) (allowed : input.OnEditor) :
    (∃ earlier, before.loop.tasks[task]? = some earlier ∧ later.stack = earlier.stack) ∨
      before.nextTask ≤ task ∧ ∀ holdings, Guest holdings later.stack := by
  rcases stays with ⟨earlier, entry, sameStack, _⟩ | ⟨isNew, _, own | ⟨call, rfl, begins⟩⟩
  · exact Or.inl ⟨earlier, entry, sameStack⟩
  · refine Or.inr ⟨isNew, fun holdings => ?_⟩
    rcases own with ⟨session, name, begins⟩ | ⟨synchronizer, begins⟩
    · rw [begins]
      exact .begins _ trivial
    · rw [begins]
      exact .begins _ trivial
  · refine Or.inr ⟨isNew, fun holdings => ?_⟩
    rw [begins]
    exact .begins call (isGuest_of_onEditor allowed)

/-- What a task does in its turn, as the start or as a guest. -/
theorem Tenants.resumption
    (tenants : Tenants lost before) (resumes : Resumes before other rest found)
    (requests : ∀ asked, .requesting asked ∈ found.stack →
      (before.resumed rest other).Collects task promise → asked ≠ promise) :
    other = 0 ∧ Step.Arrives task promise lost (before.resumed rest other)
        (before.resumption rest other found) ∨
      other ≠ 0 ∧ Step.Visits task promise lost (before.resumed rest other)
        (before.resumption rest other found) := by
  have unended := ending?_of_unended resumes.unended
  have tenancy : Tenancy lost (before.resumed rest other).holdings := tenants.tenancy
  by_cases isStart : other = 0
  · subst isStart
    obtain ⟨state, entry, starter⟩ := tenants.starter
    obtain rfl : found = state := Option.some.inj (resumes.entry.symm.trans entry)
    have starts : Starter (before.resumed rest 0).holdings found.stack := starter unended
    exact Or.inl ⟨rfl, starts.arrives tenancy requests _⟩
  · have visits : Guest (before.resumed rest other).holdings found.stack :=
      tenants.guests other found isStart resumes.entry unended
    exact Or.inr ⟨isStart, visits.visits tenancy requests _⟩

/-! ## One input -/

/-- A task that has not had its turn is where it was. -/
theorem Tenants.of_waiting
    (tenants : Tenants lost before) (allowed : input.OnEditor)
    (shut : before.holdings.Shut → after.holdings.Shut) (different : task ≠ 0)
    (stays : ∀ later, after.loop.tasks[task]? = some later → Stays before input task later)
    (keeps : task < before.nextTask → before.KeepsTask after task)
    {later : TaskState Frame} (entry : after.loop.tasks[task]? = some later)
    (unended : after.ending? task = none) : Guest after.holdings later.stack := by
  rcases (stays later entry).guest allowed with ⟨earlier, earlierEntry, sameStack⟩ | ⟨_, guest⟩
  · rw [sameStack]
    have inside := (List.getElem?_eq_some_iff.mp earlierEntry).1
    exact (tenants.guests task earlier different earlierEntry
      ((keeps inside).ending ▸ unended)).follows shut
  · exact guest _

/-- The start has not had its turn, and nobody has got anything. -/
theorem Tenants.starter_of_waiting
    (tenants : Tenants lost before) (follows : before.holdings.Follows after.holdings)
    (keeps : before.KeepsTask after 0) :
    (∃ found, after.loop.tasks[0]? = some found ∧
        (after.ending? 0 = none → Starter after.holdings found.stack)) ∧
      ∀ reply, after.ending? 0 = some (.returned reply) → after.holdings.workspaces = [0] := by
  obtain ⟨found, entry, starter⟩ := tenants.starter
  obtain ⟨cancelRequested, laterEntry⟩ := keeps.entry found entry
  rw [keeps.ending]
  exact ⟨⟨_, laterEntry, fun unended => (starter unended).follows follows⟩,
    fun reply ended => follows.workspaces.trans (tenants.housed reply ended)⟩

section Inputs

variable (world : EditorWorld uri opened holder view before)
  (tracked : ∀ (task : Nat) (found : TaskState Frame), before.loop.tasks[task]? = some found →
    IsTracked found.stack)
  (tenants : Tenants lost before)

include world tracked tenants

theorem Tenants.step_waiting
    (allowed : input.OnEditor)
    (waits : ∀ other rest found, input = .turn → ¬ Resumes before other rest found)
    (implies : lost → known) (isLost : ∀ link, input = .drop link → known) :
    Tenants known (before.step input) ∧
      before.holdings.Follows (before.step input).holdings := by
  obtain ⟨watched, uncancelled⟩ : ∃ task, input ≠ .cancel task := by
    cases input with
    | cancel other => exact ⟨other + 1, fun same => Nat.succ_ne_self other (Input.cancel.inj same).symm⟩
    | _ => exact ⟨0, nofun⟩
  have forgoes : Forgoes watched 0 known before (before.step input) :=
    step_forgoes world (tenants.tenancy.mono implies) allowed uncancelled waits isLost
  have keeps {task : Nat} (inside : task < before.nextTask) :
      before.KeepsTask (before.step input) task :=
    world.keepsTask_step allowed inside fun rest found => waits task rest found
  have stays {task : Nat} {later : TaskState Frame}
      (entry : (before.step input).loop.tasks[task]? = some later) :
      Stays before input task later := by
    cases before.step_conducted tracked input with
    | aside aside tasks => exact tasks task later entry
    | turn other rest found isTurn resumes => exact (waits other rest found isTurn resumes).elim
  have first : 0 < before.nextTask := by
    obtain ⟨_, entry, _⟩ := tenants.starter
    exact (List.getElem?_eq_some_iff.mp entry).1
  obtain ⟨starter, housed⟩ := tenants.starter_of_waiting forgoes.follows (keeps first)
  exact ⟨{
    tenancy := forgoes.tenancy
    anchored := forgoes.anchored tenants.anchored
    starter
    guests := fun task later different entry unended =>
      tenants.of_waiting allowed forgoes.follows.shut different (fun _ => stays) keeps entry unended
    housed }, forgoes.follows⟩

theorem Tenants.step_turn (resumes : Resumes before other rest found) :
    Tenants lost (before.step .turn) ∧ before.holdings.Leads (before.step .turn).holdings ∧
      (other ≠ 0 → before.holdings.Follows (before.step .turn).holdings) := by
  have allowed : Input.turn.OnEditor := trivial
  have conducts := before.resumption_conducts rest other (tracked other found resumes.entry)
  have holdings : (before.step .turn).holdings = (before.resumption rest other found).1.holdings := by
    rw [resumes.step_turn, settleTask_holdings]
  have anchored (step : (before.resumption rest other found).1.Anchored) :
      (before.step .turn).Anchored := by
    rw [resumes.step_turn]
    exact settleTask_anchored step
  obtain ⟨_, passage⟩ := world.resumption_passage resumes
  obtain ⟨⟨cancelRequested, entry⟩, ended⟩ := resumes.leaves_turn passage.loop
  have others {task : Nat} {later : TaskState Frame} (different : task ≠ other)
      (laterEntry : (before.step .turn).loop.tasks[task]? = some later) :
      Stays before .turn task later :=
    resumes.others conducts different laterEntry
  have keeps {task : Nat} (different : task ≠ other) (inside : task < before.nextTask) :
      before.KeepsTask (before.step .turn) task :=
    resumes.keepsTask_turn passage.loop different inside
  -- Nobody is watched: a task that has not begun awaits nothing.
  have requests (asked : Nat) (_ : Frame.requesting asked ∈ found.stack)
      (collects : (before.resumed rest other).Collects before.nextTask 0) : asked ≠ 0 :=
    absurd (resumes.resumed_nextTask ▸ collects.loop.known) (Nat.lt_irrefl _)
  rcases tenants.resumption resumes requests with ⟨rfl, arrives⟩ | ⟨isGuest, visits⟩
  · have leads : before.holdings.Leads (before.step .turn).holdings :=
      holdings ▸ arrives.continues.leads
    refine ⟨{
      tenancy := holdings ▸ arrives.tenancy
      anchored := anchored (arrives.continues.anchored tenants.anchored)
      starter := ⟨_, entry, fun unended => ?_⟩
      guests := fun task later different laterEntry unended =>
        tenants.of_waiting allowed leads.shut different (fun _ => others different) (keeps different)
          laterEntry unended
      housed := fun reply isEnded => ?_ }, leads, fun different => (different rfl).elim⟩
    · rw [ended] at unended
      rw [holdings]
      rcases result : (before.resumption rest 0 found).2 with outcome | ⟨frames, awaited⟩
      · rw [result] at unended
        cases unended
      · exact arrives.starter frames awaited result
    · rw [ended] at isEnded
      rw [holdings]
      exact arrives.housed reply (Progress.ending?_eq_some.mp isEnded)
  · have follows : before.holdings.Follows (before.step .turn).holdings :=
      holdings ▸ visits.follows
    have first : 0 < before.nextTask := by
      obtain ⟨_, startEntry, _⟩ := tenants.starter
      exact (List.getElem?_eq_some_iff.mp startEntry).1
    obtain ⟨starter, housed⟩ :=
      tenants.starter_of_waiting follows (keeps (Ne.symm isGuest) first)
    refine ⟨{
      tenancy := holdings ▸ visits.tenancy
      anchored := anchored (visits.heeds.anchored tenants.anchored)
      starter
      guests := fun task later different laterEntry unended => ?_
      housed }, follows.leads, fun _ => follows⟩
    by_cases mine : task = other
    · subst mine
      rw [← Option.some.inj (entry.symm.trans laterEntry), holdings]
      rw [ended] at unended
      rcases result : (before.resumption rest task found).2 with outcome | ⟨frames, awaited⟩
      · rw [result] at unended
        cases unended
      · exact visits.guest frames awaited result
    · exact tenants.of_waiting allowed follows.shut different (fun _ => others mine) (keeps mine)
        laterEntry unended

/-- What an editor has, and what it gives up, with one input. After its start it gets nothing more. -/
theorem Tenants.step
    (allowed : input.OnEditor) (implies : lost → known) (isLost : ∀ link, input = .drop link → known) :
    Tenants known (before.step input) ∧ before.holdings.Leads (before.step input).holdings ∧
      (before.ending? 0 ≠ none → before.holdings.Follows (before.step input).holdings) := by
  by_cases turns : ∃ other rest found, input = .turn ∧ Resumes before other rest found
  · obtain ⟨other, rest, found, rfl, resumes⟩ := turns
    obtain ⟨later, leads, follows⟩ := tenants.step_turn world tracked resumes
    refine ⟨later.mono implies, leads, fun started => follows ?_⟩
    rintro rfl
    exact started (ending?_of_unended resumes.unended)
  · obtain ⟨later, follows⟩ := tenants.step_waiting world tracked allowed
      (fun other rest found isTurn resumes => turns ⟨other, rest, found, isTurn, resumes⟩) implies isLost
    exact ⟨later, follows.leads, fun _ => follows⟩

end Inputs

end Step

end System

/-! ## Runs -/

section Runs

open LanguageClient.Client.System

variable {inputs : Nat → Input}

/-- The connection was lost with one of the first inputs of a run. -/
def LostBefore (inputs : Nat → Input) (count : Nat) : Prop :=
  ∃ place link, place < count ∧ inputs place = .drop link

theorem EditorSetup.start_tenants (setup : EditorSetup) (lost : Prop) :
    Tenants lost setup.start where
  tenancy := .vacant 0
  anchored := fun synchronizer member file attached => by
    rw [List.mem_singleton.mp member] at attached
    cases attached
  starter := ⟨_, rfl, fun _ => .begins rfl⟩
  guests := fun task found different entry => by
    cases task with
    | zero => exact (different rfl).elim
    | succ other => cases entry
  housed := nofun

theorem editor_tenants
    (setup : EditorSetup) (allowed : ∀ place, (inputs place).OnEditor) (count : Nat) :
    Tenants (LostBefore inputs count) (setup.start.after inputs count) := by
  induction count with
  | zero => exact setup.start_tenants _
  | succ count inductionHypothesis =>
      obtain ⟨view, ⟨_, _, world⟩, _⟩ := known_run setup allowed count
      obtain ⟨stage, order⟩ := editor_order setup allowed count
      refine (inductionHypothesis.step world order.tracked (allowed count) ?_ ?_).1
      · rintro ⟨place, link, before, isDrop⟩
        exact ⟨place, link, Nat.lt_succ_of_lt before, isDrop⟩
      · exact fun link isDrop => ⟨count, link, Nat.lt_succ_self count, isDrop⟩

/-- An editor whose start has ended gets nothing more. -/
theorem editor_follows
    (setup : EditorSetup) (allowed : ∀ place, (inputs place).OnEditor) {early count : Nat}
    {outcome : Outcome Reply} (started : (setup.start.after inputs early).ending? 0 = some outcome)
    (later : early ≤ count) :
    (setup.start.after inputs early).holdings.Follows (setup.start.after inputs count).holdings := by
  induction count, later using Nat.le_induction with
  | base => exact .refl _
  | succ count later inductionHypothesis =>
      obtain ⟨view, ⟨_, _, world⟩, _⟩ := known_run setup allowed count
      obtain ⟨stage, order⟩ := editor_order setup allowed count
      have hasStarted : (setup.start.after inputs count).ending? 0 ≠ none := by
        rw [editor_ending_stays setup allowed started later]
        nofun
      exact inductionHypothesis.trans (((editor_tenants setup allowed count).step world order.tracked
        (allowed count) (fun _ => trivial) fun _ _ => trivial).2.2 hasStarted)

end Runs

end LanguageClient.Client
