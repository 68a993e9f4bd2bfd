import LanguageClient.Proofs.Closure.Tenancy

/-!
# How an editor gets what it has

The start of an editor meets the server, takes over the workspace and opens the document, or it gives up
what it has got so far.
-/

namespace LanguageClient.Client

open LanguageClient.Json LanguageClient.Loop LanguageClient.Number LanguageClient.Protocol

/-- The editor has a session that is no workspace yet. -/
def IsMet (lost : Prop) (holdings : Holdings) : Prop :=
  ∃ link closed handles closings, Parted lost link closed closings ∧
    holdings = ⟨[(link, closed)], [], [none], handles, closings⟩

theorem IsMet.tenancy
    {lost : Prop} {holdings : Holdings} (met : IsMet lost holdings) : Tenancy lost holdings := by
  obtain ⟨link, closed, handles, closings, parted, rfl⟩ := met
  exact .meeting link closed handles closings parted

theorem Tenancy.vacant_of_nothing
    {lost : Prop} {holdings : Holdings} (tenancy : Tenancy lost holdings)
    (nothing : holdings.sessions = []) : ∃ handles, holdings = ⟨[], [], [none], handles, []⟩ := by
  cases tenancy with
  | vacant handles => exact ⟨handles, rfl⟩
  | _ => cases nothing

theorem Tenancy.isMet
    {lost : Prop} {holdings : Holdings} (tenancy : Tenancy lost holdings)
    (met : holdings.sessions ≠ []) (unhoused : holdings.workspaces = []) : IsMet lost holdings := by
  cases tenancy with
  | vacant handles => exact (met rfl).elim
  | meeting link closed handles closings parted => exact ⟨link, closed, handles, closings, parted, rfl⟩
  | holding link closed handles closings parted => cases unhoused
  | left link handles closings parted => cases unhoused

theorem Tenancy.withHandles
    {lost : Prop} {holdings : Holdings} (tenancy : Tenancy lost holdings) (handles : Nat) :
    Tenancy lost { holdings with handles } := by
  cases tenancy with
  | vacant _ => exact .vacant handles
  | meeting link closed _ closings parted => exact .meeting link closed handles closings parted
  | holding link closed _ closings parted => exact .holding link closed handles closings parted
  | left link _ closings parted => exact .left link handles closings parted

/-- The frames of a handshake, without the one of the start. -/
inductive Meeting : List Frame → Prop where
  | asks (frames : List Frame) (serverUri : String) (abstains : ∀ frame ∈ frames, frame.Abstains) :
    Meeting (frames ++ [.handshaking 0 serverUri])
  | confirms (frames : List Frame) (serverUri : String) (result : InitializeResult)
      (abstains : ∀ frame ∈ frames, frame.Abstains) :
    Meeting (frames ++ [.confirming 0 serverUri result])
  | leaves (frames : List Frame) (ending : Outcome Reply)
      (unreturned : ∀ reply, ending ≠ .returned reply) (abstains : ∀ frame ∈ frames, frame.Abstains) :
    Meeting (frames ++ [.abandoningHandshake ending])

/-- Where the task can be that starts the editor. -/
inductive Starter (holdings : Holdings) : List Frame → Prop where
  | begins (nothing : holdings.sessions = []) : Starter holdings [.begin (.start 0)]
  | meets (frames : List Frame) (meeting : Meeting frames) (met : holdings.sessions ≠ [])
      (unhoused : holdings.workspaces = []) :
    Starter holdings (frames ++ [.creatingWorkspace 0])
  | opens (frames : List Frame) (abstains : ∀ frame ∈ frames, frame.Abstains) (workspace : Nat)
      (uri : String) (file : Nat) (text : String) (known : file < holdings.handles)
      (housed : holdings.workspaces = [0]) :
    Starter holdings (frames ++ [.opening workspace uri file] ++ [.openingDocument 0 text])
  | abandons (ending : Outcome Reply) (housed : holdings.workspaces = [0]) (shut : holdings.Shut) :
    Starter holdings [.closingLink, .abandoningStart 0 ending]

/-- The start stays where it is while others go on. -/
theorem Starter.follows
    {before after : Holdings} {frames : List Frame} (starter : Starter before frames)
    (follows : before.Follows after) : Starter after frames := by
  have sameLinks := follows.links
  have sameWorkspaces := follows.workspaces
  cases starter with
  | begins nothing =>
      rw [nothing] at sameLinks
      exact .begins (List.map_eq_nil_iff.mp sameLinks)
  | meets frames meeting met unhoused =>
      refine .meets frames meeting (fun nothing => met ?_) (sameWorkspaces.trans unhoused)
      rw [nothing] at sameLinks
      exact List.map_eq_nil_iff.mp sameLinks.symm
  | opens frames abstains workspace uri file text known housed =>
      exact .opens frames abstains workspace uri file text (Nat.lt_of_lt_of_le known follows.handles)
        (sameWorkspaces.trans housed)
  | abandons ending housed shut =>
      exact .abandons ending (sameWorkspaces.trans housed) (follows.shut shut)

/-! ## The handshake -/

/-- Nothing gets lost. -/
structure System.Continues (task promise : Nat) (before after : System) : Prop
    extends Heeds task promise before after where
  leads : before.holdings.Leads after.holdings

/-- How far a step gets with the handshake. -/
inductive Step.Meets (task promise : Nat) (lost : Prop) (before : System) : Step → Prop where
  | waits (later : System) (frames : List Frame) (awaited : Nat)
      (continues : System.Continues task promise before later) (met : IsMet lost later.holdings)
      (meeting : Meeting frames) :
    Step.Meets task promise lost before (later, .suspended frames awaited)
  | refuses (later : System) (outcome : Outcome Reply) (unreturned : ∀ reply, outcome ≠ .returned reply)
      (continues : System.Continues task promise before later)
      (tenancy : Tenancy lost later.holdings) :
    Step.Meets task promise lost before (later, .ended outcome)
  | welcomes (later : System) (link : Nat) (closed : Bool) (handles : Nat) (closings : List Nat)
      (continues : System.Continues task promise before later)
      (parted : Parted lost link closed closings)
      (fresh : later.holdings = ⟨[(link, closed)], [0], [none], handles, closings⟩) :
    Step.Meets task promise lost before (later, .ended (.returned (.workspace 0)))

section Starts

variable {task promise : Nat} {lost : Prop} {before middle later system : System} {step : Step}
  {frame : Frame} {rest : System → Outcome Reply → Step}

namespace System

theorem Continues.trans
    (first : Continues task promise before middle) (second : Continues task promise middle later) :
    Continues task promise before later :=
  ⟨first.toHeeds.trans second.toHeeds, first.leads.trans second.leads⟩

theorem Abstains.continues (abstains : Abstains task promise before later) :
    Continues task promise before later :=
  ⟨abstains.toHeeds, abstains.holdings ▸ .refl _⟩

end System

open LanguageClient.Client.System

theorem Step.Meets.after
    (continues : Continues task promise before system)
    (meets : Step.Meets task promise lost system step) : Step.Meets task promise lost before step := by
  cases meets with
  | waits later frames awaited further met meeting =>
      exact .waits later frames awaited (continues.trans further) met meeting
  | refuses later outcome unreturned further tenancy =>
      exact .refuses later outcome unreturned (continues.trans further) tenancy
  | welcomes later link closed handles closings further parted fresh =>
      exact .welcomes later link closed handles closings (continues.trans further) parted fresh

/-- What comes before leaves everything alone. -/
theorem Step.Abstains.meets
    (first : Step.Abstains task promise system step) (met : IsMet lost system.holdings)
    (meeting : ∀ frames, (∀ frame ∈ frames, frame.Abstains) → Meeting (frames ++ [frame]))
    (second : ∀ later outcome, IsMet lost later.holdings →
      Step.Meets task promise lost later (rest later outcome)) :
    Step.Meets task promise lost system (step.andThen frame rest) := by
  have continues := first.state.continues
  have stillMet := first.state.holdings ▸ met
  obtain ⟨later, outcome | ⟨frames, awaited⟩⟩ := step
  · exact (second later outcome stillMet).after continues
  · exact .waits later _ awaited continues stillMet (meeting frames first.frames)

theorem abandonHandshake_meets
    (met : IsMet lost system.holdings) {ending : Outcome Reply}
    (unreturned : ∀ reply, ending ≠ .returned reply) (serverUri : String) :
    Step.Meets task promise lost system (system.abandonHandshake 0 serverUri ending) := by
  have logged : Abstains task promise system (system.log .error .workspace
      ("initialize failed for " ++ serverUri ++ ": " ++ endingText ending)) := .log system _ _ _
  unfold abandonHandshake
  generalize system.log _ _ _ = shown at logged
  obtain ⟨link, closed, handles, closings, parted, same⟩ := met
  have shownHoldings := logged.holdings.trans same
  obtain ⟨later, laterClosings, heeds, laterParted, holdings, result⟩ :=
    closeSession_parts task promise (by rw [shownHoldings]) (by rw [shownHoldings]; exact parted)
  rw [shownHoldings] at holdings
  have closes : Continues task promise system later := by
    refine logged.continues.trans ⟨heeds, fun _ => ⟨link, by rw [holdings]⟩, fun housed => ?_⟩
    rw [shownHoldings] at housed
    cases housed
  have laterMet : IsMet lost later.holdings :=
    ⟨link, true, handles, laterClosings, laterParted, holdings⟩
  simp only
  rcases result with result | ⟨awaited, _, result⟩
  · rw [result]
    exact .refuses later ending unreturned closes laterMet.tenancy
  · rw [result]
    refine .waits later _ awaited closes laterMet (.leaves [.closingLink] ending unreturned ?_)
    exact fun frame member => List.mem_singleton.mp member ▸ trivial

theorem resumeAbandoningHandshake_meets
    (met : IsMet lost system.holdings) {ending : Outcome Reply}
    (unreturned : ∀ reply, ending ≠ .returned reply) (outcome : Outcome Reply) :
    Step.Meets task promise lost system (resumeAbandoningHandshake ending system outcome) := by
  have here : Continues task promise system system := (Abstains.refl system).continues
  cases outcome with
  | returned reply => exact .refuses system ending unreturned here met.tenancy
  | failed failure => exact .refuses system _ (by simp) here met.tenancy
  | cancelled => exact .refuses system _ (by simp) here met.tenancy

/-- The workspace is there. -/
theorem addWorkspace_continues
    {link : Nat} {closed : Bool} {handles : Nat} {closings : List Nat}
    (same : system.holdings = ⟨[(link, closed)], [], [none], handles, closings⟩)
    (result : InitializeResult) :
    Continues task promise system (system.addWorkspace 0 result) ∧
      (system.addWorkspace 0 result).holdings =
        ⟨[(link, closed)], [0], [none], handles, closings⟩ := by
  let added : System := { system with workspaces := system.workspaces ++ [{
    session := 0, capabilities := result.capabilities, serverInfo := result.serverInfo }] }
  have grows : Heeds task promise system added := .of_same rfl rfl rfl rfl (Nat.le_refl _)
  have heard : Abstains task promise added (system.addWorkspace 0 result) :=
    .modifySession 0 (fun _ => rfl) (fun _ _ _ => id) fun _ _ _ => id
  have holdings : added.holdings = ⟨[(link, closed)], [0], [none], handles, closings⟩ := by
    have workspaces : system.workspaces.map (·.session) = [] := congrArg Holdings.workspaces same
    have sum : added.holdings = { system.holdings with workspaces := [0] } := by
      simp [added, System.holdings, workspaces, System.closings]
    rw [sum, same]
  refine ⟨⟨grows.trans heard.toHeeds, ?_⟩, heard.holdings.trans holdings⟩
  rw [heard.holdings, holdings, same]
  refine ⟨id, fun housed => ?_⟩
  cases housed

theorem resumeConfirming_meets
    (met : IsMet lost system.holdings) (serverUri : String) (result : InitializeResult)
    (outcome : Outcome Reply) :
    Step.Meets task promise lost system (resumeConfirming 0 serverUri result system outcome) := by
  cases outcome with
  | failed failure => exact abandonHandshake_meets met (by simp) serverUri
  | cancelled => exact abandonHandshake_meets met (by simp) serverUri
  | returned reply =>
      obtain ⟨link, closed, handles, closings, parted, same⟩ := met
      obtain ⟨continues, fresh⟩ := addWorkspace_continues same result
      have first : system.workspaces.length = 0 := by
        simpa [System.holdings] using congrArg (·.workspaces.length) same
      simp only [resumeConfirming, Step.returned, first]
      exact .welcomes _ link closed handles closings continues parted fresh

theorem resumeHandshaking_meets
    (met : IsMet lost system.holdings) (serverUri : String) (outcome : Outcome Reply) :
    Step.Meets task promise lost system (resumeHandshaking 0 serverUri system outcome) := by
  unfold resumeHandshaking
  split
  · split
    · exact abandonHandshake_meets met (by simp) serverUri
    · rename_i result _
      exact (notify_abstains system 0 _ _).meets met
        (fun frames abstains => .confirms frames serverUri result abstains)
        fun later outcome laterMet => resumeConfirming_meets laterMet serverUri result outcome
  · exact abandonHandshake_meets met (by simp) serverUri
  · exact abandonHandshake_meets met (by simp) serverUri
  · exact abandonHandshake_meets met (by simp) serverUri

variable (task promise lost) in
/-- A session is there. -/
theorem addSession_continues
    {handles : Nat} (same : system.holdings = ⟨[], [], [none], handles, []⟩) (link : Nat)
    (timeout : Quantity) :
    Continues task promise system (system.addSession link timeout) ∧
      IsMet lost (system.addSession link timeout).holdings := by
  have sessions : system.sessions = [] :=
    List.map_eq_nil_iff.mp (congrArg Holdings.sessions same)
  have added : (system.addSession link timeout).holdings =
      { system.holdings with sessions := [(link, false)] } := by
    simp [System.holdings, addSession, sessions, System.closings]
  rw [same] at added
  refine ⟨⟨⟨id, fun collects => ⟨collects.loop, ?_, ?_⟩⟩, ?_⟩,
    ⟨link, false, handles, [], .talking, added⟩⟩
  · have sameTasks : (system.addSession link timeout).ownTasks = system.ownTasks := by
      simp [ownTasks, addSession, sessions]
    rw [sameTasks]
    exact collects.foreign
  · have sameDues : (system.addSession link timeout).dues = system.dues := by
      simp [dues, promised, addSession, sessions]
    rw [sameDues]
    exact collects.notDue
  · rw [added, same]
    refine ⟨?_, id⟩
    rintro ⟨_, none⟩
    cases none

theorem createWorkspace_meets
    {handles : Nat} (same : system.holdings = ⟨[], [], [none], handles, []⟩)
    (request : WorkspaceRequest) :
    Step.Meets task promise lost system (system.createWorkspace request) := by
  have dialled : Abstains task promise system (system.note (.dialled request.serverUri)) :=
    .note system rfl
  unfold createWorkspace
  generalize system.note (.dialled request.serverUri) = calling at dialled
  have callingHoldings := dialled.holdings.trans same
  have first : calling.sessions.length = 0 := by
    simpa [System.holdings] using congrArg (·.sessions.length) callingHoldings
  simp only
  split
  · refine .refuses calling _ (by simp) dialled.continues ?_
    rw [callingHoldings]
    exact .vacant handles
  · have connected : Abstains task promise calling calling.connect.1 := by
      unfold connect
      split
      · exact .refl calling
      · exact .withLinks calling _
    obtain ⟨continues, met⟩ := addSession_continues task promise lost
      (connected.holdings.trans callingHoldings) calling.connect.2 request.timeout
    rw [first]
    refine .after ((dialled.trans connected).continues.trans continues) ?_
    exact (request_abstains _ 0 _ _ _).meets met
      (fun frames abstains => .asks frames request.serverUri abstains)
      fun later outcome laterMet => resumeHandshaking_meets laterMet request.serverUri outcome

theorem Meeting.meets
    {stack : List Frame} (meeting : Meeting stack) (met : IsMet lost system.holdings)
    (requests : ∀ other, .requesting other ∈ stack → system.Collects task promise →
      other ≠ promise)
    (outcome : Outcome Reply) :
    Step.Meets task promise lost system (system.resumeStack outcome stack) := by
  have inner (frames : List Frame) (frame : Frame) (whole : stack = frames ++ [frame])
      (abstains : ∀ frame ∈ frames, frame.Abstains) :
      Step.Abstains task promise system (system.resumeStack outcome frames) :=
    resumeStack_abstains (.refl system) abstains
      (fun other member => requests other (whole ▸ List.mem_append_left _ member)) outcome
  cases meeting with
  | asks frames serverUri abstains =>
      rw [resumeStack_concat]
      exact (inner frames _ rfl abstains).meets met
        (fun others othersAbstain => .asks others serverUri othersAbstain)
        fun later ending laterMet => resumeHandshaking_meets laterMet serverUri ending
  | confirms frames serverUri result abstains =>
      rw [resumeStack_concat]
      exact (inner frames _ rfl abstains).meets met
        (fun others othersAbstain => .confirms others serverUri result othersAbstain)
        fun later ending laterMet => resumeConfirming_meets laterMet serverUri result ending
  | leaves frames ending unreturned abstains =>
      rw [resumeStack_concat]
      exact (inner frames _ rfl abstains).meets met
        (fun others othersAbstain => .leaves others ending unreturned othersAbstain)
        fun later outcome laterMet => resumeAbandoningHandshake_meets laterMet unreturned outcome

/-! ## The start -/

/-- A step of the task that starts the editor. It returns only if there is a workspace. -/
structure Step.Arrives (task promise : Nat) (lost : Prop) (before : System) (step : Step) : Prop where
  continues : Continues task promise before step.1
  tenancy : Tenancy lost step.1.holdings
  starter : ∀ frames awaited, step.2 = .suspended frames awaited → Starter step.1.holdings frames
  housed : ∀ reply, step.2 = .ended (.returned reply) → step.1.holdings.workspaces = [0]

theorem Step.Arrives.after
    (continues : Continues task promise before system)
    (arrives : Step.Arrives task promise lost system step) :
    Step.Arrives task promise lost before step :=
  ⟨continues.trans arrives.continues, arrives.tenancy, arrives.starter, arrives.housed⟩

theorem Step.Arrives.ended
    (tenancy : Tenancy lost system.holdings) {outcome : Outcome Reply}
    (housed : ∀ reply, outcome = .returned reply → system.holdings.workspaces = [0]) :
    Step.Arrives task promise lost system (system, .ended outcome) where
  continues := (Abstains.refl system).continues
  tenancy
  starter := nofun
  housed := fun reply same => housed reply (Progress.ended.inj same)

/-- A start that failed gives up its workspace. -/
theorem closeWorkspaceOf_arrives
    (tenancy : Tenancy lost system.holdings) (housed : system.holdings.workspaces = [0])
    (ending : Outcome Reply) :
    Step.Arrives task promise lost system
      (system.closeWorkspaceOf 0 (.abandoningStart 0 ending) (resumeAbandoningStart 0 ending)) := by
  have departs : Departs task promise lost (.abandoningStart 0 ending) ending system
      (system.closeWorkspaceOf 0 (.abandoningStart 0 ending) (resumeAbandoningStart 0 ending)) :=
    closeWorkspaceOf_departs tenancy _ ending
  generalize system.closeWorkspaceOf 0 _ _ = result at departs
  cases departs with
  | overtaken gone => exact .ended tenancy nofun
  | leaves later heeds left =>
      exact ⟨⟨heeds, left.follows.leads⟩, left.tenancy_none, nofun,
        fun _ _ => left.follows.workspaces.trans housed⟩
  | waits later awaited fresh heeds left =>
      refine ⟨⟨heeds, left.follows.leads⟩, left.tenancy_some, fun frames promise waits => ?_, nofun⟩
      obtain ⟨rfl, rfl⟩ := Progress.suspended.inj waits
      exact .abandons ending (left.follows.workspaces.trans housed) left.shut

theorem attach_abstains {file : Nat} (known : file < system.files.length) (synchronizer : Nat)
    (text : String) : Abstains task promise system (system.attach synchronizer file text).1 := by
  have attached : Abstains task promise system (system.modifySynchronizer synchronizer fun found =>
      { found with file := some file, version := 0, dirty := found.text ≠ text }) :=
    .modifySynchronizer synchronizer (fun _ _ same => Or.inr (Option.some.inj same ▸ known))
      (fun _ _ => id) fun _ _ => id
  unfold attach
  simp only
  split
  · exact attached.trans (schedule_abstains _ synchronizer)
  · exact attached

theorem resumeOpeningDocument_arrives
    (tenancy : Tenancy lost system.holdings) (housed : system.holdings.workspaces = [0])
    (text : String) {outcome : Outcome Reply}
    (known : ∀ file, outcome = .returned (.file file) → file < system.files.length) :
    Step.Arrives task promise lost system (resumeOpeningDocument 0 text system outcome) := by
  unfold resumeOpeningDocument
  split
  · rename_i file found _
    have attached : Abstains task promise system (system.attach found.synchronizer file text).1 :=
      attach_abstains (known file rfl) _ _
    have laterTenancy := attached.holdings ▸ tenancy
    have laterHoused := attached.holdings ▸ housed
    split
    · rename_i later result
      rw [result] at attached laterTenancy laterHoused
      exact .after attached.continues (.ended laterTenancy fun _ _ => laterHoused)
    · rename_i later failure result
      rw [result] at attached laterTenancy
      exact .after attached.continues (.ended laterTenancy nofun)
  · exact .ended tenancy nofun
  · exact closeWorkspaceOf_arrives tenancy housed _
  · exact closeWorkspaceOf_arrives tenancy housed _

/-- After what leaves everything alone, the document is open. -/
theorem Step.Abstains.opens
    (first : Step.Abstains task promise system step) (tenancy : Tenancy lost system.holdings)
    (housed : system.holdings.workspaces = [0]) (workspace : Nat) (uri : String) {file : Nat}
    (known : file < system.holdings.handles) (text : String) :
    Step.Arrives task promise lost system
      ((step.andThen (.opening workspace uri file) (resumeOpening workspace uri file)).andThen
        (.openingDocument 0 text) (resumeOpeningDocument 0 text)) := by
  have laterTenancy := first.state.holdings ▸ tenancy
  have laterHoused := first.state.holdings ▸ housed
  have laterKnown := first.state.holdings ▸ known
  have frames := first.frames
  refine .after first.state.continues ?_
  obtain ⟨later, outcome | ⟨inner, awaited⟩⟩ := step
  · have fails (ending : Outcome Reply) (unreturned : ∀ reply, ending ≠ .returned reply) :
        Step.Arrives task promise lost later
          (resumeOpeningDocument 0 text (later.unregister workspace uri) ending) := by
      have freed : System.Abstains task promise later (later.unregister workspace uri) :=
        unregister_abstains later workspace uri
      exact .after freed.continues (resumeOpeningDocument_arrives (freed.holdings ▸ laterTenancy)
        (freed.holdings ▸ laterHoused) text fun _ same => (unreturned _ same).elim)
    cases outcome with
    | returned reply =>
        refine resumeOpeningDocument_arrives laterTenancy laterHoused text fun other same => ?_
        obtain rfl : file = other := Reply.file.inj (Outcome.returned.inj same)
        exact laterKnown
    | failed failure => exact fails (.failed failure) (by simp)
    | cancelled => exact fails .cancelled (by simp)
  · refine ⟨(Abstains.refl later).continues, laterTenancy, fun others promise waits => ?_, nofun⟩
    obtain ⟨rfl, rfl⟩ := Progress.suspended.inj waits
    exact .opens inner frames workspace uri file text laterKnown laterHoused

variable (task promise) in
/-- A handle is there. -/
theorem addFile_continues (system : System) (file : OpenFile) :
    Continues task promise system (system.addFile file) ∧
      (system.addFile file).holdings =
        { system.holdings with handles := system.holdings.handles + 1 } := by
  let added : System := { system with files := system.files ++ [file] }
  have grows : Heeds task promise system added :=
    .of_same rfl rfl rfl rfl (by simp [added])
  have registered : Abstains task promise added (system.addFile file) :=
    .modifyWorkspace added file.workspace fun _ => rfl
  have holdings : added.holdings =
      { system.holdings with handles := system.holdings.handles + 1 } := by
    simp [added, System.holdings, System.closings]
  refine ⟨⟨grows.trans registered.toHeeds, ?_⟩, registered.holdings.trans holdings⟩
  rw [registered.holdings, holdings]
  exact ⟨id, id⟩

theorem openDocument_arrives
    (tenancy : Tenancy lost system.holdings) (housed : system.holdings.workspaces = [0])
    (workspace : Nat) (found : Editor) (text : String) :
    Step.Arrives task promise lost system
      ((system.openDocument workspace 0 found text).andThen (.openingDocument 0 text)
        (resumeOpeningDocument 0 text)) := by
  have fails (failure : Failure) : Step.Arrives task promise lost system
      (resumeOpeningDocument 0 text system (.failed failure)) :=
    resumeOpeningDocument_arrives tenancy housed text nofun
  unfold openDocument
  split
  · unfold openFile
    split
    · exact fails _
    · rename_i uri _ _ _
      simp only
      obtain ⟨continues, added⟩ := addFile_continues task promise system {
        workspace
        uri
        languageId := found.languageId
        listeners := [(Method.publishDiagnostics, .editor 0)] }
      refine .after continues ((notifyIn_abstains _ workspace _ _).opens ?_ ?_ workspace uri ?_ text)
      · rw [added]
        exact tenancy.withHandles _
      · rw [added]
        exact housed
      · rw [added]
        exact Nat.lt_succ_self _
  · exact fails _

theorem resumeCreatingWorkspace_arrives
    (meets : Step.Meets task promise lost system step) :
    Step.Arrives task promise lost system
      (step.andThen (.creatingWorkspace 0) (resumeCreatingWorkspace 0)) := by
  cases meets with
  | waits later frames awaited continues met meeting =>
      refine ⟨continues, met.tenancy, fun others promise waits => ?_, nofun⟩
      obtain ⟨rfl, rfl⟩ := Progress.suspended.inj waits
      obtain ⟨link, closed, handles, closings, _, same⟩ := met
      have starter : Starter later.holdings (frames ++ [.creatingWorkspace 0]) :=
        .meets frames meeting (by simp [same]) (by rw [same])
      exact starter
  | refuses later outcome unreturned continues tenancy =>
      refine .after continues ?_
      cases outcome with
      | returned reply => exact (unreturned reply rfl).elim
      | failed failure => exact .ended tenancy nofun
      | cancelled => exact .ended tenancy nofun
  | welcomes later link closed handles closings continues parted fresh =>
      have unowned : later.holdings.owned = [none] := by rw [fresh]
      obtain ⟨found, editors, _⟩ := editor_of_holdings unowned
      have owned := holdings_modifyEditor unowned (some 0)
      rw [fresh] at owned
      have owns : Continues task promise later
          (later.modifyEditor 0 fun found => { found with workspace := some 0 }) := by
        refine ⟨.modifyEditor later 0 _, ?_⟩
        rw [owned, fresh]
        exact ⟨id, id⟩
      refine .after (continues.trans owns) ?_
      have known : later.editors[0]? = some found := by rw [editors]; rfl
      simp only [Step.andThen, resumeCreatingWorkspace, known]
      refine openDocument_arrives ?_ ?_ 0 found _
      · rw [owned]
        exact .holding link closed handles closings parted
      · rw [owned]

theorem start_arrives
    (tenancy : Tenancy lost system.holdings) (nothing : system.holdings.sessions = []) :
    Step.Arrives task promise lost system (system.start 0) := by
  obtain ⟨handles, same⟩ := tenancy.vacant_of_nothing nothing
  have unowned : system.holdings.owned = [none] := by rw [same]
  obtain ⟨found, editors, _⟩ := editor_of_holdings unowned
  have known : system.editors[0]? = some found := by rw [editors]; rfl
  simp only [start, known]
  exact resumeCreatingWorkspace_arrives (createWorkspace_meets same _)

/-- What the start does in its turn. -/
theorem Starter.arrives
    {stack : List Frame} (starter : Starter system.holdings stack)
    (tenancy : Tenancy lost system.holdings)
    (requests : ∀ other, .requesting other ∈ stack → system.Collects task promise →
      other ≠ promise)
    (outcome : Outcome Reply) :
    Step.Arrives task promise lost system (system.resumeStack outcome stack) := by
  cases starter with
  | begins nothing =>
      rw [resumeStack_singleton]
      cases outcome with
      | returned reply => exact start_arrives tenancy nothing
      | failed failure => exact .ended tenancy nofun
      | cancelled => exact .ended tenancy nofun
  | meets frames meeting met unhoused =>
      rw [resumeStack_concat]
      refine resumeCreatingWorkspace_arrives (meeting.meets (tenancy.isMet met unhoused) ?_ outcome)
      exact fun other member => requests other (List.mem_append_left _ member)
  | opens frames abstains workspace uri file text known housed =>
      rw [resumeStack_concat, resumeStack_concat]
      refine (resumeStack_abstains (.refl system) abstains ?_ outcome).opens tenancy housed workspace uri
        known text
      exact fun other member => requests other
        (List.mem_append_left _ (List.mem_append_left _ member))
  | abandons ending housed shut =>
      obtain ⟨heeds, left, follows⟩ := tenancy.vacated task promise shut
      have leaves (reply : Reply) : Step.Arrives task promise lost system
          (resumeAbandoningStart 0 ending system (.returned reply)) :=
        ⟨⟨heeds, follows.leads⟩, left, nofun, fun _ _ => follows.workspaces.trans housed⟩
      rw [resumeStack_pair]
      cases outcome with
      | returned reply => exact leaves .nothing
      | failed failure => exact leaves .nothing
      | cancelled => exact .ended tenancy nofun

end Starts

end LanguageClient.Client
