import LanguageClient.Proofs.Closure.Operations
import LanguageClient.Proofs.Editor.Flushes

/-!
# What an editor has

An editor meets a server, takes over its workspace and gives it up again. Closing it, once or several
times, only ever goes on in this order, and the connection is told to close once.
-/

namespace LanguageClient.Client

open LanguageClient.Json LanguageClient.Loop LanguageClient.Number LanguageClient.Protocol

/-! ## Stages -/

/-- How a session ends: its connection is told to close, unless it was lost before. -/
inductive Parted (lost : Prop) (link : Nat) : Bool → List Nat → Prop where
  | talking : Parted lost link false []
  | closed : Parted lost link true [link]
  | dropped (isLost : lost) : Parted lost link true []

/-- As long as a session is open nobody has told its connection to close. -/
theorem Parted.untold
    {lost : Prop} {link : Nat} {closings : List Nat} (parted : Parted lost link false closings) :
    closings = [] := by
  cases parted
  rfl

/-- What the only editor has between two turns: nothing, a session, a workspace in it, or a workspace
that it has given up. -/
inductive Tenancy (lost : Prop) : Holdings → Prop where
  | vacant (handles : Nat) : Tenancy lost ⟨[], [], [none], handles, []⟩
  | meeting (link : Nat) (closed : Bool) (handles : Nat) (closings : List Nat)
      (parted : Parted lost link closed closings) :
    Tenancy lost ⟨[(link, closed)], [], [none], handles, closings⟩
  | holding (link : Nat) (closed : Bool) (handles : Nat) (closings : List Nat)
      (parted : Parted lost link closed closings) :
    Tenancy lost ⟨[(link, closed)], [0], [some 0], handles, closings⟩
  | left (link : Nat) (handles : Nat) (closings : List Nat)
      (parted : Parted lost link true closings) :
    Tenancy lost ⟨[(link, true)], [0], [none], handles, closings⟩

namespace Holdings

/-- The session is closed. -/
def Shut (holdings : Holdings) : Prop := ∃ link, holdings.sessions = [(link, true)]

/-- A session that is closed stays closed, and a workspace stays there. -/
structure Leads (before after : Holdings) : Prop where
  shut : before.Shut → after.Shut
  housed : before.workspaces = [0] → after.workspaces = [0]

/-- Nobody has got a session, a workspace or an editor besides. -/
structure Follows (before after : Holdings) : Prop where
  shut : before.Shut → after.Shut
  links : after.sessions.map (·.1) = before.sessions.map (·.1)
  workspaces : after.workspaces = before.workspaces
  left : before.owned = [none] → after.owned = [none]
  handles : before.handles ≤ after.handles

theorem Leads.refl (holdings : Holdings) : Leads holdings holdings := ⟨id, id⟩

theorem Leads.trans {before middle after : Holdings}
    (first : Leads before middle) (second : Leads middle after) : Leads before after :=
  ⟨second.shut ∘ first.shut, second.housed ∘ first.housed⟩

theorem Follows.refl (holdings : Holdings) : Follows holdings holdings :=
  ⟨id, rfl, rfl, id, Nat.le_refl _⟩

theorem Follows.trans {before middle after : Holdings}
    (first : Follows before middle) (second : Follows middle after) : Follows before after where
  shut := second.shut ∘ first.shut
  links := second.links.trans first.links
  workspaces := second.workspaces.trans first.workspaces
  left := second.left ∘ first.left
  handles := Nat.le_trans first.handles second.handles

theorem Follows.leads {before after : Holdings} (follows : Follows before after) :
    Leads before after :=
  ⟨follows.shut, fun housed => follows.workspaces.trans housed⟩

/-- The session is closed; who owns the workspace is given. -/
inductive Departs (lost : Prop) (owner : Option Nat) : Holdings → Holdings → Prop where
  | intro (link : Nat) (closed : Bool) (handles : Nat) (closings later : List Nat)
      (parted : Parted lost link true later) :
    Departs lost owner ⟨[(link, closed)], [0], [some 0], handles, closings⟩
      ⟨[(link, true)], [0], [owner], handles, later⟩

end Holdings

open Holdings

namespace System

variable {task promise : Nat} {lost : Prop} {before middle after system : System}

/-! ## What is there -/

theorem session_of_holdings
    {link : Nat} {closed : Bool} (only : system.holdings.sessions = [(link, closed)]) :
    ∃ found, system.sessions = [found] ∧ found.link = link ∧ found.closed = closed := by
  have mapped : system.sessions.map (fun session => (session.link, session.closed)) =
      [(link, closed)] := only
  obtain ⟨found, rest, sessions, same, none⟩ := List.map_eq_cons_iff.mp mapped
  obtain ⟨sameLink, sameClosed⟩ := Prod.mk.inj same
  rw [List.map_eq_nil_iff.mp none] at sessions
  exact ⟨found, sessions, sameLink, sameClosed⟩

theorem workspace_of_holdings (housed : system.holdings.workspaces = [0]) :
    ∃ found, system.workspaces = [found] ∧ found.session = 0 := by
  have mapped : system.workspaces.map (·.session) = [0] := housed
  obtain ⟨found, rest, workspaces, same, none⟩ := List.map_eq_cons_iff.mp mapped
  rw [List.map_eq_nil_iff.mp none] at workspaces
  exact ⟨found, workspaces, same⟩

theorem editor_of_holdings {workspace : Option Nat} (only : system.holdings.owned = [workspace]) :
    ∃ found, system.editors = [found] ∧ found.workspace = workspace := by
  have mapped : system.editors.map (·.workspace) = [workspace] := only
  obtain ⟨found, rest, editors, same, none⟩ := List.map_eq_cons_iff.mp mapped
  rw [List.map_eq_nil_iff.mp none] at editors
  exact ⟨found, editors, same⟩

theorem ownedBy_of_holdings {workspace : Option Nat} (only : system.holdings.owned = [workspace]) :
    (system.editors[0]?).bind (·.workspace) = workspace := by
  obtain ⟨found, editors, same⟩ := editor_of_holdings only
  simp [editors, same]

/-- The editor gets a workspace or gives it up. -/
theorem holdings_modifyEditor
    {earlier : Option Nat} (only : system.holdings.owned = [earlier]) (workspace : Option Nat) :
    (system.modifyEditor 0 fun found => { found with workspace }).holdings =
      { system.holdings with owned := [workspace] } := by
  obtain ⟨found, editors, _⟩ := editor_of_holdings only
  simp [System.holdings, System.modifyEditor, editors, closings]

theorem Heeds.modifyEditor (system : System) (editor : Nat) (change : Editor → Editor) :
    Heeds task promise system (system.modifyEditor editor change) :=
  .of_same rfl rfl rfl rfl (Nat.le_refl _)

/-! ## The end of a session -/

theorem abandonRequests_abstains (system : System) (session : Nat) (reason : SessionEnd) :
    Abstains task promise system (system.abandonRequests session reason) := by
  unfold abandonRequests
  split
  · exact .refl system
  · rename_i found known
    have abandoned : Abstains task promise system
        (found.pending.foldl (abandonRequest reason) system) := by
      refine List.foldlRecOn _ _ (Abstains.refl system) fun middle current entry member => ?_
      refine (current.trans (.disarm _ entry.timer)).trans_from (fun collects => ?_) id rfl
      exact (Abstains.settle (fun _ =>
        collects.ne_of_promised (mem_promised_of_pending known member)) _).toHeeds
    exact abandoned.trans (.modifySession session (fun _ => rfl) (fun _ _ _ => id)
      fun _ _ _ _ => List.not_mem_nil)

/-- The tasks that answer the server are cancelled; nobody else is. -/
theorem cancelAnswers_abstains
    {session : Nat} {found : Session} (known : system.sessions[session]? = some found) :
    ∀ {later : System}, Abstains task promise system later →
      Abstains task promise system
        (later.onLoop fun loop => found.answers.foldl (fun loop task => loop.cancel task) loop) := by
  intro later state
  refine state.trans_from (fun collects => .onLoop fun current => ?_) id rfl
  refine List.foldlRecOn _ _ current.loop fun loop reached answered member => reached.cancel ?_
  rintro rfl
  exact collects.foreign
    (List.mem_append_left _ (List.mem_flatMap.mpr ⟨found, List.mem_of_getElem? known, member⟩))

variable (task promise) in
/-- A connection is closed at once, or the peer holds that back. -/
theorem closeLink_heeds (system : System) (link : Nat) :
    ∃ later, Heeds task promise system later ∧
      later.holdings = { system.holdings with closings := system.holdings.closings ++ [link] } ∧
      ((∃ outcome, outcome ≠ .cancelled ∧ system.closeLink link = (later, .ended outcome)) ∨
        ∃ awaited, later.IsFresh awaited ∧ system.closeLink link = (later, .suspended [] awaited)) := by
  let told : System := { system.note (.closedLink link) with
    links := system.links.modify link fun found => { found with closed := true } }
  have noted : told.holdings =
      { system.holdings with closings := system.holdings.closings ++ [link] } := by
    simp [told, System.holdings, closings, System.note, Occurrence.closing?]
  have heeds : Heeds task promise system told := .of_same rfl rfl rfl rfl (Nat.le_refl _)
  unfold closeLink
  change ∃ later, _ ∧ _ ∧ ((∃ outcome, _ ∧ (if told.peer.holdingClose then _ else _) = _) ∨
    ∃ awaited, _ ∧ (if told.peer.holdingClose then _ else _) = _)
  split
  · have held : Abstains task promise told { told.addPromise with
        peer := { told.peer with heldCloses := told.peer.heldCloses ++ [told.nextPromise] } } := by
      refine .withNewPromise fun other member => ?_
      simpa [Peer.detained, or_assoc] using member
    have fresh : ({ told.addPromise with peer := { told.peer with
        heldCloses := told.peer.heldCloses ++ [told.nextPromise] } } : System).IsFresh told.nextPromise :=
      told.addPromise_isFresh.of_promises _ rfl
    exact ⟨_, heeds.trans held.toHeeds, noted, Or.inr ⟨_, fresh, await_of_unsettled fresh.unsettled⟩⟩
  · split
    · exact ⟨told, heeds, noted, Or.inl ⟨_, by simp, rfl⟩⟩
    · exact ⟨told, heeds, noted, Or.inl ⟨_, by simp, rfl⟩⟩

theorem shutSession_heeds (system : System) :
    Heeds task promise system (system.modifySession 0 fun found => { found with closed := true }) :=
  .modifySession 0 (fun _ _ _ => id) fun _ _ _ => id

theorem shutSession_holdings {found : Session} (only : system.sessions = [found]) :
    (system.modifySession 0 fun found => { found with closed := true }).holdings =
      { system.holdings with sessions := [(found.link, true)] } := by
  simp [System.holdings, modifySession, only, System.closings]

variable (task promise) in
/-- A session is closed afterwards, and its connection was told to close. -/
theorem closeSession_parts
    {link : Nat} {closed : Bool} (only : system.holdings.sessions = [(link, closed)])
    (parted : Parted lost link closed system.holdings.closings) :
    ∃ later closings, Heeds task promise system later ∧ Parted lost link true closings ∧
      later.holdings = { system.holdings with sessions := [(link, true)], closings } ∧
      (system.closeSession 0 = (later, .ended (.returned .nothing)) ∨
        ∃ awaited, later.IsFresh awaited ∧
          system.closeSession 0 = (later, .suspended [.closingLink] awaited)) := by
  obtain ⟨found, sessions, rfl, rfl⟩ := session_of_holdings only
  have known : system.sessions[0]? = some found := by rw [sessions]; rfl
  unfold closeSession
  simp only [known]
  split
  · rename_i isClosed
    rw [isClosed] at parted only
    refine ⟨system, _, .refl system, parted, ?_, Or.inl rfl⟩
    rw [← only]
  · rename_i isOpen
    have untold := (Bool.eq_false_iff.mpr isOpen ▸ parted).untold
    have marked : Heeds task promise system _ := shutSession_heeds system
    have shutHoldings := shutSession_holdings sessions
    have shutKnown : (system.modifySession 0 fun found =>
        { found with closed := true }).sessions[0]? = some { found with closed := true } := by
      simp [modifySession, known]
    generalize system.modifySession 0 (fun found => { found with closed := true }) = shut
      at marked shutHoldings shutKnown
    have ended : Abstains task promise shut ((shut.abandonRequests 0 .closed).onLoop fun loop =>
        found.answers.foldl (fun loop task => loop.cancel task) loop) :=
      cancelAnswers_abstains shutKnown (abandonRequests_abstains shut 0 .closed)
    generalize (shut.abandonRequests 0 .closed).onLoop _ = given at ended
    obtain ⟨later, closes, closedHoldings, result⟩ := closeLink_heeds task promise given found.link
    refine ⟨later, [found.link], (marked.trans ended.toHeeds).trans closes, .closed, ?_, ?_⟩
    · rw [closedHoldings, ended.holdings, shutHoldings, untold]
      rfl
    · rcases result with ⟨outcome, uncancelled, result⟩ | ⟨awaited, fresh, result⟩
      · rw [result]
        cases outcome with
        | returned reply => exact Or.inl rfl
        | failed failure => exact Or.inl rfl
        | cancelled => exact (uncancelled rfl).elim
      · rw [result]
        exact Or.inr ⟨awaited, fresh, rfl⟩

variable (task promise) in
/-- A session whose connection was lost is closed, and nobody will close the connection. -/
theorem loseConnection_parts
    {link : Nat} {closed : Bool} (only : system.holdings.sessions = [(link, closed)])
    (parted : Parted lost link closed system.holdings.closings) (isLost : lost) :
    ∃ closings, Heeds task promise system (system.loseConnection 0) ∧
      Parted lost link true closings ∧
      (system.loseConnection 0).holdings =
        { system.holdings with sessions := [(link, true)], closings } := by
  obtain ⟨found, sessions, rfl, rfl⟩ := session_of_holdings only
  have known : system.sessions[0]? = some found := by rw [sessions]; rfl
  unfold loseConnection
  simp only [known]
  split
  · rename_i isClosed
    rw [isClosed] at parted only
    exact ⟨_, .refl system, parted, by rw [← only]⟩
  · rename_i isOpen
    have untold := (Bool.eq_false_iff.mpr isOpen ▸ parted).untold
    have logged : Abstains task promise system
        (system.log .warning .session "connection lost, failing outstanding requests") :=
      .log system _ _ _
    have noted : (system.log .warning .session
        "connection lost, failing outstanding requests").sessions = [found] := sessions
    generalize system.log .warning .session "connection lost, failing outstanding requests" = shown
      at logged noted
    have marked : Heeds task promise shown _ := shutSession_heeds shown
    have ended : Abstains task promise _ _ := abandonRequests_abstains (shown.modifySession 0 fun found =>
      { found with closed := true }) 0 .lost
    have dropped : Parted lost found.link true system.holdings.closings := by
      rw [untold]
      exact .dropped isLost
    refine ⟨_, (logged.toHeeds.trans marked).trans ended.toHeeds, dropped, ?_⟩
    rw [ended.holdings, shutSession_holdings noted, logged.holdings]

/-! ## The end of a workspace -/

/-- How far a step gets with closing the workspace of an editor: somebody else has closed it, or its
session is closed afterwards. -/
inductive Departs
    (task promise : Nat) (lost : Prop) (frame : Frame) (ending : Outcome Reply) (before : System) :
    Step → Prop where
  | overtaken (gone : before.holdings.owned = [none]) :
    Departs task promise lost frame ending before (before, .ended (.failed .missing))
  | leaves (later : System) (heeds : Heeds task promise before later)
      (departs : Holdings.Departs lost none before.holdings later.holdings) :
    Departs task promise lost frame ending before (later, .ended ending)
  | waits (later : System) (awaited : Nat) (fresh : later.IsFresh awaited)
      (heeds : Heeds task promise before later)
      (departs : Holdings.Departs lost (some 0) before.holdings later.holdings) :
    Departs task promise lost frame ending before (later, .suspended [.closingLink, frame] awaited)

variable (task promise) in
theorem closeWorkspace_parts
    {link : Nat} {closed : Bool} (only : system.holdings.sessions = [(link, closed)])
    (housed : system.holdings.workspaces = [0])
    (parted : Parted lost link closed system.holdings.closings) :
    ∃ later closings, Heeds task promise system later ∧ Parted lost link true closings ∧
      later.holdings = { system.holdings with sessions := [(link, true)], closings } ∧
      (system.closeWorkspace 0 = (later, .ended (.returned .nothing)) ∨
        ∃ awaited, later.IsFresh awaited ∧
          system.closeWorkspace 0 = (later, .suspended [.closingLink] awaited)) := by
  obtain ⟨found, workspaces, ofSession⟩ := workspace_of_holdings housed
  have cleared : Abstains task promise system
      (system.modifyWorkspace 0 fun found => { found with openFiles := [] }) :=
    .modifyWorkspace system 0 fun _ => rfl
  have same := cleared.holdings
  obtain ⟨later, closings, heeds, laterParted, holdings, result⟩ :=
    closeSession_parts task promise (same ▸ only) (same ▸ parted)
  refine ⟨later, closings, cleared.toHeeds.trans heeds, laterParted, same ▸ holdings, ?_⟩
  simpa only [closeWorkspace, workspaces, List.getElem?_cons_zero, ofSession] using result

/-- The workspace of the editor is closed, unless somebody else has done so. -/
theorem closeWorkspaceOf_departs
    (tenancy : Tenancy lost system.holdings) (frame : Frame) (ending : Outcome Reply) :
    Departs task promise lost frame ending system
      (system.closeWorkspaceOf 0 frame (resumeClosingWorkspace 0 ending)) := by
  have overtaken (gone : system.holdings.owned = [none]) :
      Departs task promise lost frame ending system
        (system.closeWorkspaceOf 0 frame (resumeClosingWorkspace 0 ending)) := by
    simp only [closeWorkspaceOf, ownedBy_of_holdings gone]
    exact .overtaken gone
  generalize same : system.holdings = holdings at tenancy
  cases tenancy with
  | vacant handles => exact overtaken (by rw [same])
  | meeting link closed handles closings parted => exact overtaken (by rw [same])
  | left link handles closings parted => exact overtaken (by rw [same])
  | holding link closed handles closings parted =>
      obtain ⟨later, laterClosings, heeds, laterParted, laterHoldings, result⟩ :=
        closeWorkspace_parts task promise (by rw [same]) (by rw [same]) (by rw [same]; exact parted)
      have ownedBy : (system.editors[0]?).bind (·.workspace) = some 0 :=
        ownedBy_of_holdings (by rw [same])
      rw [same] at laterHoldings
      simp only [closeWorkspaceOf, ownedBy]
      rcases result with result | ⟨awaited, fresh, result⟩
      · rw [result]
        refine .leaves _ (heeds.trans (.modifyEditor later 0 _)) ?_
        rw [holdings_modifyEditor (by rw [laterHoldings]) none, laterHoldings, same]
        exact .intro link closed handles closings laterClosings laterParted
      · rw [result]
        refine .waits later awaited fresh heeds ?_
        rw [laterHoldings, same]
        exact .intro link closed handles closings laterClosings laterParted

end System

theorem Holdings.Departs.tenancy_none
    {lost : Prop} {before after : Holdings} (departs : Departs lost none before after) :
    Tenancy lost after := by
  cases departs with
  | intro link closed handles closings later parted => exact .left link handles later parted

theorem Holdings.Departs.tenancy_some
    {lost : Prop} {before after : Holdings} (departs : Departs lost (some 0) before after) :
    Tenancy lost after := by
  cases departs with
  | intro link closed handles closings later parted => exact .holding link true handles later parted

theorem Holdings.Departs.shut
    {lost : Prop} {owner : Option Nat} {before after : Holdings}
    (departs : Departs lost owner before after) : after.Shut := by
  cases departs with
  | intro link => exact ⟨link, rfl⟩

theorem Holdings.Departs.owned
    {lost : Prop} {owner : Option Nat} {before after : Holdings}
    (departs : Departs lost owner before after) :
    before.owned = [some 0] ∧ after.owned = [owner] := by
  cases departs with
  | intro => exact ⟨rfl, rfl⟩

theorem Holdings.Departs.follows
    {lost : Prop} {owner : Option Nat} {before after : Holdings}
    (departs : Departs lost owner before after) : before.Follows after := by
  have shut := departs.shut
  cases departs with
  | intro link closed handles closings later parted =>
      exact ⟨fun _ => shut, rfl, rfl, nofun, Nat.le_refl _⟩

theorem Tenancy.owned
    {lost : Prop} {holdings : Holdings} (tenancy : Tenancy lost holdings) :
    ∃ workspace, holdings.owned = [workspace] := by
  cases tenancy <;> exact ⟨_, rfl⟩

/-- An editor whose session is closed may give up its workspace. -/
theorem Tenancy.vacate
    {lost : Prop} {holdings : Holdings} (tenancy : Tenancy lost holdings) (shut : holdings.Shut) :
    Tenancy lost { holdings with owned := [none] } := by
  cases tenancy with
  | vacant handles => exact .vacant handles
  | meeting link closed handles closings parted =>
      exact .meeting link closed handles closings parted
  | holding link closed handles closings parted =>
      obtain ⟨_, same⟩ := shut
      obtain ⟨_, rfl⟩ := Prod.mk.inj (List.cons.inj same).1
      exact .left link handles closings parted
  | left link handles closings parted => exact .left link handles closings parted

theorem Tenancy.vacated
    {lost : Prop} {system : System} (tenancy : Tenancy lost system.holdings) (task promise : Nat)
    (shut : system.holdings.Shut) :
    let left := system.modifyEditor 0 fun found => { found with workspace := none }
    System.Heeds task promise system left ∧ Tenancy lost left.holdings ∧
      system.holdings.Follows left.holdings := by
  obtain ⟨workspace, owned⟩ := tenancy.owned
  intro left
  have same : left.holdings = { system.holdings with owned := [none] } :=
    System.holdings_modifyEditor owned none
  rw [same]
  exact ⟨.modifyEditor system 0 _, tenancy.vacate shut, id, rfl, rfl, fun _ => rfl, Nat.le_refl _⟩

/-! ## Guests -/

/-- A call at an editor that may be there, or one that the client starts by itself. -/
def Call.IsGuest : Call → Prop
  | .answer _ _ | .sendDebounced _ | .hover _ _ | .complete _ _ _ | .refresh _ => True
  | .closeEditor editor => editor = 0
  | _ => False

/-- Where a task can be that does not start the editor. -/
inductive Guest (holdings : Holdings) : List Frame → Prop where
  | begins (call : Call) (allowed : call.IsGuest) : Guest holdings [.begin call]
  | waits (frames : List Frame) (abstains : ∀ frame ∈ frames, frame.Abstains) :
    Guest holdings frames
  | closes (frames : List Frame) (abstains : ∀ frame ∈ frames, frame.Abstains) :
    Guest holdings (frames ++ [.closingSynchronizer 0])
  | leaves (ending : Outcome Reply) (shut : holdings.Shut) :
    Guest holdings [.closingLink, .closingWorkspace 0 ending]

theorem Guest.follows
    {before after : Holdings} {frames : List Frame} (guest : Guest before frames)
    (shut : before.Shut → after.Shut) : Guest after frames := by
  cases guest with
  | begins call allowed => exact .begins call allowed
  | waits frames abstains => exact .waits frames abstains
  | closes frames abstains => exact .closes frames abstains
  | leaves ending isShut => exact .leaves ending (shut isShut)

/-- A step of a task that does not start the editor. -/
structure Step.Visits (task promise : Nat) (lost : Prop) (before : System) (step : Step) : Prop where
  heeds : System.Heeds task promise before step.1
  tenancy : Tenancy lost step.1.holdings
  follows : before.holdings.Follows step.1.holdings
  guest : ∀ frames awaited, step.2 = .suspended frames awaited → Guest step.1.holdings frames

section Guests

variable {task promise : Nat} {lost : Prop} {before system : System} {step : Step}
  {stack : List Frame}

theorem Step.Abstains.visits
    (abstains : Step.Abstains task promise system step) (tenancy : Tenancy lost system.holdings) :
    Step.Visits task promise lost system step where
  heeds := abstains.state.toHeeds
  tenancy := abstains.state.holdings ▸ tenancy
  follows := abstains.state.holdings ▸ .refl _
  guest := fun frames awaited waits => .waits frames fun frame member =>
    abstains.frames frame (by rw [waits]; exact member)

/-- After what leaves everything alone, the workspace is closed. -/
theorem Step.Abstains.closes
    (abstains : Step.Abstains task promise system step) (tenancy : Tenancy lost system.holdings) :
    Step.Visits task promise lost system
      (step.andThen (.closingSynchronizer 0) (System.resumeClosingSynchronizer 0)) := by
  have visits := abstains.visits tenancy
  obtain ⟨later, outcome | ⟨frames, awaited⟩⟩ := step
  · have same := abstains.state.holdings
    have departs : System.Departs task promise lost (.closingWorkspace 0 outcome) outcome later
        (System.resumeClosingSynchronizer 0 later outcome) :=
      System.closeWorkspaceOf_departs visits.tenancy _ _
    change Step.Visits task promise lost system (System.resumeClosingSynchronizer 0 later outcome)
    generalize System.resumeClosingSynchronizer 0 later outcome = result at departs
    cases departs with
    | overtaken gone => exact ⟨visits.heeds, visits.tenancy, visits.follows, nofun⟩
    | leaves final heeds left =>
        exact ⟨visits.heeds.trans heeds, left.tenancy_none, same ▸ left.follows, nofun⟩
    | waits final awaited fresh heeds left =>
        refine ⟨visits.heeds.trans heeds, left.tenancy_some, same ▸ left.follows, ?_⟩
        intro frames promise waits
        obtain ⟨rfl, rfl⟩ := Progress.suspended.inj waits
        exact .leaves outcome left.shut
  · refine ⟨visits.heeds, visits.tenancy, visits.follows, fun found promise waits => ?_⟩
    obtain ⟨rfl, rfl⟩ := Progress.suspended.inj waits
    exact .closes frames abstains.frames

theorem Guest.begins_visits
    {call : Call} (allowed : call.IsGuest) (tenancy : Tenancy lost system.holdings) :
    Step.Visits task promise lost system (system.call call) := by
  cases call with
  | answer session name => exact (System.answer_abstains system session name).visits tenancy
  | sendDebounced synchronizer =>
      exact (System.sendDebounced_abstains system synchronizer).visits tenancy
  | hover editor offset => exact (System.hover_abstains system editor offset).visits tenancy
  | complete editor offset explicit =>
      exact (System.complete_abstains system editor offset explicit).visits tenancy
  | refresh editor => exact (System.refresh_abstains system editor).visits tenancy
  | closeEditor editor =>
      obtain rfl : editor = 0 := allowed
      simp only [System.call, System.closeEditor]
      split
      · exact (Step.Abstains.here system _).visits tenancy
      · split
        · exact (Step.Abstains.here system _).visits tenancy
        · exact (System.closeSynchronizer_abstains system _).closes tenancy
  | _ => exact allowed.elim

/-- A closing that goes on gives up the workspace. -/
theorem Guest.leaves_visits
    (tenancy : Tenancy lost system.holdings) (shut : system.holdings.Shut)
    (ending outcome : Outcome Reply) :
    Step.Visits task promise lost system
      (system.resumeStack outcome [.closingLink, .closingWorkspace 0 ending]) := by
  obtain ⟨heeds, left, follows⟩ := tenancy.vacated task promise shut
  have leaves (reply : Reply) : Step.Visits task promise lost system
      (System.resumeClosingWorkspace 0 ending system (.returned reply)) :=
    ⟨heeds, left, follows, nofun⟩
  rw [System.resumeStack_pair]
  cases outcome with
  | returned reply => exact leaves .nothing
  | failed failure => exact leaves .nothing
  | cancelled => exact (Step.Abstains.here system _).visits tenancy

/-- What a guest does in its turn. -/
theorem Guest.visits
    (guest : Guest system.holdings stack) (tenancy : Tenancy lost system.holdings)
    (requests : ∀ other, .requesting other ∈ stack → system.Collects task promise →
      other ≠ promise)
    (outcome : Outcome Reply) :
    Step.Visits task promise lost system (system.resumeStack outcome stack) := by
  cases guest with
  | begins call allowed =>
      rw [System.resumeStack_singleton]
      cases outcome with
      | returned reply => exact begins_visits allowed tenancy
      | failed failure => exact (Step.Abstains.here system _).visits tenancy
      | cancelled => exact (Step.Abstains.here system _).visits tenancy
  | waits frames abstains =>
      exact (System.resumeStack_abstains (.refl system) abstains requests outcome).visits tenancy
  | closes frames abstains =>
      rw [System.resumeStack_concat]
      exact (System.resumeStack_abstains (.refl system) abstains
        (fun other member => requests other (List.mem_append_left _ member)) outcome).closes tenancy
  | leaves ending shut => exact leaves_visits tenancy shut ending outcome

end Guests

end LanguageClient.Client
