import LanguageClient.Proofs.Resuming
import LanguageClient.Proofs.Synchronizer.Lock

/-!
# Changes under the lock

What comes of a change that is handed to the connection, and what the end of a change does: a change
that was delivered sets the version, one that was not marks the text again, and both give the lock
back.
-/

namespace LanguageClient.Client

open LanguageClient.Json LanguageClient.Loop LanguageClient.Protocol

/-! ## Handing a change to the connection -/

/-- Nothing keeps a change of an open document from being delivered: the session is open, the
version is in range, and the peer does not refuse the frame. -/
structure System.Takes (system : System) (uri : String) (version : Int) (text : String) :
    Prop where
  inSession : ∀ session ∈ system.sessions, session.closed = false
  inRange : isVersion version = true
  unrefused : system.peer.refusalOf? (changeFrame uri version text) = none

theorem isWritable_didChangeParams (uri : String) (version : Int) (text : String) :
    isWritable (didChangeParams uri version text) = true := by
  simp [isWritable, payloadDepth, didChangeParams, Value.hasDepthWithin, membersHaveDepthWithin,
    itemsHaveDepthWithin]

section Handing

variable {uri : String} {synchronizer : Synchronizer} {system : System}

/-- A change of an open document fails for a reason, or is held back, or is accepted. -/
theorem changeFile_cases
    (parts : SyncParts uri synchronizer system) (isOpen : system.isOpen 0 = true) (version : Int)
    (text : String) :
    (∃ failure later, ¬ system.Takes uri version text ∧
      (later = system ∨ ∃ link, later = system.note (.handed link (changeFrame uri version text))) ∧
      system.changeFile 0 version text = (later, .ended (.failed failure))) ∨
    (∃ link, system.peer.holding = true ∧ system.changeFile 0 version text =
      ((system.note (.handed link (changeFrame uri version text))).holdBack,
        .suspended [.sending link (changeFrame uri version text), .writing Method.didChange]
          system.nextPromise)) ∨
    ∃ link, system.changeFile 0 version text =
      ((system.note (.handed link (changeFrame uri version text))).accept link
        (changeFrame uri version text), .ended (.returned .nothing)) := by
  obtain ⟨file, files, isWorkspace, isUri⟩ := parts.file
  obtain ⟨workspace, workspaces, isSession⟩ := parts.workspace
  obtain ⟨session, sessions, _⟩ := parts.session
  have fileFound : system.files[0]? = some file := by
    rw [files]
    rfl
  have workspaceFound : system.workspaces[file.workspace]? = some workspace := by
    rw [workspaces, isWorkspace]
    rfl
  have sessionFound : system.sessions[workspace.session]? = some session := by
    rw [sessions, isSession]
    rfl
  simp only [System.changeFile, fileFound, isOpen, Bool.not_true, Bool.false_eq_true, if_false]
  cases inRange : isVersion version with
  | false =>
      refine Or.inl ⟨_, system, fun takes => ?_, Or.inl rfl, rfl⟩
      rw [takes.inRange] at inRange
      cases inRange
  | true =>
      cases closed : session.closed with
      | true =>
          refine Or.inl ⟨.sessionClosed Method.didChange, system, fun takes => ?_, Or.inl rfl, ?_⟩
          · have isOpenSession := takes.inSession session (by rw [sessions]; exact List.mem_cons_self)
            rw [closed] at isOpenSession
            cases isOpenSession
          · simp [System.notifyIn, workspaceFound, System.notify, sessionFound, closed, Step.failed]
      | false =>
          have isWrite : system.notifyIn file.workspace Method.didChange
              (didChangeParams file.uri version text) =
                system.write workspace.session Method.didChange (changeFrame uri version text) := by
            simp [System.notifyIn, workspaceFound, System.notify, sessionFound, closed,
              isWritable_didChangeParams, changeFrame, isUri]
          simp only [Bool.not_true, Bool.false_eq_true, if_false, isWrite]
          cases holding : system.peer.holding with
          | true =>
              exact Or.inr (Or.inl ⟨session.link, rfl,
                System.write_of_holding Method.didChange _ sessionFound holding⟩)
          | false =>
              cases refused : system.peer.refusalOf? (changeFrame uri version text) with
              | some failure =>
                  refine Or.inl ⟨_, _, fun takes => ?_, Or.inr ⟨session.link, rfl⟩,
                    System.write_of_refusal Method.didChange sessionFound holding refused⟩
                  rw [takes.unrefused] at refused
                  cases refused
              | none =>
                  exact Or.inr (Or.inr ⟨session.link,
                    System.write_of_acceptance Method.didChange sessionFound holding refused⟩)

/-- A change that nothing keeps back is accepted at once. -/
theorem changeFile_of_takes
    {version : Int} {text : String} (parts : SyncParts uri synchronizer system)
    (isOpen : system.isOpen 0 = true) (takes : system.Takes uri version text)
    (atOnce : system.peer.holding = false) :
    ∃ link, system.changeFile 0 version text =
      ((system.note (.handed link (changeFrame uri version text))).accept link
        (changeFrame uri version text), .ended (.returned .nothing)) := by
  rcases changeFile_cases parts isOpen version text with
    ⟨_, _, refused, _⟩ | ⟨_, holding, _⟩ | accepted
  · exact (refused takes).elim
  · rw [atOnce] at holding
    cases holding
  · exact accepted

end Handing

/-! ## Deliveries -/

theorem System.deliveries_of_journal
    {before after : System} (uri : String) (journal : after.journal = before.journal) :
    after.deliveries uri = before.deliveries uri := by
  simp only [System.deliveries, journal]

theorem System.note_deliveries
    (system : System) {occurrence : Occurrence} (uri : String)
    (other : ∀ link frame, occurrence ≠ .accepted link frame) :
    (system.note occurrence).deliveries uri = system.deliveries uri := by
  simp only [System.deliveries, System.note, List.filterMap_append]
  cases occurrence with
  | accepted link frame => exact (other link frame rfl).elim
  | _ => simp

theorem System.log_deliveries
    (system : System) (level : LogLevel) (origin : LogSource) (text uri : String) :
    (system.log level origin text).deliveries uri = system.deliveries uri :=
  system.note_deliveries uri nofun

theorem System.accept_deliveries
    (system : System) (link : Nat) (frame : Value) (uri : String) :
    (system.accept link frame).deliveries uri =
      system.deliveries uri ++ (delivery? uri frame).toList := by
  simp only [System.deliveries, System.accept, System.deliver, System.onLoop, System.note,
    List.filterMap_append]
  cases delivered : delivery? uri frame with
  | none => simp [delivered]
  | some delivery => simp [delivered]

theorem System.wakeFirst_journal (system : System) (synchronizer : Nat) :
    (system.wakeFirst synchronizer).journal = system.journal := by
  unfold System.wakeFirst
  split <;> rfl

theorem System.release_deliveries (system : System) (uri : String) :
    (system.release 0).deliveries uri = system.deliveries uri :=
  System.deliveries_of_journal uri (System.wakeFirst_journal _ 0)

/-! ## The end of a change -/

theorem SyncPassage.accept
    {calm : Prop} {uri : String} {running : Option Nat} {before system : System}
    {synchronizer : Synchronizer}
    (passage : SyncPassage calm uri running before synchronizer system) (link : Nat)
    (frame : Value) :
    SyncPassage calm uri running before synchronizer (system.accept link frame) := by
  have behaved := passage.withPeer (system.peer.accept frame).2 fun promise member => by
    rw [detained_accept] at member
    exact member
  exact (behaved.note (.accepted link frame)).deliver link _

theorem SyncPassage.holdBack
    {calm : Prop} {uri : String} {running : Option Nat} {before system : System}
    {synchronizer : Synchronizer}
    (passage : SyncPassage calm uri running before synchronizer system) :
    SyncPassage calm uri running before synchronizer system.holdBack := by
  refine passage.detain _ fun promise member => ?_
  simp only [Peer.detained, List.mem_append, List.mem_singleton] at member ⊢
  rcases member with (earlier | added) | closing
  · exact Or.inl (Or.inl earlier)
  · exact Or.inr added
  · exact Or.inl (Or.inr closing)

/-- A change that was delivered sets the version and gives the lock back. -/
def System.commitChange (system : System) (version : Nat) : System :=
  (system.modifySynchronizer 0 fun found => { found with version }).release 0

/-- A change that was not delivered marks the text again as it was and gives the lock back. -/
def System.restoreChange (system : System) (wasDirty : Bool) : System :=
  (system.modifySynchronizer 0 fun found =>
    { found with dirty := found.dirty || wasDirty }).release 0

theorem resumeChanging_returned
    (version : Nat) (wasDirty : Bool) (system : System) (reply : Reply) :
    System.resumeChanging 0 version wasDirty system (.returned reply) =
      (system.commitChange version, .ended (.returned .nothing)) :=
  rfl

theorem resumeChanging_not_returned
    {ending : Outcome Reply} (version : Nat) (wasDirty : Bool) (system : System)
    (notReturned : ∀ reply, ending ≠ .returned reply) :
    System.resumeChanging 0 version wasDirty system ending =
      (system.restoreChange wasDirty, .ended ending) := by
  cases ending with
  | returned reply => exact (notReturned reply rfl).elim
  | failed _ => rfl
  | cancelled => rfl

section Ends

variable {calm : Prop} {uri : String} {running : Option Nat} {before system : System}
  {synchronizer : Synchronizer} {change : Change}

theorem commitChange_deliveries (system : System) (uri : String) (link : Nat) (change : Change) :
    ((system.accept link (changeFrame uri change.version change.text)).commitChange
        change.version).deliveries uri =
      system.deliveries uri ++ [.changed change.version change.text] := by
  refine (System.release_deliveries _ uri).trans ?_
  refine (system.accept_deliveries link _ uri).trans ?_
  rw [delivery?_changeFrame]
  rfl

theorem commitChange_passage
    (passage : SyncPassage calm uri running before synchronizer system)
    (ledger : Ledger (some change) synchronizer (system.deliveries uri)) (link : Nat) :
    let later : Synchronizer := { synchronizer with
      version := change.version
      lock := { synchronizer.lock with held := false } }
    let after := (system.accept link
      (changeFrame uri change.version change.text)).commitChange change.version
    SyncPassage calm uri running before later after ∧
      Ledger none later (after.deliveries uri) ∧ system.Steady after := by
  intro later after
  have accepted := passage.accept link (changeFrame uri change.version change.text)
  have changed := accepted.modifySynchronizer
    (fun found => { found with version := change.version }) rfl passage.parts.attached
  refine ⟨changed.release, ?_, ?_⟩
  · rw [commitChange_deliveries]
    exact ledger.deliver rfl rfl rfl rfl
  · exact ((system.accept_steady link _).trans
      (System.modifySynchronizer_steady _ 0 _)).trans (System.release_steady _ 0)

theorem restoreChange_passage
    (passage : SyncPassage calm uri running before synchronizer system)
    (ledger : Ledger (some change) synchronizer (system.deliveries uri)) :
    let later : Synchronizer := { synchronizer with
      dirty := synchronizer.dirty || change.wasDirty
      lock := { synchronizer.lock with held := false } }
    let after := system.restoreChange change.wasDirty
    SyncPassage calm uri running before later after ∧
      Ledger none later (after.deliveries uri) ∧ system.Steady after := by
  intro later after
  have changed := passage.modifySynchronizer
    (fun found => { found with dirty := found.dirty || change.wasDirty }) rfl
    passage.parts.attached
  refine ⟨changed.release, ?_, ?_⟩
  · have same : after.deliveries uri = system.deliveries uri := System.release_deliveries _ uri
    rw [same]
    exact ledger.restore rfl rfl rfl rfl
  · exact (System.modifySynchronizer_steady _ 0 _).trans (System.release_steady _ 0)

end Ends

/-! ## The end of a turn -/

theorem settleTask_isReady (task completion : Nat) (result : Step) :
    (System.settleTask task completion result).isReady 0 = result.1.isReady 0 := by
  obtain ⟨current, outcome | ⟨frames, promise⟩⟩ := result
  · rfl
  · rfl

theorem settleTask_deliveries (uri : String) (task completion : Nat) (result : Step) :
    (System.settleTask task completion result).deliveries uri = result.1.deliveries uri := by
  obtain ⟨current, outcome | ⟨frames, promise⟩⟩ := result
  · exact current.note_deliveries uri nofun
  · rfl

theorem settleTask_deliveredText? (uri : String) (task completion : Nat) (result : Step) :
    (System.settleTask task completion result).deliveredText? uri =
      result.1.deliveredText? uri := by
  simp only [System.deliveredText?, settleTask_deliveries]

end LanguageClient.Client
