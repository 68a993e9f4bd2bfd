import LanguageClient.Proofs.Conduct.Workspace

/-!
# The conduct of a synchronizer

A flush hands over at most one change, through the handle that the synchronizer has when it has the
lock. The lock is handed on to the first of those who wait.
-/

namespace LanguageClient.Client.System

open LanguageClient.Json LanguageClient.Loop LanguageClient.Number LanguageClient.Protocol

variable {held : List Nat} {before system : System}

theorem mem_signals_of_lock
    {synchronizer promise : Nat} (waits : promise ∈ (system.lockOf synchronizer).waiters) :
    promise ∈ system.signals := by
  unfold lockOf at waits
  cases known : system.synchronizers[synchronizer]? with
  | none =>
      rw [known] at waits
      exact absurd waits List.not_mem_nil
  | some found =>
      rw [known] at waits
      refine List.mem_append_right _ (List.mem_flatMap.mpr ?_)
      exact ⟨found, List.mem_of_getElem? known, waits⟩

section Synchronizer

variable (respects : Respects held before system)

include respects

/-! ## The timer -/

/-- A change of a synchronizer that adds neither sends nor waiters. -/
theorem modifySynchronizer_idles
    (synchronizer : Nat) {change : Synchronizer → Synchronizer}
    (sends : ∀ found : Synchronizer, ∀ task ∈ (change found).sends, task ∈ found.sends)
    (waiters : ∀ found : Synchronizer, ∀ promise ∈ (change found).lock.waiters,
      promise ∈ found.lock.waiters) :
    Idles held before system (system.modifySynchronizer synchronizer change) where
  aside := .of_same rfl rfl rfl rfl (List.length_modify ..)
  respects := respects.modifySynchronizer synchronizer
    (fun found task member => Or.inl (sends found task member))
    fun found promise member => Or.inl (waiters found promise member)

theorem cancelTimer_idles (synchronizer : Nat) :
    Idles held before system (system.cancelTimer synchronizer) := by
  unfold cancelTimer
  split
  · exact .refl respects
  · rename_i timer _
    have disarmed := Idles.disarm respects timer
    exact disarmed.trans
      (modifySynchronizer_idles disarmed.respects synchronizer (fun _ _ => id) fun _ _ => id)

theorem schedule_idles (synchronizer : Nat) :
    Idles held before system (system.schedule synchronizer).1 := by
  have cancelled := cancelTimer_idles respects synchronizer
  unfold schedule
  simp only
  split
  · exact cancelled
  · split
    · exact cancelled
    · rename_i delay _
      have armed : Idles held before (system.cancelTimer synchronizer)
          ((system.cancelTimer synchronizer).onLoop (·.arm delay (.debounce synchronizer))) :=
        ⟨.onLoop _ _, cancelled.respects.arm delay _⟩
      exact (cancelled.trans armed).trans
        (modifySynchronizer_idles armed.respects synchronizer (fun _ _ => id) fun _ _ => id)

theorem debounce_idles (synchronizer : Nat) :
    Idles held before system (system.debounce synchronizer) := by
  have spawned : Respects held before (system.spawn (.sendDebounced synchronizer)) :=
    respects.spawn (Or.inr ⟨synchronizer, rfl⟩)
  have watched := spawned.whenEnded system.nextTask (.sendEnded synchronizer system.nextTask)
  refine ⟨?_, watched.modifySynchronizer synchronizer ?_ fun _ _ => Or.inl⟩
  · unfold debounce whenEnded
    simp only
    split
    · exact .of_same rfl rfl rfl rfl (List.length_modify ..)
    · exact .of_same rfl rfl rfl rfl (List.length_modify ..)
  · intro found task member
    rcases List.mem_append.mp member with earlier | isNew
    · exact Or.inl earlier
    · obtain rfl := List.mem_singleton.mp isNew
      exact Or.inr ⟨respects.loop.nextTask, nextTask_lt_watched _ _ _ _⟩

theorem endSend_idles (synchronizer task : Nat) :
    Idles held before system (system.endSend synchronizer task) :=
  modifySynchronizer_idles respects synchronizer
    (fun _ _ member => (List.mem_filter.mp member).1) fun _ _ => id

/-! ## Edits -/

theorem attach_idles (synchronizer file : Nat) (openedText : String) :
    Idles held before system (system.attach synchronizer file openedText).1 := by
  have attached : Idles held before system (system.modifySynchronizer synchronizer fun found =>
      { found with file := some file, version := 0, dirty := found.text ≠ openedText }) :=
    modifySynchronizer_idles respects synchronizer (fun _ _ => id) fun _ _ => id
  unfold attach
  simp only
  split
  · exact attached.trans (schedule_idles attached.respects synchronizer)
  · exact attached

theorem edit_idles (synchronizer : Nat) (text : String) :
    Idles held before system (system.edit synchronizer text).1 := by
  have edited : Idles held before system (system.modifySynchronizer synchronizer fun found =>
      { found with text, dirty := true }) :=
    modifySynchronizer_idles respects synchronizer (fun _ _ => id) fun _ _ => id
  unfold edit
  simp only
  split
  · exact edited.trans (schedule_idles edited.respects synchronizer)
  · exact edited

/-! ## The lock -/

theorem wakeFirst_idles (synchronizer : Nat) :
    Idles held before system (system.wakeFirst synchronizer) := by
  unfold wakeFirst
  split
  · exact .refl respects
  · rename_i promise others waiters
    have waits : promise ∈ (system.lockOf synchronizer).waiters :=
      waiters ▸ List.mem_cons_self
    exact .settle respects (respects.maySettle_signal (mem_signals_of_lock waits))

theorem release_idles (synchronizer : Nat) :
    Idles held before system (system.release synchronizer) := by
  have freed : Idles held before system
      (system.modifyLock synchronizer fun lock => { lock with held := false }) :=
    modifySynchronizer_idles respects synchronizer (fun _ _ => id) fun _ _ => id
  exact freed.trans (wakeFirst_idles freed.respects synchronizer)

/-! ## Sends -/

theorem resumeChanging_conducts
    (synchronizer version : Nat) (wasDirty : Bool) (outcome : Outcome Reply) :
    (resumeChanging synchronizer version wasDirty system outcome).Conducts held before 1 system := by
  have restored : Idles held before system (system.modifySynchronizer synchronizer fun found =>
      { found with dirty := found.dirty || wasDirty }) :=
    modifySynchronizer_idles respects synchronizer (fun _ _ => id) fun _ _ => id
  have released := restored.trans (release_idles restored.respects synchronizer)
  cases outcome with
  | returned reply =>
      have committed : Idles held before system
          (system.modifySynchronizer synchronizer fun found => { found with version }) :=
        modifySynchronizer_idles respects synchronizer (fun _ _ => id) fun _ _ => id
      exact (committed.trans (release_idles committed.respects synchronizer)).ended
        Language.nil_mem_one _
  | failed failure => exact released.ended Language.nil_mem_one _
  | cancelled => exact released.ended Language.nil_mem_one _

theorem takeLock_idles (synchronizer : Nat) :
    Idles held before system
      (system.modifyLock synchronizer fun lock => { lock with held := true }) :=
  modifySynchronizer_idles respects synchronizer (fun _ _ => id) fun _ _ => id

theorem changeLocked_conducts (synchronizer : Nat) (force : Bool) :
    (system.changeLocked synchronizer force).Conducts held before flushingCourse system := by
  have released := release_idles respects synchronizer
  unfold changeLocked
  split
  · exact (Idles.refl respects).ended nil_mem_flushingCourse _
  · rename_i found known
    split
    · exact released.ended nil_mem_flushingCourse _
    · rename_i file _
      split
      · exact released.ended nil_mem_flushingCourse _
      · have taken : Idles held before system
            (system.modifySynchronizer synchronizer fun found => { found with dirty := false }) :=
          modifySynchronizer_idles respects synchronizer (fun _ _ => id) fun _ _ => id
        have changes := changeFile_conducts taken.respects file (found.version + 1) found.text
        have flushes := changes.mono fun deeds isWord =>
          (show deeds ∈ flushingCourse from ⟨file, isWord⟩)
        exact .after_aside (flushes.andThen_silent rfl nofun trivial
          fun later outcome _ laterRespects =>
            resumeChanging_conducts laterRespects synchronizer (found.version + 1) found.dirty
              outcome) taken.aside

theorem resumeLocking_conducts
    (synchronizer promise : Nat) (force : Bool) (outcome : Outcome Reply) :
    (resumeLocking synchronizer promise force system outcome).Conducts held before flushingCourse
      system := by
  have left : Idles held before system (system.modifyLock synchronizer fun lock =>
      { lock with waiters := lock.waiters.filter fun other => other ≠ promise }) :=
    modifySynchronizer_idles respects synchronizer (fun _ _ => id)
      fun _ _ member => (List.mem_filter.mp member).1
  have gaveUp := left.trans (wakeFirst_idles left.respects synchronizer)
  unfold resumeLocking
  simp only
  split
  · have taken := left.trans (takeLock_idles left.respects synchronizer)
    exact .after_aside (changeLocked_conducts taken.respects synchronizer force) taken.aside
  · split
    · exact left.ended nil_mem_flushingCourse _
    · exact gaveUp.ended nil_mem_flushingCourse _
  · split
    · exact left.ended nil_mem_flushingCourse _
    · exact gaveUp.ended nil_mem_flushingCourse _

theorem sendChange_conducts (synchronizer : Nat) (force : Bool) :
    (system.sendChange synchronizer force).Conducts held before flushingCourse system := by
  unfold sendChange
  simp only
  split
  · have taken := takeLock_idles respects synchronizer
    exact .after_aside (changeLocked_conducts taken.respects synchronizer force) taken.aside
  · have joined : Respects held before (system.addPromise.modifyLock synchronizer fun lock =>
        { lock with waiters := lock.waiters ++ [system.nextPromise] }) := by
      refine respects.addPromise.modifySynchronizer synchronizer (fun _ _ => Or.inl) ?_
      intro found promise member
      rcases List.mem_append.mp member with earlier | isNew
      · exact Or.inl earlier
      · obtain rfl := List.mem_singleton.mp isNew
        exact Or.inr ⟨respects.loop.grown, by simp [System.addPromise, System.nextPromise, onLoop]⟩
    have owns : ∀ promise ∈ (Frame.locking synchronizer system.nextPromise force).promises,
        before.Owns held promise :=
      fun promise inside => List.mem_singleton.mp inside ▸ respects.owns_next
    have aside : Aside system (system.addPromise.modifyLock synchronizer fun lock =>
        { lock with waiters := lock.waiters ++ [system.nextPromise] }) :=
      .of_same rfl rfl rfl rfl (List.length_modify ..)
    refine .after_aside ?_ aside
    exact (await_conducts joined respects.owns_next).silent_andThen rfl owns trivial
      fun later outcome _ laterRespects =>
        resumeLocking_conducts laterRespects synchronizer system.nextPromise force outcome

theorem flush_conducts (synchronizer : Nat) (force : Bool) :
    (system.flush synchronizer force).Conducts held before flushingCourse system := by
  have cancelled := cancelTimer_idles respects synchronizer
  unfold flush
  simp only
  split
  · exact .after_aside (sendChange_conducts cancelled.respects synchronizer force) cancelled.aside
  · exact cancelled.ended nil_mem_flushingCourse _

theorem resumeSendingDebounced_conducts (synchronizer : Nat) (outcome : Outcome Reply) :
    (resumeSendingDebounced synchronizer system outcome).Conducts held before 1 system := by
  cases outcome with
  | returned reply => exact (Idles.refl respects).ended Language.nil_mem_one _
  | failed failure => exact (Idles.log respects _ _ _).ended Language.nil_mem_one _
  | cancelled => exact (Idles.refl respects).ended Language.nil_mem_one _

theorem sendDebounced_conducts (synchronizer : Nat) :
    (system.sendDebounced synchronizer).Conducts held before flushingCourse system :=
  (sendChange_conducts respects synchronizer false).andThen_silent rfl nofun trivial
    fun _ outcome _ laterRespects =>
      resumeSendingDebounced_conducts laterRespects synchronizer outcome

/-! ## Closing -/

theorem resumeDetaching_conducts (synchronizer : Nat) (outcome : Outcome Reply) :
    (resumeDetaching synchronizer system outcome).Conducts held before 1 system := by
  have detached : Idles held before system
      (system.modifySynchronizer synchronizer fun found => { found with file := none }) :=
    modifySynchronizer_idles respects synchronizer (fun _ _ => id) fun _ _ => id
  cases outcome with
  | returned reply => exact detached.ended Language.nil_mem_one _
  | failed failure => exact (Idles.refl respects).ended Language.nil_mem_one _
  | cancelled => exact (Idles.refl respects).ended Language.nil_mem_one _

theorem closeAttached_conducts (synchronizer : Nat) :
    (system.closeAttached synchronizer).Conducts held before detachingCourse system := by
  unfold closeAttached
  split
  · exact (Idles.refl respects).ended nil_mem_detachingCourse _
  · rename_i file _
    have closes := (closeFile_conducts respects file).mono fun deeds isWord =>
      (show deeds ∈ detachingCourse from ⟨file, isWord⟩)
    exact closes.andThen_silent rfl nofun trivial fun later outcome _ laterRespects =>
      resumeDetaching_conducts laterRespects synchronizer outcome

theorem resumeSettlingSends_conducts (synchronizer : Nat) (outcome : Outcome Reply) :
    (resumeSettlingSends synchronizer system outcome).Conducts held before detachingCourse
      system := by
  cases outcome with
  | returned reply => exact closeAttached_conducts respects synchronizer
  | failed failure => exact (Idles.refl respects).ended nil_mem_detachingCourse _
  | cancelled => exact (Idles.refl respects).ended nil_mem_detachingCourse _

theorem mayCancel_sends (synchronizer : Nat) :
    ∀ task ∈ ((system.synchronizers[synchronizer]?).map (·.sends)).getD [],
      before.MayCancel system.nextTask task := by
  intro task inside
  cases known : system.synchronizers[synchronizer]? with
  | none =>
      rw [known] at inside
      exact absurd inside List.not_mem_nil
  | some found =>
      rw [known] at inside
      refine respects.mayCancel_ownTask (List.mem_append_right _ (List.mem_flatMap.mpr ?_))
      exact ⟨found, List.mem_of_getElem? known, inside⟩

theorem closeSynchronizer_conducts (synchronizer : Nat) :
    (system.closeSynchronizer synchronizer).Conducts held before detachingCourse system := by
  have cancelled := cancelTimer_idles respects synchronizer
  unfold closeSynchronizer
  simp only
  split
  · exact .after_aside (closeAttached_conducts cancelled.respects synchronizer) cancelled.aside
  · rename_i sends isSends
    have own : ∀ task ∈ ((system.cancelTimer synchronizer).synchronizers[synchronizer]?.map
        (·.sends)).getD [], before.MayCancel (system.cancelTimer synchronizer).nextTask task :=
      mayCancel_sends cancelled.respects synchronizer
    have gathered := cancelled.respects.gather own
    have waits := await_conducts gathered cancelled.respects.owns_next
    have aside := cancelled.aside.trans (.onLoop (system.cancelTimer synchronizer) fun loop =>
      loop.gather (((system.cancelTimer synchronizer).synchronizers[synchronizer]?.map
        (·.sends)).getD []) .nothing)
    exact .after_aside (waits.silent_andThen rfl nofun trivial fun later outcome _ laterRespects =>
      resumeSettlingSends_conducts laterRespects synchronizer outcome) aside

end Synchronizer

end LanguageClient.Client.System
