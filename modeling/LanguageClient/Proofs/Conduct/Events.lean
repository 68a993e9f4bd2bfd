import LanguageClient.Proofs.Conduct.Editor
import LanguageClient.Proofs.History

/-!
# The conduct of callbacks

A callback that lets no task go on does nothing about documents: texts of the peer settle requests,
start tasks that answer it and reach listeners, and timers end requests or start sends.
-/

namespace LanguageClient.Loop

/-- The promises that a callback settles by itself. -/
def Callback.promises : Callback Client.Action → List Nat
  | .memberEnded promise | .fire _ (.wake promise) | .act (.wake promise) => [promise]
  | _ => []

end LanguageClient.Loop

namespace LanguageClient.Client.System

open LanguageClient.Json LanguageClient.Loop LanguageClient.Number LanguageClient.Protocol

variable {held : List Nat} {before system : System}

theorem isQueryFailure_of_responseFailure
    {error : Value} {failure : Failure} (represented : responseFailure error = .ok failure) :
    failure.isQueryFailure = true := by
  have isResponse : ∀ members : List (String × Value),
      (if isVersion (errorCode (member? "code" members)).1 then
        Except.ok (Failure.response (ResponseError.of (errorCode (member? "code" members)).1
          (errorCode (member? "code" members)).2
          (((member? "message" members).map Value.display).getD "")
          ((member? "data" members).getD .null)))
      else .error Failure.outOfRange) = .ok failure → failure.isQueryFailure = true := by
    intro members isFailure
    split at isFailure
    · rw [← Except.ok.inj isFailure]
      rfl
    · cases isFailure
  exact isResponse _ represented

section Events

variable (respects : Respects held before system)

include respects

/-! ## Messages of the peer -/

theorem takeRequest_idles (session : Nat) (id : Value) :
    Idles held before system (system.takeRequest session id) := by
  unfold takeRequest
  split
  · exact .refl respects
  · split
    · exact .refl respects
    · have spawned : Respects held before (system.spawn (.answer session id)) :=
        respects.spawn (Or.inl ⟨session, id, rfl⟩)
      have watched := spawned.whenEnded system.nextTask (.answerEnded session system.nextTask)
      refine ⟨?_, watched.modifySession session fun found task member => ?_⟩
      · have waits : Aside system ((system.spawn (.answer session id)).whenEnded system.nextTask
            (.answerEnded session system.nextTask)) := by
          unfold whenEnded
          split
          · exact .of_same rfl rfl rfl rfl rfl
          · exact .of_same rfl rfl rfl rfl rfl
        exact waits.trans (.modifySession _ (fun _ => rfl) fun _ => fun closed => closed)
      · rcases List.mem_append.mp member with earlier | isNew
        · exact Or.inl earlier
        · obtain rfl := List.mem_singleton.mp isNew
          exact Or.inr ⟨respects.loop.nextTask, nextTask_lt_watched _ _ _ _⟩

theorem endAnswer_idles (session task : Nat) :
    Idles held before system (system.endAnswer session task) := by
  have forgotten : Idles held before system (system.modifySession session fun found =>
      { found with answers := found.answers.filter fun other => other ≠ task }) :=
    .modifySession respects session (fun _ => rfl) (fun _ => id)
      fun _ _ member => (List.mem_filter.mp member).1
  unfold endAnswer
  simp only
  split
  · exact forgotten.trans (.log forgotten.respects _ _ _)
  · exact forgotten
  · exact forgotten
  · exact forgotten

theorem takeResponse_idles (session : Nat) (id : String) (message : Value) :
    Idles held before system (system.takeResponse session id message).1 := by
  unfold takeResponse
  split
  · exact .log respects _ _ _
  · split
    · exact .settle respects (Or.inr (Or.inr (Or.inr trivial)))
    · split
      · rename_i failure represented
        exact .settle respects
          (Or.inr (Or.inr (Or.inr (isQueryFailure_of_responseFailure represented))))
      · exact .refl respects

theorem showDiagnostics_idles (editor : Nat) (published : PublishedDiagnostics) :
    Idles held before system (system.showDiagnostics editor published).1 := by
  unfold showDiagnostics
  split
  · exact .refl respects
  · have shown (change : Editor → Editor) := modifyEditor_idles respects editor change
    simp only
    split
    · exact shown _
    · exact (shown _).trans (.note (shown _).respects rfl)

theorem publish_idles (listener : DocumentListener) (params : Value) :
    Idles held before system (system.publish listener params showDiagnostics).1 := by
  unfold publish
  split
  · exact .refl respects
  · split
    · exact showDiagnostics_idles respects _ _
    · exact .note respects rfl

theorem takeNotification_idles (workspace : Nat) (method params : Value) :
    Idles held before system
      (takeNotification showDiagnostics system workspace method params).1 := by
  unfold takeNotification
  split
  · exact .refl respects
  · split
    · split
      · exact .refl respects
      · exact .refl respects
      · exact publish_idles respects _ params
    · split
      · unfold showMessage
        split
        · exact .log respects _ _ _
        · exact .refl respects
      · exact .refl respects

theorem takeMessage_idles (session : Nat) (raw : String) :
    Idles held before system
      (system.takeMessage session raw (takeNotification showDiagnostics)).1 := by
  unfold takeMessage
  split
  · exact .log respects _ _ _
  · exact .refl respects
  · rename_i members _
    simp only
    split
    · exact takeRequest_idles respects session _
    · split
      · exact .log respects _ _ _
      · exact .log respects _ _ _
      · rename_i method _ _ _ listener _ _
        have told := fun workspace => takeNotification_idles respects workspace method
          (((Value.object members).get? "params").getD .null)
        cases listener with
        | nobody => exact .refl respects
        | workspace workspace =>
            simp only
            split
            · exact told workspace
            · exact (told workspace).trans (.log (told workspace).respects _ _ _)
        | host fails =>
            have heard : Idles held before system (system.note (.told (.notification method
                (((Value.object members).get? "params").getD .null)))) :=
              .note respects rfl
            simp only
            split
            · exact heard
            · exact heard.trans (.log heard.respects _ _ _)
    · exact takeResponse_idles respects session _ _
    · exact .log respects _ _ _
  · exact .log respects _ _ _

theorem receive_idles (link : Nat) (text : String) :
    Idles held before system (system.receive link text) := by
  unfold receive
  split
  · exact .refl respects
  · rename_i session _
    have taken := takeMessage_idles respects session text
    split
    · rename_i later result
      rw [result] at taken
      exact taken
    · rename_i later failure result
      rw [result] at taken
      exact taken.trans (.note taken.respects rfl)

theorem drop_idles (link : Nat) : Idles held before system (system.drop link) := by
  unfold drop
  split
  · exact .refl respects
  · exact loseConnection_idles respects _

/-! ## Callbacks -/

theorem act_idles
    (action : Action) (owns : ∀ promise ∈ (Callback.act action).promises, before.Owns held promise) :
    Idles held before system (system.act action) := by
  cases action with
  | discard session id => exact discard_idles respects session id
  | expire session id => exact expire_idles respects session id
  | answerEnded session task => exact endAnswer_idles respects session task
  | debounce synchronizer => exact debounce_idles respects synchronizer
  | sendEnded synchronizer task => exact endSend_idles respects synchronizer task
  | deliver link text => exact receive_idles respects link text
  | wake promise =>
      exact .settle respects (Or.inl (owns promise (List.mem_singleton.mpr rfl)))

theorem runCallback_idles
    {callback : Callback Action} (other : callback.resumed? = none)
    (owns : ∀ promise ∈ callback.promises, before.Owns held promise) :
    Idles held before system (system.runCallback callback) := by
  cases callback with
  | resume task => cases other
  | memberEnded promise =>
      have settles : ∀ outcome, before.MaySettle held promise outcome := fun _ =>
        Or.inl (owns promise (List.mem_singleton.mpr rfl))
      exact ⟨.onLoop system _,
        respects.onLoop (Scheduler.endMember_stands fun _ _ => settles _)⟩
  | fire timer action =>
      refine act_idles respects action fun promise member => owns promise ?_
      cases action <;> exact member
  | act action => exact act_idles respects action owns
  | skipped => exact .refl respects

/-! ## The host, the peer and the clock -/

theorem releases_idles {after : System} (releases : system.Releases after) :
    Idles held before system after := by
  cases releases with
  | nothing => exact .refl respects
  | @promise promise peer detained fewer kept =>
      have signal : promise ∈ system.signals := List.mem_append_left _ detained
      have released : Respects held before { system with peer } := by
        refine respects.of_sameLoop rfl (fun _ => id) fun other member => ?_
        exact (List.mem_append.mp member).elim (fun inside => List.mem_append_left _ (fewer other inside))
          (List.mem_append_right _)
      exact ⟨.of_same rfl rfl rfl rfl rfl, released.settle (respects.maySettle_signal signal)⟩

theorem withPeer_idles (peer : Peer) : Idles held before system (system.withPeer peer) :=
  ⟨.of_same rfl rfl rfl rfl rfl, respects.of_sameLoop rfl (fun _ => id) fun _ => id⟩

theorem moveClock_idles (moment : Rat) :
    Idles held before system (system.onLoop (·.moveClock moment)) :=
  ⟨.onLoop system _, respects.onLoop (system.loop.moveClock_stands moment)⟩

omit respects in
theorem noteEscaped_idles
    {result : System × Option Failure} (idles : Idles held before system result.1) :
    Idles held before system (noteEscaped result) := by
  obtain ⟨later, failure⟩ := result
  cases failure with
  | none => exact idles
  | some failure => exact idles.trans (.note idles.respects rfl)

theorem editText_idles (editor : Nat) (text : String) :
    Idles held before system (system.editText editor text).1 := by
  unfold editText
  split
  · exact .refl respects
  · exact edit_idles respects _ text

end Events

end LanguageClient.Client.System
