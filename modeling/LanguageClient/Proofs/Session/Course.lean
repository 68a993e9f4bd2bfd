import Mathlib.Logic.Relation
import LanguageClient.Proofs.Loop.Wakeful
import LanguageClient.Proofs.Session.World

/-!
# The course of a session

Whatever the code of a session does between two changes of its table is a sequence of a few moves:
it notes something, settles a promise, starts or cancels a task, or lets a callback wait. No move
arms or disarms a timer, and none loses a callback.
-/

namespace LanguageClient.Client

open LanguageClient.Json LanguageClient.Loop LanguageClient.Number Relation

/-- What the table of a session holds, and whether the session is closed. -/
def Session.table (session : Session) : List PendingRequest × Bool :=
  (session.pending, session.closed)

/-- One thing that the code of a session does, which leaves the tables as they are. -/
inductive Move (system : System) : System → Prop where
  | note (occurrence : Occurrence) : Move system (system.note occurrence)
  | peer (peer : Peer) : Move system { system with peer }
  | links (links : List Link) : Move system { system with links }
  | workspaces (workspaces : List Workspace) : Move system { system with workspaces }
  | session (session : Nat) {change : Session → Session}
      (keeps : ∀ found, (change found).table = found.table) :
      Move system (system.modifySession session change)
  | addPromise : Move system system.addPromise
  | settle (promise : Nat) (outcome : Outcome Reply) : Move system (system.settle promise outcome)
  | deliver (link : Nat) (frames : List Value) : Move system (system.deliver link frames)
  | spawn (call : Call) : Move system (system.spawn call)
  | whenEnded (task session answer : Nat) :
      Move system (system.whenEnded task (.answerEnded session answer))
  | cancel (task : Nat) : Move system (system.onLoop (·.cancel task))

/-- A client comes from another one by moves. -/
abbrev Course : System → System → Prop := ReflTransGen Move

section Functions

variable (system : System)

theorem log_course (level : LogLevel) (origin : LogSource) (text : String) :
    Course system (system.log level origin text) :=
  .single (.note _)

theorem andThen_course
    {step : Step} {frame : Frame} {rest : System → Outcome Reply → Step}
    (first : Course system step.1)
    (second : ∀ later outcome, Course later (rest later outcome).1) :
    Course system (step.andThen frame rest).1 := by
  obtain ⟨later, outcome | ⟨frames, promise⟩⟩ := step
  · exact first.trans (second later outcome)
  · exact first

theorem await_course (promise : Nat) : Course system (system.await promise).1 := by
  unfold System.await
  split
  · exact .refl
  · exact .refl

/-! ## Writing -/

theorem takeFrame_course (link : Nat) (frame : Value) :
    Course system (system.takeFrame link frame).1 := by
  unfold System.takeFrame
  split
  · exact .refl
  · exact ((ReflTransGen.single (.peer _)).tail (.note _)).tail (.deliver _ _)

theorem resumeSending_course (link : Nat) (frame : Value) (outcome : Outcome Reply) :
    Course system (System.resumeSending link frame system outcome).1 := by
  cases outcome with
  | returned _ => exact takeFrame_course system link frame
  | failed _ => exact .refl
  | cancelled => exact .refl

theorem resumeWriting_course (subject : String) (outcome : Outcome Reply) :
    Course system (System.resumeWriting subject system outcome).1 := by
  cases outcome <;> exact .refl

theorem send_course (link : Nat) (frame : Value) : Course system (system.send link frame).1 := by
  have noted : Course system (system.note (.handed link frame)) := .single (.note _)
  unfold System.send
  simp only
  split
  · refine andThen_course system ?_ fun later => resumeSending_course later link frame
    exact ((noted.tail .addPromise).tail (.peer _)).trans (await_course _ _)
  · exact noted.trans (takeFrame_course _ link frame)

theorem write_course (session : Nat) (subject : String) (frame : Value) :
    Course system (system.write session subject frame).1 := by
  unfold System.write
  split
  · exact .refl
  · exact andThen_course system (send_course system _ frame) fun later =>
      resumeWriting_course later subject

theorem notify_course (session : Nat) (method : String) (params : Option Value) :
    Course system (system.notify session method params).1 := by
  unfold System.notify
  split
  · exact .refl
  · split
    · exact .refl
    · split
      · exact write_course system session method _
      · exact .refl

theorem resumeRequesting_course (promise : Nat) (outcome : Outcome Reply) :
    Course system (System.resumeRequesting promise system outcome).1 := by
  cases outcome with
  | returned _ => exact await_course system promise
  | failed _ => exact .single (.settle _ _)
  | cancelled => exact .single (.settle _ _)

theorem resumeClosingLink_course (outcome : Outcome Reply) :
    Course system (system.resumeClosingLink outcome).1 := by
  cases outcome <;> exact .refl

theorem closeLink_course (link : Nat) : Course system (system.closeLink link).1 := by
  have closed : Course system { system.note (.closedLink link) with
      links := system.links.modify link fun found => { found with closed := true } } :=
    (ReflTransGen.single (.note _)).tail (.links _)
  unfold System.closeLink
  simp only
  split
  · exact ((closed.tail .addPromise).tail (.peer _)).trans (await_course _ _)
  · split
    · exact closed
    · exact closed

/-! ## Messages of the peer -/

theorem takeRequest_course (session : Nat) (id : Value) :
    Course system (system.takeRequest session id) := by
  unfold System.takeRequest
  split
  · exact .refl
  · split
    · exact .refl
    · exact ((ReflTransGen.single (.spawn _)).tail (.whenEnded _ _ _)).tail
        (.session _ fun _ => rfl)

theorem takeResponse_course (session : Nat) (id : String) (message : Value) :
    Course system (system.takeResponse session id message).1 := by
  unfold System.takeResponse
  split
  · exact log_course system _ _ _
  · split
    · exact .single (.settle _ _)
    · split
      · exact .single (.settle _ _)
      · exact .refl

theorem endAnswer_course (session task : Nat) : Course system (system.endAnswer session task) := by
  have removed : Course system (system.modifySession session fun found =>
      { found with answers := found.answers.filter fun other => other ≠ task }) :=
    .single (.session _ fun _ => rfl)
  unfold System.endAnswer
  simp only
  split
  · exact removed.trans (log_course _ _ _ _)
  · exact removed
  · exact removed
  · exact removed

theorem expire_course (session : Nat) (id : String) : Course system (system.expire session id) := by
  unfold System.expire
  split
  · exact .refl
  · exact (log_course system _ _ _).tail (.settle _ _)

theorem takeNotification_course
    (unopened : ∀ found ∈ system.workspaces, found.openFiles = [])
    (tell : System → Nat → Protocol.PublishedDiagnostics → System × Option Failure)
    (workspace : Nat) (method params : Value) :
    Course system (System.takeNotification tell system workspace method params).1 := by
  rcases System.takeNotification_of_unopened unopened tell workspace method params with
    same | ⟨level, text, logs⟩
  · rw [same]
  · rw [logs]
    exact log_course system _ _ _

theorem takeMessage_course
    (session : Nat) (raw : String)
    (tell : System → Nat → Value → Value → System × Option Failure)
    (tells : ∀ workspace method params, Course system (tell system workspace method params).1) :
    Course system (system.takeMessage session raw tell).1 := by
  unfold System.takeMessage
  split
  · exact log_course system _ _ _
  · exact .refl
  · rename_i members _
    simp only
    split
    · exact takeRequest_course system _ _
    · split
      · exact log_course system _ _ _
      · exact log_course system _ _ _
      · rename_i method _ _ _ heard _ _
        cases heard with
        | nobody =>
            exact .refl
        | workspace workspace =>
            have told := tells workspace method (((Value.object members).get? "params").getD .null)
            simp only
            split
            · exact told
            · exact told.trans (log_course _ _ _ _)
        | host fails =>
            simp only
            split
            · exact .single (.note _)
            · exact (ReflTransGen.single (.note _)).trans (log_course _ _ _ _)
    · exact takeResponse_course system _ _ _
    · exact log_course system _ _ _
  · exact log_course system _ _ _

theorem receive_course
    (link : Nat) (text : String)
    (unopened : ∀ found ∈ system.workspaces, found.openFiles = []) :
    Course system (system.receive link text) := by
  unfold System.receive
  split
  · exact .refl
  · rename_i session _
    have taken := takeMessage_course system session text
      (System.takeNotification System.showDiagnostics)
      fun _ _ _ => takeNotification_course system unopened _ _ _ _
    split
    · rename_i result
      rw [result] at taken
      exact taken
    · rename_i result
      rw [result] at taken
      exact taken.tail (.note _)

theorem releases_course {after : System} (releases : system.Releases after) :
    Course system after := by
  cases releases with
  | nothing => exact .refl
  | promise => exact (ReflTransGen.single (.peer _)).tail (.settle _ _)

end Functions

/-! ## What moves keep -/

/-- A callback that neither belongs to a timer nor removes an entry of a table. -/
def IsOrdinary : Callback Action → Prop
  | .fire _ _ | .act (.discard _ _) => False
  | .resume _ | .memberEnded _ | .skipped | .act _ => True

variable {before after : System}

theorem Move.continues (move : Move before after) :
    Scheduler.Continues IsOrdinary before.loop after.loop := by
  cases move with
  | note _ => exact before.loop.continues_refl
  | peer _ => exact before.loop.continues_refl
  | links _ => exact before.loop.continues_refl
  | workspaces _ => exact before.loop.continues_refl
  | session _ _ => exact before.loop.continues_refl
  | addPromise => exact (before.loop.addPromise_carries rfl).continues rfl
  | settle promise outcome => exact before.loop.settle_continues promise outcome
  | deliver link frames =>
      refine before.loop.enqueue_continues ?_
      intro callback member
      obtain ⟨_, _, rfl⟩ := List.mem_map.mp member
      trivial
  | spawn call => exact before.loop.spawn_continues _ trivial
  | whenEnded task session answer =>
      unfold System.whenEnded
      split
      · exact before.loop.continues_refl
      · exact before.loop.whenSettled_continues _ trivial
  | cancel task => exact before.loop.cancel_continues task

theorem Move.untimed (move : Move before after) :
    Scheduler.Untimed before.loop after.loop := by
  cases move with
  | note _ => exact before.loop.untimed_refl
  | peer _ => exact before.loop.untimed_refl
  | links _ => exact before.loop.untimed_refl
  | workspaces _ => exact before.loop.untimed_refl
  | session _ _ => exact before.loop.untimed_refl
  | addPromise => exact ⟨rfl, rfl, fun _ => id⟩
  | settle promise outcome => exact before.loop.settle_untimed promise outcome
  | deliver link frames => exact ⟨rfl, rfl, fun _ => List.mem_append_left _⟩
  | spawn call => exact ⟨rfl, rfl, fun _ => List.mem_append_left _⟩
  | whenEnded task session answer =>
      unfold System.whenEnded
      split
      · exact before.loop.untimed_refl
      · exact before.loop.whenSettled_untimed _ _
  | cancel task => exact before.loop.cancel_untimed task

theorem modifySession_tables
    (system : System) (session : Nat) {change : Session → Session}
    (keeps : ∀ found, (change found).table = found.table) :
    (system.modifySession session change).sessions.map Session.table =
      system.sessions.map Session.table :=
  map_modify_of_keeps keeps system.sessions session

theorem Move.tables (move : Move before after) :
    after.sessions.map Session.table = before.sessions.map Session.table := by
  cases move with
  | session session keeps => exact modifySession_tables before session keeps
  | whenEnded task session answer =>
      unfold System.whenEnded
      split <;> rfl
  | _ => rfl

theorem Course.continues (course : Course before after) :
    Scheduler.Continues IsOrdinary before.loop after.loop := by
  induction course with
  | refl => exact before.loop.continues_refl
  | tail _ move inductionHypothesis => exact inductionHypothesis.trans move.continues

theorem Course.untimed (course : Course before after) :
    Scheduler.Untimed before.loop after.loop := by
  induction course with
  | refl => exact before.loop.untimed_refl
  | tail _ move inductionHypothesis => exact inductionHypothesis.trans move.untimed

theorem Course.tables (course : Course before after) :
    after.sessions.map Session.table = before.sessions.map Session.table := by
  induction course with
  | refl => rfl
  | tail _ move inductionHypothesis => exact move.tables.trans inductionHypothesis

end LanguageClient.Client
