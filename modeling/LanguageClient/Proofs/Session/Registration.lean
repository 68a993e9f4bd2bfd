import LanguageClient.Proofs.History

/-!
# Requests that are registered

Which request a turn registers, what a text of the peer answers, and runs in which a host uses one
session and nothing else. A request is registered when its task begins, before its frame is written.
-/

namespace LanguageClient.Client

open LanguageClient.Json LanguageClient.Loop LanguageClient.Number

/-! ## Runs of one session -/

/-- Whether a call belongs to the first session. -/
def Call.OnSession : Call → Prop
  | .request session _ _ _ => session = 0
  | .notify session _ _ => session = 0
  | .closeSession session => session = 0
  | .answer session _ => session = 0
  | _ => False

/-- Whether an input belongs to the first session: a call of it, a cancellation, a listener of the
host, or anything that the peer and the clock may do. -/
def Input.OnSession : Input → Prop
  | .call started => started.OnSession
  | .listen _ listener => ∀ workspace, listener ≠ .workspace workspace
  | .attach _ _ _ | .edit _ _ | .editText _ _ => False
  | .cancel _ | .receive _ _ | .drop _ | .behave _ | .release _ | .releaseClose _ | .tick _
  | .turn => True

/-! ## Registrations -/

/-- A request that a task has registered: its entry in the table of the session and the moment at
which its time is over. -/
structure Registration where
  task : Nat
  entry : PendingRequest
  deadline : Option Rat
  deriving DecidableEq, Repr

namespace System

/-- What a call registers when a task begins it. -/
def registrationBy? (system : System) (task : Nat) : Call → Option Registration
  | .request session method _ timeout =>
    (system.sessions[session]?).bind fun found =>
      if found.closed then none
      else
        let timeout := timeout.getD found.defaultTimeout
        timeout.delay?.map fun delay => {
          task
          entry := {
            id := requestId (found.requests + 1)
            method
            timeout
            promise := system.nextPromise
            timer := system.loop.timersArmed }
          deadline := system.loop.deadline delay }
  | _ => none

/-- The call that a task begins when it goes on, unless it was cancelled before. -/
def begunCall? (system : System) (task : Nat) : Option Call :=
  (system.loop.tasks[task]?).bind fun found =>
    if system.loop.hasEnded task || found.cancelRequested then none
    else
      match found.stack with
      | [.begin call] => some call
      | _ => none

def registrationIn? (system : System) : Callback Action → Option Registration
  | .resume task => (system.begunCall? task).bind fun call => system.registrationBy? task call
  | .memberEnded _ | .fire _ _ | .act _ | .skipped => none

/-- The request that an input registers, if it registers one. -/
def registration? (system : System) : Input → Option Registration
  | .turn => system.loop.next?.bind fun next => { system with loop := next.2 }.registrationIn? next.1
  | _ => none

/-- The requests that were registered by some of the inputs of a run, in order. -/
def registrations (system : System) (inputs : Nat → Input) : Nat → List Registration
  | 0 => []
  | count + 1 =>
    system.registrations inputs count ++
      ((system.after inputs count).registration? (inputs count)).toList

theorem mem_registrations
    {system : System} {inputs : Nat → Input} {count : Nat} {registration : Registration} :
    registration ∈ system.registrations inputs count ↔
      ∃ place < count,
        (system.after inputs place).registration? (inputs place) = some registration := by
  induction count with
  | zero =>
      simp [registrations]
  | succ count inductionHypothesis =>
      simp only [registrations, List.mem_append, Option.mem_toList, inductionHypothesis]
      constructor
      · rintro (⟨place, earlier, found⟩ | found)
        · exact ⟨place, Nat.lt_succ_of_lt earlier, found⟩
        · exact ⟨count, Nat.lt_succ_self count, found⟩
      · rintro ⟨place, inside, found⟩
        rcases Nat.lt_succ_iff_lt_or_eq.mp inside with earlier | rfl
        · exact Or.inl ⟨place, earlier, found⟩
        · exact Or.inr found

end System

/-! ## Answers of the peer -/

/-- A text of the peer is a response that names an id. -/
structure IsResponse (text id : String) (message : Value) : Prop where
  parsed : Value.ofText text = .ok message
  isObject : ∃ members, message = .object members
  noMethod : message.present? "method" = none
  named : ∃ value, message.present? "id" = some value ∧ value.display = id

/-- A text of the peer answers the request of an id with a result. -/
def AnswersWith (text id : String) (result : Value) : Prop :=
  ∃ message, IsResponse text id message ∧ message.present? "error" = none ∧
    result = (message.get? "result").getD .null

/-- A text of the peer answers the request of an id with an error that stands for a failure. -/
def AnswersWithError (text id : String) (failure : Failure) : Prop :=
  ∃ message, IsResponse text id message ∧
    ∃ error, message.present? "error" = some error ∧ responseFailure error = .ok failure

end LanguageClient.Client
