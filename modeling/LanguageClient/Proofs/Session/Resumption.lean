import LanguageClient.Proofs.Conduct.Turns
import LanguageClient.Proofs.Session.Steps

/-!
# The turn of a task of a session

What a task of a session does between the start and the end of its turn, and which call and which request
it begins with it.
-/

namespace LanguageClient.Client

open LanguageClient.Loop

section Resumption

variable {registered : List Registration} {system : System} {task : Nat} {rest : ClientLoop}
  {found : TaskState Frame}

/-- In its turn a task leads the session, with the request that it registers, to where its stack has been
left. -/
theorem SessionWorld.resumption_passage
    (world : SessionWorld registered system) (resumes : System.Resumes system task rest found) :
    StepPassage
      (registered ++ (({ system with loop := rest } : System).registrationIn? (.resume task)).toList)
      (some task) (fun _ _ => True) (system.resumed rest task)
      (system.resumption rest task found) := by
  obtain ⟨worldRest, _⟩ := world.taken resumes.taken
  obtain ⟨notReady, settled⟩ := world.punctual.resumed_of_taken resumes.taken
  have ran : StepPassage _ _ (fun _ _ => True) _ _ := runTask_passage worldRest resumes.restEntry
    resumes.restUnended notReady (settled found resumes.restEntry)
  rwa [System.signalOf_of_taken resumes.taken] at ran

namespace System.Resumes

variable {call : Call} (resumes : System.Resumes system task rest found)
  (uncancelled : found.cancelRequested = false) (begins : found.stack = [.begin call])

include resumes uncancelled begins

theorem begunCall?_of_begin : system.begunCall? task = some call := by
  simp [System.begunCall?, resumes.entry, resumes.unended, uncancelled, begins]

/-- The turn in which a task begins a call registers what the call registers. -/
theorem registration?_of_begin :
    system.registration? .turn = (system.resumed rest task).registrationBy? task call := by
  have registers : ({ system with loop := rest } : System).registrationIn? (.resume task) = _ :=
    registrationIn?_of_begin resumes.restEntry resumes.restUnended uncancelled begins
  simp only [System.registration?, resumes.next, Option.bind_some]
  exact registers

end System.Resumes

end Resumption

end LanguageClient.Client
