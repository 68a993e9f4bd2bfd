import LanguageClient.Proofs.Conduct.Deed
import LanguageClient.Proofs.Conduct.Leave
import Mathlib.Computability.Language
import Mathlib.Order.CompletePartialOrder

/-!
# The course of a call

The deeds of a call, from its beginning to its end and however often it is suspended in between, form
a word of a language that the call has. When the call is suspended its frames have a language of
their own: that of all words that finish the one begun so far.
-/

namespace LanguageClient.Client

open LanguageClient.Json LanguageClient.Loop LanguageClient.Protocol

/-! ## Languages of deeds -/

/-- A document is announced, and withdrawn again if that does not succeed. -/
def openingCourse (workspace : Nat) (uri : String) : Language Deed :=
  {deeds | deeds = [] ∨ ∃ file, deeds = [.announce file] ∨
    deeds = [.announce file, .withdraw workspace uri]}

def withdrawingCourse (workspace : Nat) (uri : String) : Language Deed :=
  {deeds | deeds = [] ∨ deeds = [.withdraw workspace uri]}

def changingCourse (file : Nat) : Language Deed := {deeds | deeds = [] ∨ deeds = [.change file]}

def closingCourse (file : Nat) : Language Deed :=
  {deeds | deeds = [] ∨ deeds = [.retract file] ∨ deeds = [.forget file]}

def clearingCourse : Language Deed :=
  {deeds | deeds = [] ∨ ∃ workspace, deeds = [.clear workspace]}

def askingCourse : Language Deed := {deeds | deeds = [] ∨ deeds = [.ask]}

/-- A change through whatever handle a synchronizer has. -/
def flushingCourse : Language Deed := {deeds | ∃ file, deeds ∈ changingCourse file}

/-- The end of whatever document a synchronizer has. -/
def detachingCourse : Language Deed := {deeds | ∃ file, deeds ∈ closingCourse file}

theorem nil_mem_flushingCourse : [] ∈ flushingCourse := ⟨0, Or.inl rfl⟩

theorem nil_mem_detachingCourse : [] ∈ detachingCourse := ⟨0, Or.inl rfl⟩

/-- A document is announced somewhere. -/
def announcingCourse : Language Deed :=
  {deeds | ∃ workspace uri, deeds ∈ openingCourse workspace uri}

/-- A document is announced, and its workspace is cleared if that does not succeed. -/
def startingCourse : Language Deed := announcingCourse * clearingCourse

theorem nil_mem_announcingCourse : [] ∈ announcingCourse := ⟨0, "", Or.inl rfl⟩

theorem nil_mem_startingCourse : [] ∈ startingCourse :=
  Language.append_mem_mul nil_mem_announcingCourse (Or.inl rfl)

theorem nil_mem_queryCourse : [] ∈ flushingCourse * askingCourse :=
  Language.append_mem_mul nil_mem_flushingCourse (Or.inl rfl)

theorem nil_mem_endingCourse : [] ∈ detachingCourse * clearingCourse :=
  Language.append_mem_mul nil_mem_detachingCourse (Or.inl rfl)

/-- The deeds of a call. Those of a request, of a notification and of a command are left open. -/
def Call.course : Call → Language Deed
  | .request _ _ _ _ | .notify _ _ _ | .runCommand _ => ⊤
  | .closeSession _ | .answer _ _ | .createWorkspace _ => 1
  | .openFile workspace uri _ _ _ => openingCourse workspace uri
  | .changeFile file _ _ => changingCourse file
  | .closeFile file => closingCourse file
  | .closeWorkspace _ => clearingCourse
  | .flush _ _ | .sendDebounced _ | .refresh _ => flushingCourse
  | .closeSynchronizer _ => detachingCourse
  | .start _ => startingCourse
  | .hover _ _ | .complete _ _ _ => flushingCourse * askingCourse
  | .closeEditor _ => detachingCourse * clearingCourse

/-- The deeds of the rest of a call that a frame stands for. -/
def Frame.course : Frame → Language Deed
  | .begin call => call.course
  | .opening workspace uri _ => withdrawingCourse workspace uri
  | .locking _ _ _ => flushingCourse
  | .settlingSends _ => detachingCourse
  | .creatingWorkspace _ => startingCourse
  | .openingDocument _ _ | .closingSynchronizer _ => clearingCourse
  | .flushingForHover _ _ | .flushingForCompletion _ _ => askingCourse
  | .startingCommand _ | .hoveringCommand _ | .completingCommand _ | .waitingCommand _
  | .closingCommand _ => ⊤
  | .sending _ _ | .writing _ | .requesting _ | .closingLink | .handshaking _ _ | .confirming _ _ _
  | .abandoningHandshake _ | .closingFile _ | .changing _ _ _ | .sendingDebounced _ | .detaching _
  | .abandoningStart _ _ | .hovering _ _ | .completing _ | .refreshing | .closingWorkspace _ _ => 1

/-- The deeds of the rest of a call that has some unfinished frames. -/
def courseOf (frames : List Frame) : Language Deed := (frames.map Frame.course).prod

theorem courseOf_begin (call : Call) : courseOf [.begin call] = call.course := by
  simp [courseOf, Frame.course]

theorem courseOf_append (inner outer : List Frame) :
    courseOf (inner ++ outer) = courseOf inner * courseOf outer := by
  simp only [courseOf, List.map_append, List.prod_append]

theorem courseOf_eq_one {frames : List Frame} (silent : ∀ frame ∈ frames, frame.course = 1) :
    courseOf frames = 1 := by
  induction frames with
  | nil => rfl
  | cons frame others inductionHypothesis =>
      have first : frame.course = 1 := silent frame List.mem_cons_self
      have rest : courseOf others = 1 :=
        inductionHypothesis fun other member => silent other (List.mem_cons_of_mem frame member)
      change frame.course * courseOf others = 1
      rw [first, rest, one_mul]

/-- A call whose deeds are known: no command, and no message of the host's own. -/
def Call.IsPlain : Call → Prop
  | .request _ _ _ _ | .notify _ _ _ | .runCommand _ => False
  | _ => True

/-- A frame of a call that has begun and belongs to no command. -/
def Frame.IsInner : Frame → Prop
  | .begin _ | .startingCommand _ | .hoveringCommand _ | .completingCommand _ | .waitingCommand _
  | .closingCommand _ => False
  | _ => True

/-! ## Steps that follow a course -/

/-- A call may end wherever it is suspended without doing anything more. -/
theorem nil_mem_course_of_inner {frame : Frame} (inner : frame.IsInner) : [] ∈ frame.course := by
  cases frame with
  | begin call => exact inner.elim
  | startingCommand command => exact inner.elim
  | hoveringCommand command => exact inner.elim
  | completingCommand command => exact inner.elim
  | waitingCommand command => exact inner.elim
  | closingCommand ending => exact inner.elim
  | opening workspace uri file => exact Or.inl rfl
  | locking synchronizer promise force => exact nil_mem_flushingCourse
  | settlingSends synchronizer => exact nil_mem_detachingCourse
  | creatingWorkspace editor => exact nil_mem_startingCourse
  | openingDocument editor text => exact Or.inl rfl
  | closingSynchronizer editor => exact Or.inl rfl
  | flushingForHover editor offset => exact Or.inl rfl
  | flushingForCompletion editor query => exact Or.inl rfl
  | _ => exact Language.nil_mem_one

theorem nil_mem_courseOf {frames : List Frame} (inner : ∀ frame ∈ frames, frame.IsInner) :
    [] ∈ courseOf frames := by
  induction frames with
  | nil => exact Language.nil_mem_one
  | cons frame others inductionHypothesis =>
      have first := nil_mem_course_of_inner (inner frame List.mem_cons_self)
      have rest := inductionHypothesis fun other member =>
        inner other (List.mem_cons_of_mem frame member)
      have isCourse : courseOf (frame :: others) = frame.course * courseOf others := List.prod_cons
      rw [isCourse]
      exact Language.append_mem_mul first rest

/-- The promises that are held by a call that is suspended. -/
def Progress.promises : Progress → List Nat
  | .ended _ => []
  | .suspended frames promise => heldPromises frames (some promise)

/-- From a state of the client, a step does deeds that can be finished to a word of a language. It
takes place in a turn that has begun before with some promises held, and leaves the other tasks in
peace. -/
structure Step.Conducts
    (held : List Nat) (before : System) (language : Language Deed) (system : System) (step : Step) :
    Prop where
  does : ∃ deeds, System.Does system deeds step.1 ∧
    ∀ rest ∈ courseOf step.2.frames, deeds ++ rest ∈ language
  respects : System.Respects held before step.1
  owns : ∀ promise ∈ step.2.promises, before.Owns held promise
  inner : ∀ frame ∈ step.2.frames, frame.IsInner

namespace Step.Conducts

variable {held : List Nat} {before system middle later : System} {language wider : Language Deed}
  {step : Step} {deeds : List Deed}

/-- A call that ends. -/
theorem ended
    (does : System.Does system deeds later) (member : deeds ∈ language)
    (respects : System.Respects held before later) (outcome : Outcome Reply) :
    Step.Conducts held before language system (later, .ended outcome) where
  does := by
    refine ⟨deeds, does, fun rest isRest => ?_⟩
    have nothing : rest = [] := isRest
    rw [nothing, List.append_nil]
    exact member
  respects
  owns := fun _ member => absurd member List.not_mem_nil
  inner := fun _ member => absurd member List.not_mem_nil

/-- A call that is suspended with frames after which nothing is done. -/
theorem suspended
    {frames : List Frame} {promise : Nat} (does : System.Does system deeds later)
    (silent : courseOf frames = 1) (member : deeds ∈ language)
    (respects : System.Respects held before later)
    (owns : ∀ other ∈ heldPromises frames (some promise), before.Owns held other)
    (inner : ∀ frame ∈ frames, frame.IsInner) :
    Step.Conducts held before language system (later, .suspended frames promise) where
  does := by
    refine ⟨deeds, does, fun rest isRest => ?_⟩
    have nothing : rest ∈ courseOf frames := isRest
    rw [silent, Language.mem_one] at nothing
    rw [nothing, List.append_nil]
    exact member
  respects
  owns
  inner

theorem mono (conducts : step.Conducts held before language system) (within : language ≤ wider) :
    step.Conducts held before wider system := by
  obtain ⟨deeds, does, words⟩ := conducts.does
  exact { conducts with does := ⟨deeds, does, fun rest isRest => within (words rest isRest)⟩ }

/-- Something is done before a step. -/
theorem prepend
    (conducts : step.Conducts held before language middle) (does : System.Does system deeds middle)
    (within : ∀ rest ∈ language, deeds ++ rest ∈ wider) :
    step.Conducts held before wider system := by
  obtain ⟨more, doesMore, words⟩ := conducts.does
  refine { conducts with does := ⟨deeds ++ more, does.trans doesMore, fun rest isRest => ?_⟩ }
  rw [List.append_assoc]
  exact within _ (words rest isRest)

theorem after_aside
    (conducts : step.Conducts held before language middle) (aside : System.Aside system middle) :
    step.Conducts held before language system :=
  conducts.prepend (.aside aside) fun _ => id

theorem andThen
    {frame : Frame} {rest : System → Outcome Reply → Step} {second : Language Deed}
    (conducts : step.Conducts held before language system) (course : frame.course = second)
    (owns : ∀ promise ∈ frame.promises, before.Owns held promise) (inner : frame.IsInner)
    (next : ∀ later outcome, step = (later, .ended outcome) →
      System.Respects held before later → (rest later outcome).Conducts held before second later) :
    (step.andThen frame rest).Conducts held before (language * second) system := by
  obtain ⟨later, ending | ⟨frames, promise⟩⟩ := step
  · obtain ⟨deeds, does, words⟩ := conducts.does
    have isWord : deeds ∈ language := by
      have whole := words [] (Language.nil_mem_one)
      rwa [List.append_nil] at whole
    exact (next later ending rfl conducts.respects).prepend does fun more isMore =>
      Language.append_mem_mul isWord isMore
  · obtain ⟨deeds, does, words⟩ := conducts.does
    refine ⟨⟨deeds, does, fun more isMore => ?_⟩, conducts.respects, fun other member => ?_, ?_⟩
    · have split : more ∈ courseOf (frames ++ [frame]) := isMore
      have single : courseOf [frame] = second := by
        simp only [courseOf, List.map_cons, List.map_nil, List.prod_cons, List.prod_nil, mul_one,
          course]
      rw [courseOf_append, single] at split
      obtain ⟨first, isFirst, last, isLast, rfl⟩ := Language.mem_mul.mp split
      rw [← List.append_assoc]
      exact Language.append_mem_mul (words first isFirst) isLast
    · have cases : other ∈ heldPromises frames (some promise) ∨ other ∈ frame.promises := by
        simpa [Progress.promises, heldPromises, Step.andThen, List.flatMap_append, or_assoc]
          using member
      exact cases.elim (conducts.owns other) (owns other)
    · intro other member
      rcases List.mem_append.mp member with isInside | isLast
      · exact conducts.inner other isInside
      · rw [List.mem_singleton.mp isLast]
        exact inner

/-- Nothing is done after a step. -/
theorem andThen_silent
    {frame : Frame} {rest : System → Outcome Reply → Step}
    (conducts : step.Conducts held before language system) (course : frame.course = 1)
    (owns : ∀ promise ∈ frame.promises, before.Owns held promise) (inner : frame.IsInner)
    (next : ∀ later outcome, step = (later, .ended outcome) →
      System.Respects held before later → (rest later outcome).Conducts held before 1 later) :
    (step.andThen frame rest).Conducts held before language system := by
  have both := conducts.andThen course owns inner next
  rwa [mul_one] at both

/-- Nothing is done before the rest of a call. -/
theorem silent_andThen
    {frame : Frame} {rest : System → Outcome Reply → Step}
    (conducts : step.Conducts held before 1 system) (course : frame.course = language)
    (owns : ∀ promise ∈ frame.promises, before.Owns held promise) (inner : frame.IsInner)
    (next : ∀ later outcome, step = (later, .ended outcome) →
      System.Respects held before later →
        (rest later outcome).Conducts held before language later) :
    (step.andThen frame rest).Conducts held before language system := by
  have both := conducts.andThen course owns inner next
  rwa [one_mul] at both

/-- A call that ends without having done anything. -/
theorem idle
    (aside : System.Aside system later) (respects : System.Respects held before later)
    (nothing : [] ∈ language) (outcome : Outcome Reply) :
    Step.Conducts held before language system (later, .ended outcome) :=
  ended (.aside aside) nothing respects outcome

end Step.Conducts

end LanguageClient.Client
