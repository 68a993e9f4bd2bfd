import LanguageClient.Proofs.Conduct.Course

/-!
# The conduct of a session

Sessions hand over only the frames that they are given. Requests are settled as the peer or the clock
say, and when a session is closed the tasks are cancelled that answer the peer.
-/

namespace LanguageClient.Client

open LanguageClient.Json LanguageClient.Loop LanguageClient.Number LanguageClient.Protocol

variable {held : List Nat} {before system base : System} {language : Language Deed}
  {deeds : List Deed}

/-- A frame of a method that concerns no document. -/
theorem documentFrame?_of_method
    {frame : Value} {method : String} (link : Nat) (isMethod : methodOf? frame = some method)
    (foreign : method ∉ documentMethods) :
    (Occurrence.handed link frame).documentFrame? = none := by
  simp [Occurrence.documentFrame?, concernsDocument, isMethod, foreign]

theorem documentFrame?_answerMessage (link : Nat) (id : Value) :
    (Occurrence.handed link (answerMessage id)).documentFrame? = none := by
  simp [Occurrence.documentFrame?, concernsDocument, answerMessage, methodOf?, Value.get?, member?,
    messageVersion]

namespace System

/-- Something is done that concerns no document while somebody runs who holds some promises. -/
structure Idles (held : List Nat) (before system after : System) : Prop where
  aside : Aside system after
  respects : Respects held before after

namespace Idles

variable {middle after : System}

theorem trans
    (first : Idles held before system middle) (second : Idles held before middle after) :
    Idles held before system after :=
  ⟨first.aside.trans second.aside, second.respects⟩

theorem ended
    (idles : Idles held before system after) (nothing : [] ∈ language) (outcome : Outcome Reply) :
    Step.Conducts held before language system (after, .ended outcome) :=
  .idle idles.aside idles.respects nothing outcome

variable (respects : Respects held before system)

include respects

theorem refl : Idles held before system system := ⟨.refl system, respects⟩

theorem note {occurrence : Occurrence} (foreign : occurrence.documentFrame? = none) :
    Idles held before system (system.note occurrence) :=
  ⟨.note system foreign, respects.note occurrence⟩

theorem log (level : LogLevel) (source : LogSource) (text : String) :
    Idles held before system (system.log level source text) :=
  note respects rfl

theorem settle
    {promise : Nat} {outcome : Outcome Reply} (allowed : before.MaySettle held promise outcome) :
    Idles held before system (system.settle promise outcome) :=
  ⟨.onLoop system _, respects.settle allowed⟩

theorem disarm (timer : Nat) : Idles held before system (system.disarm timer) :=
  ⟨.onLoop system _, respects.disarm timer⟩

theorem modifySession
    (session : Nat) {change : Session → Session} (link : ∀ found, (change found).link = found.link)
    (closes : ∀ found : Session, found.closed = true → (change found).closed = true)
    (answers : ∀ found : Session, ∀ task ∈ (change found).answers, task ∈ found.answers) :
    Idles held before system (system.modifySession session change) :=
  ⟨.modifySession system link closes,
    respects.modifySession session fun found task member => Or.inl (answers found task member)⟩

theorem accept (link : Nat) (frame : Value) :
    Idles held before system (system.accept link frame) where
  aside := by
    have taken : Aside system { system with peer := (system.peer.accept frame).2 } :=
      .of_same rfl rfl rfl rfl rfl
    have noForeign : (Occurrence.accepted link frame).documentFrame? = none := rfl
    exact (taken.trans (.note _ noForeign)).trans (.onLoop _ _)
  respects := respects.accept link frame

end Idles

/-! ## Writing -/

section Writing

variable (respects : Respects held before system)

include respects

theorem await_conducts {promise : Nat} (owns : before.Owns held promise) :
    (system.await promise).Conducts held before 1 system := by
  unfold await
  split
  · exact (Idles.refl respects).ended Language.nil_mem_one _
  · refine .suspended (.refl system) rfl Language.nil_mem_one respects ?_ ?_
    · intro other member
      rw [List.mem_singleton.mp (show other ∈ [promise] from member)]
      exact owns
    · exact fun _ member => absurd member List.not_mem_nil

theorem takeFrame_conducts (link : Nat) (frame : Value) :
    (system.takeFrame link frame).Conducts held before 1 system := by
  cases refused : system.peer.refusalOf? frame with
  | some failure =>
      rw [takeFrame_of_refusal link refused]
      exact (Idles.refl respects).ended Language.nil_mem_one _
  | none =>
      rw [takeFrame_of_acceptance link refused]
      exact (Idles.accept respects link frame).ended Language.nil_mem_one _

theorem resumeSending_conducts (link : Nat) (frame : Value) (outcome : Outcome Reply) :
    (resumeSending link frame system outcome).Conducts held before 1 system := by
  cases outcome with
  | returned reply => exact takeFrame_conducts respects link frame
  | failed failure => exact (Idles.refl respects).ended Language.nil_mem_one _
  | cancelled => exact (Idles.refl respects).ended Language.nil_mem_one _

theorem resumeWriting_conducts (subject : String) (outcome : Outcome Reply) :
    (resumeWriting subject system outcome).Conducts held before 1 system := by
  cases outcome with
  | returned reply => exact (Idles.refl respects).ended Language.nil_mem_one _
  | failed failure => exact (Idles.refl respects).ended Language.nil_mem_one _
  | cancelled => exact (Idles.refl respects).ended Language.nil_mem_one _

/-- What is done when a frame is handed over is given. -/
theorem write_conducts
    {session : Nat} {found : Session} {subject : String} {frame : Value}
    (known : system.sessions[session]? = some found)
    (does : Does base deeds (system.note (.handed found.link frame))) (member : deeds ∈ language) :
    (system.write session subject frame).Conducts held before language base := by
  have handed : Respects held before (system.note (.handed found.link frame)) := respects.note _
  rcases write_cases subject frame known with ⟨failure, _, refused⟩ | held | accepted
  · rw [refused]
    exact .ended does member handed _
  · rw [held]
    have holds : Does (system.note (.handed found.link frame)) []
        (system.note (.handed found.link frame)).holdBack := .aside (.holdBack _)
    have both := does.trans holds
    rw [List.append_nil] at both
    refine .suspended both (courseOf_eq_one ?_) member handed.holdBack ?_ ?_
    · intro other inside
      simp only [List.mem_cons, List.not_mem_nil, or_false] at inside
      rcases inside with rfl | rfl
      · rfl
      · rfl
    · intro other inside
      rw [List.mem_singleton.mp (show other ∈ [system.nextPromise] from inside)]
      exact respects.owns_next
    · intro other inside
      simp only [List.mem_cons, List.not_mem_nil, or_false] at inside
      rcases inside with rfl | rfl
      · trivial
      · trivial
  · rw [accepted]
    have taken := Idles.accept handed found.link frame
    have both := does.trans (.aside taken.aside)
    rw [List.append_nil] at both
    exact .ended both member taken.respects _

/-- A frame that concerns no document. -/
theorem write_silent
    (session : Nat) (subject : String) {frame : Value}
    (foreign : ∀ link, (Occurrence.handed link frame).documentFrame? = none) :
    (system.write session subject frame).Conducts held before 1 system := by
  cases known : system.sessions[session]? with
  | none =>
      have fails : system.write session subject frame = (system, .ended (.failed .missing)) := by
        simp only [write, known, Step.failed]
      rw [fails]
      exact (Idles.refl respects).ended Language.nil_mem_one _
  | some found =>
      exact write_conducts respects known (.aside (.note system (foreign found.link)))
        Language.nil_mem_one

theorem answer_conducts (session : Nat) (id : Value) :
    (system.answer session id).Conducts held before 1 system :=
  write_silent respects session _ fun link => documentFrame?_answerMessage link id

/-- A notification that concerns no document. -/
theorem notify_silent
    (session : Nat) {method : String} (params : Option Value) (foreign : method ∉ documentMethods) :
    (system.notify session method params).Conducts held before 1 system := by
  have nothing := (Idles.refl respects).ended (Language.nil_mem_one)
  unfold notify
  split
  · exact nothing _
  · split
    · exact nothing _
    · split
      · exact write_silent respects session method fun link =>
          documentFrame?_of_method link (methodOf?_notificationMessage method params) foreign
      · exact nothing _

/-! ## Requests -/

theorem resumeRequesting_conducts
    {promise : Nat} (owns : before.Owns held promise) (outcome : Outcome Reply) :
    (resumeRequesting promise system outcome).Conducts held before 1 system := by
  have withdrawn : Idles held before system (system.settle promise .cancelled) :=
    Idles.settle respects (Or.inl owns)
  cases outcome with
  | returned reply => exact await_conducts respects owns
  | failed failure => exact withdrawn.ended Language.nil_mem_one _
  | cancelled => exact withdrawn.ended Language.nil_mem_one _

theorem countRequest_idles (session : Nat) :
    Idles held before system (system.countRequest session) :=
  Idles.modifySession respects session (fun _ => rfl) (fun _ => id) fun _ _ => id

theorem registerRequest_idles
    (session : Nat) (id method : String) (timeout : Quantity) (delay : Delay) :
    Idles held before system (system.registerRequest session id method timeout delay) := by
  have added : Respects held before system.addPromise := respects.addPromise
  have armed := added.arm delay (.expire session id)
  have waits := armed.whenSettled system.nextPromise (.act (.discard session id))
  have prepared : Idles held before system (system.onLoop fun loop =>
      ((loop.addPromise {}).arm delay (.expire session id)).whenSettled system.nextPromise
        (.act (.discard session id))) :=
    ⟨.onLoop system _, waits⟩
  exact prepared.trans
    (Idles.modifySession prepared.respects session (fun _ => rfl) (fun _ closed => closed)
      fun _ _ member => member)

/-- What is done when the message of a request is handed over is given. -/
theorem request_conducts
    (session : Nat) {method : String} (params : Option Value) (timeout : Option Quantity)
    (nothing : [] ∈ language) (member : deeds ∈ language)
    (does : ∀ (current : System) (link : Nat) (id : String),
      Does current deeds (current.note (.handed link (requestMessage id method params)))) :
    (system.request session method params timeout).Conducts held before language system := by
  have idle := (Idles.refl respects).ended nothing
  unfold request
  split
  · exact idle _
  · rename_i found known
    split
    · exact idle _
    · have counted := countRequest_idles respects session
      simp only
      split
      · exact counted.ended nothing _
      · rename_i delay _
        have registered := counted.trans (registerRequest_idles counted.respects session
          (requestId (found.requests + 1)) method (timeout.getD found.defaultTimeout) delay)
        have owned : before.Owns held (system.countRequest session).nextPromise :=
          counted.respects.owns_next
        split
        · refine .after_aside (.andThen_silent ?_ rfl ?_ trivial ?_) registered.aside
          · cases target : ((system.countRequest session).registerRequest session
                (requestId (found.requests + 1)) method (timeout.getD found.defaultTimeout)
                delay).sessions[session]? with
            | none =>
                simp only [write, target]
                exact (Idles.refl registered.respects).ended nothing _
            | some current =>
                exact write_conducts registered.respects target (does _ current.link _) member
          · intro promise inside
            rw [List.mem_singleton.mp inside]
            exact owned
          · intro later outcome _ laterRespects
            exact resumeRequesting_conducts laterRespects owned outcome
        · exact registered.ended nothing _

/-- A request that concerns no document. -/
theorem request_foreign
    (session : Nat) {method : String} (params : Option Value) (timeout : Option Quantity)
    (foreign : method ∉ documentMethods) :
    (system.request session method params timeout).Conducts held before 1 system :=
  request_conducts respects session params timeout Language.nil_mem_one Language.nil_mem_one
    fun _ link id => .aside (.note _
      (documentFrame?_of_method link (methodOf?_requestMessage id method params) foreign))

/-- A request about a document. -/
theorem request_asks
    (session : Nat) {method : String} (params : Option Value) (timeout : Option Quantity)
    (isQuery : method ∈ queryMethods) :
    (system.request session method params timeout).Conducts held before askingCourse system :=
  request_conducts respects session params timeout (Or.inl rfl) (Or.inr rfl)
    fun _ link id => .one (.ask link id method params isQuery)

end Writing

/-! ## The end of requests -/

section Ending

variable (respects : Respects held before system)

include respects

theorem discard_idles (session : Nat) (id : String) :
    Idles held before system (system.discard session id) := by
  unfold discard
  split
  · exact .refl respects
  · have removed : Idles held before system (system.modifySession session fun found =>
        { found with pending := found.pending.filter fun other => other.id ≠ id }) :=
      .modifySession respects session (fun _ => rfl) (fun _ closed => closed)
        fun _ _ member => member
    exact removed.trans (.disarm removed.respects _)

theorem expire_idles (session : Nat) (id : String) :
    Idles held before system (system.expire session id) := by
  unfold expire
  split
  · exact .refl respects
  · have logged := Idles.log respects .warning .session
    refine (logged _).trans (.settle (logged _).respects ?_)
    exact Or.inr (Or.inr (Or.inr rfl))

theorem abandonRequest_idles (reason : SessionEnd) (entry : PendingRequest) :
    Idles held before system (abandonRequest reason system entry) := by
  have disarmed := Idles.disarm respects entry.timer
  exact disarmed.trans (.settle disarmed.respects (Or.inr (Or.inr (Or.inr rfl))))

theorem abandonEntries_idles (reason : SessionEnd) (entries : List PendingRequest) :
    Idles held before system (entries.foldl (abandonRequest reason) system) := by
  induction entries generalizing system with
  | nil => exact .refl respects
  | cons entry others inductionHypothesis =>
      have first := abandonRequest_idles respects reason entry
      exact first.trans (inductionHypothesis first.respects)

theorem abandonRequests_idles (session : Nat) (reason : SessionEnd) :
    Idles held before system (system.abandonRequests session reason) := by
  unfold abandonRequests
  split
  · exact .refl respects
  · rename_i found _
    have abandoned := abandonEntries_idles respects reason found.pending
    exact abandoned.trans
      (.modifySession abandoned.respects session (fun _ => rfl) (fun _ => id) fun _ _ => id)

theorem shut_idles (session : Nat) :
    Idles held before system
      (system.modifySession session fun found => { found with closed := true }) :=
  .modifySession respects session (fun _ => rfl) (fun _ _ => rfl) fun _ _ => id

theorem cancelAll_idles
    {tasks : List Nat} (own : ∀ task ∈ tasks, before.MayCancel system.nextTask task) :
    Idles held before system
      (system.onLoop fun loop => tasks.foldl (fun loop task => loop.cancel task) loop) := by
  induction tasks generalizing system with
  | nil => exact .refl respects
  | cons task others inductionHypothesis =>
      have cancelled : Idles held before system (system.onLoop (·.cancel task)) :=
        ⟨.onLoop system _, respects.cancel (own task List.mem_cons_self)⟩
      exact cancelled.trans (inductionHypothesis cancelled.respects
        fun other inside => (own other (List.mem_cons_of_mem task inside)).mono
          (Nat.le_of_eq (system.loop.cancel_nextTask task).symm))

theorem resumeClosingLink_conducts (outcome : Outcome Reply) :
    (resumeClosingLink system outcome).Conducts held before 1 system := by
  cases outcome with
  | returned reply => exact (Idles.refl respects).ended Language.nil_mem_one _
  | failed failure => exact (Idles.refl respects).ended Language.nil_mem_one _
  | cancelled => exact (Idles.refl respects).ended Language.nil_mem_one _

theorem closeLink_conducts (link : Nat) :
    (system.closeLink link).Conducts held before 1 system := by
  have told : Idles held before system
      { system.note (.closedLink link) with
        links := system.links.modify link fun found => { found with closed := true } } :=
    (Idles.note respects (show (Occurrence.closedLink link).documentFrame? = none from rfl)).trans
      ⟨.of_same rfl rfl rfl rfl rfl, (respects.note (.closedLink link)).of_same rfl rfl rfl rfl⟩
  unfold closeLink
  simp only
  split
  · refine .after_aside (await_conducts (told.respects.holdClosing) told.respects.owns_next) ?_
    exact told.aside.trans (.of_same rfl rfl rfl rfl rfl)
  · split
    · exact told.ended Language.nil_mem_one _
    · exact told.ended Language.nil_mem_one _

/-- What is left to do for a session that is noted as closed. -/
theorem closeShut_conducts
    (session link : Nat) {answers : List Nat}
    (own : ∀ task ∈ answers, before.MayCancel system.nextTask task) :
    (Step.andThen
      (((system.abandonRequests session .closed).onLoop fun loop =>
        answers.foldl (fun loop task => loop.cancel task) loop).closeLink link)
      .closingLink resumeClosingLink).Conducts held before 1 system := by
  have abandoned := abandonRequests_idles respects session .closed
  have noneEnded : system.nextTask ≤ (system.abandonRequests session .closed).nextTask :=
    (abandonRequests_idles (.refl held system) session .closed).respects.loop.nextTask
  have cancelled := abandoned.trans (cancelAll_idles abandoned.respects
    fun task inside => (own task inside).mono noneEnded)
  refine .after_aside ?_ cancelled.aside
  exact (closeLink_conducts cancelled.respects link).andThen_silent rfl nofun trivial
    fun later outcome _ laterRespects => resumeClosingLink_conducts laterRespects outcome

theorem mayCancel_answers
    {session : Nat} {found : Session} (known : system.sessions[session]? = some found) :
    ∀ task ∈ found.answers, before.MayCancel system.nextTask task := by
  intro task inside
  refine respects.mayCancel_ownTask (List.mem_append_left _ ?_)
  exact List.mem_flatMap.mpr ⟨found, List.mem_of_getElem? known, inside⟩

/-- A session is closed while its answers to the peer are cancelled. -/
theorem closeSession_conducts (session : Nat) :
    (system.closeSession session).Conducts held before 1 system := by
  have nothing := (Idles.refl respects).ended (Language.nil_mem_one)
  unfold closeSession
  split
  · exact nothing _
  · rename_i found known
    split
    · exact nothing _
    · have shut := shut_idles respects session
      exact (closeShut_conducts shut.respects session found.link
        (mayCancel_answers respects known)).after_aside shut.aside

theorem loseConnection_idles (session : Nat) :
    Idles held before system (system.loseConnection session) := by
  unfold loseConnection
  split
  · exact .refl respects
  · split
    · exact .refl respects
    · have logged := Idles.log respects .warning .session
        "connection lost, failing outstanding requests"
      have shut := logged.trans (shut_idles logged.respects session)
      exact shut.trans (abandonRequests_idles shut.respects session .lost)

end Ending

end System

end LanguageClient.Client
