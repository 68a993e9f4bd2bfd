import LanguageClient.Proofs.Inquiry.Turns

/-!
# Steps and the queue of answers

Every input adds at most one request of the peer at the end of the queue of answers, and takes at
most one from its front. The answer that is handed over is that of the request that was taken,
unless its task was cancelled, and only the end of the session cancels such tasks.
-/

namespace LanguageClient.Client

open LanguageClient.Json LanguageClient.Loop LanguageClient.Number LanguageClient.Protocol

/-- A task of a session has not begun, or it is in an exchange with the peer. -/
def IsSessionStack (stack : List Frame) : Prop :=
  (∃ call, stack = [.begin call]) ∨ ∀ frame ∈ stack, frame.IsExchange

/-- The invariant of a session that has finished its handshake and answers the peer. -/
structure InquiryWorld (registered : List Registration) (system : System) : Prop where
  session : SessionWorld registered system
  frames : ∀ (task : Nat) (found : TaskState Frame), system.loop.tasks[task]? = some found →
    IsSessionStack found.stack
  unended : ∀ inquiry ∈ system.waitingInquiries, system.ending? inquiry.task = none
  hears : (system.links[0]?).bind (·.session) = some 0

/-- What happens to the requests of the peer: one may arrive, one may leave the queue, and one may
be answered. A task may go on, and some tasks may be cancelled. -/
structure Handles
    (arrives leaves answers : Option Inquiry) (running : Option Nat) (cancels : Nat → Prop)
    (before after : System) : Prop where
  queue : before.waitingInquiries ++ arrives.toList = leaves.toList ++ after.waitingInquiries
  replies : after.handedReplies =
    before.handedReplies ++ answers.toList.map fun inquiry => answerMessage inquiry.id
  tasks : ∀ (task : Nat) (found : TaskState Frame), before.loop.tasks[task]? = some found →
    running ≠ some task →
      ∃ cancelRequested : Bool, after.loop.tasks[task]? = some { found with cancelRequested } ∧
        (cancelRequested = found.cancelRequested ∨ cancels task)
  started : ∀ (task : Nat) (found : TaskState Frame), before.nextTask ≤ task →
    after.loop.tasks[task]? = some found →
      found.cancelRequested = false ∧ ∃ call, found.stack = [.begin call]
  left : ∀ (task : Nat) (found : TaskState Frame), running = some task →
    after.loop.tasks[task]? = some found → ∀ frame ∈ found.stack, frame.IsExchange
  fresh : ∀ inquiry, arrives = some inquiry → after.ending? inquiry.task = none
  hears : (after.links[0]?).bind (·.session) = (before.links[0]?).bind (·.session)

variable {targets cancels : Nat → Prop} {registered later : List Registration}
  {before middle after system : System} {input : Input} {task : Nat} {rest : ClientLoop}
  {found : TaskState Frame} {inquiry : Inquiry} {arrives leaves answers : Option Inquiry}
  {running : Option Nat}

/-! ## What nobody answers -/

theorem Disregards.handles
    (disregards : Disregards targets before after) (patient : before.IsPatient) :
    Handles none none none none targets before after where
  queue := by
    simp only [Option.toList_none, List.append_nil, List.nil_append]
    exact (System.waitingInquiries_of_queues patient disregards.loop).symm
  replies := by
    simp only [Option.toList_none, List.map_nil, List.append_nil]
    exact disregards.replies
  tasks := fun task found entry _ => disregards.loop.tasks task found entry
  started := fun task found isNew entry => by
    have known : task < after.nextTask := (List.getElem?_eq_some_iff.mp entry).1
    exact absurd (disregards.nextTask ▸ known) (Nat.not_lt.mpr isNew)
  left := nofun
  fresh := nofun
  hears := disregards.hears 0

/-- Something that concerns no request of the peer may come before. -/
theorem Disregards.andHandles
    (disregards : Disregards cancels before middle) (patient : before.IsPatient)
    (handles : Handles arrives leaves answers none cancels middle after) :
    Handles arrives leaves answers none cancels before after where
  queue := by
    rw [← System.waitingInquiries_of_queues patient disregards.loop]
    exact handles.queue
  replies := by
    rw [← disregards.replies]
    exact handles.replies
  tasks := fun task found entry waits => by
    obtain ⟨_, between, firstFlag⟩ := disregards.loop.tasks task found entry
    obtain ⟨cancelRequested, laterEntry, secondFlag⟩ := handles.tasks task _ between waits
    refine ⟨cancelRequested, laterEntry, ?_⟩
    rcases secondFlag with same | isCancelled
    · exact firstFlag.imp_left same.trans
    · exact Or.inr isCancelled
  started := fun task found isNew entry =>
    handles.started task found (disregards.nextTask ▸ isNew) entry
  left := nofun
  fresh := handles.fresh
  hears := handles.hears.trans (disregards.hears 0)

theorem Handles.mono
    {wider : Nat → Prop} (handles : Handles arrives leaves answers running cancels before after)
    (within : ∀ task, cancels task → wider task) :
    Handles arrives leaves answers running wider before after :=
  { handles with
    tasks := fun task found entry waits => by
      obtain ⟨cancelRequested, laterEntry, flag⟩ := handles.tasks task found entry waits
      exact ⟨cancelRequested, laterEntry, flag.imp_right (within task)⟩ }

/-! ## A request arrives -/

/-- A call starts, and what happens then concerns no other request of the peer. -/
theorem SessionWorld.spawn_handles
    {call : Call} (world : SessionWorld registered system)
    (disregards : Disregards (fun _ => False) (system.spawn call) after)
    (fresh : after.ending? system.nextTask = none) :
    Handles ((system.spawn call).inquiryOf? system.nextTask) none none none (fun _ => False) system
      after where
  queue := by
    obtain ⟨patient, joined⟩ := world.spawn_waitingInquiries call
    rw [System.waitingInquiries_of_queues patient disregards.loop, joined]
    rfl
  replies := by
    simp only [Option.toList_none, List.map_nil, List.append_nil]
    exact disregards.replies
  tasks := fun task found entry _ => by
    have known := (List.getElem?_eq_some_iff.mp entry).1
    have kept : (system.spawn call).loop.tasks[task]? = some found :=
      (List.getElem?_append_left known).trans entry
    exact disregards.loop.tasks task found kept
  started := fun task found isNew entry => by
    have known : task < (system.spawn call).nextTask :=
      disregards.nextTask ▸ (List.getElem?_eq_some_iff.mp entry).1
    have grown : (system.spawn call).nextTask = system.nextTask + 1 := List.length_append
    obtain rfl : task = system.nextTask := by omega
    obtain ⟨_, laterEntry, flag⟩ := disregards.loop.tasks _ _ (spawn_task system call)
    rw [laterEntry] at entry
    obtain rfl := Option.some.inj entry
    exact ⟨flag.resolve_right id, call, rfl⟩
  left := nofun
  fresh := fun inquiry arrives => by
    obtain ⟨_, _, _, _, isTask⟩ := System.inquiryOf?_eq_some_iff.mp arrives
    rw [isTask]
    exact fresh
  hears := disregards.hears 0

namespace System

/-- An open session starts a task for a request of the peer, and watches its end. -/
theorem takeRequest_of_open
    {session : Session} (sessionFound : system.sessions[0]? = some session)
    (isOpen : session.closed = false) (id : Value) :
    Disregards (fun _ => False) (system.spawn (.answer 0 id)) (system.takeRequest 0 id) ∧
      (system.takeRequest 0 id).ending? system.nextTask = none := by
  have watches : ∀ watched : System, watched.whenEnded system.nextTask
      (.answerEnded 0 system.nextTask) = watched ∨ ∃ promise, watched.whenEnded system.nextTask
        (.answerEnded 0 system.nextTask) = watched.onLoop
          (·.whenSettled promise (.act (.answerEnded 0 system.nextTask))) := by
    intro watched
    unfold whenEnded
    split
    · exact Or.inl rfl
    · exact Or.inr ⟨_, rfl⟩
  have spawned : (system.spawn (.answer 0 id)).ending? system.nextTask = none := by
    rw [ending?_of_entry (spawn_task system _)]
    exact (Scheduler.spawn_outcome? _ _ system.loop).trans
      (Scheduler.outcome?_eq_none_of_le (Nat.le_refl _))
  have takes : system.takeRequest 0 id = ((system.spawn (.answer 0 id)).whenEnded system.nextTask
      (.answerEnded 0 system.nextTask)).modifySession 0 fun found =>
        { found with answers := found.answers ++ [system.nextTask] } := by
    simp only [takeRequest, sessionFound, isOpen, Bool.false_eq_true, if_false]
  rw [takes]
  rcases watches (system.spawn (.answer 0 id)) with same | ⟨promise, waits⟩
  · rw [same]
    exact ⟨.modifySession _ _ _, spawned⟩
  · rw [waits]
    refine ⟨(Disregards.onLoop _ (Scheduler.whenSettled_queues _ _ rfl)).trans
      (.modifySession _ _ _), ?_⟩
    rw [← spawned]
    simp [ending?, modifySession, onLoop]

/-- A text that comes over a connection is taken as a request, or concerns no request. -/
theorem receive_handles
    (world : SessionWorld registered system) (hears : (system.links[0]?).bind (·.session) = some 0)
    (link : Nat) (text : String) :
    Handles (if link = 0 then system.inquiryIn? text else none) none none none (fun _ => False)
      system (system.receive link text) := by
  cases listens : (system.links[link]?).bind (·.session) with
  | none =>
      have notFirst : link ≠ 0 := by
        rintro rfl
        rw [hears] at listens
        cases listens
      have same : system.receive link text = system := by simp only [receive, listens]
      rw [if_neg notFirst, same]
      exact (Disregards.refl system).handles world.isPatient
  | some session =>
      obtain ⟨rfl, rfl⟩ := world.parts.links link session listens
      obtain ⟨found, only, _⟩ := world.parts.session
      have sessionFound : system.sessions[0]? = some found := by rw [only]; rfl
      rw [if_pos rfl]
      cases requested : requestedId? text with
      | none =>
          have nothing : system.inquiryIn? text = none := by simp only [inquiryIn?, requested,
            Option.bind_none]
          have taken : Disregards (fun _ => False) system _ :=
            system.takeMessage_disregards world.parts.unopened requested 0
          have heard : Disregards (fun _ => False) system (system.receive 0 text) := by
            unfold receive
            simp only [listens]
            split
            · rename_i result
              rwa [result] at taken
            · rename_i result
              rw [result] at taken
              exact taken.trans (.note _ rfl)
          rw [nothing]
          exact heard.handles world.isPatient
      | some id =>
          have takes : system.receive 0 text = system.takeRequest 0 id := by
            simp only [receive, listens, takeMessage_of_request system requested]
          rw [takes]
          cases closed : found.closed with
          | true =>
              have nothing : system.inquiryIn? text = none := by
                simp [inquiryIn?, requested, sessionFound, closed]
              have same : system.takeRequest 0 id = system := by
                simp only [takeRequest, sessionFound, closed, if_true]
              rw [nothing, same]
              exact (Disregards.refl system).handles world.isPatient
          | false =>
              obtain ⟨disregards, fresh⟩ := takeRequest_of_open sessionFound closed id
              have handles := world.spawn_handles disregards fresh
              have arrives : (system.spawn (.answer 0 id)).inquiryOf? system.nextTask =
                  system.inquiryIn? text := by
                simp [inquiryIn?, requested, sessionFound, closed, inquiryOf?, spawn_task]
              rwa [arrives] at handles

end System

end LanguageClient.Client
