import LanguageClient.WebSocket.Connection
import Mathlib.Data.List.Basic

/-!
# Reading a socket

What a host is told of the frames of a socket. The peer, the reader and the host act one after the other
in any order; the host registers its handlers once, and may close the connection before or after that.
Closing takes time: the reader may go on until the socket is closed and the reader is stopped. What the
reader takes off the socket is what the host is told, frame by frame, and the end of the frames is told
once if the reader comes to it first.
-/

namespace LanguageClient.WebSocket

/-- What can happen to a connection. -/
inductive Input where
  /-- A frame arrives over the socket. -/
  | arrive (frame : Frame)
  /-- The frames come to an end. -/
  | finish (ending : Ending)
  /-- The reader takes what comes first off the socket. -/
  | read
  /-- The host begins to close the connection. -/
  | close
  /-- The socket is closed, and the reader of a connection that closes is stopped. -/
  | stop

/-- What an input brings to the socket. -/
def Input.arrival? : Input → Option Arrival
  | .arrive frame => some (.frame frame)
  | .finish ending => some (.ending ending)
  | .read | .close | .stop => none

/-- The text of a frame that has arrived. -/
def Arrival.text? : Arrival → Option String
  | .frame content => content.text?
  | .ending _ => none

/-- Whether a callback of the host is called. -/
def Occurrence.isCall : Occurrence → Bool
  | .handled _ | .ended => true
  | .logged _ => false

/-- What the host is told of an arrival that is read. -/
def Arrival.told (closing : Bool) : Arrival → List Occurrence
  | .frame content => (content.text?.map .handled).toList
  | .ending _ => if closing then [] else [.ended]

namespace Connection

def step (connection : Connection) : Input → Connection
  | .arrive frame => connection.arrive frame
  | .finish ending => connection.finish ending
  | .read => connection.readNext
  | .close => connection.beginClosing
  | .stop => if connection.closing then connection.stopReading else connection

/-- A connection after some inputs. -/
def after (connection : Connection) : List Input → Connection
  | [] => connection
  | input :: rest => (connection.step input).after rest

/-- The host registers the handlers of messages and of the end. -/
def register (connection : Connection) (handler : Handler) : Connection :=
  (connection.listen (some handler)).watch

/-- The calls of the host's callbacks, in order. -/
def calls (connection : Connection) : List Occurrence :=
  connection.journal.filter Occurrence.isCall

/-- What the reader takes off the socket with an input. -/
def taken? (connection : Connection) : Input → Option Arrival
  | .read => if connection.reader = .reading then connection.socket.arrived.head? else none
  | .arrive _ | .finish _ | .close | .stop => none

/-- What the reader takes off the socket in a run, in order. -/
def taken (connection : Connection) : List Input → List Arrival
  | [] => []
  | input :: rest => (connection.taken? input).toList ++ (connection.step input).taken rest

/-- The reader comes to the end of the frames before the host begins to close the connection. -/
inductive ReachesEnd : Connection → List Input → Prop where
  | here {connection : Connection} {ending : Ending} (rest : List Input)
      (taken : connection.taken? .read = some (.ending ending)) :
    ReachesEnd connection (.read :: rest)
  | later {connection : Connection} {input : Input} {rest : List Input} (goesOn : input ≠ .close)
      (reaches : ReachesEnd (connection.step input) rest) : ReachesEnd connection (input :: rest)

/-- The handlers of a host are registered. -/
structure Listens (connection : Connection) (handler : Handler) : Prop where
  handler : connection.handler = some handler
  watched : connection.watched = true

/-- What a connection is after it has read an arrival. -/
structure Reads (arrival : Arrival) (before after : Connection) : Prop where
  arrived : before.socket.arrived = arrival :: after.socket.arrived
  handler : after.handler = before.handler
  watched : after.watched = before.watched
  closing : after.closing = before.closing
  reader : after.reader = if arrival matches .frame _ then before.reader else .finished
  calls : after.calls = before.calls ++ arrival.told before.closing

variable {connection : Connection} {handler : Handler} {arrival : Arrival} {input : Input}
  {inputs : List Input}

/-! ## One step -/

/-- The host is told the texts of the frames, and of an end unless the connection closes. -/
theorem flatMap_told
    {taken : Option Arrival} {closing : Bool}
    (noEnd : closing = true ∨ ∀ ending, taken ≠ some (.ending ending)) :
    taken.toList.flatMap (Arrival.told closing) =
      (taken.toList.filterMap Arrival.text?).map .handled := by
  match taken with
  | none => rfl
  | some (.frame content) =>
      cases hasText : content.text? <;> simp [Arrival.told, Arrival.text?, hasText]
  | some (.ending ending) =>
      rcases noEnd with closes | noEnd
      · simp [Arrival.told, Arrival.text?, closes]
      · exact (noEnd ending rfl).elim

theorem calls_note (connection : Connection) (occurrence : Occurrence) :
    (connection.note occurrence).calls =
      connection.calls ++ if occurrence.isCall then [occurrence] else [] := by
  simp [calls, note, List.filter_append, List.filter_cons]

theorem calls_log (connection : Connection) (level : LogLevel) (text : String) :
    (connection.log level text).calls = connection.calls := by
  simp [log, calls_note, Occurrence.isCall]

theorem handle_reads
    {rest : List Arrival} {text : String} {frame : Frame} (listens : connection.Listens handler)
    (arrived : connection.socket.arrived = .frame frame :: rest) (hasText : frame.text? = some text) :
    Reads (.frame frame) connection ((connection.takeOff rest).handle text) := by
  have isHandler : (connection.takeOff rest).handler = some handler := listens.handler
  have told : Arrival.told connection.closing (.frame frame) = [.handled text] := by
    simp [Arrival.told, hasText]
  simp only [handle, isHandler]
  split
  · exact {
      arrived, handler := rfl, watched := rfl, closing := rfl, reader := rfl
      calls := told ▸ calls_note (connection.takeOff rest) (.handled text) }
  · exact {
      arrived, handler := rfl, watched := rfl, closing := rfl, reader := rfl
      calls := told ▸ (calls_log _ _ _).trans (calls_note (connection.takeOff rest) (.handled text)) }

theorem readFrame_reads
    {rest : List Arrival} {frame : Frame} (listens : connection.Listens handler)
    (arrived : connection.socket.arrived = .frame frame :: rest) :
    Reads (.frame frame) connection ((connection.takeOff rest).readFrame frame) := by
  unfold readFrame
  split
  · rename_i noText
    have told : Arrival.told connection.closing (.frame frame) = [] := by
      simp [Arrival.told, noText]
    exact {
      arrived, handler := rfl, watched := rfl, closing := rfl, reader := rfl
      calls := by
        rw [told, List.append_nil]
        exact calls_log (connection.takeOff rest) _ _ }
  · rename_i text hasText
    exact handle_reads listens arrived hasText

theorem endReading_reads
    {rest : List Arrival} {ending : Ending} (listens : connection.Listens handler)
    (arrived : connection.socket.arrived = .ending ending :: rest) :
    Reads (.ending ending) connection ((connection.takeOff rest).endReading ending) := by
  have watched : connection.watched = true := listens.watched
  cases isClosing : connection.closing <;> cases ending <;>
    exact {
      arrived := by simpa [endReading, takeOff, isClosing, watched, log, note] using arrived
      handler := by simp [endReading, takeOff, isClosing, watched, log, note]
      watched := by simp [endReading, takeOff, isClosing, watched, log, note]
      closing := by simp [endReading, takeOff, isClosing, watched, log, note]
      reader := by simp [endReading, takeOff, isClosing, watched, log, note]
      calls := by
        simp [endReading, takeOff, isClosing, watched, log, note, calls, Arrival.told,
          Occurrence.isCall, List.filter_cons] }

/-- A step of the reader takes one arrival off the socket and reads it, or does nothing. -/
theorem readNext_cases (listens : connection.Listens handler) :
    (connection.taken? .read = none ∧ connection.readNext = connection) ∨
      ∃ arrival, connection.reader = .reading ∧ connection.taken? .read = some arrival ∧
        Reads arrival connection connection.readNext := by
  cases isReader : connection.reader with
  | absent => exact Or.inl (by simp [taken?, readNext, isReader])
  | finished => exact Or.inl (by simp [taken?, readNext, isReader])
  | reading =>
      cases arrived : connection.socket.arrived with
      | nil => exact Or.inl (by simp [taken?, readNext, isReader, arrived])
      | cons arrival rest =>
          refine Or.inr ⟨arrival, rfl, by simp [taken?, isReader, arrived], ?_⟩
          cases arrival with
          | frame frame =>
              simpa only [readNext, isReader, arrived] using readFrame_reads listens arrived
          | ending ending =>
              simpa only [readNext, isReader, arrived] using endReading_reads listens arrived

theorem readNext_of_unread (unread : connection.reader ≠ .reading) :
    connection.readNext = connection := by
  cases isReader : connection.reader with
  | reading => exact (unread isReader).elim
  | absent => simp [readNext, isReader]
  | finished => simp [readNext, isReader]

theorem Listens.step (listens : connection.Listens handler) (input : Input) :
    (connection.step input).Listens handler := by
  cases input with
  | read =>
      change connection.readNext.Listens handler
      rcases readNext_cases listens with ⟨_, same⟩ | ⟨arrival, _, _, reads⟩
      · exact same.symm ▸ listens
      · exact ⟨reads.handler.trans listens.handler, reads.watched.trans listens.watched⟩
  | stop =>
      simp only [Connection.step]
      split
      · exact ⟨listens.handler, listens.watched⟩
      · exact listens
  | arrive frame => exact ⟨listens.handler, listens.watched⟩
  | finish ending => exact ⟨listens.handler, listens.watched⟩
  | close => exact ⟨listens.handler, listens.watched⟩

theorem step_closing (listens : connection.Listens handler) (input : Input) :
    (connection.step input).closing = true ↔ connection.closing = true ∨ input = .close := by
  cases input with
  | read =>
      change connection.readNext.closing = true ↔ _
      rcases readNext_cases listens with ⟨_, same⟩ | ⟨arrival, _, _, reads⟩
      · simp [same]
      · simp [reads.closing]
  | stop =>
      simp only [step]
      split
      · simp [stopReading]
      · simp
  | arrive frame => simp [step, arrive]
  | finish ending => simp [step, finish]
  | close => simp [step, beginClosing]

/-- Nothing gets lost between the socket and the reader. -/
theorem step_arrived (listens : connection.Listens handler) (input : Input) :
    (connection.taken? input).toList ++ (connection.step input).socket.arrived =
      connection.socket.arrived ++ input.arrival?.toList := by
  cases input with
  | read =>
      change _ ++ connection.readNext.socket.arrived = _
      rcases readNext_cases listens with ⟨nothing, same⟩ | ⟨arrival, _, taken, reads⟩
      · simp [nothing, same, Input.arrival?]
      · simp [taken, reads.arrived, Input.arrival?]
  | stop =>
      simp only [step]
      split <;> simp [taken?, stopReading, Input.arrival?]
  | arrive frame => simp [step, taken?, arrive, Socket.arrive, Input.arrival?]
  | finish ending => simp [step, taken?, finish, Socket.finish, Input.arrival?]
  | close => simp [step, taken?, beginClosing, Input.arrival?]

/-- The host is told of what is taken off the socket, and of nothing else. -/
theorem step_calls (listens : connection.Listens handler) (input : Input) :
    (connection.step input).calls =
      connection.calls ++ (connection.taken? input).toList.flatMap
        (Arrival.told connection.closing) := by
  cases input with
  | read =>
      change connection.readNext.calls = _
      rcases readNext_cases listens with ⟨nothing, same⟩ | ⟨arrival, _, taken, reads⟩
      · simp [nothing, same]
      · simp [taken, reads.calls]
  | stop =>
      simp only [step]
      split <;> simp [taken?, stopReading, calls]
  | arrive frame => simp [step, taken?, arrive, calls]
  | finish ending => simp [step, taken?, finish, calls]
  | close => simp [step, taken?, beginClosing, calls]

/-- Whoever does not read does not begin to. -/
theorem step_of_unread (unread : connection.reader ≠ .reading) (input : Input) :
    connection.taken? input = none ∧ (connection.step input).reader ≠ .reading ∧
      (connection.step input).calls = connection.calls ∧
        (connection.step input).socket.arrived =
          connection.socket.arrived ++ input.arrival?.toList := by
  cases input with
  | read => simp [taken?, step, readNext_of_unread unread, unread, Input.arrival?]
  | stop =>
      simp only [step]
      split <;> simp [taken?, stopReading, calls, unread, Input.arrival?]
  | arrive frame => simp [taken?, step, arrive, Socket.arrive, calls, unread, Input.arrival?]
  | finish ending => simp [taken?, step, finish, Socket.finish, calls, unread, Input.arrival?]
  | close => simp [taken?, step, beginClosing, calls, unread, Input.arrival?]

/-! ## Runs -/

theorem after_of_unread (unread : connection.reader ≠ .reading) (inputs : List Input) :
    connection.taken inputs = [] ∧ (connection.after inputs).calls = connection.calls ∧
      (connection.after inputs).socket.arrived =
        connection.socket.arrived ++ inputs.filterMap Input.arrival? := by
  induction inputs generalizing connection with
  | nil => simp [taken, after]
  | cons input rest inductionHypothesis =>
      obtain ⟨nothing, stillUnread, sameCalls, arrived⟩ := step_of_unread unread input
      obtain ⟨takenLater, callsLater, arrivedLater⟩ := inductionHypothesis stillUnread
      refine ⟨?_, ?_, ?_⟩
      · simp [taken, nothing, takenLater]
      · rw [after, callsLater, sameCalls]
      · rw [after, arrivedLater, arrived]
        cases brings : input.arrival? <;> simp [brings]

theorem after_arrived (listens : connection.Listens handler) (inputs : List Input) :
    connection.taken inputs ++ (connection.after inputs).socket.arrived =
      connection.socket.arrived ++ inputs.filterMap Input.arrival? := by
  induction inputs generalizing connection with
  | nil => simp [taken, after]
  | cons input rest inductionHypothesis =>
      rw [taken, after, List.append_assoc, inductionHypothesis (listens.step input),
        ← List.append_assoc, step_arrived listens input]
      cases brings : input.arrival? <;> simp [brings]

theorem not_reachesEnd_of_unread (unread : connection.reader ≠ .reading) :
    ¬ ReachesEnd connection inputs := by
  intro reaches
  induction reaches with
  | here rest taken =>
      rw [(step_of_unread unread .read).1] at taken
      cases taken
  | later goesOn _ inductionHypothesis =>
      exact inductionHypothesis (step_of_unread unread _).2.1

/-- After the end nothing is read. -/
theorem unread_of_end
    {ending : Ending} (listens : connection.Listens handler)
    (taken : connection.taken? input = some (.ending ending)) :
    (connection.step input).reader ≠ .reading := by
  cases input with
  | read =>
      change connection.readNext.reader ≠ .reading
      rcases readNext_cases listens with ⟨nothing, _⟩ | ⟨arrival, _, isArrival, reads⟩
      · rw [taken] at nothing
        cases nothing
      · obtain rfl := Option.some.inj (taken.symm.trans isArrival)
        simp [reads.reader]
  | arrive _ => cases taken
  | finish _ => cases taken
  | close => cases taken
  | stop => cases taken

/-- A reader that has not come to the end and was not stopped goes on reading. -/
theorem after_reading
    (listens : connection.Listens handler) (reading : connection.reader = .reading)
    (goesOn : .stop ∉ inputs) (noEnd : ∀ ending, .ending ending ∉ connection.taken inputs) :
    (connection.after inputs).reader = .reading := by
  induction inputs generalizing connection with
  | nil => exact reading
  | cons input rest inductionHypothesis =>
      simp only [List.mem_cons, not_or] at goesOn
      simp only [taken, List.mem_append, not_or] at noEnd
      have stillReading : (connection.step input).reader = .reading := by
        cases input with
        | read =>
            change connection.readNext.reader = .reading
            rcases readNext_cases listens with ⟨_, same⟩ | ⟨arrival, _, taken, reads⟩
            · rw [same, reading]
            · cases arrival with
              | frame content => exact reads.reader.trans reading
              | ending ending => exact ((noEnd ending).1 (by simp [taken])).elim
        | stop => exact (goesOn.1 rfl).elim
        | arrive frame => exact reading
        | finish ending => exact reading
        | close => exact reading
      exact inductionHypothesis (listens.step input) stillReading goesOn.2 fun ending =>
        (noEnd ending).2

/-- The end is told once, after everything else. -/
theorem calls_of_reachesEnd
    (listens : connection.Listens handler) (isOpen : connection.closing = false)
    (reaches : ReachesEnd connection inputs) :
    (connection.after inputs).calls =
      connection.calls ++ ((connection.taken inputs).filterMap Arrival.text?).map .handled ++
        [.ended] := by
  induction reaches with
  | @here connection ending rest taken =>
      obtain ⟨takenLater, callsLater, _⟩ := after_of_unread (unread_of_end listens taken) rest
      have callsNow : (connection.step .read).calls = connection.calls ++ [.ended] := by
        simp [step_calls listens, taken, Arrival.told, isOpen]
      simp [after, Connection.taken, taken, takenLater, callsLater, callsNow, Arrival.text?]
  | @later connection input rest goesOn reaches inductionHypothesis =>
      have stillOpen : (connection.step input).closing = false := by
        have iff := step_closing listens input
        simpa [isOpen, goesOn] using iff
      have noEnd (ending : Ending) : connection.taken? input ≠ some (.ending ending) :=
        fun taken => not_reachesEnd_of_unread (unread_of_end listens taken) reaches
      rw [after, inductionHypothesis (listens.step input) stillOpen, step_calls listens, taken,
        flatMap_told (Or.inr noEnd)]
      simp

/-- An end that comes after the host has begun to close the connection is not told. -/
theorem calls_of_not_reachesEnd
    (listens : connection.Listens handler)
    (never : connection.closing = true ∨ ¬ ReachesEnd connection inputs) :
    (connection.after inputs).calls =
      connection.calls ++ ((connection.taken inputs).filterMap Arrival.text?).map .handled := by
  induction inputs generalizing connection with
  | nil => simp [after, taken]
  | cons input rest inductionHypothesis =>
      have noEnd : connection.closing = true ∨
          ∀ ending, connection.taken? input ≠ some (.ending ending) := by
        refine never.imp_right fun never ending taken => never ?_
        cases input with
        | read => exact .here rest taken
        | arrive _ => cases taken
        | finish _ => cases taken
        | close => cases taken
        | stop => cases taken
      have stillNever : (connection.step input).closing = true ∨
          ¬ ReachesEnd (connection.step input) rest := by
        by_cases closes : (connection.step input).closing = true
        · exact Or.inl closes
        · rw [step_closing listens input, not_or] at closes
          exact Or.inr fun reaches => never.elim closes.1 fun never => never (.later closes.2 reaches)
      rw [after, inductionHypothesis (listens.step input) stillNever, step_calls listens, taken,
        flatMap_told noEnd]
      simp

/-- Before the handlers are registered, only the host's call to close the connection matters. -/
theorem after_of_absent (absent : connection.reader = .absent) (inputs : List Input) :
    (connection.after inputs).reader = .absent ∧
      ((connection.after inputs).closing = true ↔
        connection.closing = true ∨ .close ∈ inputs) := by
  induction inputs generalizing connection with
  | nil => simp [after, absent]
  | cons input rest inductionHypothesis =>
      have now : (connection.step input).reader = .absent ∧
          ((connection.step input).closing = true ↔
            connection.closing = true ∨ .close = input) := by
        cases input with
        | read => simp [step, readNext, absent]
        | stop =>
            simp only [step]
            split <;> simp [stopReading, absent]
        | arrive frame => simp [step, arrive, absent]
        | finish ending => simp [step, finish, absent]
        | close => simp [step, beginClosing, absent]
      obtain ⟨stillAbsent, closes⟩ := inductionHypothesis now.1
      refine ⟨stillAbsent, ?_⟩
      rw [after, closes, now.2, List.mem_cons, or_assoc]

/-- A connection that closes in one go begins to close, its socket is closed, and its reader stops. -/
theorem close_eq_after (connection : Connection) :
    connection.close = connection.after [.close, .finish .completed, .stop] := by
  simp [close, after, step, beginClosing, finish]

end Connection

open Connection

/-- Frames that are read after a first one, of which one is no text, until the connection breaks. -/
def brokenLink : List Input :=
  [.read, .arrive (.binary ⟨#[255]⟩), .arrive (.text "second"), .read, .read, .finish .broken, .read,
    .close]

end LanguageClient.WebSocket
