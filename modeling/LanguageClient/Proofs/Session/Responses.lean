import LanguageClient.Proofs.Session.Correlation
import Mathlib.Algebra.Group.Int.Defs

/-!
# What a response does

A text of the peer that names an open request ends it: with the result that the text carries, or
with a failure made from its error. Two kinds of texts break off instead. One that is nested too
deeply is never read, and an error whose code has more than 32 bits leaves its request open.
-/

namespace LanguageClient.Client

open LanguageClient.Json LanguageClient.Loop LanguageClient.Number LanguageClient.Protocol

/-! ## Responses -/

/-- The code that an error states: its own if that is an integer or a truth value, otherwise that of
an internal error. -/
def statedCode (error : Value) : Int :=
  match error.get? "code" with
  | some (.int code) => code
  | some (.bool true) => 1
  | some (.bool false) => 0
  | _ => -32603

/-- The code that an error states, in the form in which it is passed on. -/
def shownCode (error : Value) : Value :=
  match error.get? "code" with
  | some (.bool code) => .bool code
  | _ => .int (statedCode error)

/-- The error that a client reports for an error of the peer. What is no object is all message. -/
def reportedError (error : Value) : ResponseError :=
  ResponseError.of (statedCode error) (shownCode error)
    (match error with
      | .object members => ((member? "message" members).map Value.display).getD ""
      | _ => error.display)
    ((error.get? "data").getD .null)

/-- How a response ends the request that it names. An error that is null counts as absent. -/
def responseEnding (message : Value) : Outcome Reply :=
  match message.present? "error" with
  | none => .returned (.result ((message.get? "result").getD .null))
  | some error => .failed (.response (reportedError error))

/-- The code of the error that a response carries, if it carries one, is a signed integer of 32
bits. -/
def HasSignedCode (message : Value) : Prop :=
  ∀ error, message.present? "error" = some error →
    -2 ^ 31 ≤ statedCode error ∧ statedCode error ≤ 2 ^ 31 - 1

theorem isVersion_iff (code : Int) :
    isVersion code = true ↔ -2 ^ 31 ≤ code ∧ code ≤ 2 ^ 31 - 1 := by
  have smallest : -largestInteger - 1 = -2 ^ 31 := rfl
  simp only [isVersion, smallest, Bool.and_eq_true, decide_eq_true_eq]
  rfl

theorem errorCode_get? (error : Value) :
    errorCode (error.get? "code") = (statedCode error, shownCode error) := by
  unfold errorCode shownCode statedCode
  cases error.get? "code" with
  | none => rfl
  | some code =>
      cases code with
      | bool value => cases value <;> rfl
      | _ => rfl

theorem responseFailure_eq (error : Value) :
    responseFailure error =
      if isVersion (statedCode error) = true then .ok (.response (reportedError error))
      else .error .outOfRange := by
  have code := errorCode_get? error
  cases error with
  | object members =>
      simp only [responseFailure]
      rw [show member? "code" members = (Value.object members).get? "code" from rfl, code]
      rfl
  | _ => rfl

section Texts

variable {system : System} {session : Nat} {raw : String}

theorem entry_of_openRequest?
    {id : String} {entry : PendingRequest}
    (isOpen : system.openRequest? session id = some entry) :
    ∃ found, system.sessions[session]? = some found ∧ entry ∈ found.pending ∧ entry.id = id ∧
      system.loop.outcome? entry.promise = none := by
  simp only [System.openRequest?, Option.filter_eq_some_iff, Option.bind_eq_some_iff,
    Session.find?] at isOpen
  obtain ⟨⟨found, sessionFound, entryFound⟩, unsettled⟩ := isOpen
  refine ⟨found, sessionFound, List.mem_of_find?_eq_some entryFound, ?_, ?_⟩
  · simpa using List.find?_some entryFound
  · simpa [Scheduler.isSettled] using unsettled

/-- A response ends the open request that it names, unless the code of its error has too many bits;
then it fails and the request stays open. -/
theorem takeResponse_of_open
    {id : String} {entry : PendingRequest} (message : Value)
    (isOpen : system.openRequest? session id = some entry) :
    (HasSignedCode message →
      system.takeResponse session id message =
        (system.settle entry.promise (responseEnding message), none)) ∧
    (¬ HasSignedCode message →
      system.takeResponse session id message = (system, some .outOfRange)) := by
  unfold System.takeResponse
  rw [isOpen]
  simp only
  cases hasError : message.present? "error" with
  | none =>
      have signed : HasSignedCode message := by
        intro error found
        rw [hasError] at found
        cases found
      exact ⟨fun _ => by simp only [responseEnding, hasError], fun notSigned =>
        (notSigned signed).elim⟩
  | some error =>
      have signed_iff : HasSignedCode message ↔ isVersion (statedCode error) = true := by
        rw [isVersion_iff]
        constructor
        · intro signed
          exact signed error hasError
        · intro inRange found same
          rw [hasError] at same
          rw [← Option.some.inj same]
          exact inRange
      rw [signed_iff]
      simp only [responseFailure_eq]
      constructor
      · intro inRange
        simp only [inRange, if_true, responseEnding, hasError]
      · intro outside
        simp only [outside, if_false, Bool.false_eq_true]

theorem takeResponse_of_unknown
    {id : String} {message : Value} (unknown : system.openRequest? session id = none) :
    (system.takeResponse session id message).2 = none := by
  unfold System.takeResponse
  rw [unknown]

variable (tell : System → Nat → Value → Value → System × Option Failure)

theorem takeMessage_of_response
    {id : String} {message : Value} (isResponse : IsResponse raw id message) :
    system.takeMessage session raw tell = system.takeResponse session id message := by
  obtain ⟨members, isObject⟩ := isResponse.isObject
  obtain ⟨value, hasId, rfl⟩ := isResponse.named
  have parsed := isResponse.parsed
  have noMethod := isResponse.noMethod
  subst isObject
  simp only [System.takeMessage, parsed, noMethod, hasId]

/-- A text that is no response breaks off only if it is nested too deeply. A failure of whoever
listens to notifications is logged and goes no further. -/
theorem takeMessage_of_no_response
    (noResponse : ∀ id message, ¬ IsResponse raw id message) :
    (system.takeMessage session raw tell).2 = none ↔
      Value.ofText raw ≠ .error .nestedTooDeep := by
  unfold System.takeMessage
  split
  · rename_i parsed
    simp [parsed]
  · rename_i parsed
    simp [parsed]
  · rename_i members parsed
    simp only [parsed, ne_eq, reduceCtorEq, not_false_eq_true, iff_true]
    split
    · rfl
    · split
      · rfl
      · rfl
      · split <;> rfl
    · rename_i value noMethod hasId
      exact (noResponse _ _ ⟨parsed, ⟨members, rfl⟩, noMethod, value, hasId, rfl⟩).elim
    · rfl
  · rename_i parsed
    simp [parsed]

theorem IsResponse.unique
    {id other : String} {message otherMessage : Value}
    (isResponse : IsResponse raw id message) (isOther : IsResponse raw other otherMessage) :
    other = id ∧ otherMessage = message := by
  have parsed := isResponse.parsed
  rw [isOther.parsed] at parsed
  obtain rfl : otherMessage = message := Except.ok.inj parsed
  obtain ⟨value, hasId, rfl⟩ := isResponse.named
  obtain ⟨otherValue, otherHasId, rfl⟩ := isOther.named
  rw [hasId] at otherHasId
  rw [Option.some.inj otherHasId]
  exact ⟨rfl, rfl⟩

/-- A text is handled without a failure exactly if it is not nested too deeply and is no response to
an open request with a code of too many bits. A response to an open request ends it as it says, and
with such a code it leaves it open. -/
theorem responses_settle (system : System) (session : Nat) (raw : String)
    (tell : System → Nat → Value → Value → System × Option Failure) :
    let handled := system.takeMessage session raw tell
    (handled.2 = none ↔
      Value.ofText raw ≠ .error .nestedTooDeep ∧
        ∀ id message entry, IsResponse raw id message →
          system.openRequest? session id = some entry → HasSignedCode message) ∧
    ∀ id message entry, IsResponse raw id message →
      system.openRequest? session id = some entry → entry.promise < system.nextPromise →
        (HasSignedCode message →
          handled.1.loop.outcome? entry.promise = some (responseEnding message)) ∧
        (¬ HasSignedCode message →
          handled.2 = some .outOfRange ∧ handled.1.loop.outcome? entry.promise = none) := by
  intro handled
  constructor
  · by_cases response : ∃ id message, IsResponse raw id message
    · obtain ⟨id, message, isResponse⟩ := response
      have readable : Value.ofText raw ≠ .error .nestedTooDeep := by
        rw [isResponse.parsed]
        nofun
      have isHandled : handled = system.takeResponse session id message :=
        takeMessage_of_response tell isResponse
      rw [isHandled]
      cases isOpen : system.openRequest? session id with
      | none =>
          refine iff_of_true (takeResponse_of_unknown isOpen) ⟨readable, ?_⟩
          intro other otherMessage entry isOther otherOpen
          rw [(isResponse.unique isOther).1, isOpen] at otherOpen
          cases otherOpen
      | some entry =>
          obtain ⟨settles, breaksOff⟩ := takeResponse_of_open message isOpen
          constructor
          · intro returns
            refine ⟨readable, fun other otherMessage _ isOther _ => ?_⟩
            rw [(isResponse.unique isOther).2]
            by_cases signed : HasSignedCode message
            · exact signed
            · rw [breaksOff signed] at returns
              cases returns
          · rintro ⟨_, signed⟩
            rw [settles (signed id message entry isResponse isOpen)]
    · have noResponse : ∀ id message, ¬ IsResponse raw id message :=
        fun id message isResponse => response ⟨id, message, isResponse⟩
      rw [takeMessage_of_no_response tell noResponse]
      exact ⟨fun readable => ⟨readable, fun id message _ isResponse =>
        (noResponse id message isResponse).elim⟩, And.left⟩
  · intro id message entry isResponse isOpen known
    have isHandled : handled = system.takeResponse session id message :=
      takeMessage_of_response tell isResponse
    obtain ⟨_, _, _, _, unsettled⟩ := entry_of_openRequest? isOpen
    obtain ⟨settles, breaksOff⟩ := takeResponse_of_open message isOpen
    rw [isHandled]
    constructor
    · intro signed
      rw [settles signed]
      exact Scheduler.settle_outcome?_self _ known unsettled
    · intro notSigned
      rw [breaksOff notSigned]
      exact ⟨rfl, unsettled⟩

end Texts

/-- A request that is written. -/
def writtenRequest : Nat → Input
  | 0 => .call (.request 0 "first" none none)
  | _ => .turn

theorem responses_settle_writtenRequest :
    let system := (System.ofSession 0 (.float (.infinite false))).after writtenRequest 3
    let raw := "\x7b\"id\": \"1\", \"error\": \x7b\"code\": 2147483648\x7d\x7d"
    ∃ message entry,
      IsResponse raw "1" message ∧ system.openRequest? 0 "1" = some entry ∧
      entry.promise < system.nextPromise ∧ ¬ HasSignedCode message ∧
      (system.takeMessage 0 raw fun system _ _ _ => (system, none)).2 = some .outOfRange ∧
      (system.takeMessage 0 raw fun system _ _ _ =>
        (system, none)).1.loop.outcome? entry.promise = none := by
  intro system raw
  have read : (Value.ofText raw).toOption = some (.object [("id", .string "1"),
      ("error", .object [("code", .int 2147483648)])]) := by
    decide +kernel
  have parsed : Value.ofText raw = .ok (.object [("id", .string "1"),
      ("error", .object [("code", .int 2147483648)])]) := by
    cases result : Value.ofText raw with
    | error fault =>
        rw [result] at read
        cases read
    | ok message =>
        rw [result] at read
        exact congrArg Except.ok (Option.some.inj read)
  have isResponse : IsResponse raw "1" (.object [("id", .string "1"),
      ("error", .object [("code", .int 2147483648)])]) :=
    ⟨parsed, ⟨_, rfl⟩, rfl, .string "1", rfl, rfl⟩
  have isOpen : system.openRequest? 0 "1" = some
      { id := "1", method := "first", timeout := .float (.infinite false), promise := 1,
        timer := 0 } := by
    decide +kernel
  have known : 1 < system.nextPromise := by decide +kernel
  have notSigned : ¬ HasSignedCode (.object [("id", .string "1"),
      ("error", .object [("code", .int 2147483648)])]) := by
    intro signed
    have inRange := (signed _ rfl).2
    revert inRange
    decide
  have settles := (responses_settle system 0 raw fun system _ _ _ => (system, none)).2 _ _ _
    isResponse isOpen known
  exact ⟨_, _, isResponse, isOpen, known, notSigned, settles.2 notSigned⟩

end LanguageClient.Client
