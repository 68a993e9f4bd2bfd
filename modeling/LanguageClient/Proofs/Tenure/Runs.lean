import LanguageClient.Proofs.Tenure.Steps

/-!
# Runs of a synchronizer that changes its document

A run begins with a synchronizer that has no document yet. What an input adds to the changes on their
way tells when a change is handed over, when it reaches the peer, and which hand-over a delivered change
comes from.
-/

namespace LanguageClient.Client

open LanguageClient.Json LanguageClient.Loop LanguageClient.Number LanguageClient.Protocol

/-- A client that has a synchronizer without a document. -/
def System.ofSynchronizer
    (resolution : Rat) (uri : String) (languageId : Value) (text : String) (debounce : Quantity) :
    System :=
  ({ loop := { resolution } } : System).addSynchronizer uri languageId text debounce

/-- The synchronizer before anything has happened. -/
def Synchronizer.fresh
    (uri : String) (languageId : Value) (text : String) (debounce : Quantity) : Synchronizer where
  uri
  languageId
  text
  debounce

theorem ofSynchronizer_world
    (resolution : Rat) (uri : String) (languageId : Value) (text : String) (debounce : Quantity) :
    TenureWorld none (.fresh uri languageId text debounce)
      (.ofSynchronizer resolution uri languageId text debounce) where
  parts := {
    synchronizers := rfl
    changes := rfl
    lock := {
      waiters := nofun
      detained := nofun
      granted := nofun }
    books := .of_empty rfl rfl rfl rfl }
  held := rfl
  places := by
    constructor <;> simp [System.ofSynchronizer, System.addSynchronizer]
  orderly := .of_empty rfl rfl rfl rfl
  punctual := .of_empty rfl rfl rfl

/-- The task that goes on next sends the text in any case. -/
def System.ForcesNext (system : System) : Prop :=
  ∃ task found, system.comingCallback? = some (.resume task) ∧
    system.loop.tasks[task]? = some found ∧ forces found.stack = true

/-! ## What an input adds -/

section Additions

variable (start : System) (inputs : Nat → Input)

/-- What an input adds to the changes on their way. -/
def System.changesIn (place : Nat) : List Occurrence :=
  (start.after inputs (place + 1)).changes.drop (start.after inputs place).changes.length

/-- An input hands a change to a connection. -/
def System.HandsOver (place : Nat) : Prop :=
  ∃ link frame, .handed link frame ∈ start.changesIn inputs place

/-- The peer accepts a change with an input. -/
def System.Delivers (place : Nat) : Prop :=
  ∃ link frame, .accepted link frame ∈ start.changesIn inputs place

/-- The change that one input hands over is delivered with another input, before the next change is
handed over. -/
structure System.Sent (handed delivered : Nat) : Prop where
  ordered : handed ≤ delivered
  change : ∃ link frame, .handed link frame ∈ start.changesIn inputs handed ∧
    .accepted link frame ∈ start.changesIn inputs delivered
  unbroken : ∀ place, handed < place → place ≤ delivered → ¬ start.HandsOver inputs place

/-- A change was handed over with an input, and nothing has happened to any change since. -/
structure System.HeldSince (consignment : Consignment) (handed place : Nat) : Prop where
  earlier : handed < place
  hands : start.changesIn inputs handed = [consignment.handing]
  quiet : ∀ other, handed < other → other < place → start.changesIn inputs other = []

/-- The synchronizer is attached to a document that was opened with another text. -/
def System.DiffersAt (place : Nat) : Prop :=
  ∃ file openedText synchronizer, inputs place = .attach 0 file openedText ∧
    (start.after inputs place).synchronizers = [synchronizer] ∧ synchronizer.text ≠ openedText

/-- There is an edit between two inputs. -/
def EditedBetween (first last : Nat) : Prop :=
  ∃ place, first < place ∧ place < last ∧ (inputs place).isEdit = true

end Additions

variable {start : System} {inputs : Nat → Input}

theorem changesIn_eq
    {place : Nat} {added : List Occurrence}
    (changes : (start.after inputs (place + 1)).changes =
      (start.after inputs place).changes ++ added) :
    start.changesIn inputs place = added := by
  rw [System.changesIn, changes, List.drop_left]

theorem changesIn_of_same
    {place : Nat}
    (changes : (start.after inputs (place + 1)).changes = (start.after inputs place).changes) :
    start.changesIn inputs place = [] :=
  changesIn_eq (changes.trans (List.append_nil _).symm)

theorem not_handsOver_of_nil
    {place : Nat} (quiet : start.changesIn inputs place = []) : ¬ start.HandsOver inputs place := by
  rintro ⟨link, frame, member⟩
  rw [quiet] at member
  cases member

theorem not_delivers_of_nil
    {place : Nat} (quiet : start.changesIn inputs place = []) : ¬ start.Delivers inputs place := by
  rintro ⟨link, frame, member⟩
  rw [quiet] at member
  cases member

namespace System.HeldSince

variable {consignment : Consignment} {handed place : Nat}

theorem handsOver (held : start.HeldSince inputs consignment handed place) :
    start.HandsOver inputs handed :=
  ⟨consignment.link, consignment.frame, by
    rw [held.hands]
    exact List.mem_cons_self⟩

theorem not_delivers
    {other : Nat} (held : start.HeldSince inputs consignment handed place) (after : handed ≤ other)
    (inside : other < place) : ¬ start.Delivers inputs other := by
  rcases Nat.eq_or_lt_of_le after with rfl | later
  · rintro ⟨link, frame, member⟩
    rw [held.hands] at member
    cases List.mem_singleton.mp member
  · exact not_delivers_of_nil (held.quiet other later inside)

/-- Nothing happens to any change with one more input. -/
theorem goesOn
    (held : start.HeldSince inputs consignment handed place)
    (quiet : start.changesIn inputs place = []) :
    start.HeldSince inputs consignment handed (place + 1) where
  earlier := Nat.lt_succ_of_lt held.earlier
  hands := held.hands
  quiet := fun other after inside => by
    rcases Nat.lt_succ_iff_lt_or_eq.mp inside with before | rfl
    · exact held.quiet other after before
    · exact quiet

/-- The change is delivered. -/
theorem sent
    (held : start.HeldSince inputs consignment handed place)
    (delivers : start.changesIn inputs place = [consignment.acceptance]) :
    start.Sent inputs handed place where
  ordered := Nat.le_of_lt held.earlier
  change := ⟨consignment.link, consignment.frame, by
    rw [held.hands]
    exact List.mem_cons_self, by
    rw [delivers]
    exact List.mem_cons_self⟩
  unbroken := fun other after inside => by
    rcases Nat.eq_or_lt_of_le inside with rfl | before
    · rintro ⟨link, frame, member⟩
      rw [delivers] at member
      cases List.mem_singleton.mp member
    · exact not_handsOver_of_nil (held.quiet other after before)

/-- The change that is delivered next is the one that was handed over. -/
theorem handed_eq
    {other : Nat} (held : start.HeldSince inputs consignment handed place)
    (sent : start.Sent inputs other place) (quiet : ¬ start.HandsOver inputs place) :
    other = handed := by
  obtain ⟨link, frame, member, _⟩ := sent.change
  have hands : start.HandsOver inputs other := ⟨link, frame, member⟩
  rcases Nat.lt_trichotomy other handed with before | same | after
  · exact (sent.unbroken handed before (Nat.le_of_lt held.earlier) held.handsOver).elim
  · exact same
  · rcases Nat.eq_or_lt_of_le sent.ordered with rfl | inside
    · exact (quiet hands).elim
    · exact (not_handsOver_of_nil (held.quiet other after inside) hands).elim

end System.HeldSince

theorem System.Sent.delivers
    {handed delivered : Nat} (sent : start.Sent inputs handed delivered) :
    start.Delivers inputs delivered := by
  obtain ⟨link, frame, _, member⟩ := sent.change
  exact ⟨link, frame, member⟩

theorem System.Sent.handsOver
    {handed delivered : Nat} (sent : start.Sent inputs handed delivered) :
    start.HandsOver inputs handed := by
  obtain ⟨link, frame, member, _⟩ := sent.change
  exact ⟨link, frame, member⟩

/-- A change that is handed over and delivered with one input. -/
theorem sent_of_sends
    {place : Nat} {consignment : Consignment}
    (sends : start.changesIn inputs place = [consignment.handing, consignment.acceptance]) :
    start.Sent inputs place place where
  ordered := Nat.le_refl place
  change := ⟨consignment.link, consignment.frame, by
    rw [sends]
    exact List.mem_cons_self, by
    rw [sends]
    exact List.mem_cons_of_mem _ List.mem_cons_self⟩
  unbroken := fun other after inside => (Nat.lt_irrefl _ (Nat.lt_of_lt_of_le after inside)).elim

theorem EditedBetween.widen
    {first last wideFirst wideLast : Nat} (edited : EditedBetween inputs first last)
    (before : wideFirst ≤ first) (after : last ≤ wideLast) :
    EditedBetween inputs wideFirst wideLast := by
  obtain ⟨place, begins, ends, isEdit⟩ := edited
  exact ⟨place, Nat.lt_of_le_of_lt before begins, Nat.lt_of_lt_of_le ends after, isEdit⟩

/-! ## Steps of a run -/

section Steps

variable {place : Nat} {synchronizer later : Synchronizer}
  {holder laterHolder : Option (Nat × Consignment)}
  (step : TenureStep synchronizer holder (start.after inputs place)
    (start.after inputs (place + 1)) (inputs place) later laterHolder)

include step

/-- A change is handed over only in a turn of a task that finds the lock free, the document attached,
and the text unsent unless it sends it in any case. -/
theorem TenureStep.of_handsOver (hands : start.HandsOver inputs place) :
    holder = none ∧ synchronizer.file ≠ none ∧
      (synchronizer.dirty = true ∨ (start.after inputs place).ForcesNext) := by
  have noisy : start.changesIn inputs place ≠ [] := fun quiet => not_handsOver_of_nil quiet hands
  generalize inputEq : inputs place = input at step
  cases step with
  | stands input later noEdit noAttach follows dirty version changes =>
      exact (noisy (changesIn_of_same changes)).elim
  | edits text timer? armed changes => exact (noisy (changesIn_of_same changes)).elim
  | attaches file openedText timer? changes => exact (noisy (changesIn_of_same changes)).elim
  | turns task found later laterHolder added coming entry turn =>
      have adds := changesIn_eq turn.changes
      have due (isDue : synchronizer.dirty = true ∨ forces found.stack = true) :
          synchronizer.dirty = true ∨ (start.after inputs place).ForcesNext :=
        isDue.imp_right fun forced => ⟨task, found, coming, entry, forced⟩
      cases turn.move with
      | rests => exact (noisy adds).elim
      | isRefused consignment free attached isDue => exact ⟨free, attached, due isDue⟩
      | hands consignment free attached isDue => exact ⟨free, attached, due isDue⟩
      | sends consignment free attached isDue => exact ⟨free, attached, due isDue⟩
      | delivers consignment =>
          obtain ⟨link, frame, member⟩ := hands
          rw [adds] at member
          cases List.mem_singleton.mp member
      | restores => exact (noisy adds).elim

/-- A change is delivered when it is handed over, or it was held back under the lock. -/
theorem TenureStep.of_delivers (delivers : start.Delivers inputs place) :
    (∃ consignment : Consignment,
      start.changesIn inputs place = [consignment.handing, consignment.acceptance]) ∨
    ∃ task consignment, holder = some (task, consignment) ∧
      start.changesIn inputs place = [consignment.acceptance] := by
  have noisy : start.changesIn inputs place ≠ [] := fun quiet => not_delivers_of_nil quiet delivers
  have notHanding (consignment : Consignment) :
      start.changesIn inputs place ≠ [consignment.handing] := by
    intro handing
    obtain ⟨link, frame, member⟩ := delivers
    rw [handing] at member
    cases List.mem_singleton.mp member
  generalize inputEq : inputs place = input at step
  cases step with
  | stands input later noEdit noAttach follows dirty version changes =>
      exact (noisy (changesIn_of_same changes)).elim
  | edits text timer? armed changes => exact (noisy (changesIn_of_same changes)).elim
  | attaches file openedText timer? changes => exact (noisy (changesIn_of_same changes)).elim
  | turns task found later laterHolder added coming entry turn =>
      have adds := changesIn_eq turn.changes
      cases turn.move with
      | rests => exact (noisy adds).elim
      | isRefused consignment => exact (notHanding consignment adds).elim
      | hands consignment => exact (notHanding consignment adds).elim
      | sends consignment => exact Or.inl ⟨consignment, adds⟩
      | delivers consignment holds => exact Or.inr ⟨task, consignment, holds, adds⟩
      | restores => exact (noisy adds).elim

end Steps

/-! ## Runs -/

/-- What holds of the synchronizer and of the holder of its lock in the beginning, and is kept by every
step, holds at every place of a run. -/
theorem tenure_induction
    {holder : Option (Nat × Consignment)} {synchronizer : Synchronizer}
    (Holds : Nat → Synchronizer → Option (Nat × Consignment) → Prop)
    (world : TenureWorld holder synchronizer start) (allowed : ∀ place, (inputs place).OnTenure)
    (begins : Holds 0 synchronizer holder)
    (goesOn : ∀ (place : Nat) (current later : Synchronizer)
      (currentHolder laterHolder : Option (Nat × Consignment)),
      TenureWorld currentHolder current (start.after inputs place) →
        Holds place current currentHolder →
        TenureStep current currentHolder (start.after inputs place)
          (start.after inputs (place + 1)) (inputs place) later laterHolder →
        TenureWorld laterHolder later (start.after inputs (place + 1)) →
        Holds (place + 1) later laterHolder)
    (count : Nat) :
    ∃ laterHolder later, TenureWorld laterHolder later (start.after inputs count) ∧
      Holds count later laterHolder := by
  induction count with
  | zero => exact ⟨holder, synchronizer, world, begins⟩
  | succ count inductionHypothesis =>
      obtain ⟨currentHolder, current, currentWorld, holds⟩ := inductionHypothesis
      obtain ⟨laterHolder, later, laterWorld, step⟩ := currentWorld.step (allowed count)
      exact ⟨laterHolder, later, laterWorld, goesOn count _ _ _ _ currentWorld holds step laterWorld⟩

end LanguageClient.Client
