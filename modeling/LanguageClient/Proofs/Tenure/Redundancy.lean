import LanguageClient.Proofs.Tenure.Runs

/-!
# No change is sent without an edit

A synchronizer that is attached once marks its text as unsent with every edit, takes the mark away when
it hands a change over, and puts it back when the change does not reach the peer. The mark accounts for
edits over every interleaving: a change that nobody forces is handed over only after an edit that no
delivered change can have taken in, and the last edit is delivered exactly once.
-/

namespace LanguageClient.Client

open LanguageClient.Json LanguageClient.Loop LanguageClient.Number LanguageClient.Protocol

/-- Nothing is unsent, and nothing is being sent. -/
def System.Settled (system : System) : Prop :=
  ∀ synchronizer ∈ system.synchronizers,
    synchronizer.dirty = false ∧ synchronizer.lock.held = false

section Accounts

variable (start : System) (inputs : Nat → Input) (attached : Nat)

/-- There is an edit that the peer does not have: none of the changes that were delivered before was
handed over after it, and the document was not opened with it. -/
structure Owed (place : Nat) : Prop where
  opened : start.DiffersAt inputs attached ∨ EditedBetween inputs attached place
  sent : ∀ handed delivered, start.Sent inputs handed delivered → delivered < place →
    EditedBetween inputs handed place

/-- The mark of a synchronizer accounts for its edits. While a change is on its way, the mark stands
for edits since its hand-over, and the change holds the mark of the edits before. -/
inductive Accounted (place : Nat) (synchronizer : Synchronizer) :
    Option (Nat × Consignment) → Prop where
  | free (owed : synchronizer.dirty = true → Owed start inputs attached place) :
    Accounted place synchronizer none
  | held (handed task : Nat) (consignment : Consignment) (after : attached < handed)
      (since : start.HeldSince inputs consignment handed place)
      (owed : consignment.change.wasDirty = true → Owed start inputs attached handed)
      (edited : synchronizer.dirty = true → EditedBetween inputs handed place) :
    Accounted place synchronizer (some (task, consignment))

/-- Until the synchronizer is attached nothing is handed over, and from then on the mark accounts for
the edits. -/
inductive AccountedFrom (place : Nat) (synchronizer : Synchronizer) :
    Option (Nat × Consignment) → Prop where
  | detached (before : place ≤ attached) (file : synchronizer.file = none)
      (quiet : ∀ earlier < place, start.changesIn inputs earlier = []) :
    AccountedFrom place synchronizer none
  | attached (holder : Option (Nat × Consignment)) (after : attached < place)
      (accounted : Accounted start inputs attached place synchronizer holder) :
    AccountedFrom place synchronizer holder

/-- An edit is still to be sent, is on its way, or has been delivered by a change that was handed over
after it. -/
inductive EnRoute (edited place : Nat) (synchronizer : Synchronizer) :
    Option (Nat × Consignment) → Prop where
  | unsent (holder : Option (Nat × Consignment)) (unsent : synchronizer.dirty = true) :
    EnRoute edited place synchronizer holder
  | held (handed task : Nat) (consignment : Consignment) (after : edited < handed)
      (since : start.HeldSince inputs consignment handed place)
      (wasDirty : consignment.change.wasDirty = true) :
    EnRoute edited place synchronizer (some (task, consignment))
  | sent (holder : Option (Nat × Consignment)) (handed delivered : Nat) (after : edited < handed)
      (before : delivered < place) (sent : start.Sent inputs handed delivered) :
    EnRoute edited place synchronizer holder

end Accounts

variable {start : System} {inputs : Nat → Input} {attached place : Nat}
  {synchronizer later : Synchronizer} {holder laterHolder : Option (Nat × Consignment)}

/-! ## What is owed -/

theorem Owed.goesOn
    (owed : Owed start inputs attached place) (quiet : ¬ start.Delivers inputs place) :
    Owed start inputs attached (place + 1) where
  opened := owed.opened.imp_right fun edited => edited.widen (Nat.le_refl _) (Nat.le_succ place)
  sent := fun handed delivered sent before => by
    rcases Nat.lt_succ_iff_lt_or_eq.mp before with earlier | rfl
    · exact (owed.sent handed delivered sent earlier).widen (Nat.le_refl _) (Nat.le_succ place)
    · exact (quiet sent.delivers).elim

/-- An edit is owed. -/
theorem owed_of_edit
    (after : attached < place) (isEdit : (inputs place).isEdit = true)
    (quiet : ¬ start.Delivers inputs place) : Owed start inputs attached (place + 1) where
  opened := Or.inr ⟨place, after, Nat.lt_succ_self place, isEdit⟩
  sent := fun handed delivered sent before => by
    rcases Nat.lt_succ_iff_lt_or_eq.mp before with earlier | rfl
    · exact ⟨place, Nat.lt_of_le_of_lt sent.ordered earlier, Nat.lt_succ_self place, isEdit⟩
    · exact (quiet sent.delivers).elim

section Held

variable {consignment : Consignment} {handed : Nat}
  (since : start.HeldSince inputs consignment handed place)

include since

/-- Whatever was delivered was delivered before the change on its way was handed over. -/
theorem System.HeldSince.delivered_before
    {other delivered : Nat} (sent : start.Sent inputs other delivered) (before : delivered < place) :
    delivered < handed :=
  Nat.lt_of_not_le fun after => since.not_delivers after before sent.delivers

/-- An edit that is made while a change is on its way is owed when the change has ended. -/
theorem owed_of_edited
    (after : attached < handed) (edited : EditedBetween inputs handed place)
    (quiet : ¬ start.HandsOver inputs place) : Owed start inputs attached (place + 1) where
  opened := Or.inr (edited.widen (Nat.le_of_lt after) (Nat.le_succ place))
  sent := fun other delivered sent before => by
    rcases Nat.lt_succ_iff_lt_or_eq.mp before with earlier | rfl
    · have isBefore := since.delivered_before sent earlier
      exact edited.widen (Nat.le_of_lt (Nat.lt_of_le_of_lt sent.ordered isBefore))
        (Nat.le_succ place)
    · rw [since.handed_eq sent quiet]
      exact edited.widen (Nat.le_refl _) (Nat.le_succ delivered)

/-- What was owed when a change was handed over is owed again when the change was not delivered. -/
theorem Owed.restored
    (owed : Owed start inputs attached handed) (quiet : ¬ start.Delivers inputs place) :
    Owed start inputs attached (place + 1) where
  opened := owed.opened.imp_right fun edited =>
    edited.widen (Nat.le_refl _) (Nat.le_succ_of_le (Nat.le_of_lt since.earlier))
  sent := fun other delivered sent before => by
    rcases Nat.lt_succ_iff_lt_or_eq.mp before with earlier | rfl
    · exact (owed.sent other delivered sent (since.delivered_before sent earlier)).widen
        (Nat.le_refl _) (Nat.le_succ_of_le (Nat.le_of_lt since.earlier))
    · exact (quiet sent.delivers).elim

end Held

/-! ## Steps -/

/-- Nothing happens to the mark and to the changes. -/
theorem Accounted.stands
    (accounted : Accounted start inputs attached place synchronizer holder)
    (dirty : later.dirty = synchronizer.dirty) (quiet : start.changesIn inputs place = []) :
    Accounted start inputs attached (place + 1) later holder := by
  cases accounted with
  | free owed =>
      refine .free fun unsent => ?_
      exact (owed (dirty ▸ unsent)).goesOn (not_delivers_of_nil quiet)
  | held handed task consignment after since owed edited =>
      refine .held handed task consignment after (since.goesOn quiet) owed fun unsent => ?_
      exact (edited (dirty ▸ unsent)).widen (Nat.le_refl _) (Nat.le_succ place)

theorem Accounted.edits
    (accounted : Accounted start inputs attached place synchronizer holder)
    (after : attached < place) (isEdit : (inputs place).isEdit = true)
    (quiet : start.changesIn inputs place = []) :
    Accounted start inputs attached (place + 1) later holder := by
  cases accounted with
  | free owed =>
      exact .free fun _ => owed_of_edit after isEdit (not_delivers_of_nil quiet)
  | held handed task consignment afterHand since owed edited =>
      exact .held handed task consignment afterHand (since.goesOn quiet) owed fun _ =>
        ⟨place, since.earlier, Nat.lt_succ_self place, isEdit⟩

theorem Accounted.moves
    {task : Nat} {forced : Bool} {added : List Occurrence}
    (accounted : Accounted start inputs attached place synchronizer holder)
    (after : attached < place)
    (move : Handling task forced synchronizer holder later laterHolder added)
    (adds : start.changesIn inputs place = added) :
    Accounted start inputs attached (place + 1) later laterHolder := by
  have delivered {consignment : Consignment} (handing : added = [consignment.handing]) :
      ¬ start.Delivers inputs place := by
    rintro ⟨link, frame, member⟩
    rw [adds, handing] at member
    cases List.mem_singleton.mp member
  have handed {consignment : Consignment} (acceptance : added = [consignment.acceptance]) :
      ¬ start.HandsOver inputs place := by
    rintro ⟨link, frame, member⟩
    rw [adds, acceptance] at member
    cases List.mem_singleton.mp member
  cases move with
  | rests dirty => exact accounted.stands dirty adds
  | isRefused consignment free ready due isNext dirty =>
      subst free
      cases accounted with
      | free owed =>
          exact .free fun unsent => (owed (dirty ▸ unsent)).goesOn (delivered rfl)
  | hands consignment free ready due isNext dirty =>
      subst free
      cases accounted with
      | free owed =>
          have since : start.HeldSince inputs consignment place (place + 1) := {
            earlier := Nat.lt_succ_self place
            hands := adds
            quiet := fun other later before => by omega }
          refine .held place task consignment after since ?_ ?_
          · intro wasDirty
            rw [isNext] at wasDirty
            exact owed wasDirty
          · intro unsent
            rw [dirty] at unsent
            cases unsent
  | sends consignment free ready due isNext dirty =>
      refine .free fun unsent => ?_
      rw [dirty] at unsent
      cases unsent
  | delivers consignment holds dirty =>
      subst holds
      cases accounted with
      | held handedAt _ _ afterHand since owed edited =>
          exact .free fun unsent =>
            owed_of_edited since afterHand (edited (dirty ▸ unsent)) (handed rfl)
  | restores consignment holds dirty =>
      subst holds
      cases accounted with
      | held handedAt _ _ afterHand since owed edited =>
          refine .free fun unsent => ?_
          rw [dirty, Bool.or_eq_true] at unsent
          rcases unsent with edit | wasDirty
          · exact owed_of_edited since afterHand (edited edit) (not_handsOver_of_nil adds)
          · exact (owed wasDirty).restored since (not_delivers_of_nil adds)

/-- The attachment owes the peer the text, if that differs from the one that was opened. -/
theorem accounted_of_attach
    {file : Nat} {openedText : String} {timer? : Option Nat}
    (world : TenureWorld none synchronizer (start.after inputs attached))
    (attaches : inputs attached = .attach 0 file openedText)
    (quiet : ∀ earlier ≤ attached, start.changesIn inputs earlier = []) :
    Accounted start inputs attached (attached + 1)
      { synchronizer with
        file := some file
        version := 0
        dirty := synchronizer.text ≠ openedText
        timer := timer? } none := by
  refine .free fun unsent => ⟨Or.inl ?_, ?_⟩
  · exact ⟨file, openedText, synchronizer, attaches, world.parts.synchronizers,
      of_decide_eq_true unsent⟩
  · intro handed delivered sent before
    exact (not_delivers_of_nil (quiet delivered (Nat.le_of_lt_succ before)) sent.delivers).elim

section Steps

variable (once : ∀ place, (inputs place).isAttach = true ↔ place = attached)
  (step : TenureStep synchronizer holder (start.after inputs place)
    (start.after inputs (place + 1)) (inputs place) later laterHolder)

include once step

theorem Accounted.goesOn
    (accounted : Accounted start inputs attached place synchronizer holder)
    (after : attached < place) :
    Accounted start inputs attached (place + 1) later laterHolder := by
  generalize inputEq : inputs place = input at step
  cases step with
  | stands input later noEdit noAttach follows dirty version changes =>
      exact accounted.stands dirty (changesIn_of_same changes)
  | edits text timer? armed changes =>
      exact accounted.edits after (by rw [inputEq]; rfl) (changesIn_of_same changes)
  | attaches file openedText timer? changes =>
      have again : place = attached := (once place).mp (by rw [inputEq]; rfl)
      omega
  | turns task found later laterHolder added coming entry turn =>
      exact accounted.moves after turn.move (changesIn_eq turn.changes)

theorem AccountedFrom.goesOn
    (world : TenureWorld holder synchronizer (start.after inputs place))
    (accounted : AccountedFrom start inputs attached place synchronizer holder) :
    AccountedFrom start inputs attached (place + 1) later laterHolder := by
  cases accounted with
  | attached holder after accounted =>
      exact .attached laterHolder (Nat.lt_succ_of_lt after) (accounted.goesOn once step after)
  | detached before file quiet =>
      have quietNow : start.changesIn inputs place = [] → ∀ earlier < place + 1,
          start.changesIn inputs earlier = [] := by
        intro now earlier inside
        rcases Nat.lt_succ_iff_lt_or_eq.mp inside with before | rfl
        · exact quiet earlier before
        · exact now
      have notYet (noAttach : (inputs place).isAttach = false) : place + 1 ≤ attached := by
        refine Nat.lt_of_le_of_ne before fun here => ?_
        rw [(once place).mpr here] at noAttach
        cases noAttach
      generalize inputEq : inputs place = input at step notYet
      cases step with
      | stands input later noEdit noAttach follows dirty version changes =>
          refine .detached (notYet noAttach) ?_ (quietNow (changesIn_of_same changes))
          exact follows.file.elim (fun same => same.trans file) id
      | edits text timer? armed changes =>
          exact .detached (notYet rfl) file (quietNow (changesIn_of_same changes))
      | attaches openedFile openedText timer? changes =>
          obtain rfl : place = attached := (once place).mp (by rw [inputEq]; rfl)
          exact .attached none (Nat.lt_succ_self place) (accounted_of_attach world inputEq
            fun earlier inside => quietNow (changesIn_of_same changes) earlier
              (Nat.lt_succ_of_le inside))
      | turns task found later laterHolder added coming entry turn =>
          have adds := changesIn_eq turn.changes
          have fileLater : later.file = none :=
            turn.follows.file.elim (fun same => same.trans file) id
          cases turn.move with
          | rests => exact .detached (notYet rfl) fileLater (quietNow adds)
          | isRefused consignment free ready => exact (ready file).elim
          | hands consignment free ready => exact (ready file).elim
          | sends consignment free ready => exact (ready file).elim
          | delivers consignment holds => cases holds
          | restores consignment holds => cases holds

end Steps

/-! ## The last edit -/

section EnRoute

variable {edited : Nat}

theorem EnRoute.stands
    (enRoute : EnRoute start inputs edited place synchronizer holder)
    (dirty : later.dirty = synchronizer.dirty) (quiet : start.changesIn inputs place = []) :
    EnRoute start inputs edited (place + 1) later holder := by
  cases enRoute with
  | unsent holder unsent => exact .unsent holder (dirty.trans unsent)
  | held handed task consignment after since wasDirty =>
      exact .held handed task consignment after (since.goesOn quiet) wasDirty
  | sent holder handed delivered after before sent =>
      exact .sent holder handed delivered after (Nat.lt_succ_of_lt before) sent

theorem EnRoute.moves
    {task : Nat} {forced : Bool} {added : List Occurrence}
    (enRoute : EnRoute start inputs edited place synchronizer holder) (after : edited < place)
    (move : Handling task forced synchronizer holder later laterHolder added)
    (adds : start.changesIn inputs place = added) :
    EnRoute start inputs edited (place + 1) later laterHolder := by
  by_cases isSent : ∃ handed delivered, edited < handed ∧ delivered < place + 1 ∧
      start.Sent inputs handed delivered
  · obtain ⟨handed, delivered, afterEdit, before, sent⟩ := isSent
    exact .sent laterHolder handed delivered afterEdit before sent
  · have notSent {handed delivered : Nat} (afterEdit : edited < handed)
        (before : delivered < place + 1) : ¬ start.Sent inputs handed delivered :=
      fun sent => isSent ⟨handed, delivered, afterEdit, before, sent⟩
    have isUnsent (free : holder = none) : synchronizer.dirty = true := by
      cases enRoute with
      | unsent holder unsent => exact unsent
      | held => cases free
      | sent holder handed delivered afterEdit before sent =>
          exact (notSent afterEdit (Nat.lt_succ_of_lt before) sent).elim
    cases move with
    | rests dirty => exact enRoute.stands dirty adds
    | isRefused consignment free ready due isNext dirty =>
        exact .unsent none (dirty.trans (isUnsent free))
    | hands consignment free ready due isNext dirty =>
        refine .held place task consignment after ?_ ?_
        · exact {
            earlier := Nat.lt_succ_self place
            hands := adds
            quiet := fun other later before => by omega }
        · rw [isNext]
          exact isUnsent free
    | sends consignment free ready due isNext dirty =>
        exact (notSent after (Nat.lt_succ_self place) (sent_of_sends adds)).elim
    | delivers consignment holds dirty =>
        subst holds
        cases enRoute with
        | unsent holder unsent => exact .unsent none (dirty.trans unsent)
        | held handed _ _ afterEdit since wasDirty =>
            exact (notSent afterEdit (Nat.lt_succ_self place) (since.sent adds)).elim
        | sent holder handed delivered afterEdit before sent =>
            exact (notSent afterEdit (Nat.lt_succ_of_lt before) sent).elim
    | restores consignment holds dirty =>
        subst holds
        refine .unsent none (dirty.trans ?_)
        cases enRoute with
        | unsent holder unsent => rw [unsent, Bool.true_or]
        | held handed _ _ afterEdit since wasDirty => rw [wasDirty, Bool.or_true]
        | sent holder handed delivered afterEdit before sent =>
            exact (notSent afterEdit (Nat.lt_succ_of_lt before) sent).elim

theorem EnRoute.goesOn
    (enRoute : EnRoute start inputs edited place synchronizer holder) (after : edited < place)
    (noAttach : (inputs place).isAttach = false)
    (step : TenureStep synchronizer holder (start.after inputs place)
      (start.after inputs (place + 1)) (inputs place) later laterHolder) :
    EnRoute start inputs edited (place + 1) later laterHolder := by
  generalize inputs place = input at step noAttach
  cases step with
  | stands input later noEdit noAttach follows dirty version changes =>
      exact enRoute.stands dirty (changesIn_of_same changes)
  | edits text timer? armed changes => exact .unsent holder rfl
  | attaches file openedText timer? changes => cases noAttach
  | turns task found later laterHolder added coming entry turn =>
      exact enRoute.moves after turn.move (changesIn_eq turn.changes)

/-- An edit that is made, or comes with the attachment, is under way afterwards. -/
theorem underway_of_input
    (world : TenureWorld holder synchronizer (start.after inputs edited))
    (isEdit : (inputs edited).isEdit = true ∨ start.DiffersAt inputs edited)
    (step : TenureStep synchronizer holder (start.after inputs edited)
      (start.after inputs (edited + 1)) (inputs edited) later laterHolder) :
    EnRoute start inputs edited (edited + 1) later laterHolder := by
  generalize inputEq : inputs edited = input at step isEdit
  rcases isEdit with edits | ⟨file, openedText, found, attaches, only, differs⟩
  · cases step with
    | edits text timer? armed changes => exact .unsent holder rfl
    | stands input later noEdit =>
        rw [edits] at noEdit
        cases noEdit
    | attaches => cases edits
    | turns => cases edits
  · obtain rfl : found = synchronizer :=
      (List.cons.inj (only.symm.trans world.parts.synchronizers)).1
    obtain rfl : input = .attach 0 file openedText := inputEq.symm.trans attaches
    cases step with
    | attaches otherFile otherText timer? changes => exact .unsent holder (decide_eq_true differs)
    | stands input later noEdit noAttach => cases noAttach

theorem underway_run
    (world : TenureWorld none synchronizer start) (allowed : ∀ place, (inputs place).OnTenure)
    (isEdit : (inputs edited).isEdit = true ∨ start.DiffersAt inputs edited)
    (noAttach : ∀ place, edited < place → (inputs place).isAttach = false) (count : Nat)
    (after : edited < count) :
    ∃ holder current, TenureWorld holder current (start.after inputs count) ∧
      EnRoute start inputs edited count current holder := by
  obtain ⟨holder, current, currentWorld, enRoute⟩ := tenure_induction
    (fun count current holder => edited < count →
      EnRoute start inputs edited count current holder)
    world allowed (fun impossible => (Nat.not_lt_zero _ impossible).elim)
    (fun place current later holder laterHolder currentWorld enRoute step _ inside => by
      rcases Nat.lt_succ_iff_lt_or_eq.mp inside with before | rfl
      · exact (enRoute before).goesOn before (noAttach place before) step
      · exact underway_of_input currentWorld isEdit step) count
  exact ⟨holder, current, currentWorld, enRoute after⟩

end EnRoute

/-! ## Runs -/

section Runs

variable (world : TenureWorld none synchronizer start) (detached : synchronizer.file = none)
  (allowed : ∀ place, (inputs place).OnTenure)
  (once : ∀ place, (inputs place).isAttach = true ↔ place = attached)

include world detached allowed once

theorem accounted_run (count : Nat) :
    ∃ holder current, TenureWorld holder current (start.after inputs count) ∧
      AccountedFrom start inputs attached count current holder :=
  tenure_induction (AccountedFrom start inputs attached) world allowed
    (.detached (Nat.zero_le attached) detached fun _ impossible => (Nat.not_lt_zero _ impossible).elim)
    (fun _ _ _ _ _ current accounted step _ => accounted.goesOn once step current) count

/-- A change that nobody forces is owed when it is handed over. -/
theorem owed_of_handsOver
    (hands : start.HandsOver inputs place) (unforced : ¬ (start.after inputs place).ForcesNext) :
    Owed start inputs attached place := by
  obtain ⟨holder, current, currentWorld, accounted⟩ :=
    accounted_run world detached allowed once place
  obtain ⟨laterHolder, later, _, step⟩ := currentWorld.step (allowed place)
  obtain ⟨rfl, ready, due⟩ := TenureStep.of_handsOver step hands
  cases accounted with
  | detached before file quiet => exact (ready file).elim
  | attached holder after accounted =>
      cases accounted with
      | free owed => exact owed (due.resolve_right unforced)

theorem attached_before_handsOver (hands : start.HandsOver inputs place) : attached < place := by
  obtain ⟨holder, current, currentWorld, accounted⟩ :=
    accounted_run world detached allowed once place
  obtain ⟨laterHolder, later, _, step⟩ := currentWorld.step (allowed place)
  obtain ⟨_, ready, _⟩ := TenureStep.of_handsOver step hands
  cases accounted with
  | detached before file quiet => exact (ready file).elim
  | attached holder after accounted => exact after

/-- Whatever is delivered has been handed over with the same input, or has been held back since its
hand-over. -/
theorem delivered_cases (delivers : start.Delivers inputs place) :
    start.Sent inputs place place ∨
      ∃ consignment handed, start.HeldSince inputs consignment handed place ∧
        start.changesIn inputs place = [consignment.acceptance] := by
  obtain ⟨holder, current, currentWorld, accounted⟩ :=
    accounted_run world detached allowed once place
  obtain ⟨laterHolder, later, _, step⟩ := currentWorld.step (allowed place)
  rcases TenureStep.of_delivers step delivers with ⟨consignment, sends⟩ |
    ⟨task, consignment, rfl, acceptance⟩
  · exact Or.inl (sent_of_sends sends)
  · cases accounted with
    | attached holder after accounted =>
        cases accounted with
        | held handed _ _ after since owed edited =>
            exact Or.inr ⟨consignment, handed, since, acceptance⟩

/-- A change that was handed over is delivered once. -/
theorem System.Sent.delivered_unique
    {handed first second : Nat} (sent : start.Sent inputs handed first)
    (again : start.Sent inputs handed second) : first = second := by
  have notBefore {first second : Nat} (sent : start.Sent inputs handed first)
      (again : start.Sent inputs handed second) : ¬ first < second := by
    intro before
    rcases delivered_cases world detached allowed once again.delivers with
      whole | ⟨consignment, place, since, acceptance⟩
    · have later : handed < second := Nat.lt_of_le_of_lt sent.ordered before
      exact again.unbroken second later (Nat.le_refl second) whole.handsOver
    · have quiet : ¬ start.HandsOver inputs second := by
        rintro ⟨link, frame, member⟩
        rw [acceptance] at member
        cases List.mem_singleton.mp member
      obtain rfl := since.handed_eq again quiet
      exact since.not_delivers sent.ordered before sent.delivers
  have notFirst := notBefore sent again
  have notSecond := notBefore again sent
  omega

/-- While nobody forces a change, an edit after which no other one comes is delivered by exactly one
change until all is settled. -/
theorem sent_once
    {edited rest : Nat} (before : edited < rest) (after : attached ≤ edited)
    (isEdit : (inputs edited).isEdit = true ∨ start.DiffersAt inputs edited)
    (isLast : ¬ EditedBetween inputs edited rest) (settled : (start.after inputs rest).Settled)
    (unforced : ∀ place, edited < place → place < rest → start.HandsOver inputs place →
      ¬ (start.after inputs place).ForcesNext) :
    ∃! sent : Nat × Nat, edited < sent.1 ∧ sent.2 < rest ∧ start.Sent inputs sent.1 sent.2 := by
  have noAttach : ∀ place, edited < place → (inputs place).isAttach = false := by
    intro place later
    by_contra attaches
    have isAttached : place = attached := (once place).mp (eq_true_of_ne_false attaches)
    omega
  obtain ⟨handed, delivered, afterEdit, beforeRest, sent⟩ : ∃ handed delivered,
      edited < handed ∧ delivered < rest ∧ start.Sent inputs handed delivered := by
    obtain ⟨holder, current, currentWorld, enRoute⟩ :=
      underway_run world allowed isEdit noAttach rest before
    have member : current ∈ (start.after inputs rest).synchronizers := by
      rw [currentWorld.parts.synchronizers]
      exact List.mem_cons_self
    obtain ⟨clean, free⟩ := settled current member
    rw [currentWorld.held] at free
    cases enRoute with
    | unsent holder unsent =>
        rw [clean] at unsent
        cases unsent
    | held => cases free
    | sent holder handed delivered afterEdit beforeRest sent =>
        exact ⟨handed, delivered, afterEdit, beforeRest, sent⟩
  -- A second change would be owed when it is handed over, so there would be an edit in between.
  have notLater {first second firstDelivered secondDelivered : Nat} (afterEdit : edited < first)
      (beforeRest : secondDelivered < rest) (sent : start.Sent inputs first firstDelivered)
      (again : start.Sent inputs second secondDelivered) : ¬ first < second := by
    intro later
    have secondBefore : second < rest := Nat.lt_of_le_of_lt again.ordered beforeRest
    have owed := owed_of_handsOver world detached allowed once again.handsOver
      (unforced second (Nat.lt_trans afterEdit later) secondBefore again.handsOver)
    have ended : firstDelivered < second := Nat.lt_of_not_le fun inside =>
      sent.unbroken second later inside again.handsOver
    exact isLast ((owed.sent first firstDelivered sent ended).widen (Nat.le_of_lt afterEdit)
      (Nat.le_of_lt secondBefore))
  refine ⟨(handed, delivered), ⟨afterEdit, beforeRest, sent⟩, ?_⟩
  rintro ⟨other, otherDelivered⟩ ⟨otherAfter, otherBefore, otherSent⟩
  have notBefore := notLater otherAfter beforeRest otherSent sent
  have notAfter := notLater afterEdit otherBefore sent otherSent
  obtain rfl : other = handed := by omega
  obtain rfl := sent.delivered_unique world detached allowed once otherSent
  rfl

end Runs

/-- Of a synchronizer that is attached once, every delivered change has been handed over after the
attachment. A change that nobody forces is handed over only after an edit that is later than the
hand-over of every change delivered before, and later than the attachment unless the text differed
then. So the last edit is delivered by exactly one change until all is settled, however many flushes
and timers there are. -/
theorem changes_follow_edits
    (resolution : Rat) (uri : String) (languageId : Value) (text : String) (debounce : Quantity)
    (inputs : Nat → Input) (attached : Nat) (allowed : ∀ place, (inputs place).OnTenure)
    (once : ∀ place, (inputs place).isAttach = true ↔ place = attached) :
    let start := System.ofSynchronizer resolution uri languageId text debounce
    (∀ delivered, start.Delivers inputs delivered →
      ∃ handed, attached < handed ∧ start.Sent inputs handed delivered) ∧
    (∀ handed, start.HandsOver inputs handed → ¬ (start.after inputs handed).ForcesNext →
      (start.DiffersAt inputs attached ∨ EditedBetween inputs attached handed) ∧
        ∀ earlier delivered, earlier < handed → start.Sent inputs earlier delivered →
          EditedBetween inputs earlier handed) ∧
    ∀ edited rest, edited < rest → attached ≤ edited →
      ((inputs edited).isEdit = true ∨ start.DiffersAt inputs edited) →
      ¬ EditedBetween inputs edited rest → (start.after inputs rest).Settled →
      (∀ place, edited < place → place < rest → start.HandsOver inputs place →
        ¬ (start.after inputs place).ForcesNext) →
      ∃! sent : Nat × Nat, edited < sent.1 ∧ sent.2 < rest ∧ start.Sent inputs sent.1 sent.2 := by
  intro start
  have world := ofSynchronizer_world resolution uri languageId text debounce
  refine ⟨fun delivered delivers => ?_, fun handed hands unforced => ?_, ?_⟩
  · obtain ⟨handed, sent⟩ : ∃ handed, start.Sent inputs handed delivered := by
      rcases delivered_cases world rfl allowed once delivers with
        whole | ⟨consignment, handed, since, acceptance⟩
      · exact ⟨delivered, whole⟩
      · exact ⟨handed, since.sent acceptance⟩
    exact ⟨handed, attached_before_handsOver world rfl allowed once sent.handsOver, sent⟩
  · have owed := owed_of_handsOver world rfl allowed once hands unforced
    refine ⟨owed.opened, fun earlier delivered before sent => ?_⟩
    have ended : delivered < handed := Nat.lt_of_not_le fun inside =>
      sent.unbroken handed before inside hands
    exact owed.sent earlier delivered sent ended
  · intro edited rest before after isEdit isLast settled unforced
    exact sent_once world rfl allowed once before after isEdit isLast settled unforced

/-! ## A run -/

/-- An edit with two flushes. The peer refuses the change of the first one, which it has held back
while the second one came to wait. -/
def flushedTwice : Nat → Input
  | 0 => .call (.createWorkspace {
      serverUri := "ws://localhost/lsp"
      rootUri := .null
      folders := none
      timeout := .int 1
      unreachable := none })
  | 2 => .receive 0 "\x7b\"id\": \"1\", \"result\": \x7b\"capabilities\": \x7b\x7d\x7d\x7d"
  | 5 => .call (.openFile 0 "file:///document" (.string "text") "first" [])
  | 7 => .attach 0 0 "first"
  | 8 => .edit 0 "second"
  | 9 => .behave { holding := true }
  | 10 | 12 => .call (.flush 0 false)
  | 14 => .behave { refusal := some ⟨.reset, none⟩ }
  | 15 => .release 0
  | 17 => .behave {}
  | _ => .turn

theorem flushedTwice_onTenure (place : Nat) : (flushedTwice place).OnTenure := by
  unfold flushedTwice
  split <;> first | rfl | trivial

theorem changes_follow_edits_flushedTwice :
    let start := System.ofSynchronizer 0 "file:///document" (.string "text") "first" (.int 1)
    (∀ place, (flushedTwice place).OnTenure) ∧
      (∀ place, (flushedTwice place).isAttach = true ↔ place = 7) ∧
        ∃! sent : Nat × Nat, 8 < sent.1 ∧ sent.2 < 20 ∧ start.Sent flushedTwice sent.1 sent.2 := by
  intro start
  have once : ∀ place, (flushedTwice place).isAttach = true ↔ place = 7 := by
    intro place
    unfold flushedTwice
    split <;> simp_all [Input.isAttach]
  have isLast : ¬ EditedBetween flushedTwice 8 20 := by
    rintro ⟨place, after, before, isEdit⟩
    unfold flushedTwice at isEdit
    split at isEdit <;> simp_all [Input.isEdit]
  have settled : (start.after flushedTwice 20).Settled := by
    unfold System.Settled
    decide +kernel
  have unforced : ∀ place < 20, ∀ found ∈ (start.after flushedTwice place).loop.tasks,
      forces found.stack = false := by
    decide +kernel
  obtain ⟨_, _, delivered⟩ := changes_follow_edits 0 "file:///document" (.string "text") "first" (.int 1)
    flushedTwice 7 flushedTwice_onTenure once
  refine ⟨flushedTwice_onTenure, once, delivered 8 20 (by decide) (by decide) (Or.inl rfl) isLast
    settled ?_⟩
  rintro place _ before _ ⟨task, found, _, entry, forced⟩
  rw [unforced place before found (List.mem_of_getElem? entry)] at forced
  cases forced

end LanguageClient.Client
