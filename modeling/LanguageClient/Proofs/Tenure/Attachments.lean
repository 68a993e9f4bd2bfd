import LanguageClient.Proofs.Tenure.Runs

/-!
# One attachment after the other

The versions of the changes for a document count up from one, and the mark of unsent text stands for
its own edits, if nothing is being sent when the synchronizer is attached to it. A change that is still
on its way then outlives the document for which it was handed over: when it is delivered, the new
document goes on with its version, and when it is not, the new document takes over its mark.
-/

namespace LanguageClient.Client

open LanguageClient.Json LanguageClient.Loop LanguageClient.Number LanguageClient.Protocol

/-- A task sends a change under the lock. -/
def System.Carries (system : System) (task : Nat) (consignment : Consignment) : Prop :=
  ∃ found caller, system.loop.tasks[task]? = some found ∧
    found.stack = consignment.frames ++ caller

/-- The version of a change that the peer accepts. -/
def Occurrence.deliveredVersion? : Occurrence → Option Int
  | .accepted _ frame =>
    match ((frame.get? "params").bind (·.get? "textDocument")).bind (·.get? "version") with
    | some (.int version) => some version
    | _ => none
  | _ => none

/-- Some versions that count up by one from a version. -/
def versionsAfter (version count : Nat) : List Int :=
  (List.range count).map fun number => ((version + number + 1 : Nat) : Int)

section Definitions

variable (start : System) (inputs : Nat → Input)

/-- The versions of the changes that are delivered from one input on until another one. -/
def System.deliveredBetween (first last : Nat) : List Int :=
  ((List.range' first (last - first)).flatMap (start.changesIn inputs)).filterMap
    Occurrence.deliveredVersion?

/-- Changes are delivered under versions that count up by one from a version, and the synchronizer has
the last of them. -/
def System.CountsUp (version first last : Nat) : Prop :=
  ∃ count, start.deliveredBetween inputs first last = versionsAfter version count ∧
    ∀ synchronizer ∈ (start.after inputs last).synchronizers,
      synchronizer.version = version + count

/-- There is a reason to mark the text of an attachment as unsent: the document was opened with another
text, the text was edited since, or something else is the case. -/
def Reason (attached place : Nat) (other : Prop) : Prop :=
  start.DiffersAt inputs attached ∨ EditedBetween inputs attached place ∨ other

/-- The text is marked as unsent only for such a reason. -/
def System.MarksEdits (attached place : Nat) (other : Prop) : Prop :=
  ∀ synchronizer ∈ (start.after inputs place).synchronizers, synchronizer.dirty = true →
    Reason start inputs attached place other

/-- What becomes of a change that was on its way when the synchronizer was attached to another
document. -/
inductive System.Outlives
    (attached : Nat) (task : Nat) (consignment : Consignment) (place : Nat) : Prop where
  | lingers (carries : (start.after inputs place).Carries task consignment)
      (quiet : ∀ other, attached ≤ other → other < place → start.changesIn inputs other = [])
      (version : ∀ synchronizer ∈ (start.after inputs place).synchronizers,
        synchronizer.version = 0)
      (marks : start.MarksEdits inputs attached place False)
  | isDelivered (ended : Nat) (after : attached < ended) (before : ended < place)
      (quiet : ∀ other, attached ≤ other → other < ended → start.changesIn inputs other = [])
      (delivers : start.changesIn inputs ended = [consignment.acceptance])
      (counts : start.CountsUp inputs consignment.change.version (ended + 1) place)
      (marks : start.MarksEdits inputs attached place False)
  | isLost (ended : Nat) (after : attached < ended) (before : ended < place)
      (quiet : ∀ other, attached ≤ other → other ≤ ended → start.changesIn inputs other = [])
      (counts : start.CountsUp inputs 0 (ended + 1) place)
      (marks : start.MarksEdits inputs attached place (consignment.change.wasDirty = true))

end Definitions

variable {start : System} {inputs : Nat → Input} {attached first place version : Nat}
  {synchronizer later : Synchronizer} {holder laterHolder : Option (Nat × Consignment)}

/-! ## Versions -/

@[simp]
theorem deliveredVersion?_acceptance (consignment : Consignment) :
    consignment.acceptance.deliveredVersion? = some (consignment.change.version : Int) := by
  simp [Consignment.acceptance, Consignment.frame, Occurrence.deliveredVersion?, changeFrame,
    notificationMessage, paramsMember, didChangeParams, messageVersion, Value.get?, member?]

@[simp]
theorem deliveredVersion?_handing (consignment : Consignment) :
    consignment.handing.deliveredVersion? = none :=
  rfl

theorem versionsAfter_succ (version count : Nat) :
    versionsAfter version (count + 1) =
      versionsAfter version count ++ [((version + count + 1 : Nat) : Int)] := by
  simp only [versionsAfter, List.range_succ, List.map_append, List.map_cons, List.map_nil]

theorem deliveredBetween_self (place : Nat) : start.deliveredBetween inputs place place = [] := by
  simp [System.deliveredBetween]

theorem deliveredBetween_succ (inside : first ≤ place) :
    start.deliveredBetween inputs first (place + 1) =
      start.deliveredBetween inputs first place ++
        (start.changesIn inputs place).filterMap Occurrence.deliveredVersion? := by
  have count : place + 1 - first = place - first + 1 := by omega
  have last : first + (place - first) = place := by omega
  simp only [System.deliveredBetween, count, List.range'_1_concat, last, List.flatMap_append,
    List.flatMap_cons, List.flatMap_nil, List.append_nil, List.filterMap_append]

theorem TenureWorld.carries_iff
    {system : System} {task : Nat} {consignment : Consignment}
    (world : TenureWorld holder synchronizer system) :
    system.Carries task consignment ↔ holder = some (task, consignment) := by
  constructor
  · rintro ⟨found, caller, entry, stack⟩
    exact world.places.changes task found consignment caller entry stack
  · intro held
    exact world.places.holds task consignment held

/-! ## Counting up -/

theorem Reason.goesOn
    {other : Prop} (reason : Reason start inputs attached place other) :
    Reason start inputs attached (place + 1) other :=
  reason.imp_right fun edited =>
    edited.imp_left fun found => found.widen (Nat.le_refl _) (Nat.le_succ place)

theorem Reason.weaken
    {other weaker : Prop} (reason : Reason start inputs attached place other)
    (implies : other → weaker) : Reason start inputs attached place weaker :=
  reason.imp_right fun edited => edited.imp_right implies

theorem reason_of_edit
    {other : Prop} (after : attached < place) (isEdit : (inputs place).isEdit = true) :
    Reason start inputs attached (place + 1) other :=
  Or.inr (Or.inl ⟨place, after, Nat.lt_succ_self place, isEdit⟩)

/-- Since a place at which nobody sent, all changes are those of the attachment. -/
structure Counting
    (start : System) (inputs : Nat → Input) (attached : Nat) (other : Prop) (version first place : Nat)
    (synchronizer : Synchronizer) (holder : Option (Nat × Consignment)) : Prop where
  begun : first ≤ place
  versions : ∃ count, start.deliveredBetween inputs first place = versionsAfter version count ∧
    synchronizer.version = version + count
  unsent : synchronizer.dirty = true → Reason start inputs attached place other
  next : ∀ task consignment, holder = some (task, consignment) →
    consignment.change.version = synchronizer.version + 1 ∧
      (consignment.change.wasDirty = true → Reason start inputs attached place other)

namespace Counting

variable {other : Prop}

theorem begins
    (isVersion : synchronizer.version = version)
    (unsent : synchronizer.dirty = true → Reason start inputs attached first other) :
    Counting start inputs attached other version first first synchronizer none where
  begun := Nat.le_refl first
  versions := ⟨0, deliveredBetween_self first, isVersion⟩
  unsent
  next := nofun

variable (counting : Counting start inputs attached other version first place synchronizer holder)

include counting

/-- Nothing is delivered, and nothing is handed over without being refused. -/
theorem goesOn
    (silent : (start.changesIn inputs place).filterMap Occurrence.deliveredVersion? = [])
    (sameVersion : later.version = synchronizer.version)
    (unsent : later.dirty = true → Reason start inputs attached (place + 1) other)
    (sameHolder : laterHolder = holder ∨ laterHolder = none) :
    Counting start inputs attached other version first (place + 1) later laterHolder where
  begun := Nat.le_succ_of_le counting.begun
  versions := by
    rw [deliveredBetween_succ counting.begun, silent, List.append_nil, sameVersion]
    exact counting.versions
  unsent
  next := fun task consignment held => by
    rcases sameHolder with same | isNone
    · obtain ⟨isNext, wasDirty⟩ := counting.next task consignment (same.symm.trans held)
      exact ⟨isNext.trans (by rw [sameVersion]), fun isDirty => (wasDirty isDirty).goesOn⟩
    · rw [isNone] at held
      cases held

/-- The next version is delivered. -/
theorem delivers
    {consignment : Consignment}
    (delivers : (start.changesIn inputs place).filterMap Occurrence.deliveredVersion? =
      [(consignment.change.version : Int)])
    (isNext : consignment.change.version = synchronizer.version + 1)
    (isVersion : later.version = consignment.change.version)
    (unsent : later.dirty = true → Reason start inputs attached (place + 1) other) :
    Counting start inputs attached other version first (place + 1) later none where
  begun := Nat.le_succ_of_le counting.begun
  versions := by
    obtain ⟨count, versions, isCurrent⟩ := counting.versions
    refine ⟨count + 1, ?_, ?_⟩
    · rw [deliveredBetween_succ counting.begun, delivers, versions, versionsAfter_succ, isNext,
        isCurrent]
    · rw [isVersion, isNext, isCurrent, Nat.add_assoc]
  unsent
  next := nofun

theorem moves
    {task : Nat} {forced : Bool} {added : List Occurrence}
    (move : Handling task forced synchronizer holder later laterHolder added)
    (adds : start.changesIn inputs place = added) :
    Counting start inputs attached other version first (place + 1) later laterHolder := by
  have unsent (isUnsent : synchronizer.dirty = true) :
      Reason start inputs attached (place + 1) other :=
    (counting.unsent isUnsent).goesOn
  cases move with
  | rests dirty isVersion =>
      exact counting.goesOn (by rw [adds]; rfl) isVersion (fun mark => unsent (dirty ▸ mark))
        (Or.inl rfl)
  | isRefused consignment free ready due isNext dirty isVersion =>
      exact counting.goesOn (by rw [adds]; rfl) isVersion (fun mark => unsent (dirty ▸ mark))
        (Or.inr rfl)
  | hands consignment free ready due isNext dirty isVersion =>
      have silent :
          Counting start inputs attached other version first (place + 1) later none :=
        counting.goesOn (by rw [adds]; rfl) isVersion
          (fun mark => by rw [dirty] at mark; cases mark) (Or.inr rfl)
      refine { silent with next := fun other held same => ?_ }
      obtain ⟨rfl, rfl⟩ := Prod.mk.inj (Option.some.inj same)
      rw [isNext, isVersion]
      exact ⟨rfl, unsent⟩
  | sends consignment free ready due isNext dirty isVersion =>
      have delivered : (start.changesIn inputs place).filterMap Occurrence.deliveredVersion? =
          [(consignment.change.version : Int)] := by
        simp [adds, List.filterMap_cons]
      refine counting.delivers delivered (by rw [isNext]; rfl) isVersion fun mark => ?_
      rw [dirty] at mark
      cases mark
  | delivers consignment holds dirty isVersion =>
      have delivered : (start.changesIn inputs place).filterMap Occurrence.deliveredVersion? =
          [(consignment.change.version : Int)] := by
        simp [adds]
      exact counting.delivers delivered (counting.next task consignment holds).1 isVersion
        fun mark => unsent (dirty ▸ mark)
  | restores consignment holds dirty isVersion =>
      refine counting.goesOn (by rw [adds]; rfl) isVersion (fun mark => ?_) (Or.inr rfl)
      rw [dirty, Bool.or_eq_true] at mark
      exact mark.elim unsent fun wasDirty =>
        ((counting.next task consignment holds).2 wasDirty).goesOn

theorem step
    (after : attached < place) (noAttach : (inputs place).isAttach = false)
    (takes : TenureStep synchronizer holder (start.after inputs place)
      (start.after inputs (place + 1)) (inputs place) later laterHolder) :
    Counting start inputs attached other version first (place + 1) later laterHolder := by
  generalize inputEq : inputs place = input at takes noAttach
  cases takes with
  | stands input later noEdit noAttach follows dirty isVersion changes =>
      exact counting.goesOn (by rw [changesIn_of_same changes]; rfl) isVersion
        (fun mark => (counting.unsent (dirty ▸ mark)).goesOn) (Or.inl rfl)
  | edits text timer? armed changes =>
      exact counting.goesOn (by rw [changesIn_of_same changes]; rfl) rfl
        (fun _ => reason_of_edit after (by rw [inputEq]; rfl)) (Or.inl rfl)
  | attaches file openedText timer? changes => cases noAttach
  | turns task found later laterHolder added coming entry turn =>
      exact counting.moves turn.move (changesIn_eq turn.changes)

end Counting

/-! ## A change that outlives its document -/

/-- What has become of a change that was on its way when the synchronizer was attached, and what the
attachment counts from. -/
inductive Aftermath
    (start : System) (inputs : Nat → Input) (attached task : Nat) (consignment : Consignment)
    (place : Nat) (synchronizer : Synchronizer) : Option (Nat × Consignment) → Prop where
  | lingers (quiet : ∀ other, attached ≤ other → other < place → start.changesIn inputs other = [])
      (isVersion : synchronizer.version = 0)
      (unsent : synchronizer.dirty = true → Reason start inputs attached place False) :
    Aftermath start inputs attached task consignment place synchronizer (some (task, consignment))
  | isDelivered (holder : Option (Nat × Consignment)) (ended : Nat) (after : attached < ended)
      (before : ended < place)
      (quiet : ∀ other, attached ≤ other → other < ended → start.changesIn inputs other = [])
      (delivers : start.changesIn inputs ended = [consignment.acceptance])
      (counting : Counting start inputs attached False consignment.change.version (ended + 1) place
        synchronizer holder) :
    Aftermath start inputs attached task consignment place synchronizer holder
  | isLost (holder : Option (Nat × Consignment)) (ended : Nat) (after : attached < ended)
      (before : ended < place)
      (quiet : ∀ other, attached ≤ other → other ≤ ended → start.changesIn inputs other = [])
      (counting : Counting start inputs attached (consignment.change.wasDirty = true) 0 (ended + 1)
        place synchronizer holder) :
    Aftermath start inputs attached task consignment place synchronizer holder

section Aftermath

variable {task : Nat} {consignment : Consignment}
  (takes : TenureStep synchronizer holder (start.after inputs place)
    (start.after inputs (place + 1)) (inputs place) later laterHolder)

theorem quiet_succ
    (quiet : ∀ other, attached ≤ other → other < place → start.changesIn inputs other = [])
    (now : start.changesIn inputs place = []) :
    ∀ other, attached ≤ other → other < place + 1 → start.changesIn inputs other = [] := by
  intro other after before
  rcases Nat.lt_succ_iff_lt_or_eq.mp before with earlier | rfl
  · exact quiet other after earlier
  · exact now

include takes

/-- The change of the earlier document is still on its way, or it ends. -/
theorem Aftermath.of_lingers
    (after : attached < place) (noAttach : (inputs place).isAttach = false)
    (held : holder = some (task, consignment))
    (quiet : ∀ other, attached ≤ other → other < place → start.changesIn inputs other = [])
    (isVersion : synchronizer.version = 0)
    (unsent : synchronizer.dirty = true → Reason start inputs attached place False) :
    Aftermath start inputs attached task consignment (place + 1) later laterHolder := by
  generalize inputEq : inputs place = input at takes noAttach
  cases takes with
  | stands input later noEdit noAttach follows dirty sameVersion changes =>
      rw [held]
      exact .lingers (quiet_succ quiet (changesIn_of_same changes)) (sameVersion.trans isVersion)
        fun mark => (unsent (dirty ▸ mark)).goesOn
  | edits text timer? armed changes =>
      rw [held]
      exact .lingers (quiet_succ quiet (changesIn_of_same changes)) isVersion
        fun _ => reason_of_edit after (by rw [inputEq]; rfl)
  | attaches file openedText timer? changes => cases noAttach
  | turns mover found later laterHolder added coming entry turn =>
      have adds := changesIn_eq turn.changes
      cases turn.move with
      | rests dirty sameVersion =>
          rw [held]
          exact .lingers (quiet_succ quiet adds) (sameVersion.trans isVersion)
            fun mark => (unsent (dirty ▸ mark)).goesOn
      | isRefused other free => cases free.symm.trans held
      | hands other free => cases free.symm.trans held
      | sends other free => cases free.symm.trans held
      | delivers other holds dirty ownVersion =>
          obtain ⟨rfl, rfl⟩ := Prod.mk.inj (Option.some.inj (holds.symm.trans held))
          exact .isDelivered none place after (Nat.lt_succ_self place) quiet adds
            (.begins ownVersion fun mark => (unsent (dirty ▸ mark)).goesOn)
      | restores other holds dirty sameVersion =>
          obtain ⟨rfl, rfl⟩ := Prod.mk.inj (Option.some.inj (holds.symm.trans held))
          refine .isLost none place after (Nat.lt_succ_self place)
            (fun other afterwards before =>
              quiet_succ quiet adds other afterwards (Nat.lt_succ_of_le before))
            (.begins (sameVersion.trans isVersion) fun mark => ?_)
          rw [dirty, Bool.or_eq_true] at mark
          exact mark.elim (fun isUnsent => (unsent isUnsent).goesOn.weaken False.elim)
            fun wasDirty => Or.inr (Or.inr wasDirty)

theorem Aftermath.goesOn
    (aftermath : Aftermath start inputs attached task consignment place synchronizer holder)
    (after : attached < place) (noAttach : (inputs place).isAttach = false) :
    Aftermath start inputs attached task consignment (place + 1) later laterHolder := by
  cases aftermath with
  | lingers quiet isVersion unsent =>
      exact .of_lingers takes after noAttach rfl quiet isVersion unsent
  | isDelivered holder ended afterwards before quiet delivers counting =>
      exact .isDelivered laterHolder ended afterwards (Nat.lt_succ_of_lt before) quiet delivers
        (counting.step after noAttach takes)
  | isLost holder ended afterwards before quiet counting =>
      exact .isLost laterHolder ended afterwards (Nat.lt_succ_of_lt before) quiet
        (counting.step after noAttach takes)

end Aftermath

/-! ## Runs -/

section Runs

variable {file : Nat} {openedText : String} (attaches : inputs attached = .attach 0 file openedText)

include attaches

/-- An attachment takes the version back, and marks a text that the document was not opened with. -/
theorem attached_of_step
    (world : TenureWorld holder synchronizer (start.after inputs attached))
    (takes : TenureStep synchronizer holder (start.after inputs attached)
      (start.after inputs (attached + 1)) (inputs attached) later laterHolder) :
    laterHolder = holder ∧ later.version = 0 ∧ start.changesIn inputs attached = [] ∧
      (later.dirty = true → start.DiffersAt inputs attached) := by
  generalize inputEq : inputs attached = input at takes
  obtain rfl : input = .attach 0 file openedText := inputEq.symm.trans attaches
  cases takes with
  | attaches otherFile otherText timer? changes =>
      exact ⟨rfl, rfl, changesIn_of_same changes, fun differs => ⟨file, openedText, synchronizer,
        attaches, world.parts.synchronizers, of_decide_eq_true differs⟩⟩
  | stands input later noEdit noAttach => cases noAttach

/-- While the synchronizer has a document, nothing but its own edits and changes counts, or a change of
an earlier document is in the way. -/
theorem attachment_run
    (world : TenureWorld none synchronizer start) (allowed : ∀ place, (inputs place).OnTenure)
    (after : attached < place)
    (only : ∀ other, attached < other → other < place → (inputs other).isAttach = false) :
    ∃ holder current, TenureWorld holder current (start.after inputs place) ∧
      ((∀ task consignment, ¬ (start.after inputs attached).Carries task consignment) →
        Counting start inputs attached False 0 (attached + 1) place current holder) ∧
      ∀ task consignment, (start.after inputs attached).Carries task consignment →
        Aftermath start inputs attached task consignment place current holder := by
  obtain ⟨holder, current, currentWorld, holds⟩ := tenure_induction
    (fun count current holder => attached < count → count ≤ place →
      ((∀ task consignment, ¬ (start.after inputs attached).Carries task consignment) →
        Counting start inputs attached False 0 (attached + 1) count current holder) ∧
      ∀ task consignment, (start.after inputs attached).Carries task consignment →
        Aftermath start inputs attached task consignment count current holder)
    world allowed (fun impossible => (Nat.not_lt_zero _ impossible).elim)
    (fun count current later holder laterHolder currentWorld holds takes _ inside within => by
      rcases Nat.lt_succ_iff_lt_or_eq.mp inside with before | rfl
      · have noAttach := only count before within
        obtain ⟨counting, aftermath⟩ := holds before (Nat.le_of_succ_le within)
        exact ⟨fun nobody => (counting nobody).step before noAttach takes,
          fun task consignment carries =>
            (aftermath task consignment carries).goesOn takes before noAttach⟩
      · obtain ⟨rfl, isVersion, quiet, differs⟩ := attached_of_step attaches currentWorld takes
        refine ⟨fun nobody => ?_, fun task consignment carries => ?_⟩
        · have free : laterHolder = none := by
            cases held : laterHolder with
            | none => rfl
            | some pair =>
                rw [held] at currentWorld
                exact (nobody pair.1 pair.2 (currentWorld.carries_iff.mpr rfl)).elim
          rw [free]
          exact .begins isVersion fun mark => Or.inl (differs mark)
        · rw [currentWorld.carries_iff.mp carries]
          refine .lingers (fun other after before => ?_) isVersion fun mark => Or.inl (differs mark)
          obtain rfl : other = attached := by omega
          exact quiet) place
  exact ⟨holder, current, currentWorld, holds after (Nat.le_refl place)⟩

end Runs

theorem Counting.shows
    {other : Prop}
    (counting : Counting start inputs attached other version first place synchronizer holder)
    (world : TenureWorld holder synchronizer (start.after inputs place)) :
    start.CountsUp inputs version first place ∧ start.MarksEdits inputs attached place other := by
  have only : ∀ found ∈ (start.after inputs place).synchronizers, found = synchronizer := by
    intro found member
    rw [world.parts.synchronizers] at member
    exact List.mem_singleton.mp member
  obtain ⟨count, versions, isCurrent⟩ := counting.versions
  exact ⟨⟨count, versions, fun found member => only found member ▸ isCurrent⟩,
    fun found member mark => counting.unsent (only found member ▸ mark)⟩

/-- If nothing is being sent when a synchronizer is attached to a document, the changes that are
delivered until the next attachment have the versions one, two, three and so on, and only the edits of
the document mark its text as unsent. Otherwise the change that is being sent stays in the way until it
ends, and the versions count up from that of the change if it is delivered. If it is not, they count up
from zero, and the text is also marked if the edit of the change was unsent before. -/
theorem attachment_isolated_or_outlived
    (resolution : Rat) (uri : String) (languageId : Value) (text : String) (debounce : Quantity)
    (inputs : Nat → Input) (attached place file : Nat) (openedText : String)
    (allowed : ∀ other, (inputs other).OnTenure)
    (attaches : inputs attached = .attach 0 file openedText) (after : attached < place)
    (only : ∀ other, attached < other → other < place → (inputs other).isAttach = false) :
    let start := System.ofSynchronizer resolution uri languageId text debounce
    ((∀ task consignment, ¬ (start.after inputs attached).Carries task consignment) →
      start.CountsUp inputs 0 (attached + 1) place ∧
        start.MarksEdits inputs attached place False) ∧
    ∀ task consignment, (start.after inputs attached).Carries task consignment →
      start.Outlives inputs attached task consignment place := by
  intro start
  have world := ofSynchronizer_world resolution uri languageId text debounce
  obtain ⟨holder, current, currentWorld, counting, aftermath⟩ :=
    attachment_run attaches world allowed after only
  refine ⟨fun nobody => (counting nobody).shows currentWorld, fun task consignment carries => ?_⟩
  cases aftermath task consignment carries with
  | lingers quiet isVersion unsent =>
      have isOnly : ∀ found ∈ (start.after inputs place).synchronizers, found = current := by
        intro found member
        rw [currentWorld.parts.synchronizers] at member
        exact List.mem_singleton.mp member
      exact .lingers (currentWorld.carries_iff.mpr rfl) quiet
        (fun found member => isOnly found member ▸ isVersion)
        fun found member mark => unsent (isOnly found member ▸ mark)
  | isDelivered holder ended afterwards before quiet delivers counting =>
      obtain ⟨counts, marks⟩ := counting.shows currentWorld
      exact .isDelivered ended afterwards before quiet delivers counts marks
  | isLost holder ended afterwards before quiet counting =>
      obtain ⟨counts, marks⟩ := counting.shows currentWorld
      exact .isLost ended afterwards before quiet counts marks

/-! ## A run -/

/-- The synchronizer is closed while a change of its document is held back, and is attached to another
document before that change is let go. -/
def supersededDocument : Nat → Input
  | 0 => .call (.createWorkspace {
      serverUri := "ws://localhost/lsp"
      rootUri := .null
      folders := none
      timeout := .int 1
      unreachable := none })
  | 2 => .receive 0 "\x7b\"id\": \"1\", \"result\": \x7b\"capabilities\": \x7b\x7d\x7d\x7d"
  | 5 => .call (.openFile 0 "file:///document" (.string "text") "first" [])
  | 6 => .call (.openFile 0 "file:///other" (.string "text") "other" [])
  | 9 => .attach 0 0 "first"
  | 10 => .edit 0 "second"
  | 11 => .behave { holding := true }
  | 12 => .call (.flush 0 false)
  | 14 => .behave {}
  | 15 => .call (.closeSynchronizer 0)
  | 17 => .edit 0 "other"
  | 18 => .attach 0 1 "other"
  | 19 => .release 0
  | 21 => .edit 0 "another"
  | 22 => .call (.flush 0 false)
  | _ => .turn

theorem supersededDocument_onTenure (place : Nat) : (supersededDocument place).OnTenure := by
  unfold supersededDocument
  split <;> first | rfl | trivial

/-- The change that outlives its document. -/
def supersededChange : Consignment := ⟨"file:///document", 0, ⟨1, "second", true⟩⟩

/-- The first change of the other document has version two. -/
theorem attachment_isolated_or_outlived_supersededDocument :
    let start := System.ofSynchronizer 0 "file:///document" (.string "text") "first" (.int 1)
    (∀ place, (supersededDocument place).OnTenure) ∧
      (∀ other, 18 < other → other < 24 → (supersededDocument other).isAttach = false) ∧
      start.Outlives supersededDocument 18 3 supersededChange 24 ∧
      start.deliveredBetween supersededDocument 21 24 = [2] := by
  intro start
  have only : ∀ other, 18 < other → other < 24 →
      (supersededDocument other).isAttach = false := by
    intro other after before
    unfold supersededDocument
    split <;> first | rfl | omega
  have carries : (start.after supersededDocument 18).Carries 3 supersededChange := by
    have stack : ((start.after supersededDocument 18).loop.tasks[3]?).map (·.stack) =
        some supersededChange.frames := by
      decide +kernel
    obtain ⟨found, entry, isStack⟩ := Option.map_eq_some_iff.mp stack
    exact ⟨found, [], entry, isStack.trans (List.append_nil _).symm⟩
  have outlived := (attachment_isolated_or_outlived 0 "file:///document" (.string "text") "first"
    (.int 1) supersededDocument 18 24 1 "other" supersededDocument_onTenure rfl (by decide) only).2
      3 supersededChange carries
  exact ⟨supersededDocument_onTenure, only, outlived, by decide +kernel⟩

end LanguageClient.Client
