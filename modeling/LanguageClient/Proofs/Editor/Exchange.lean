import LanguageClient.Proofs.Conduct.Turns
import LanguageClient.Proofs.Workspace.Register

/-!
# The exchange about the document of an editor

An editor opens one document. What it says about it begins with the opening and goes on with changes
and queries until the document is closed. Only queries may follow then, from calls that have checked
before that the document is open.
-/

namespace LanguageClient.Client

open LanguageClient.Json LanguageClient.Loop LanguageClient.Number LanguageClient.Protocol

/-- How far an editor has come with its document. -/
inductive Stage where
  | unopened
  | opened
  | closed
  deriving DecidableEq, Repr

/-- What was said about a document up to some stage. It is opened and closed once; changes and queries
come in between, and queries may come late. -/
inductive Exchange : List Value → Stage → Prop where
  | silent : Exchange [] .unopened
  | opens (frame : Value) (isOpening : methodOf? frame = some Method.didOpen) :
    Exchange [frame] .opened
  | continues {said : List Value} (frame : Value) (method : String) (exchange : Exchange said .opened)
      (isMethod : methodOf? frame = some method)
      (isAllowed : method = Method.didChange ∨ method ∈ queryMethods) :
    Exchange (said ++ [frame]) .opened
  | closes {said : List Value} (frame : Value) (exchange : Exchange said .opened)
      (isClosing : methodOf? frame = some Method.didClose) :
    Exchange (said ++ [frame]) .closed
  | strays {said : List Value} (frame : Value) (method : String) (exchange : Exchange said .closed)
      (isMethod : methodOf? frame = some method) (isQuery : method ∈ queryMethods) :
    Exchange (said ++ [frame]) .closed

theorem Exchange.eq_nil {said : List Value} (exchange : Exchange said .unopened) : said = [] := by
  cases exchange
  rfl

/-- Whoever has said that the document is closed has come to the last stage. -/
theorem Exchange.closed_of_mem
    {said : List Value} {stage : Stage} {frame : Value} (exchange : Exchange said stage)
    (member : frame ∈ said) (isClosing : methodOf? frame = some Method.didClose) :
    stage = .closed := by
  induction exchange with
  | silent => cases member
  | opens other isOpening =>
      rw [List.mem_singleton.mp member, isOpening] at isClosing
      exact absurd isClosing (by decide)
  | continues other method exchange isMethod isAllowed inductionHypothesis =>
      rcases List.mem_append.mp member with earlier | isLast
      · cases inductionHypothesis earlier
      · rw [List.mem_singleton.mp isLast, isMethod] at isClosing
        rw [Option.some.inj isClosing] at isAllowed
        exact absurd isAllowed (by decide)
  | closes other exchange isOther => rfl
  | strays other method exchange isMethod isQuery => rfl

/-- A document is closed once at most. -/
theorem Exchange.closings_eq
    {said : List Value} {stage : Stage} (exchange : Exchange said stage) :
    said.countP (methodOf? · = some Method.didClose) = if stage = .closed then 1 else 0 := by
  have others {frame : Value} {method : String} (isMethod : methodOf? frame = some method)
      (differs : method ≠ Method.didClose) :
      [frame].countP (methodOf? · = some Method.didClose) = 0 :=
    List.countP_eq_zero.mpr fun other member => by
      rw [List.mem_singleton.mp member, isMethod]
      simpa using differs
  induction exchange with
  | silent => rfl
  | opens frame isOpening => exact others isOpening (by decide)
  | continues frame method exchange isMethod isAllowed inductionHypothesis =>
      have differs : method ≠ Method.didClose := by
        rintro rfl
        exact absurd isAllowed (by decide)
      rw [List.countP_append, inductionHypothesis, others isMethod differs]
      rfl
  | closes frame exchange isClosing inductionHypothesis =>
      rw [List.countP_append, inductionHypothesis, List.countP_singleton, isClosing]
      rfl
  | strays frame method exchange isMethod isQuery inductionHypothesis =>
      have differs : method ≠ Method.didClose := by
        rintro rfl
        exact absurd isQuery (by decide)
      rw [List.countP_append, inductionHypothesis, others isMethod differs]
      rfl

/-! ## Deeds and stages -/

def Deed.isAnnouncement : Deed → Bool
  | .announce _ => true
  | _ => false

namespace Stage

/-- The stage after a deed. -/
def next : Stage → Deed → Stage
  | .unopened, .announce _ => .opened
  | .opened, .retract _ => .closed
  | stage, _ => stage

/-- What the register of an editor has in it: one document at most, and only while it is open. -/
def Registers (stage : Stage) (system : System) : Prop :=
  ∀ (workspace file : Nat) (uri : String), system.openFile? workspace uri = some file →
    stage = .opened ∧ ∀ (other otherFile : Nat) (otherUri : String),
      system.openFile? other otherUri = some otherFile → (other, otherUri) = (workspace, uri)

/-- A document is announced only once, and nobody asks about it before. -/
def Permits : Stage → List Deed → Prop
  | _, [] => True
  | stage, deed :: deeds =>
    (deed.isAnnouncement = true → stage = .unopened) ∧ (deed = .ask → stage ≠ .unopened) ∧
      (stage.next deed).Permits deeds

theorem next_of_not_announcement
    {deed : Deed} (stage : Stage) (other : deed.isAnnouncement = false) :
    stage.next deed = .unopened ↔ stage = .unopened := by
  cases stage with
  | unopened =>
      cases deed with
      | announce file => cases other
      | _ => exact Iff.rfl
  | opened =>
      cases deed with
      | retract file => exact ⟨nofun, nofun⟩
      | _ => exact Iff.rfl
  | closed => exact Iff.rfl

theorem permits_of_count
    {deeds : List Deed} (stage : Stage)
    (announcements : deeds.countP Deed.isAnnouncement ≤ if stage = .unopened then 1 else 0)
    (unasked : stage = .unopened → .ask ∉ deeds) : stage.Permits deeds := by
  induction deeds generalizing stage with
  | nil => trivial
  | cons deed deeds inductionHypothesis =>
      have unaskedLater : stage = .unopened → .ask ∉ deeds := fun unopened member =>
        unasked unopened (List.mem_cons_of_mem _ member)
      have asks : deed = .ask → stage ≠ .unopened := fun isAsk unopened =>
        unasked unopened (isAsk ▸ List.mem_cons_self)
      cases isAnnouncement : deed.isAnnouncement with
      | true =>
          rw [List.countP_cons_of_pos isAnnouncement] at announcements
          by_cases unopened : stage = .unopened
          · rw [if_pos unopened] at announcements
            refine ⟨fun _ => unopened, asks, inductionHypothesis _ ?_ fun still => ?_⟩
            · exact Nat.le_trans (Nat.le_of_succ_le_succ announcements) (Nat.zero_le _)
            · exact unaskedLater unopened
          · rw [if_neg unopened] at announcements
            exact absurd announcements (Nat.not_succ_le_zero _)
      | false =>
          have same := next_of_not_announcement stage isAnnouncement
          rw [List.countP_cons_of_neg (by simp [isAnnouncement])] at announcements
          refine ⟨fun isTrue => absurd isTrue (by simp [isAnnouncement]), asks,
            inductionHypothesis _ ?_ fun still => unaskedLater (same.mp still)⟩
          simpa only [same] using announcements

/-- The first stage is left with an announcement only. -/
theorem through_eq_unopened_iff
    {deeds : List Deed} (stage : Stage) (silent : deeds.countP Deed.isAnnouncement = 0) :
    deeds.foldl next stage = .unopened ↔ stage = .unopened := by
  induction deeds generalizing stage with
  | nil => exact Iff.rfl
  | cons deed deeds inductionHypothesis =>
      rw [List.countP_eq_zero] at silent
      have first : deed.isAnnouncement = false := by
        simpa using silent deed List.mem_cons_self
      have others : deeds.countP Deed.isAnnouncement = 0 :=
        List.countP_eq_zero.mpr fun other member => silent other (List.mem_cons_of_mem _ member)
      rw [List.foldl_cons, inductionHypothesis _ others, next_of_not_announcement stage first]

theorem through_of_opened {deeds : List Deed} {stage : Stage} (opened : stage ≠ .unopened) :
    deeds.foldl next stage ≠ .unopened := by
  induction deeds generalizing stage with
  | nil => exact opened
  | cons deed deeds inductionHypothesis =>
      refine inductionHypothesis ?_
      cases stage with
      | unopened => exact (opened rfl).elim
      | opened =>
          cases deed with
          | _ => nofun
      | closed => nofun

theorem Registers.nothing
    {stage : Stage} {system : System} (registers : stage.Registers system)
    (notOpen : stage ≠ .opened) (workspace : Nat) (uri : String) :
    system.openFile? workspace uri = none := by
  cases registered : system.openFile? workspace uri with
  | none => rfl
  | some file => exact (notOpen (registers workspace file uri registered).1).elim

end Stage

namespace System

variable {before here after system : System} {deed : Deed} {deeds : List Deed} {stage : Stage}

theorem Aside.registers (registers : stage.Registers before) (aside : Aside before after) :
    stage.Registers after := by
  intro workspace file uri registered
  rw [aside.openFile?] at registered
  obtain ⟨opened, only⟩ := registers workspace file uri registered
  refine ⟨opened, fun other otherFile otherUri otherRegistered => ?_⟩
  rw [aside.openFile?] at otherRegistered
  exact only other otherFile otherUri otherRegistered

/-- Only an announcement registers somebody. -/
theorem Performs.openFile?_kept
    {workspace file : Nat} {uri : String} (performs : Performs before deed after)
    (other : deed.isAnnouncement = false) (registered : after.openFile? workspace uri = some file) :
    before.openFile? workspace uri = some file := by
  refine (performs.openFile?_cases registered).resolve_right fun ⟨isNew, inside⟩ => ?_
  have same : after.files.length = before.files.length := by
    cases performs with
    | announce new link text free writable => cases other
    | _ => rfl
  exact Nat.lt_irrefl _ (Nat.lt_of_lt_of_le (same ▸ inside) isNew)

theorem Performs.registers_of_stays
    (performs : Performs before deed after) (other : deed.isAnnouncement = false)
    (registers : stage.Registers before) : stage.Registers after := by
  intro workspace file uri registered
  obtain ⟨opened, only⟩ := registers workspace file uri (performs.openFile?_kept other registered)
  exact ⟨opened, fun _ _ _ otherRegistered =>
    only _ _ _ (performs.openFile?_kept other otherRegistered)⟩

theorem opened_of_isOpen
    {file : Nat} (registers : stage.Registers before) (isOpen : before.isOpen file = true) :
    stage = .opened := by
  obtain ⟨found, _, registered⟩ := isOpen_iff.mp isOpen
  exact (registers _ _ _ registered).1

/-- One deed takes the exchange one step further. -/
theorem Performs.exchange
    (performs : Performs before deed after) (exchange : Exchange before.wire stage)
    (registers : stage.Registers before)
    (announces : deed.isAnnouncement = true → stage = .unopened)
    (asks : deed = .ask → stage ≠ .unopened) :
    Exchange after.wire (stage.next deed) ∧ (stage.next deed).Registers after := by
  obtain ⟨frames, hands, wire⟩ := performs.wire
  have stays (other : deed.isAnnouncement = false) := performs.registers_of_stays other registers
  have silent (nothing : frames = []) : after.wire = before.wire := by
    rw [wire, nothing, List.append_nil]
  cases performs with
  | announce new link text free writable =>
      obtain ⟨frame, rfl, isOpening⟩ := hands
      obtain rfl := announces rfl
      refine ⟨?_, ?_⟩
      · rw [wire, exchange.eq_nil]
        exact .opens frame isOpening
      · have nothing := registers.nothing (by decide)
        have onlyNew {workspace file : Nat} {uri : String}
            (registered : (before.addFile new).openFile? workspace uri = some file) :
            (workspace, uri) = (new.workspace, new.uri) := by
          by_contra different
          rw [openFile?_addFile_of_ne before different, nothing] at registered
          cases registered
        exact fun workspace file uri registered =>
          ⟨rfl, fun other otherFile otherUri otherRegistered =>
            (onlyNew otherRegistered).trans (onlyNew registered).symm⟩
  | withdraw owner withdrawn =>
      have same : stage.next (.withdraw owner withdrawn) = stage := by cases stage <;> rfl
      rw [same, silent hands]
      exact ⟨exchange, stays rfl⟩
  | forget forgotten found known isOpen unwritable =>
      have same : stage.next (.forget forgotten) = stage := by cases stage <;> rfl
      rw [same, silent hands]
      exact ⟨exchange, stays rfl⟩
  | clear cleared found known =>
      have same : stage.next (.clear cleared) = stage := by cases stage <;> rfl
      rw [same, silent hands]
      exact ⟨exchange, stays rfl⟩
  | change changed found link version text known isOpen writable =>
      obtain ⟨frame, rfl, isChange⟩ := hands
      obtain rfl := opened_of_isOpen registers isOpen
      rw [wire]
      exact ⟨.continues frame _ exchange isChange (Or.inl rfl), stays rfl⟩
  | ask link id method params isQuery =>
      obtain ⟨frame, asked, rfl, isMethod, among⟩ := hands
      rw [wire]
      cases stage with
      | unopened => exact (asks rfl rfl).elim
      | opened => exact ⟨.continues frame asked exchange isMethod (Or.inr among), stays rfl⟩
      | closed => exact ⟨.strays frame asked exchange isMethod among, stays rfl⟩
  | retract retracted found link known isOpen writable =>
      obtain ⟨frame, rfl, isClosing⟩ := hands
      obtain rfl := opened_of_isOpen registers isOpen
      rw [wire]
      refine ⟨.closes frame exchange isClosing, fun workspace file uri registered => ?_⟩
      -- The only document is the one that is retracted.
      have laterRegistered : (before.unregister found.workspace found.uri).openFile? workspace uri =
          some file := registered
      obtain ⟨own, ownKnown, ownRegistered⟩ := isOpen_iff.mp isOpen
      obtain rfl := Option.some.inj (ownKnown.symm.trans known)
      have only := (registers _ _ _ ownRegistered).2 _ _ _ (openFile?_of_unregister laterRegistered)
      obtain ⟨rfl, rfl⟩ := Prod.mk.inj only
      rw [openFile?_unregister_self] at laterRegistered
      cases laterRegistered

theorem Does.exchange
    (does : Does before deeds after) (exchange : Exchange before.wire stage)
    (registers : stage.Registers before) (permits : stage.Permits deeds) :
    Exchange after.wire (deeds.foldl Stage.next stage) ∧
      (deeds.foldl Stage.next stage).Registers after := by
  induction does generalizing stage with
  | aside aside => exact ⟨aside.wire ▸ exchange, aside.registers registers⟩
  | perform aside performs rest inductionHypothesis =>
      obtain ⟨announces, asks, more⟩ := permits
      obtain ⟨nextExchange, nextRegisters⟩ :=
        performs.exchange (aside.wire ▸ exchange) (aside.registers registers) announces asks
      exact inductionHypothesis nextExchange nextRegisters more

/-- Every frame that is handed over belongs to a deed. -/
theorem Does.hands (does : Does before deeds after) :
    ∃ frames, after.wire = before.wire ++ frames ∧
      ∀ frame ∈ frames, ∃ deed ∈ deeds, ∃ handed, deed.Hands handed ∧ frame ∈ handed := by
  induction does with
  | aside aside =>
      exact ⟨[], by rw [aside.wire, List.append_nil], fun _ member => absurd member List.not_mem_nil⟩
  | perform aside performs rest inductionHypothesis =>
      obtain ⟨first, hands, wire⟩ := performs.wire
      obtain ⟨frames, laterWire, belong⟩ := inductionHypothesis
      refine ⟨first ++ frames, by rw [laterWire, wire, aside.wire, List.append_assoc], ?_⟩
      intro frame member
      rcases List.mem_append.mp member with isFirst | isLater
      · exact ⟨_, List.mem_cons_self, first, hands, isFirst⟩
      · obtain ⟨deed, isDeed, handed, belongs⟩ := belong frame isLater
        exact ⟨deed, List.mem_cons_of_mem _ isDeed, handed, belongs⟩

/-- While nothing is registered, and nothing is announced, nothing but queries is handed over. -/
theorem Does.asks_of_unregistered
    (does : Does before deeds after)
    (nothing : ∀ workspace uri, before.openFile? workspace uri = none)
    (silent : deeds.countP Deed.isAnnouncement = 0) :
    ∀ deed ∈ deeds, ∀ handed, deed.Hands handed → handed = [] ∨ deed = .ask := by
  induction does with
  | aside aside => exact fun _ member => absurd member List.not_mem_nil
  | @perform before here there after deed deeds aside performs rest inductionHypothesis =>
      rw [List.countP_eq_zero] at silent
      have other : deed.isAnnouncement = false := by simpa using silent deed List.mem_cons_self
      have nothingHere (workspace : Nat) (uri : String) : here.openFile? workspace uri = none :=
        (aside.openFile? workspace uri).trans (nothing workspace uri)
      have notOpen (file : Nat) : here.isOpen file ≠ true := by
        intro isOpen
        obtain ⟨found, _, registered⟩ := isOpen_iff.mp isOpen
        rw [nothingHere] at registered
        cases registered
      have nothingThere (workspace : Nat) (uri : String) : there.openFile? workspace uri = none := by
        cases registered : there.openFile? workspace uri with
        | none => rfl
        | some file =>
            have earlier := performs.openFile?_kept other registered
            rw [nothingHere] at earlier
            cases earlier
      intro later member handed hands
      rcases List.mem_cons.mp member with rfl | isLater
      · cases performs with
        | announce new link text free writable => cases other
        | change changed found link version text known isOpen writable =>
            exact (notOpen _ isOpen).elim
        | retract retracted found link known isOpen writable => exact (notOpen _ isOpen).elim
        | ask link id method params isQuery => exact Or.inr rfl
        | withdraw owner withdrawn => exact Or.inl hands
        | forget forgotten found known isOpen unwritable => exact Or.inl hands
        | clear cleared found known => exact Or.inl hands
      · refine inductionHypothesis nothingThere ?_ later isLater handed hands
        exact List.countP_eq_zero.mpr fun other member => silent other (List.mem_cons_of_mem _ member)

end System

end LanguageClient.Client
