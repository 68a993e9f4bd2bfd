import LanguageClient.Proofs.Synchronizer.Runs

/-!
# Consistency with the peer

Whatever the host, the peer and the clock do, the peer receives the changes of a document under the
versions one, two, three and so on, and a synchronizer that has nothing unsent and sends nothing has
the text that the peer has.
-/

namespace LanguageClient.Client

open LanguageClient.Json LanguageClient.Loop LanguageClient.Number LanguageClient.Protocol

/-- The ledger of the document is right all the time. -/
theorem ledger_of_run
    (attachment : Attachment) (inputs : Nat → Input)
    (allowed : ∀ place, (inputs place).OnSynchronizer) (count : Nat) :
    ∃ change? synchronizer,
      (attachment.start.after inputs count).synchronizers = [synchronizer] ∧
        Ledger change? synchronizer
          ((attachment.start.after inputs count).deliveries attachment.uri) := by
  obtain ⟨timer?, started, _⟩ := attachment.start_world False
  obtain ⟨holder, synchronizer, world⟩ :=
    sync_world ⟨none, attachment.attached timer?, started⟩ allowed
      (fun _ _ _ impossible => impossible.elim) count
  exact ⟨_, synchronizer, world.parts.synchronizers, world.ledger⟩

/-- A synchronizer without unsent edits, whose lock is free, has the text that was delivered last. -/
theorem deliveredText_of_clean
    (attachment : Attachment) (inputs : Nat → Input)
    (allowed : ∀ place, (inputs place).OnSynchronizer) (count : Nat) :
    let system := attachment.start.after inputs count
    ∃ synchronizer, system.synchronizers = [synchronizer] ∧
      (synchronizer.lock.held = false → synchronizer.dirty = false →
        system.deliveredText? attachment.uri = some synchronizer.text) := by
  intro system
  obtain ⟨change?, synchronizer, only, ledger⟩ :=
    ledger_of_run attachment inputs allowed count
  refine ⟨synchronizer, only, fun free clean => ?_⟩
  have nobody : change? = none := by
    have held := ledger.held
    rw [free] at held
    cases change? with
    | none => rfl
    | some _ => cases held
  exact ledger.settled nobody clean

/-- The delivered versions count up from one without a gap, and a synchronizer whose lock is free
has the number of the changes that were delivered. -/
theorem deliveredVersions_consecutive
    (attachment : Attachment) (inputs : Nat → Input)
    (allowed : ∀ place, (inputs place).OnSynchronizer) (count : Nat) :
    let system := attachment.start.after inputs count
    let versions := system.deliveredVersions attachment.uri
    versions = (List.range versions.length).map (fun number => ((number + 1 : Nat) : Int)) ∧
      ∃ synchronizer, system.synchronizers = [synchronizer] ∧
        (synchronizer.lock.held = false → synchronizer.version = versions.length) := by
  intro system versions
  obtain ⟨_, synchronizer, only, ledger⟩ := ledger_of_run attachment inputs allowed count
  have counted : versions =
      (List.range synchronizer.version).map fun number => ((number + 1 : Nat) : Int) :=
    ledger.versions
  have length : versions.length = synchronizer.version := by
    rw [counted, List.length_map, List.length_range]
  refine ⟨?_, synchronizer, only, fun _ => length.symm⟩
  rw [length]
  exact counted

/-! ## A run -/

def openedDocument : Attachment where
  resolution := 0
  timeout := .int 10
  server := ⟨⟨true, none⟩, none⟩
  uri := "file:///document"
  languageId := "text"
  listeners := []
  openedText := "first"
  text := "first"
  debounce := .int 1

/-- Three edits: the first is refused by the peer before it is sent again, and the last is made
while the one before is on its way. -/
def editedDocument : Nat → Input
  | 0 => .edit 0 "second"
  | 1 => .behave { refusal := some ⟨.reset, none⟩ }
  | 2 => .call (.flush 0 false)
  | 4 => .behave {}
  | 5 => .call (.flush 0 false)
  | 7 => .edit 0 "third"
  | 8 => .behave { holding := true }
  | 9 => .call (.flush 0 false)
  | 11 => .edit 0 "fourth"
  | 12 => .release 0
  | 14 => .behave {}
  | 15 => .call (.flush 0 false)
  | _ => .turn

theorem editedDocument_onSynchronizer (place : Nat) : (editedDocument place).OnSynchronizer := by
  unfold editedDocument
  split <;> first | rfl | trivial

theorem deliveredText_of_clean_editedDocument :
    (∀ place, (editedDocument place).OnSynchronizer) ∧
      (openedDocument.start.after editedDocument 17).deliveredText? openedDocument.uri =
        some "fourth" := by
  have state : (openedDocument.start.after editedDocument 17).synchronizers.map
      (fun synchronizer => (synchronizer.lock.held, synchronizer.dirty, synchronizer.text)) =
        [(false, false, "fourth")] := by
    decide +kernel
  obtain ⟨synchronizer, only, delivered⟩ :=
    deliveredText_of_clean openedDocument editedDocument editedDocument_onSynchronizer 17
  rw [only] at state
  simp only [List.map_cons, List.map_nil, List.cons.injEq, Prod.mk.injEq, and_true] at state
  obtain ⟨free, clean, text⟩ := state
  refine ⟨editedDocument_onSynchronizer, ?_⟩
  rw [delivered free clean, text]

theorem deliveredVersions_consecutive_editedDocument :
    (∀ place, (editedDocument place).OnSynchronizer) ∧
      let versions :=
        (openedDocument.start.after editedDocument 17).deliveredVersions openedDocument.uri
      versions.length = 3 ∧ versions = [1, 2, 3] := by
  have length : ((openedDocument.start.after editedDocument 17).deliveredVersions
      openedDocument.uri).length = 3 := by
    decide +kernel
  have consecutive :=
    (deliveredVersions_consecutive openedDocument editedDocument editedDocument_onSynchronizer 17).1
  refine ⟨editedDocument_onSynchronizer, length, ?_⟩
  rw [consecutive, length]
  rfl

end LanguageClient.Client
