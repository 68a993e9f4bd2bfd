import LanguageClient.Protocol.Hover

/-!
# Hovers in a document
-/

namespace LanguageClient.Document

open LanguageClient.Protocol

/-- The text of a hover with the offsets that it belongs to. -/
structure PlacedHover where
  start : Nat
  stop : Option Nat
  text : String
  deriving DecidableEq, Repr

/-- Where a hover belongs: its own range, or else the position that was asked about. -/
def hoverPlace (snapshot : Snapshot) (asked : Position) (hover : Hover) :
    Except PositionFault (Nat × Option Nat) :=
  match hover.range with
  | some range => do
    let start ← snapshot.toOffset range.first
    let stop ← snapshot.toOffset range.last
    return (start, some stop)
  | none => do
    let start ← snapshot.toOffset asked
    return (start, none)

/-- Places the answer to a hover request. A hover that does not resolve against the snapshot is
dropped; one that has no text is a failure. -/
def placeHover (snapshot : Snapshot) (asked : Position) :
    Option Hover → Except Failure (Option PlacedHover)
  | none => .ok none
  | some hover =>
    match hoverPlace snapshot asked hover with
    | .error _ => .ok none
    | .ok (start, stop) => do
      let text ← hover.contents.format
      return some { start, stop, text }

end LanguageClient.Document
