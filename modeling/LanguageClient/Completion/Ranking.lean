import LanguageClient.Completion.TokenPattern
import LanguageClient.Text.Lowercase

/-!
# Ranked completions

Candidates are compared with the token before the cursor. If the token is a word, candidates that
do not start with it, whatever the case, are dropped, and those that insert it in exact case come
first.
-/

namespace LanguageClient.Completion

open LanguageClient.Text

/-- Candidates for the text from an offset up to the cursor. -/
structure Ranked where
  start : Int
  candidates : List Candidate
  deriving DecidableEq, Repr

/-- The token that ends a text, if the candidates describe one. -/
def token? (candidates : List Candidate) (before : List Char) : Option (List Char) := do
  let pattern ← TokenPattern.ofCandidates candidates
  let (start, length) ← pattern.search? before
  return (before.drop start).take length

def Candidate.fits (word : List Char) (candidate : Candidate) : Bool :=
  (lowercase word).isPrefixOf (lowercase candidate.filterKey.toList)

/-- Whether a candidate inserts a text that starts with the word as it stands. -/
def Candidate.startsWith (word : List Char) (candidate : Candidate) : Bool :=
  word.isPrefixOf candidate.insertText.toList

/-- The candidates that fit a word; those that start with it exactly come first. -/
def rankByWord (word : List Char) (candidates : List Candidate) : List Candidate :=
  let fitting := candidates.filter (Candidate.fits word)
  fitting.filter (Candidate.startsWith word) ++
    fitting.filter fun candidate => !candidate.startsWith word

def rank (candidates : List Candidate) (before : List Char) (cursor : Int) : Ranked :=
  match token? candidates before with
  | none => { start := cursor, candidates }
  | some token => {
      start := cursor - token.length
      candidates := if token.all isWord then rankByWord token candidates else candidates }

end LanguageClient.Completion
