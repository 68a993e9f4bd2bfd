import LanguageClient.Proofs.Completion.Token
import LanguageClient.Proofs.StableOrder
import LanguageClient.Proofs.Text.Lowercase

/-!
# The order of the candidates

For a word the candidates that fit it are kept in a stable order: those that insert a text which starts
with the word as it stands come first. A candidate whose key starts with the word as it stands fits it,
unless a capital sigma ends the word, and in the key is not the end of one.
-/

namespace LanguageClient.Completion

open LanguageClient.Text

variable {candidates : List Candidate} {candidate : Candidate} {before word : List Char}

theorem Candidate.fits_iff :
    candidate.fits word = true ↔ lowercase word <+: lowercase candidate.filterKey.toList :=
  List.isPrefixOf_iff_prefix

theorem Candidate.startsWith_iff :
    candidate.startsWith word = true ↔ word <+: candidate.insertText.toList :=
  List.isPrefixOf_iff_prefix

/-! ## Words -/

/-- The candidates for a word are those that fit, in a stable order by whether they start with it. -/
theorem rankByWord_eq_mergeSort (word : List Char) (candidates : List Candidate) :
    rankByWord word candidates =
      (candidates.filter (Candidate.fits word)).mergeSort fun first second =>
        first.startsWith word || !second.startsWith word := by
  have trans : ∀ first second third : Candidate,
      (first.startsWith word || !second.startsWith word) = true →
        (second.startsWith word || !third.startsWith word) = true →
          (first.startsWith word || !third.startsWith word) = true := by
    intro first second third
    cases first.startsWith word <;> cases second.startsWith word <;> simp
  have total : ∀ first second : Candidate,
      (first.startsWith word || !second.startsWith word ||
        (second.startsWith word || !first.startsWith word)) = true := by
    intro first second
    cases first.startsWith word <;> simp
  have ordered := List.pairwise_mergeSort trans total (candidates.filter (Candidate.fits word))
  have sameExact := filter_mergeSort (Candidate.startsWith word) trans total
    (fun _ _ starts _ => by simp [starts]) (candidates.filter (Candidate.fits word))
  have sameOthers := filter_mergeSort (fun candidate => !candidate.startsWith word) trans total
    (fun _ _ _ other => by simp [other]) (candidates.filter (Candidate.fits word))
  rw [rankByWord, ← sameExact, ← sameOthers]
  refine filter_append_filter_of_pairwise (ordered.imp fun inOrder starts => ?_)
  simpa [starts] using inOrder

theorem count_rankByWord (word : List Char) (candidates : List Candidate) (candidate : Candidate) :
    (rankByWord word candidates).count candidate =
      if candidate.fits word then candidates.count candidate else 0 := by
  have sameCount : (rankByWord word candidates).count candidate =
      (candidates.filter (Candidate.fits word)).count candidate := by
    rw [rankByWord_eq_mergeSort]
    exact (List.mergeSort_perm _ _).count_eq candidate
  rw [sameCount]
  split
  · rename_i fits
    exact List.count_filter fits
  · rename_i misfits
    exact List.count_eq_zero.mpr fun member => misfits (List.mem_filter.mp member).2

theorem mem_rankByWord :
    candidate ∈ rankByWord word candidates ↔ candidate ∈ candidates ∧ candidate.fits word = true := by
  rw [rankByWord_eq_mergeSort, List.mem_mergeSort, List.mem_filter]

theorem rank_of_word
    (cursor : Int) (found : token? candidates before = some word)
    (isWord : ∀ character ∈ word, isWord character = true) :
    (rank candidates before cursor).candidates = rankByWord word candidates := by
  simp only [rank, found, List.all_eq_true.mpr isWord, if_true]

/-- For a word exactly the candidates that fit are left, each as often as it was given: first those that
insert a text which starts with the word, then the others, both in the order in which they were given. For
any other token, and without one, all candidates are left as they were given. -/
theorem rank_stablePartition (candidates : List Candidate) (before : List Char) (cursor : Int) :
    let ranked := (rank candidates before cursor).candidates
    (∀ word, token? candidates before = some word → (∀ character ∈ word, isWord character = true) →
      (∀ candidate, ranked.count candidate =
        if lowercase word <+: lowercase candidate.filterKey.toList then candidates.count candidate
        else 0) ∧
      ∃ starting others, ranked = starting ++ others ∧
        starting.Sublist candidates ∧ others.Sublist candidates ∧
        (∀ candidate ∈ starting, word <+: candidate.insertText.toList) ∧
        ∀ candidate ∈ others, ¬word <+: candidate.insertText.toList) ∧
    (∀ token, token? candidates before = some token → (∃ character ∈ token, isWord character = false) →
      ranked = candidates) ∧
    (token? candidates before = none → ranked = candidates) := by
  refine ⟨fun word found isWord => ?_, fun token found ⟨character, member, other⟩ => ?_, fun nothing => ?_⟩
  · rw [rank_of_word cursor found isWord]
    refine ⟨fun candidate => ?_, _, _, rfl, List.filter_sublist.trans List.filter_sublist,
      List.filter_sublist.trans List.filter_sublist, fun candidate member => ?_,
      fun candidate member => ?_⟩
    · simp only [count_rankByWord, Candidate.fits_iff]
    · exact Candidate.startsWith_iff.mp (List.mem_filter.mp member).2
    · rw [← Candidate.startsWith_iff]
      simpa using (List.mem_filter.mp member).2
  · have notWord : ¬token.all isWord = true := fun all => by
      rw [List.all_eq_true.mp all character member] at other
      cases other
    simp only [rank, found, notWord, Bool.false_eq_true, if_false]
  · simp only [rank, nothing]

/-- A candidate that is given twice and only fits by its key, before one that also starts with the word. -/
theorem rank_stablePartition_repeatedCandidate :
    let repeated : Candidate := { label := "b", insertText := "Value", filterKey := "VALUE" }
    let starting : Candidate := { label := "a", insertText := "value", filterKey := "value" }
    let candidates := [repeated, starting, repeated]
    token? candidates "x = va".toList = some "va".toList ∧
      (∀ character ∈ "va".toList, isWord character = true) ∧
      (rank candidates "x = va".toList 6).candidates.count repeated = 2 ∧
      (rank candidates "x = va".toList 6).candidates.count starting = 1 := by
  intro repeated starting candidates
  have found : token? candidates "x = va".toList = some "va".toList := by decide +kernel
  have word : ∀ character ∈ "va".toList, isWord character = true :=
    List.all_eq_true.mp (by decide +kernel)
  have counts := ((rank_stablePartition candidates "x = va".toList 6).1 _ found word).1
  have fits (candidate : Candidate) (member : candidate ∈ candidates) :
      lowercase "va".toList <+: lowercase candidate.filterKey.toList := by
    revert candidate
    decide +kernel
  refine ⟨found, word, ?_, ?_⟩
  · rw [counts repeated, if_pos (fits repeated (by decide))]
    decide
  · rw [counts starting, if_pos (fits starting (by decide))]
    decide

/-! ## Keys that start with the word as it stands -/

/-- A candidate whose key starts with the word is left, unless the word ends in a capital sigma that is
final in the word and not in the key. -/
theorem mem_rank_of_exactPrefix
    {cursor : Int} {rest : List Char} (found : token? candidates before = some word)
    (isWord : ∀ character ∈ word, isWord character = true) (member : candidate ∈ candidates)
    (exactPrefix : candidate.filterKey.toList = word ++ rest) :
    candidate ∈ (rank candidates before cursor).candidates ↔
      ¬∃ stem skipped, word = stem ++ '\u03A3' :: skipped ∧
        (∀ character ∈ skipped, caseIgnorableCharacters.contains character = true) ∧
        meetsCased stem.reverse = true ∧ meetsCased rest = true := by
  rw [rank_of_word cursor found isWord, mem_rankByWord, and_iff_right member, Candidate.fits_iff,
    exactPrefix, lowercase_prefix_append_iff, LosesFinalSigma]
  simp only [List.append_nil]

/-- A word in capitals that ends in a sigma: the candidate of one more letter is left out, although its
key starts with the word, and the one with the word as its key is kept. -/
theorem mem_rank_of_exactPrefix_finalSigma :
    let longer : Candidate := { label := "ΟΔΟΣΑ", insertText := "ΟΔΟΣΑ", filterKey := "ΟΔΟΣΑ" }
    let whole : Candidate := { label := "ΟΔΟΣ", insertText := "ΟΔΟΣ", filterKey := "ΟΔΟΣ" }
    let candidates := [longer, whole]
    token? candidates "ΟΔΟΣ".toList = some "ΟΔΟΣ".toList ∧
      (∀ character ∈ "ΟΔΟΣ".toList, isWord character = true) ∧
      longer ∈ candidates ∧ longer.filterKey.toList = "ΟΔΟΣ".toList ++ "Α".toList ∧
      whole ∈ candidates ∧ whole.filterKey.toList = "ΟΔΟΣ".toList ++ [] ∧
      longer ∉ (rank candidates "ΟΔΟΣ".toList 4).candidates ∧
      whole ∈ (rank candidates "ΟΔΟΣ".toList 4).candidates := by
  intro longer whole candidates
  have found : token? candidates "ΟΔΟΣ".toList = some "ΟΔΟΣ".toList := by decide +kernel
  have word : ∀ character ∈ "ΟΔΟΣ".toList, isWord character = true :=
    List.all_eq_true.mp (by decide +kernel)
  have isLonger : longer ∈ candidates := by decide
  have isWhole : whole ∈ candidates := by decide
  have longerKey : longer.filterKey.toList = "ΟΔΟΣ".toList ++ "Α".toList := by decide
  have wholeKey : whole.filterKey.toList = "ΟΔΟΣ".toList ++ [] := by decide
  refine ⟨found, word, isLonger, longerKey, isWhole, wholeKey, fun kept => ?_, ?_⟩
  · refine (mem_rank_of_exactPrefix found word isLonger longerKey).mp kept
      ⟨"ΟΔΟ".toList, [], by decide, by simp, ?_, ?_⟩
    · decide +kernel
    · decide +kernel
  · refine (mem_rank_of_exactPrefix found word isWhole wholeKey).mpr ?_
    rintro ⟨_, _, _, _, _, meets⟩
    cases meets

end LanguageClient.Completion
