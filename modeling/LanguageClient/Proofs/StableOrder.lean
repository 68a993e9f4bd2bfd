import Mathlib.Data.List.Infix

/-!
# Stable orders

A stable sort changes nothing about elements that come in either order: taken by themselves, they stand
as they stood before.
-/

namespace LanguageClient

variable {Element : Type} {before : Element → Element → Bool}

/-- Elements of which none has to come before another one keep their order in a stable sort. -/
theorem filter_mergeSort
    (isMember : Element → Bool)
    (trans : ∀ first second third, before first second = true → before second third = true →
      before first third = true)
    (total : ∀ first second, (before first second || before second first) = true)
    (members : ∀ first second, isMember first = true → isMember second = true →
      before first second = true)
    (elements : List Element) :
    (elements.mergeSort before).filter isMember = elements.filter isMember := by
  have ordered : (elements.filter isMember).Pairwise fun first second => before first second = true :=
    List.pairwise_of_forall_mem_list fun first isFirst second isSecond =>
      members first second (List.mem_filter.mp isFirst).2 (List.mem_filter.mp isSecond).2
  have inSort : (elements.filter isMember).Sublist (elements.mergeSort before) :=
    List.sublist_mergeSort trans total ordered List.filter_sublist
  have inMembers : (elements.filter isMember).Sublist ((elements.mergeSort before).filter isMember) := by
    simpa only [List.filter_filter, Bool.and_self] using inSort.filter isMember
  exact (inMembers.eq_of_length_le
    (Nat.le_of_eq ((List.mergeSort_perm elements before).filter isMember).length_eq)).symm

/-- An ordered list in which members come before all others is made of its members and then of the
others. -/
theorem filter_append_filter_of_pairwise
    {isMember : Element → Bool} {elements : List Element}
    (ordered : elements.Pairwise fun first second => isMember second = true → isMember first = true) :
    elements.filter isMember ++ elements.filter (fun element => !isMember element) = elements := by
  induction elements with
  | nil => rfl
  | cons first others inductionHypothesis =>
      obtain ⟨before, rest⟩ := List.pairwise_cons.mp ordered
      by_cases member : isMember first = true
      · rw [List.filter_cons_of_pos member, List.filter_cons_of_neg (by simpa using member),
          List.cons_append, inductionHypothesis rest]
      · have noMembers : others.filter isMember = [] :=
          List.filter_eq_nil_iff.mpr fun other inside isMemberToo =>
            member (before other inside isMemberToo)
        have allOthers : others.filter (fun element => !isMember element) = others :=
          List.filter_eq_self.mpr fun other inside => by
            simpa using mt (before other inside) member
        rw [List.filter_cons_of_neg member, List.filter_cons_of_pos (by simpa using member),
          noMembers, allOthers, List.nil_append]

end LanguageClient
