import LanguageClient.Protocol.Result

/-!
# Notebook filters in normal form

A filter that was accepted is written in a normal form: texts for whatever was given as one, and no
members without a value. The written filter is accepted again as the same filter, so it is its own
normal form, and its keys select the same kind of notebook selector as the given ones did.
-/

namespace LanguageClient.Protocol

open LanguageClient.Json

/-! ## Payloads in normal form -/

/-- Whatever is read from a payload is read again from its own written form. -/
def ReadsBack {α : Type} (read : Reader α) (write : α → Value) : Prop :=
  ∀ {value : Value} {result : α}, read value = some result → read (write result) = some result

section Members

variable {α : Type} {key : String} {read : Reader α} {members : List (String × Value)} {value : Value}

theorem eq_object_of_required {result : α} (isRead : required key read value = some result) :
    ∃ members, value = .object members := by
  cases value with
  | object members => exact ⟨members, rfl⟩
  | null | bool | int | float | string | array => cases isRead

theorem required_of_member (given : member? key members = some value) :
    required key read (.object members) = read value := by
  rw [required, Value.get?, given, Option.bind_some]

theorem optional_of_absent (absent : member? key members = none) :
    optional key read (.object members) = some none := by
  simp [optional, mentions?, absent]

theorem optional_of_null (given : member? key members = some .null) :
    optional key read (.object members) = some none := by
  simp [optional, mentions?, Value.get?, given]

theorem optional_of_member (given : member? key members = some value) (notNull : value ≠ .null) :
    optional key read (.object members) = (read value).map some := by
  cases value with
  | null => exact absurd rfl notNull
  | bool | int | float | string | array | object =>
      simp [optional, mentions?, Value.get?, given]

/-- A member that was read from an object was there and not null. -/
theorem member_of_optional {result : α}
    (isRead : optional key read (.object members) = some (some result)) :
    ∃ value, member? key members = some value ∧ value ≠ .null ∧ read value = some result := by
  cases given : member? key members with
  | none => simp [optional_of_absent given] at isRead
  | some value =>
      by_cases isNull : value = .null
      · simp [optional_of_null (given.trans (congrArg some isNull))] at isRead
      · rw [optional_of_member given isNull] at isRead
        obtain ⟨found, isFound, same⟩ := Option.map_eq_some_iff.mp isRead
        cases same
        exact ⟨value, rfl, isNull, isFound⟩

end Members

/-! ## Patterns -/

theorem text_string (written : String) : text (.string written) = some written := rfl

theorem plainOr_cases {α : Type} {plain : Value → α} {read : Reader α} {value : Value} {result : α}
    (isRead : plainOr plain read value = some result) :
    ((value = .null ∨ isScalar value = true) ∧ result = plain value) ∨ read value = some result := by
  unfold plainOr at isRead
  split at isRead
  · rename_i isPlain
    rw [Bool.or_eq_true, decide_eq_true_iff] at isPlain
    cases isRead
    exact Or.inl ⟨isPlain, rfl⟩
  · exact Or.inr isRead

theorem plainOr_of_plain {α : Type} {plain : Value → α} {read : Reader α} {value : Value}
    (isPlain : value = .null ∨ isScalar value = true) :
    plainOr plain read value = some (plain value) := by
  unfold plainOr
  rw [if_pos (by simpa using isPlain)]

theorem plainOr_object {α : Type} (plain : Value → α) (read : Reader α)
    (members : List (String × Value)) : plainOr plain read (.object members) = read (.object members) :=
  rfl

theorem patternBase_readsBack : ReadsBack patternBase PatternBase.toValue := fun {value base} isRead => by
  rcases plainOr_cases isRead with ⟨isPlain, rfl⟩ | isFolder
  · exact plainOr_of_plain isPlain
  · simp only [Option.bind_eq_bind, Option.bind_eq_some_iff] at isFolder
    obtain ⟨uri, -, name, -, same⟩ := isFolder
    cases same
    rfl

theorem globPattern_readsBack : ReadsBack globPattern GlobPattern.toValue :=
  fun {value pattern} isRead => by
    rcases plainOr_cases isRead with ⟨isPlain, rfl⟩ | isRelative
    · exact plainOr_of_plain isPlain
    · simp only [Option.bind_eq_bind, Option.bind_eq_some_iff] at isRelative
      obtain ⟨base, isBase, relative, -, same⟩ := isRelative
      cases same
      obtain ⟨given, -, isBase⟩ := Option.bind_eq_some_iff.mp isBase
      have again : required "baseUri" patternBase (GlobPattern.relative base relative).toValue =
          some base :=
        (required_of_member rfl).trans (patternBase_readsBack isBase)
      rw [GlobPattern.toValue] at again ⊢
      rw [globPattern, plainOr_object, again]
      rfl

/-- Only null is written as null. -/
theorem toValue_ne_null_of_globPattern {value : Value} {pattern : GlobPattern}
    (isRead : globPattern value = some pattern) (notNull : value ≠ .null) :
    pattern.toValue ≠ .null := by
  rcases plainOr_cases isRead with ⟨-, rfl⟩ | isRelative
  · exact notNull
  · simp only [Option.bind_eq_bind, Option.bind_eq_some_iff] at isRelative
    obtain ⟨base, -, relative, -, same⟩ := isRelative
    cases same
    exact nofun

/-! ## Selectors of notebooks -/

/-- The members of a written selector that is no text. -/
def selectorMembers (notebookType scheme : Option String) (pattern : Option GlobPattern) :
    List (String × Value) :=
  textMember "notebookType" notebookType ++ textMember "scheme" scheme ++ patternMember pattern

section Selectors

variable {notebookType scheme : Option String} {pattern : Option GlobPattern}

theorem member?_notebookType : member? "notebookType" (selectorMembers notebookType scheme pattern) =
    notebookType.map .string := by
  cases notebookType with
  | some => rfl
  | none => cases scheme <;> cases pattern <;> rfl

theorem member?_scheme : member? "scheme" (selectorMembers notebookType scheme pattern) =
    scheme.map .string := by
  cases scheme with
  | some => cases notebookType <;> rfl
  | none => cases notebookType <;> cases pattern <;> rfl

theorem member?_pattern : member? "pattern" (selectorMembers notebookType scheme pattern) =
    pattern.map GlobPattern.toValue := by
  cases notebookType <;> cases scheme <;> cases pattern <;> rfl

theorem optional_text_of_member {key : String} {members : List (String × Value)}
    {given : Option String} (isMember : member? key members = given.map .string) :
    optional key text (.object members) = some given := by
  cases given with
  | none => exact optional_of_absent isMember
  | some written =>
      have notNull : Value.string written ≠ .null := by simp
      rw [optional_of_member isMember notNull, text_string, Option.map_some]

theorem required_text_of_member {key written : String} {members : List (String × Value)}
    (isMember : member? key members = (some written).map .string) :
    required key text (.object members) = some written :=
  required_of_member isMember

/-- A pattern that was read as an optional member is written and read again as one. -/
theorem optional_pattern_readsBack {value : Value}
    (isRead : optional "pattern" globPattern value = some pattern)
    (isObject : ∃ members, value = .object members) :
    optional "pattern" globPattern (.object (selectorMembers notebookType scheme pattern)) =
      some pattern := by
  obtain ⟨members, rfl⟩ := isObject
  cases pattern with
  | none => exact optional_of_absent member?_pattern
  | some pattern =>
      obtain ⟨given, -, notNull, isPattern⟩ := member_of_optional isRead
      rw [optional_of_member member?_pattern (toValue_ne_null_of_globPattern isPattern notNull),
        globPattern_readsBack isPattern, Option.map_some]

theorem typeSelector_readsBack : ReadsBack typeSelector NotebookSelector.toValue :=
  fun {value selector} isRead => by
    simp only [typeSelector, Option.bind_eq_bind, Option.bind_eq_some_iff] at isRead
    obtain ⟨notebookType, isType, scheme, -, pattern, isPattern, same⟩ := isRead
    cases same
    change typeSelector (.object (selectorMembers (some notebookType) scheme pattern)) = _
    simp only [typeSelector, required_text_of_member member?_notebookType,
      optional_text_of_member member?_scheme,
      optional_pattern_readsBack isPattern (eq_object_of_required isType), Option.bind_eq_bind,
      Option.bind_some, Option.pure_def]

theorem schemeSelector_readsBack : ReadsBack schemeSelector NotebookSelector.toValue :=
  fun {value selector} isRead => by
    simp only [schemeSelector, Option.bind_eq_bind, Option.bind_eq_some_iff] at isRead
    obtain ⟨scheme, isScheme, notebookType, -, pattern, isPattern, same⟩ := isRead
    cases same
    change schemeSelector (.object (selectorMembers notebookType (some scheme) pattern)) = _
    simp only [schemeSelector, required_text_of_member member?_scheme,
      optional_text_of_member member?_notebookType,
      optional_pattern_readsBack isPattern (eq_object_of_required isScheme), Option.bind_eq_bind,
      Option.bind_some, Option.pure_def]

theorem patternSelector_readsBack : ReadsBack patternSelector NotebookSelector.toValue :=
  fun {value selector} isRead => by
    simp only [patternSelector, Option.bind_eq_bind, Option.bind_eq_some_iff] at isRead
    obtain ⟨pattern, isPattern, notebookType, -, scheme, -, same⟩ := isRead
    cases same
    obtain ⟨given, -, isPattern⟩ := Option.bind_eq_some_iff.mp isPattern
    change patternSelector (.object (selectorMembers notebookType scheme (some pattern))) = _
    have again :
        required "pattern" globPattern (.object (selectorMembers notebookType scheme (some pattern))) =
          some pattern :=
      (required_of_member member?_pattern).trans (globPattern_readsBack isPattern)
    simp only [patternSelector, again, optional_text_of_member member?_notebookType,
      optional_text_of_member member?_scheme, Option.bind_eq_bind, Option.bind_some, Option.pure_def]

end Selectors

/-- How an object is accepted as a selector of notebooks: the first of its keys that is present selects
the reader, so the members that come before are absent. -/
inductive SelectedBy (members : List (String × Value)) : NotebookSelector → Prop where
  | type {given : Value} {notebookType : String} {scheme : Option String}
      {pattern : Option GlobPattern}
      (isType : member? "notebookType" members = some given)
      (isRead : typeSelector (.object members) = some (.byType notebookType scheme pattern)) :
      SelectedBy members (.byType notebookType scheme pattern)
  | scheme {given : Value} {scheme : String} {pattern : Option GlobPattern}
      (noType : member? "notebookType" members = none)
      (isScheme : member? "scheme" members = some given)
      (isRead : schemeSelector (.object members) = some (.byScheme scheme none pattern)) :
      SelectedBy members (.byScheme scheme none pattern)
  | pattern {pattern : GlobPattern} (noType : member? "notebookType" members = none)
      (noScheme : member? "scheme" members = none)
      (isRead : patternSelector (.object members) = some (.byPattern pattern none none)) :
      SelectedBy members (.byPattern pattern none none)

theorem notebookSelector_object (members : List (String × Value)) :
    notebookSelector (.object members) =
      if (member? "notebookType" members).isSome then typeSelector (.object members)
      else if (member? "scheme" members).isSome then schemeSelector (.object members)
      else patternSelector (.object members) := rfl

theorem notebookSelector_object_eq_some_iff {members : List (String × Value)}
    {selector : NotebookSelector} :
    notebookSelector (.object members) = some selector ↔ SelectedBy members selector := by
  rw [notebookSelector_object]
  constructor
  · intro isRead
    cases isType : member? "notebookType" members with
    | some given =>
        rw [isType, Option.isSome_some, if_pos rfl] at isRead
        have parts := isRead
        simp only [typeSelector, Option.bind_eq_bind, Option.bind_eq_some_iff] at parts
        obtain ⟨notebookType, -, scheme, -, pattern, -, same⟩ := parts
        cases same
        exact .type isType isRead
    | none =>
        have noType : optional "notebookType" text (.object members) = some none :=
          optional_of_absent isType
        cases isScheme : member? "scheme" members with
        | some given =>
            rw [isType, isScheme, Option.isSome_none, if_neg nofun, Option.isSome_some,
              if_pos rfl] at isRead
            have parts := isRead
            simp only [schemeSelector, noType, Option.bind_eq_bind, Option.bind_eq_some_iff,
              Option.bind_some] at parts
            obtain ⟨scheme, -, pattern, -, same⟩ := parts
            cases same
            exact .scheme isType isScheme isRead
        | none =>
            have noScheme : optional "scheme" text (.object members) = some none :=
              optional_of_absent isScheme
            rw [isType, isScheme, Option.isSome_none, if_neg nofun, if_neg nofun] at isRead
            have parts := isRead
            simp only [patternSelector, noType, noScheme, Option.bind_eq_bind,
              Option.bind_eq_some_iff, Option.bind_some] at parts
            obtain ⟨pattern, -, same⟩ := parts
            cases same
            exact .pattern isType isScheme isRead
  · intro selected
    cases selected with
    | type isType isRead => simpa [isType] using isRead
    | scheme noType isScheme isRead => simpa [noType, isScheme] using isRead
    | pattern noType noScheme isRead => simpa [noType, noScheme] using isRead

/-- A selector that was accepted is a text or an object. -/
theorem notebookSelector_cases {value : Value} {selector : NotebookSelector}
    (isRead : notebookSelector value = some selector) :
    (∃ name, value = .string name ∧ selector = .name name) ∨
      ∃ members, value = .object members ∧ SelectedBy members selector := by
  cases value with
  | string name =>
      cases isRead
      exact Or.inl ⟨name, rfl, rfl⟩
  | object members =>
      exact Or.inr ⟨members, rfl, notebookSelector_object_eq_some_iff.mp isRead⟩
  | array items =>
      simp [notebookSelector, mentions?, typeSelector, schemeSelector, patternSelector, required,
        Value.get?] at isRead
  | null | bool | int | float => cases isRead

theorem notebookSelector_readsBack : ReadsBack notebookSelector NotebookSelector.toValue :=
  fun isAccepted => by
    rcases notebookSelector_cases isAccepted with ⟨name, -, rfl⟩ | ⟨members, -, selected⟩
    · rfl
    · cases selected with
      | type isType isRead =>
          exact notebookSelector_object_eq_some_iff.mpr
            (.type member?_notebookType (typeSelector_readsBack isRead))
      | scheme noType isScheme isRead =>
          exact notebookSelector_object_eq_some_iff.mpr
            (.scheme member?_notebookType member?_scheme (schemeSelector_readsBack isRead))
      | pattern noType noScheme isRead =>
          exact notebookSelector_object_eq_some_iff.mpr
            (.pattern member?_notebookType member?_scheme (patternSelector_readsBack isRead))

/-! ## The kind of a selector -/

/-- The kinds of selectors of notebooks. -/
inductive SelectorKind where
  | name
  | byType
  | byScheme
  | byPattern
  deriving DecidableEq, Repr

def NotebookSelector.kind : NotebookSelector → SelectorKind
  | .name _ => .name
  | .byType .. => .byType
  | .byScheme .. => .byScheme
  | .byPattern .. => .byPattern

/-- The kind of selector that a payload stands for. Only its keys matter, even those that are null. -/
def selectorKind : Value → SelectorKind
  | .string _ => .name
  | value =>
    if (value.get? "notebookType").isSome then .byType
    else if (value.get? "scheme").isSome then .byScheme
    else .byPattern

theorem selectorKind_of_notebookSelector {value : Value} {selector : NotebookSelector}
    (isRead : notebookSelector value = some selector) : selectorKind value = selector.kind := by
  rcases notebookSelector_cases isRead with ⟨name, rfl, rfl⟩ | ⟨members, rfl, selected⟩
  · rfl
  · cases selected with
    | type isType => simp [selectorKind, Value.get?, isType, NotebookSelector.kind]
    | scheme noType isScheme =>
        simp [selectorKind, Value.get?, noType, isScheme, NotebookSelector.kind]
    | pattern noType noScheme =>
        simp [selectorKind, Value.get?, noType, noScheme, NotebookSelector.kind]

/-! ## Filters -/

/-- The kind of selector in the payload of a filter, unless that is absent or null. -/
def notebookKind? (payload : Value) : Option SelectorKind :=
  (payload.present? "notebook").map selectorKind

theorem sequence_readsBack {α : Type} {read : Reader α} {write : α → Value}
    (readsBack : ReadsBack read write) :
    ReadsBack (sequence read) fun results => .array (results.map write) :=
  fun {value results} isRead => by
    obtain ⟨items, -, areRead⟩ := Option.bind_eq_some_iff.mp isRead
    change (results.map write).mapM read = some results
    clear isRead
    induction items generalizing results with
    | nil =>
        cases areRead
        rfl
    | cons item items inductionHypothesis =>
        simp only [List.mapM_cons, Option.bind_eq_bind, Option.bind_eq_some_iff] at areRead
        obtain ⟨first, isFirst, others, areOthers, same⟩ := areRead
        cases same
        simp [readsBack isFirst, inductionHypothesis areOthers]

/-- A cell is named by its language. -/
theorem cell_readsBack :
    ReadsBack (required "language" text) fun language => .object [("language", .string language)] :=
  fun _ => rfl

theorem notebookFilter_readsBack : ReadsBack notebookFilter NotebookFilter.toValue :=
  fun isAccepted => by
    simp only [notebookFilter, Option.bind_eq_bind, Option.bind_eq_some_iff] at isAccepted
    obtain ⟨cells, areCells, notebook, isNotebook, same⟩ := isAccepted
    cases same
    obtain ⟨members, rfl⟩ := eq_object_of_required areCells
    obtain ⟨given, -, areCells⟩ := Option.bind_eq_some_iff.mp areCells
    have cellsAgain := sequence_readsBack cell_readsBack areCells
    have readsCells : required "cells" (sequence (required "language" text))
        (NotebookFilter.toValue { notebook, cells }) = some cells := by
      cases notebook <;> exact (required_of_member rfl).trans cellsAgain
    cases notebook with
    | none =>
        have noNotebook : optional "notebook" notebookSelector
            (NotebookFilter.toValue { notebook := none, cells }) = some none :=
          optional_of_absent rfl
        rw [notebookFilter, readsCells, noNotebook]
        rfl
    | some selector =>
        obtain ⟨given, -, -, isSelector⟩ := member_of_optional isNotebook
        have notNull : selector.toValue ≠ .null := by cases selector <;> exact nofun
        have readsSelector : optional "notebook" notebookSelector
            (NotebookFilter.toValue { notebook := some selector, cells }) = some (some selector) := by
          rw [NotebookFilter.toValue, optional_of_member rfl notNull,
            notebookSelector_readsBack isSelector, Option.map_some]
        rw [notebookFilter, readsCells, readsSelector]
        rfl

/-- The kind of selector that the keys of an accepted filter stand for is the one that was read. -/
theorem notebookKind?_of_notebookFilter {value : Value} {filter : NotebookFilter}
    (isRead : notebookFilter value = some filter) :
    notebookKind? value = filter.notebook.map NotebookSelector.kind := by
  simp only [notebookFilter, Option.bind_eq_bind, Option.bind_eq_some_iff] at isRead
  obtain ⟨cells, areCells, notebook, isNotebook, same⟩ := isRead
  cases same
  obtain ⟨members, rfl⟩ := eq_object_of_required areCells
  cases given : member? "notebook" members with
  | none =>
      rw [optional_of_absent given] at isNotebook
      cases isNotebook
      simp [notebookKind?, Value.present?, Value.get?, given]
  | some value =>
      by_cases isNull : value = .null
      · rw [isNull] at given
        rw [optional_of_null given] at isNotebook
        cases isNotebook
        simp [notebookKind?, Value.present?, Value.get?, given]
      · rw [optional_of_member given isNull] at isNotebook
        obtain ⟨selector, isSelector, same⟩ := Option.map_eq_some_iff.mp isNotebook
        cases same
        simp [notebookKind?, Value.present?, Value.get?, given,
          selectorKind_of_notebookSelector isSelector]

theorem notebookFilterOf_eq_ok_iff {value : Value} {filter : NotebookFilter} :
    notebookFilterOf value = .ok filter ↔ notebookFilter value = some filter := by
  unfold notebookFilterOf paramsOf
  cases notebookFilter value with
  | none => simp
  | some found => simp

/-- The payload of an accepted filter is accepted as the same filter, so it is written as itself. In both
of them the keys of the notebook member, null or not, stand for the kind of selector that was read. -/
theorem notebookFilterOf_normalizes (value : Value) (filter : NotebookFilter)
    (accepted : notebookFilterOf value = .ok filter) :
    notebookFilterOf filter.toValue = .ok filter ∧
      notebookKind? value = filter.notebook.map NotebookSelector.kind ∧
      notebookKind? filter.toValue = notebookKind? value := by
  have isRead := notebookFilterOf_eq_ok_iff.mp accepted
  have again := notebookFilter_readsBack isRead
  have kind := notebookKind?_of_notebookFilter isRead
  exact ⟨notebookFilterOf_eq_ok_iff.mpr again, kind,
    (notebookKind?_of_notebookFilter again).trans kind.symm⟩

/-- A filter whose keys are there but null, and whose language is a number. -/
def nullTypeFilter : Value := .object [
  ("cells", .array [.object [("language", .int 5)]]),
  ("notebook", .object [("notebookType", .null), ("scheme", .null), ("pattern",
    .object [("baseUri", .null), ("pattern", .null)])])]

def typedFilter : NotebookFilter where
  notebook := some (.byType "None" none (some (.relative (.address .null) "None")))
  cells := ["5"]

theorem notebookFilterOf_normalizes_nullTypeFilter :
    notebookFilterOf nullTypeFilter = .ok typedFilter ∧
      notebookFilterOf typedFilter.toValue = .ok typedFilter ∧
      notebookKind? nullTypeFilter = some .byType ∧
      notebookKind? typedFilter.toValue = some .byType := by
  have accepted : notebookFilterOf nullTypeFilter = .ok typedFilter := rfl
  obtain ⟨again, kind, sameKind⟩ := notebookFilterOf_normalizes nullTypeFilter typedFilter accepted
  exact ⟨accepted, again, kind, sameKind.trans kind⟩

end LanguageClient.Protocol
