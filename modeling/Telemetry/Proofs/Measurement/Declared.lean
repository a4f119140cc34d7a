import Telemetry.Measurement
import Telemetry.Proofs.Listing.Repeats

/-!
# Declared names

Of the declarations of a measurement only the names they give matter to points. A name is a tag when
some declaration gives it as a tag, and a value when some declaration gives it as a value and none
as a tag, earlier or later. So no name is both. Tags and values stand in the order in which they
were first given as such, each name once, and it does not matter how declarations of tags and of
values take turns.
-/

namespace Telemetry

namespace Declaration

def tagNames : Declaration → List String
  | tags names => names
  | _ => []

def valueNames : Declaration → List String
  | values names => names
  | _ => []

/-- The validators that are declared. -/
def checks : Declaration → List Validator
  | presence names => names.map Validator.presence
  | validator check => [check]
  | _ => []

end Declaration

namespace Measurement

theorem isAttribute_iff {m : Measurement} {name : String} :
    m.isAttribute name = true ↔ m.isTag name = true ∨ m.isValue name = true :=
  Bool.or_eq_true_iff

section

/-- The names of a measurement after `tags` and `values` were given, each in the order of first
declaration. -/
structure Lists (m : Measurement) (tags values : List String) : Prop where
  ofTags : m.tags = tags.eraseDups
  ofValues : m.values = (values.filter (· ∉ tags)).eraseDups

variable {m : Measurement} {tags values : List String}

theorem Lists.contains_tag (h : m.Lists tags values) (name : String) :
    m.tags.contains name = true ↔ name ∈ tags := by
  rw [h.ofTags, List.contains_iff_mem, List.mem_eraseDups]

theorem Lists.contains_value (h : m.Lists tags values) (name : String) :
    m.values.contains name = true ↔ name ∈ values.filter (· ∉ tags) := by
  rw [h.ofValues, List.contains_iff_mem, List.mem_eraseDups]

theorem lists_new (series : Series) : (new series).Lists [] [] :=
  ⟨rfl, rfl⟩

theorem Lists.addTag (h : m.Lists tags values) (added : String) :
    (m.addTag added).Lists (tags ++ [added]) values := by
  constructor
  · change (if m.tags.contains added then m.tags else m.tags ++ [added]) = _
    rw [eraseDups_concat]
    by_cases known : added ∈ tags
    · rw [if_pos known, if_pos ((h.contains_tag added).mpr known), h.ofTags]
    · rw [if_neg known, if_neg (mt (h.contains_tag added).mp known), h.ofTags]
  · change m.values.filter (· ≠ added) = _
    have untagged (name : String) : (decide (name ≠ added) && decide (name ∉ tags)) =
        decide (name ∉ tags ++ [added]) := by
      simp [and_comm]
    calc m.values.filter (· ≠ added)
        = (values.filter (· ∉ tags)).eraseDups.filter (· ≠ added) := by rw [h.ofValues]
      _ = ((values.filter (· ∉ tags)).filter (· ≠ added)).eraseDups := (eraseDups_filter ..).symm
      _ = (values.filter (· ∉ tags ++ [added])).eraseDups := by
        rw [List.filter_filter, funext untagged]

theorem Lists.addValue (h : m.Lists tags values) (added : String) :
    (m.addValue added).Lists tags (values ++ [added]) := by
  have guarded : (m.tags.contains added || m.values.contains added) = true ↔
      added ∈ tags ∨ added ∈ values.filter (· ∉ tags) := by
    rw [Bool.or_eq_true, h.contains_tag, h.contains_value]
  rw [Measurement.addValue]
  by_cases tagged : added ∈ tags
  · rw [if_pos (guarded.mpr (Or.inl tagged))]
    refine ⟨h.ofTags, ?_⟩
    rw [List.filter_append, List.filter_cons_of_neg (by simpa using tagged), List.filter_nil,
      List.append_nil]
    exact h.ofValues
  · have joined : (values ++ [added]).filter (· ∉ tags) = values.filter (· ∉ tags) ++ [added] := by
      rw [List.filter_append, List.filter_cons_of_pos (by simpa using tagged), List.filter_nil]
    by_cases known : added ∈ values.filter (· ∉ tags)
    · rw [if_pos (guarded.mpr (Or.inr known))]
      refine ⟨h.ofTags, ?_⟩
      rw [joined, eraseDups_concat, if_pos known]
      exact h.ofValues
    · rw [if_neg (mt guarded.mp (not_or.mpr ⟨tagged, known⟩))]
      refine ⟨h.ofTags, ?_⟩
      rw [joined, eraseDups_concat, if_neg known, ← h.ofValues]

theorem Lists.addTags (h : m.Lists tags values) (names : List String) :
    (names.foldl Measurement.addTag m).Lists (tags ++ names) values := by
  induction names generalizing m tags with
  | nil => rwa [List.append_nil]
  | cons first rest ih =>
    have later := ih (h.addTag first)
    rwa [List.append_assoc] at later

theorem Lists.addValues (h : m.Lists tags values) (names : List String) :
    (names.foldl Measurement.addValue m).Lists tags (values ++ names) := by
  induction names generalizing m values with
  | nil => rwa [List.append_nil]
  | cons first rest ih =>
    have later := ih (h.addValue first)
    rwa [List.append_assoc] at later

theorem Lists.declare (h : m.Lists tags values) (d : Declaration) :
    (m.declare d).Lists (tags ++ d.tagNames) (values ++ d.valueNames) := by
  cases d with
  | tags names =>
    have given := h.addTags names
    rwa [← List.append_nil values] at given
  | values names =>
    have given := h.addValues names
    rwa [← List.append_nil tags] at given
  | _ =>
    -- no name is given, and the lists stay as they are
    have same := h
    rw [← List.append_nil tags, ← List.append_nil values] at same
    exact ⟨same.ofTags, same.ofValues⟩

theorem lists_ofDeclarations (series : Series) (declarations : List Declaration) :
    (ofDeclarations series declarations).Lists (declarations.flatMap Declaration.tagNames)
      (declarations.flatMap Declaration.valueNames) := by
  have folded {m : Measurement} {tags values : List String} (h : m.Lists tags values) :
      (declarations.foldl declare m).Lists (tags ++ declarations.flatMap Declaration.tagNames)
        (values ++ declarations.flatMap Declaration.valueNames) := by
    induction declarations generalizing m tags values with
    | nil => simpa using h
    | cons d rest ih =>
      have later := ih (h.declare d)
      rwa [List.append_assoc, List.append_assoc] at later
  exact folded (lists_new series)

end

/-- The names a measurement knows, of which those of tags win. -/
structure Declares (m : Measurement) (tags values : String → Prop) : Prop where
  tag : ∀ name, m.isTag name = true ↔ tags name
  value : ∀ name, m.isValue name = true ↔ values name ∧ ¬ tags name

variable {m : Measurement} {tags values : String → Prop}

theorem Declares.apart (h : m.Declares tags values) (name : String)
    (tagged : m.isTag name = true) : m.isValue name = false := by
  refine Bool.eq_false_iff.mpr fun valued => ?_
  exact ((h.value name).mp valued).2 ((h.tag name).mp tagged)

theorem Declares.isAttribute_iff (h : m.Declares tags values) (name : String) :
    m.isAttribute name = true ↔ tags name ∨ values name := by
  rw [Measurement.isAttribute_iff, h.tag, h.value]
  constructor
  · rintro (tagged | ⟨valued, -⟩)
    · exact Or.inl tagged
    · exact Or.inr valued
  · intro known
    by_cases tagged : tags name
    · exact Or.inl tagged
    · exact Or.inr ⟨known.resolve_left tagged, tagged⟩

/-- Declarations in any order come to the names that they give. -/
theorem declares_ofDeclarations (series : Series) (declarations : List Declaration) :
    (ofDeclarations series declarations).Declares
      (fun name => ∃ d ∈ declarations, name ∈ d.tagNames)
      (fun name => ∃ d ∈ declarations, name ∈ d.valueNames) := by
  have listed := lists_ofDeclarations series declarations
  constructor
  · intro name
    rw [isTag, listed.contains_tag, List.mem_flatMap]
  · intro name
    rw [isValue, listed.contains_value, List.mem_filter, decide_eq_true_eq, List.mem_flatMap,
      List.mem_flatMap]

theorem validators_addNames (add : Measurement → String → Measurement)
    (keeps : ∀ m name, (add m name).validators = m.validators) (m : Measurement)
    (names : List String) : (names.foldl add m).validators = m.validators := by
  induction names generalizing m with
  | nil => rfl
  | cons first rest ih => rw [List.foldl_cons, ih, keeps]

theorem validators_declare (m : Measurement) (d : Declaration) :
    (m.declare d).validators = m.validators ++ d.checks := by
  cases d with
  | tags names =>
    rw [declare, validators_addNames Measurement.addTag fun _ _ => rfl]
    exact (List.append_nil _).symm
  | values names =>
    have keeps (m : Measurement) (name : String) : (m.addValue name).validators = m.validators := by
      unfold Measurement.addValue
      split <;> rfl
    rw [declare, validators_addNames Measurement.addValue keeps]
    exact (List.append_nil _).symm
  | presence names => rfl
  | validator check => rfl
  | _ => exact (List.append_nil _).symm

/-- Validators stand in the order of their declarations. -/
theorem validators_ofDeclarations (series : Series) (declarations : List Declaration) :
    (ofDeclarations series declarations).validators = declarations.flatMap Declaration.checks := by
  have folded (m : Measurement) : (declarations.foldl declare m).validators =
      m.validators ++ declarations.flatMap Declaration.checks := by
    induction declarations generalizing m with
    | nil => exact (List.append_nil _).symm
    | cons d rest ih =>
      rw [List.foldl_cons, ih, validators_declare, List.flatMap_cons, List.append_assoc]
  exact folded (new series)

end Measurement

namespace Declaration

/-- Lists of tags and lists of values as declarations, in whatever way they take turns. -/
inductive Interleaved : List (List String) → List (List String) → List Declaration → Prop
  | none : Interleaved [] [] []
  | tags {tagLists valueLists : List (List String)} {later : List Declaration}
      (names : List String) (others : Interleaved tagLists valueLists later) :
      Interleaved (names :: tagLists) valueLists (.tags names :: later)
  | values {tagLists valueLists : List (List String)} {later : List Declaration}
      (names : List String) (others : Interleaved tagLists valueLists later) :
      Interleaved tagLists (names :: valueLists) (.values names :: later)

theorem Interleaved.given {tagLists valueLists : List (List String)}
    {declarations : List Declaration} (h : Interleaved tagLists valueLists declarations) :
    declarations.flatMap tagNames = tagLists.flatten ∧
      declarations.flatMap valueNames = valueLists.flatten := by
  induction h with
  | none => exact ⟨rfl, rfl⟩
  | tags names others ih =>
    obtain ⟨tags, values⟩ := ih
    constructor
    · rw [List.flatMap_cons, List.flatten_cons, tags]
      rfl
    · rw [List.flatMap_cons, values]
      rfl
  | values names others ih =>
    obtain ⟨tags, values⟩ := ih
    constructor
    · rw [List.flatMap_cons, tags]
      rfl
    · rw [List.flatMap_cons, List.flatten_cons, values]
      rfl

end Declaration

namespace Measurement

/-- Tags are the names that were given as tags, values the names that were given as values and never
as tags, both without repeats and in the order of first declaration, whatever else is declared in
between. Declarations of the same tags and of the same values come to the same names in whatever way
they take turns. -/
theorem names_in_order (series : Series) (declarations : List Declaration) :
    let tags := declarations.flatMap Declaration.tagNames
    let values := declarations.flatMap Declaration.valueNames
    (ofDeclarations series declarations).tags = tags.eraseDups ∧
    (ofDeclarations series declarations).values = (values.filter (· ∉ tags)).eraseDups ∧
    ∀ (tagLists valueLists : List (List String)) (others : List Declaration),
      Declaration.Interleaved tagLists valueLists declarations →
      Declaration.Interleaved tagLists valueLists others →
        (ofDeclarations series declarations).tags = (ofDeclarations series others).tags ∧
        (ofDeclarations series declarations).values = (ofDeclarations series others).values := by
  intro tags values
  have listed := lists_ofDeclarations series declarations
  refine ⟨listed.ofTags, listed.ofValues, ?_⟩
  intro tagLists valueLists others taken takenOtherwise
  have otherwise := lists_ofDeclarations series others
  rw [takenOtherwise.given.1, takenOtherwise.given.2, ← taken.given.1, ← taken.given.2] at otherwise
  exact ⟨listed.ofTags.trans otherwise.ofTags.symm, listed.ofValues.trans otherwise.ofValues.symm⟩

/-- A name that is given as a value before it is given as a tag, and one after. -/
theorem names_in_order_turned :
    let turned : List Declaration :=
      [.tags ["id", "host"], .values ["user", "load"], .tags ["host", "user"],
        .values ["id", "load"]]
    let valuesFirst : List Declaration :=
      [.values ["user", "load"], .values ["id", "load"], .tags ["id", "host"],
        .tags ["host", "user"]]
    let tagLists := [["id", "host"], ["host", "user"]]
    let valueLists := [["user", "load"], ["id", "load"]]
    Declaration.Interleaved tagLists valueLists turned ∧
    Declaration.Interleaved tagLists valueLists valuesFirst ∧
    (ofDeclarations (.name "cpu") valuesFirst).tags = ["id", "host", "user"] ∧
    (ofDeclarations (.name "cpu") valuesFirst).values = ["load"] := by
  intro turned valuesFirst tagLists valueLists
  have taken : Declaration.Interleaved tagLists valueLists turned :=
    .tags _ (.values _ (.tags _ (.values _ .none)))
  have otherwise : Declaration.Interleaved tagLists valueLists valuesFirst :=
    .values _ (.values _ (.tags _ (.tags _ .none)))
  obtain ⟨tags, values, same⟩ := names_in_order (.name "cpu") turned
  obtain ⟨sameTags, sameValues⟩ := same tagLists valueLists valuesFirst taken otherwise
  exact ⟨taken, otherwise, sameTags.symm.trans (tags.trans (by decide)),
    sameValues.symm.trans (values.trans (by decide))⟩

end Measurement

end Telemetry
