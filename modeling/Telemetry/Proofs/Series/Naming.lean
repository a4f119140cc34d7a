import Telemetry.Proofs.Text.Quoted
import Telemetry.Series

/-!
# The name a series is written to and read under

With or without a point, a computed series comes to the series that it computes and a list of one
series to that one. What a series comes to decides both its text and its name. Where it comes to a
name, points are written to that name and statements quote it. Otherwise it comes to a pattern, to
an empty list or to several series: there is no name to write to, and of these only the empty list
is quoted like a name, the empty one.
-/

namespace Telemetry

namespace Series

/-- The steps from a series to what it stands for. -/
inductive ComesTo (sample : Option Sample) : Series → Series → Prop where
  | refl (s : Series) : ComesTo sample s s
  | computed {resolve : Option Sample → Series} {s : Series} :
      ComesTo sample (resolve sample) s → ComesTo sample (.computed resolve) s
  | sole {item s : Series} : ComesTo sample item s → ComesTo sample (.list [item]) s

variable {sample : Option Sample}

theorem ComesTo.writeName?_eq {s t : Series} (h : ComesTo sample s t) :
    s.writeName? sample = t.writeName? sample := by
  induction h with
  | refl s => rfl
  | computed _ ih =>
    rw [writeName?]
    exact ih
  | sole _ ih =>
    rw [writeName?, writeNames, writeNames, soleName]
    exact ih

mutual

theorem comesTo_of_writeName? {text : String} :
    ∀ s : Series, s.writeName? sample = some text → ComesTo sample s (.name text)
  | .name other, h => by
    rw [writeName?] at h
    rw [Option.some.inj h]
    exact .refl _
  | .pattern p, h => by
    rw [writeName?] at h
    cases h
  | .computed resolve, h => by
    rw [writeName?] at h
    exact .computed (comesTo_of_writeName? (resolve sample) h)
  | .list items, h => by
    rw [writeName?] at h
    obtain ⟨item, rfl, named⟩ := comesTo_of_writeNames items h
    exact .sole named

theorem comesTo_of_writeNames {text : String} :
    ∀ items : List Series, soleName (writeNames sample items) = some text →
      ∃ item, items = [item] ∧ ComesTo sample item (.name text)
  | [], h => by
    rw [writeNames] at h
    cases h
  | [item], h => by
    rw [writeNames, writeNames, soleName] at h
    exact ⟨item, rfl, comesTo_of_writeName? item h⟩
  | first :: second :: rest, h => by
    rw [writeNames, writeNames] at h
    cases h

end

theorem writeName?_eq_some_iff {s : Series} {text : String} :
    s.writeName? sample = some text ↔ ComesTo sample s (.name text) := by
  constructor
  · exact comesTo_of_writeName? s
  · intro h
    rw [h.writeName?_eq, writeName?]

theorem ComesTo.quoted_eq {s t : Series} (h : ComesTo sample s t) :
    s.quoted sample = t.quoted sample := by
  induction h with
  | refl s => rfl
  | computed _ ih =>
    rw [quoted]
    exact ih
  | sole _ ih =>
    rw [quoted, quotedItems, quotedItems, mergeText]
    exact ih

theorem quoted_several (sample : Option Sample) (first second : Series) (rest : List Series) :
    (list (first :: second :: rest)).quoted sample =
      "merge(" ++ (",".intercalate (quotedItems sample (first :: second :: rest)) ++ ")") := by
  rw [← String.append_assoc]
  rfl

/-- What a series comes to that has no name of its own. -/
inductive Nameless : Series → Prop
  | pattern (p : Pattern) : Nameless (.pattern p)
  | empty : Nameless (.list [])
  | several (first second : Series) (rest : List Series) :
      Nameless (.list (first :: second :: rest))

theorem Nameless.writeName?_eq {s : Series} (h : Nameless s) : s.writeName? sample = none := by
  cases h with
  | pattern p => rfl
  | empty => rfl
  | several first second rest => rfl

theorem Nameless.quoted_ne {s : Series} (h : Nameless s) (full : s ≠ .list []) (text : String) :
    s.quoted sample ≠ Text.quoteName text := by
  cases h with
  | pattern p =>
    exact Text.quoteName_ne (c := '/') (by decide) (Text.toList_quotePattern p.source) text
  | empty => exact absurd rfl full
  | several first second rest =>
    rw [quoted_several]
    exact Text.quoteName_ne (c := 'm') (by decide) String.toList_append text

/-- Every series comes to a name or to something without one. -/
theorem named_or_nameless (sample : Option Sample) : ∀ s : Series,
    (∃ text, ComesTo sample s (.name text)) ∨ ∃ t, ComesTo sample s t ∧ Nameless t
  | .computed resolve => by
    rcases named_or_nameless sample (resolve sample) with ⟨text, named⟩ | ⟨t, steps, nameless⟩
    · exact Or.inl ⟨text, .computed named⟩
    · exact Or.inr ⟨t, .computed steps, nameless⟩
  | .list [item] => by
    rcases named_or_nameless sample item with ⟨text, named⟩ | ⟨t, steps, nameless⟩
    · exact Or.inl ⟨text, .sole named⟩
    · exact Or.inr ⟨t, .sole steps, nameless⟩
  | .name text => Or.inl ⟨text, .refl _⟩
  | .pattern p => Or.inr ⟨.pattern p, .refl _, .pattern p⟩
  | .list [] => Or.inr ⟨.list [], .refl _, .empty⟩
  | .list (first :: second :: rest) => Or.inr ⟨_, .refl _, .several first second rest⟩

theorem writeName?_eq_none_iff {s : Series} :
    s.writeName? sample = none ↔ ∃ t, ComesTo sample s t ∧ Nameless t := by
  constructor
  · intro unnamed
    rcases named_or_nameless sample s with ⟨text, named⟩ | nameless
    · rw [writeName?_eq_some_iff.mpr named] at unnamed
      cases unnamed
    · exact nameless
  · rintro ⟨t, steps, nameless⟩
    rw [steps.writeName?_eq, nameless.writeName?_eq]

/-- The name to write to and the text of a series agree, for any point and for none. A series with
a name is quoted as that name. There is no name exactly when the series comes to a pattern, to an
empty list or to several series, which are written as such. Apart from the empty list, then, a
series is quoted as a name exactly when it is written to that name. -/
theorem write_name_agrees (sample : Option Sample) (s : Series) :
    (∀ text, s.writeName? sample = some text → s.quoted sample = Text.quoteName text) ∧
    (s.writeName? sample = none ↔
      (∃ p, ComesTo sample s (.pattern p)) ∨ ComesTo sample s (.list []) ∨
        ∃ first second rest, ComesTo sample s (.list (first :: second :: rest))) ∧
    (∀ p, ComesTo sample s (.pattern p) → ∃ rest, s.quoted sample = "/" ++ rest) ∧
    (ComesTo sample s (.list []) → s.quoted sample = Text.quoteName "") ∧
    (∀ first second rest, ComesTo sample s (.list (first :: second :: rest)) →
      ∃ items, s.quoted sample = "merge(" ++ items) ∧
    (¬ ComesTo sample s (.list []) →
      ∀ text, s.writeName? sample = some text ↔ s.quoted sample = Text.quoteName text) := by
  have named (text : String) (h : s.writeName? sample = some text) :
      s.quoted sample = Text.quoteName text := by
    rw [(writeName?_eq_some_iff.mp h).quoted_eq, quoted]
  refine ⟨named, ?_, ?_, ?_, ?_, ?_⟩
  · rw [writeName?_eq_none_iff]
    constructor
    · rintro ⟨t, steps, nameless⟩
      cases nameless with
      | pattern p => exact Or.inl ⟨p, steps⟩
      | empty => exact Or.inr (Or.inl steps)
      | several first second rest => exact Or.inr (Or.inr ⟨first, second, rest, steps⟩)
    · rintro (⟨p, steps⟩ | steps | ⟨first, second, rest, steps⟩)
      · exact ⟨_, steps, .pattern p⟩
      · exact ⟨_, steps, .empty⟩
      · exact ⟨_, steps, .several first second rest⟩
  · intro p steps
    rw [steps.quoted_eq, quoted, Pattern.literal, Text.quotePattern, String.append_assoc]
    exact ⟨_, rfl⟩
  · intro steps
    rw [steps.quoted_eq, quoted, quotedItems, mergeText]
  · intro first second rest steps
    exact ⟨_, steps.quoted_eq.trans (quoted_several sample first second rest)⟩
  · intro full text
    refine ⟨named text, fun written => ?_⟩
    rcases named_or_nameless sample s with ⟨name, comes⟩ | ⟨t, steps, nameless⟩
    · have known := writeName?_eq_some_iff.mpr comes
      have same := Text.quoteName_injective ((named name known).symm.trans written)
      rwa [same] at known
    · rw [steps.quoted_eq] at written
      refine absurd written (nameless.quoted_ne ?_ text)
      rintro rfl
      exact full steps

/-- A list of one series that is a name for a point and a pattern without one. -/
theorem write_name_agrees_computed :
    let perPoint : Series := .computed fun sample =>
      if sample.isSome then .list [.name "cpu"] else .pattern ⟨"^cpu"⟩
    let s : Series := .list [perPoint]
    (s.writeName? (some Sample.empty) = some "cpu" ∧
      s.quoted (some Sample.empty) = Text.quoteName "cpu") ∧
    ComesTo none s (.pattern ⟨"^cpu"⟩) ∧ (∃ rest, s.quoted none = "/" ++ rest) ∧
      s.writeName? none = none := by
  intro perPoint s
  have pattern : ComesTo none s (.pattern ⟨"^cpu"⟩) := .sole (.computed (.refl _))
  obtain ⟨named, -⟩ := write_name_agrees (some Sample.empty) s
  obtain ⟨-, unnamed, slash, -⟩ := write_name_agrees none s
  exact ⟨⟨rfl, named "cpu" rfl⟩, pattern, slash _ pattern, unnamed.mpr (Or.inl ⟨_, pattern⟩)⟩

end Series

end Telemetry
