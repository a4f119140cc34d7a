import Telemetry.Proofs.Relation.Plain

/-!
# Selections and group terms

A bracket tells a calculation from fields and the time bucket from terms, since identifiers hold
none. So the text of a selection tells the effective select list, and the list of what a statement
groups by tells the bucket and the terms.
-/

namespace Telemetry

open Text (isBare isWord isIdentifier)

/-- A character of words and numbers that commas join. -/
def isJoined (c : Char) : Bool := isBare c || c == ','

/-- Texts joined by commas hold no other characters than their own and commas. -/
theorem joined_of_mem {items : List String}
    (h : ∀ item ∈ items, ∀ c ∈ item.toList, isBare c = true) :
    ∀ c ∈ (",".intercalate items).toList, isJoined c = true := by
  intro c mem
  rw [Text.toList_intercalate] at mem
  rcases Text.mem_of_mem_listed mem with mem | mem | ⟨item, known, mem⟩
  · cases mem
  · rw [List.mem_singleton.mp mem]
    rfl
  · simp [isJoined, h item known c mem]

theorem bare_of_identifier {text : String} (h : isIdentifier text = true) :
    ∀ c ∈ text.toList, isBare c = true :=
  fun c mem => Text.isBare_of_isWord (Text.word_of_identifier h c mem)

/-- Identifiers joined by commas are known from their text. -/
theorem eq_of_joined {items items' : List String} (h : ∀ item ∈ items, isIdentifier item = true)
    (h' : ∀ item ∈ items', isIdentifier item = true)
    (same : ",".intercalate items = ",".intercalate items') : items = items' := by
  have item : Text.Readable String.toList id (isIdentifier · = true) (Text.Stops isWord) :=
    Text.readable_run (fun _ => Text.word_of_identifier) fun a b _ _ => String.toList_injective
  have listing : Text.Readable (Text.listed [] ",".toList String.toList) (List.map id)
      (∀ item ∈ ·, isIdentifier item = true) (· = []) := by
    refine Text.readable_listed item (fun _ => rfl) ?_ ?_ ?_
    · intro x empty
      rw [empty]
      trivial
    · intro text x identifier empty
      obtain ⟨first, rest, letters, -⟩ := Text.exists_of_identifier identifier
      rw [letters] at empty
      cases empty
    · intro text x identifier empty
      cases empty
  have texts : Text.listed [] ",".toList String.toList items ++ [] =
      Text.listed [] ",".toList String.toList items' ++ [] := by
    rw [← Text.toList_intercalate, ← Text.toList_intercalate, same]
  simpa using (listing h h' rfl rfl texts).1

theorem Argument.bare_text {argument : Argument} (h : argument.isPlain = true) :
    ∀ c ∈ argument.text.toList, isBare c = true := by
  cases argument with
  | field name => exact bare_of_identifier h
  | integer n => exact Text.bare_of_mem_toString n
  | float x => cases h

namespace Calculation

theorem bracket_mem (c : Calculation) : '(' ∈ c.text.toList := by
  simp [text]

theorem unspaced {c : Calculation} (h : c.isPlain = true) : ' ' ∉ c.text.toList := by
  obtain ⟨name, args⟩ := Bool.and_eq_true_iff.mp h
  have bare : ∀ item ∈ c.args.map Argument.text, ∀ c ∈ item.toList, isBare c = true := by
    intro item mem
    obtain ⟨argument, known, rfl⟩ := List.mem_map.mp mem
    exact Argument.bare_text (List.all_eq_true.mp args argument known)
  intro mem
  simp only [text, String.toList_append, List.mem_append] at mem
  rcases mem with ((mem | mem) | mem) | mem
  · exact Text.not_mem_identifier name (by decide) mem
  · exact absurd mem (by decide)
  · exact absurd (joined_of_mem bare ' ' mem) (by decide)
  · exact absurd mem (by decide)

end Calculation

namespace Relation

variable {r s : Relation}

/-- The effective select list: the calculation as it is written, or the fields without repeats. -/
def selected (r : Relation) : String ⊕ List String :=
  match r.calculation with
  | some calculation => .inl calculation.text
  | none => .inr r.fields.eraseDups

/-- The text of the fields, without a calculation. -/
def fieldText (fields : List String) : String :=
  if fields.isEmpty then "*" else ",".intercalate fields.eraseDups

theorem Plain.distinct (h : r.Plain) : ∀ field ∈ r.fields.eraseDups, isIdentifier field = true :=
  fun field mem => h.fields field (List.mem_eraseDups.mp mem)

theorem Plain.joined_fields (h : r.Plain) :
    ∀ c ∈ (",".intercalate r.fields.eraseDups).toList, isJoined c = true :=
  joined_of_mem fun field mem => bare_of_identifier (h.distinct field mem)

theorem Plain.fieldText_characters (h : r.Plain) :
    ∀ c ∈ (fieldText r.fields).toList, (isJoined c || c == '*') = true := by
  intro c mem
  unfold fieldText at mem
  split at mem
  · rw [List.mem_singleton.mp mem]
    rfl
  · simp [h.joined_fields c mem]

theorem eq_of_fieldText (hr : r.Plain) (hs : s.Plain)
    (h : fieldText r.fields = fieldText s.fields) : r.fields.eraseDups = s.fields.eraseDups := by
  have star {r : Relation} (hr : r.Plain) : ",".intercalate r.fields.eraseDups ≠ "*" := by
    intro same
    have mem : '*' ∈ (",".intercalate r.fields.eraseDups).toList := by simp [same]
    exact absurd (hr.joined_fields '*' mem) (by decide)
  unfold fieldText at h
  by_cases none : r.fields.isEmpty = true
  · by_cases none' : s.fields.isEmpty = true
    · rw [List.isEmpty_iff.mp none, List.isEmpty_iff.mp none']
    · rw [if_pos none, if_neg none'] at h
      exact absurd h.symm (star hs)
  · by_cases none' : s.fields.isEmpty = true
    · rw [if_neg none, if_pos none'] at h
      exact absurd h (star hr)
    · rw [if_neg none, if_neg none'] at h
      exact eq_of_joined hr.distinct hs.distinct h

theorem Plain.unspaced_selection (h : r.Plain) : ' ' ∉ r.selection.toList := by
  intro mem
  unfold selection at mem
  cases given : r.calculation with
  | none =>
    rw [given] at mem
    exact absurd (h.fieldText_characters ' ' mem) (by decide)
  | some calculation =>
    rw [given] at mem
    exact Calculation.unspaced (h.calculation calculation given) mem

/-- The text of a selection tells the effective select list. -/
theorem selected_eq_of_selection (hr : r.Plain) (hs : s.Plain) (h : r.selection = s.selection) :
    r.selected = s.selected := by
  have apart {r : Relation} (hr : r.Plain) (calculation : Calculation) :
      fieldText r.fields ≠ calculation.text := by
    intro same
    have bracket := calculation.bracket_mem
    rw [← same] at bracket
    exact absurd (hr.fieldText_characters '(' bracket) (by decide)
  unfold selection at h
  unfold selected
  cases mine : r.calculation with
  | none =>
    cases theirs : s.calculation with
    | none =>
      rw [mine, theirs] at h
      exact congrArg Sum.inr (eq_of_fieldText hr hs h)
    | some calculation =>
      rw [mine, theirs] at h
      exact absurd h (apart hr calculation)
  | some calculation =>
    cases theirs : s.calculation with
    | none =>
      rw [mine, theirs] at h
      exact absurd h.symm (apart hs calculation)
    | some other =>
      rw [mine, theirs] at h
      exact congrArg Sum.inl h

/-- The time bucket as it is written. -/
def bucketTerm (interval : Interval) : String := "time(" ++ interval.text ++ ")"

theorem bracket_mem_bucketTerm (interval : Interval) : '(' ∈ (bucketTerm interval).toList := by
  simp [bucketTerm]

theorem groupTerms_eq (r : Relation) :
    r.groupTerms = ((r.grouping.bucket.map bucketTerm).toList ++ r.grouping.terms).eraseDups :=
  rfl

theorem Plain.groupTerms_eq (h : r.Plain) :
    r.groupTerms = (r.grouping.bucket.map bucketTerm).toList ++ r.grouping.terms.eraseDups := by
  rw [Relation.groupTerms_eq]
  cases r.grouping.bucket with
  | none => rfl
  | some interval =>
    have other : ∀ term ∈ r.grouping.terms, (!term == bucketTerm interval) = true := by
      intro term mem
      simp only [Bool.not_eq_true', beq_eq_false_iff_ne]
      intro same
      have bracket := bracket_mem_bucketTerm interval
      rw [← same] at bracket
      exact Text.not_mem_identifier (h.terms term mem) (by decide) bracket
    change (bucketTerm interval :: r.grouping.terms).eraseDups = _
    rw [List.eraseDups_cons, List.filter_eq_self.mpr other]
    rfl

theorem eq_of_bucketTerm {i j : Interval} (h : bucketTerm i = bucketTerm j) : i.text = j.text := by
  unfold bucketTerm at h
  exact (String.append_right_inj "time(").mp ((String.append_left_inj ")").mp h)

/-- What a statement groups by tells the bucket and the terms without repeats. -/
theorem grouping_eq_of_groupTerms (hr : r.Plain) (hs : s.Plain) (h : r.groupTerms = s.groupTerms) :
    r.grouping.bucket.map Interval.text = s.grouping.bucket.map Interval.text ∧
      r.grouping.terms.eraseDups = s.grouping.terms.eraseDups := by
  have apart {s : Relation} (hs : s.Plain) (interval : Interval) (rest : List String) :
      bucketTerm interval :: rest ≠ s.grouping.terms.eraseDups := by
    intro same
    have mem : bucketTerm interval ∈ s.grouping.terms :=
      List.mem_eraseDups.mp (same ▸ List.mem_cons_self)
    exact Text.not_mem_identifier (hs.terms _ mem) (by decide) (bracket_mem_bucketTerm interval)
  rw [hr.groupTerms_eq, hs.groupTerms_eq] at h
  cases mine : r.grouping.bucket with
  | none =>
    cases theirs : s.grouping.bucket with
    | none =>
      rw [mine, theirs] at h
      exact ⟨rfl, h⟩
    | some interval =>
      rw [mine, theirs] at h
      exact absurd h.symm (apart hr interval _)
  | some interval =>
    cases theirs : s.grouping.bucket with
    | none =>
      rw [mine, theirs] at h
      exact absurd h (apart hs interval _)
    | some other =>
      rw [mine, theirs] at h
      obtain ⟨bucket, terms⟩ := List.cons.inj h
      exact ⟨congrArg some (eq_of_bucketTerm bucket), terms⟩

end Relation

end Telemetry
