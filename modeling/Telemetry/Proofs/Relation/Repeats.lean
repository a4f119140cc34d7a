import Telemetry.Proofs.Listing.Repeats
import Telemetry.Proofs.Relation.Selection
import Telemetry.Proofs.Relation.Targets

/-!
# Repeated fields and terms

A statement names each field and each group term once, in the order in which they were first given.
Repeats may as well be left out when fields and terms are given, since a list whose repeats are left
out can be continued like the list itself. So a field or a term that is given again makes no
difference, neither now nor after later calls and merges. A term that is written like the time
bucket counts as given as long as the bucket stands.
-/

namespace Telemetry

namespace Relation

variable {r s : Relation}

/-- What stands in a statement between the selection and what it groups by. -/
def leading (r : Relation) : List String :=
  ["from " ++ r.series.text] ++ r.targets.map ("merge " ++ ·.text)
    ++ sectionOf "where" " and " r.conditions

/-- What stands in a statement after what it groups by. -/
def trailing (r : Relation) : List String :=
  (r.grouping.fill.map fun fill => "fill(" ++ fill.text ++ ")").toList
    ++ (r.limit.map fun n => "limit " ++ toString n).toList
    ++ (r.offset.map fun n => "offset " ++ toString n).toList

/-- What a relation was given to group by, the time bucket first. -/
def givenTerms (r : Relation) : List String :=
  (r.grouping.bucket.map bucketTerm).toList ++ r.grouping.terms

theorem sections_eq (r : Relation) :
    r.sections = r.leading ++ sectionOf "group by" "," r.groupTerms ++ r.trailing := by
  simp only [sections, leading, trailing, List.append_assoc]

theorem mem_groupTerms {term : String} : term ∈ r.groupTerms ↔ term ∈ r.givenTerms :=
  List.mem_eraseDups

/-- Both statements of two relations are the same, or both relations are rejected for one reason. -/
structure SameStatements (r s : Relation) : Prop where
  select : r.toSelect = s.toSelect
  delete : r.toDelete = s.toDelete

theorem sameStatements (rejection : r.rejection = s.rejection)
    (selection : r.selection = s.selection) (leading : r.leading = s.leading)
    (terms : r.groupTerms = s.groupTerms) (trailing : r.trailing = s.trailing) :
    SameStatements r s := by
  have sections : r.sections = s.sections := by
    rw [sections_eq, sections_eq, leading, terms, trailing]
  constructor
  · rw [toSelect, toSelect, rejection, selectStatement, selectStatement, selection, sections]
  · rw [toDelete, toDelete, rejection, deleteStatement, deleteStatement, sections]

/-- A relation whose fields and terms are given once. -/
def distinct (r : Relation) : Relation :=
  { r with
    fields := r.fields.eraseDups
    grouping := { r.grouping with terms := r.grouping.terms.eraseDups } }

theorem isEmpty_eraseDups (fields : List String) : fields.eraseDups.isEmpty = fields.isEmpty := by
  cases fields with
  | nil => rfl
  | cons field rest =>
    rw [List.eraseDups_cons]
    rfl

theorem sameStatements_distinct (r : Relation) : SameStatements r.distinct r := by
  refine sameStatements rfl ?_ rfl (eraseDups_append_eraseDups _ r.grouping.terms) rfl
  have fields : fieldText r.fields.eraseDups = fieldText r.fields := by
    rw [fieldText, fieldText, isEmpty_eraseDups, eraseDups_eraseDups]
  unfold selection distinct
  cases r.calculation with
  | none => exact fields
  | some calculation => rfl

theorem SameStatements.of_distinct (h : r.distinct = s.distinct) : SameStatements r s := by
  have mine := sameStatements_distinct r
  have theirs := sameStatements_distinct s
  rw [h] at mine
  exact ⟨mine.select.symm.trans theirs.select, mine.delete.symm.trans theirs.delete⟩

theorem distinct_apply (r : Relation) (c : Call) :
    (r.distinct.apply c).distinct = (r.apply c).distinct := by
  rw [apply_eq, apply_eq]
  simp only [distinct, receive, eraseDups_eraseDups_append]

theorem distinct_merged (r o : Relation) :
    (r.distinct.merged o.distinct).distinct = (r.merged o).distinct := by
  have fields : (joined r.distinct o.distinct).fields.eraseDups = (joined r o).fields.eraseDups := by
    change (if o.fields.eraseDups.isEmpty then r.fields.eraseDups
      else o.fields.eraseDups).eraseDups =
        (if o.fields.isEmpty then r.fields else o.fields).eraseDups
    rw [isEmpty_eraseDups]
    split <;> exact eraseDups_eraseDups _
  have terms : (joined r.distinct o.distinct).grouping.terms.eraseDups =
      (joined r o).grouping.terms.eraseDups := by
    change (r.grouping.terms.eraseDups ++ o.grouping.terms.eraseDups).eraseDups = _
    rw [eraseDups_eraseDups_append, eraseDups_append_eraseDups]
    rfl
  rw [merged_eq, merged_eq, distinct, distinct]
  -- of what is joined only the fields and the terms had repeats to lose
  exact congrArg₂ (fun fields terms => { joined r o with
    fields := fields
    grouping := { (joined r o).grouping with terms := terms }
    targets := r.series.gatherAll r.targets (incoming r.series o) }) fields terms

/-- What may become of a relation: a call is made on it, another relation is merged into it, or it
is merged into another one. -/
inductive Sequel where
  | call (call : Call)
  | absorb (other : Relation)
  | join (receiver : Relation)

def follow (r : Relation) : Sequel → Relation
  | .call call => r.apply call
  | .absorb other => r.merged other
  | .join receiver => receiver.merged r

/-- Whatever comes later, both relations have the same statements. -/
def Interchangeable (r s : Relation) : Prop :=
  ∀ later : List Sequel, SameStatements (later.foldl follow r) (later.foldl follow s)

theorem distinct_follow (h : r.distinct = s.distinct) (sequel : Sequel) :
    (r.follow sequel).distinct = (s.follow sequel).distinct := by
  cases sequel with
  | call c =>
    change (r.apply c).distinct = (s.apply c).distinct
    rw [← distinct_apply, h, distinct_apply]
  | absorb other =>
    change (r.merged other).distinct = (s.merged other).distinct
    rw [← distinct_merged, h, distinct_merged]
  | join receiver =>
    change (receiver.merged r).distinct = (receiver.merged s).distinct
    rw [← distinct_merged, h, distinct_merged]

theorem Interchangeable.of_distinct (h : r.distinct = s.distinct) : Interchangeable r s := by
  intro later
  induction later generalizing r s with
  | nil => exact .of_distinct h
  | cons sequel rest ih => exact ih (distinct_follow h sequel)

/-- A relation without its group terms. -/
def termless (r : Relation) : Relation :=
  { r with grouping := { r.grouping with terms := [] } }

theorem distinct_select {fields : List String} (present : ∀ field ∈ fields, field ∈ r.fields) :
    (r.apply (.select fields)).distinct = r.distinct := by
  simp only [apply, distinct, eraseDups_append_of_present present]

theorem distinct_group {terms : List String} (present : ∀ term ∈ terms, term ∈ r.grouping.terms) :
    (r.apply (.group terms)).distinct = r.distinct := by
  simp only [apply, distinct, eraseDups_append_of_present present]

theorem distinct_merged_termless {o : Relation}
    (present : ∀ term ∈ o.grouping.terms, term ∈ r.grouping.terms) :
    (r.merged o).distinct = (r.merged o.termless).distinct := by
  have terms : (r.grouping.terms ++ o.grouping.terms).eraseDups =
      (r.grouping.terms ++ []).eraseDups := by
    rw [eraseDups_append_of_present present, List.append_nil]
  rw [merged_eq, merged_eq]
  simp only [distinct, joined, termless, terms]
  rfl

theorem sameStatements_group {terms : List String} (present : ∀ term ∈ terms, term ∈ r.groupTerms) :
    SameStatements (r.apply (.group terms)) r := by
  refine sameStatements rfl rfl rfl ?_ rfl
  change ((r.grouping.bucket.map bucketTerm).toList ++ (r.grouping.terms ++ terms)).eraseDups = _
  rw [← List.append_assoc]
  exact eraseDups_append_of_present fun term mem => mem_groupTerms.mp (present term mem)

theorem sameStatements_merged_termless {o : Relation}
    (present : ∀ term ∈ o.grouping.terms, term ∈ (r.merged o.termless).groupTerms) :
    SameStatements (r.merged o) (r.merged o.termless) := by
  have repeated : r.merged o = (r.merged o.termless).apply (.group o.grouping.terms) := by
    rw [merged_eq, merged_eq]
    simp only [apply, joined, termless, List.append_nil]
    rfl
  rw [repeated]
  exact sameStatements_group present

/-- The fields of a selection and what a statement groups by are what was given, once and in the
order of first occurrence, and leaving out repeats can be done on the way. So fields and terms that
are there already, given by a call or brought by a merge, make no difference whatever comes later;
the same holds of terms written like the time bucket, until the bucket is replaced. -/
theorem entries_once (r : Relation) :
    (r.selectStatement = " ".intercalate ("select" :: r.selection ::
        (r.leading ++ sectionOf "group by" "," r.groupTerms ++ r.trailing)) ∧
      r.deleteStatement = " ".intercalate ("delete" ::
        (r.leading ++ sectionOf "group by" "," r.groupTerms ++ r.trailing)) ∧
      FirstOccurrences r.givenTerms r.groupTerms) ∧
    (r.calculation = none → ∃ entries, FirstOccurrences r.fields entries ∧
      r.selection = if entries.isEmpty then "*" else ",".intercalate entries) ∧
    (∀ xs ys : List String, (xs ++ ys).eraseDups = (xs.eraseDups ++ ys).eraseDups) ∧
    (∀ fields : List String, (∀ field ∈ fields, field ∈ r.fields) →
      Interchangeable (r.apply (.select fields)) r) ∧
    (∀ terms : List String, (∀ term ∈ terms, term ∈ r.grouping.terms) →
      Interchangeable (r.apply (.group terms)) r) ∧
    (∀ o : Relation, (∀ term ∈ o.grouping.terms, term ∈ r.grouping.terms) →
      Interchangeable (r.merged o) (r.merged o.termless)) ∧
    (∀ terms : List String, (∀ term ∈ terms, term ∈ r.groupTerms) →
      SameStatements (r.apply (.group terms)) r) ∧
    ∀ o : Relation, (∀ term ∈ o.grouping.terms, term ∈ (r.merged o.termless).groupTerms) →
      SameStatements (r.merged o) (r.merged o.termless) := by
  refine ⟨⟨?_, ?_, firstOccurrences_eraseDups r.givenTerms⟩, fun plain => ?_,
    fun xs ys => (eraseDups_eraseDups_append xs ys).symm,
    fun _ present => .of_distinct (distinct_select present),
    fun _ present => .of_distinct (distinct_group present),
    fun _ present => .of_distinct (distinct_merged_termless present),
    fun _ => sameStatements_group, fun _ => sameStatements_merged_termless⟩
  · rw [selectStatement, sections_eq]
  · rw [deleteStatement, sections_eq]
  · refine ⟨r.fields.eraseDups, firstOccurrences_eraseDups r.fields, ?_⟩
    rw [selection, plain, isEmpty_eraseDups]

/-- A relation whose bucket is written like a term that is given later, and another relation that
brings both terms again and nothing else. Once the bucket is another one, the term is seen. -/
theorem entries_once_bucket :
    let r := (new (.new (.name "cpu"))).run
      [.select ["load", "idle", "load"], .group ["host"], .time (.unit .hour)]
    let o := (new (.new (.name "cpu"))).run [.group ["time(1h)", "host"]]
    r.calculation = none ∧
    r.toSelect = .ok "select load,idle from \"cpu\" group by time(1h),host" ∧
    "idle" ∈ r.fields ∧ Interchangeable (r.apply (.select ["idle"])) r ∧
    "host" ∈ r.grouping.terms ∧ Interchangeable (r.apply (.group ["host"])) r ∧
    Interchangeable (r.merged r) (r.merged r.termless) ∧
    "time(1h)" ∉ r.grouping.terms ∧ "time(1h)" ∈ r.groupTerms ∧
    SameStatements (r.apply (.group ["time(1h)"])) r ∧
    r.merged o.termless = r ∧ SameStatements (r.merged o) r ∧
    ¬ Interchangeable (r.merged o) r := by
  intro r o
  obtain ⟨-, -, -, fields, terms, absorbed, bucket, merged⟩ := entries_once r
  have same : SameStatements (r.merged o) (r.merged o.termless) := merged o (by decide)
  have neutral : r.merged o.termless = r := by rfl
  refine ⟨rfl, by decide, by decide, fields _ (by decide), by decide, terms _ (by decide),
    absorbed r fun _ mem => mem, by decide, by decide, bucket _ (by decide), neutral,
    neutral ▸ same, fun always => ?_⟩
  have later := (always [.call (.time (.unit .day))]).select
  exact absurd later (by decide)

end Relation

end Telemetry
