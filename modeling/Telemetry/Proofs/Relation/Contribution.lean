import Telemetry.Proofs.Series.Gathering
import Telemetry.Relation

/-!
# What calls bring

A call brings something to some parts of a relation and leaves the other parts alone. Fields,
clauses and group terms follow those that are there, leaves are gathered over the primary series,
the first rejection is kept, and whatever else is brought replaces what was set before.

What a call brings does not depend on the relation it is made on: everything that is known of calls
follows from `apply_eq`.
-/

namespace Telemetry

def Fill.rejection? : Fill → Option Rejection
  | .float x => if x.isFinite then Option.none else some ⟨"fill", .notFinite x⟩
  | _ => Option.none

/-- What the parts of a call that can be rejected come to: clauses or rejections. -/
def Call.verdicts : Call → List (Except Rejection Clause)
  | .filters negated pairs => pairs.map fun pair => pair.2.clause pair.1 negated
  | .raw text => [Criterion.rawClause text]
  | .fill f | .timeWithFill _ f => f.rejection?.toList.map Except.error
  | _ => []

def rejectionOf : Except Rejection Clause → Option Rejection
  | .ok _ => none
  | .error rejection => some rejection

/-- The first rejection of a call. -/
def Call.rejection? (c : Call) : Option Rejection :=
  c.verdicts.findSome? rejectionOf

/-- The clauses of the parts of a call that were accepted. -/
def Call.clauses (c : Call) : List Clause :=
  c.verdicts.filterMap Except.toOption

/-- What a call brings to the merged series. -/
def Relation.brought : Call → List Series
  | .merge series => series.leaves
  | _ => []

structure Contribution where
  fields : List String := []
  clauses : List Clause := []
  rejection : Option Rejection := none
  terms : List String := []
  bucket : Option Interval := none
  fill : Option Fill := none
  window : Option Window := none
  limit : Option Nat := none
  offset : Option Nat := none
  leaves : List Series := []
  calculation : Option Calculation := none

/-- A fill, unless it is rejected. -/
def Fill.accepted? (fill : Fill) : Option Fill :=
  if fill.rejection?.isSome then Option.none else some fill

def Call.contribution (c : Call) : Contribution :=
  let judged : Contribution := { clauses := c.clauses, rejection := c.rejection? }
  match c with
  | .select fields => { judged with fields }
  | .filters _ _ | .raw _ => judged
  | .group terms => { judged with terms }
  | .time interval => { judged with bucket := some interval }
  | .timeWithFill interval f => { judged with bucket := some interval, fill := f.accepted? }
  | .fill f => { judged with fill := f.accepted? }
  | .within window => { judged with window := some window }
  | .limit n => { judged with limit := some n }
  | .offset n => { judged with offset := some n }
  | .merge series => { judged with leaves := series.leaves }
  | .calculate calculation => { judged with calculation := some calculation }

namespace Call

theorem rejection?_fill (fill : Fill) : (Call.fill fill).rejection? = fill.rejection? := by
  cases h : fill.rejection? <;> simp [rejection?, verdicts, h, rejectionOf]

theorem rejection?_timeWithFill (interval : Interval) (fill : Fill) :
    (Call.timeWithFill interval fill).rejection? = fill.rejection? :=
  rejection?_fill fill

theorem clauses_fill (fill : Fill) : (Call.fill fill).clauses = [] := by
  cases h : fill.rejection? <;> simp [clauses, verdicts, h, Except.toOption]

theorem clauses_timeWithFill (interval : Interval) (fill : Fill) :
    (Call.timeWithFill interval fill).clauses = [] :=
  clauses_fill fill

@[simp] theorem contribution_clauses (c : Call) : c.contribution.clauses = c.clauses := by
  cases c <;> rfl

@[simp] theorem contribution_rejection (c : Call) : c.contribution.rejection = c.rejection? := by
  cases c <;> rfl

@[simp] theorem contribution_leaves (c : Call) :
    c.contribution.leaves = Relation.brought c := by
  cases c <;> rfl

end Call

namespace Relation

def receive (r : Relation) (k : Contribution) : Relation :=
  { r with
    fields := r.fields ++ k.fields
    clauses := r.clauses ++ k.clauses
    grouping :=
      { terms := r.grouping.terms ++ k.terms
        bucket := k.bucket.or r.grouping.bucket
        fill := k.fill.or r.grouping.fill }
    window := k.window.or r.window
    limit := k.limit.or r.limit
    offset := k.offset.or r.offset
    targets := r.series.gatherAll r.targets k.leaves
    calculation := k.calculation.or r.calculation
    rejection := r.rejection.or k.rejection }

theorem foldl_add (r : Relation) (verdicts : List (Except Rejection Clause)) :
    verdicts.foldl add r =
      r.receive { clauses := verdicts.filterMap Except.toOption
                  rejection := verdicts.findSome? rejectionOf } := by
  induction verdicts generalizing r with
  | nil => simp [receive, Series.gatherAll]
  | cons verdict rest ih =>
    rw [List.foldl_cons, ih]
    cases verdict with
    | ok clause => simp [add, receive, rejectionOf, Except.toOption, List.findSome?_cons]
    | error rejection =>
      simp [add, reject, receive, rejectionOf, Except.toOption, List.findSome?_cons,
        List.filterMap_cons]

theorem fill_eq_reject {fill : Fill} {rejection : Rejection} (h : fill.rejection? = some rejection)
    (r : Relation) : r.fill fill = r.reject rejection := by
  cases fill with
  | float x =>
    rw [Fill.rejection?] at h
    split at h
    · cases h
    · rename_i infinite
      rw [Relation.fill, if_neg infinite, Option.some.inj h]
  | _ => cases h

theorem fill_of_accepted {fill : Fill} (h : fill.rejection? = none) (r : Relation) :
    r.fill fill = { r with grouping := { r.grouping with fill := some fill } } := by
  cases fill with
  | float x =>
    rw [Fill.rejection?] at h
    split at h
    · rename_i finite
      rw [Relation.fill, if_pos finite]
    · cases h
  | _ => rfl

theorem fill_eq (r : Relation) (fill : Fill) :
    r.fill fill = r.receive { fill := fill.accepted?, rejection := fill.rejection? } := by
  cases h : fill.rejection? with
  | none => simp [fill_of_accepted h, receive, Fill.accepted?, h, Series.gatherAll]
  | some rejection =>
    simp [fill_eq_reject h, reject, receive, Fill.accepted?, h, Series.gatherAll]

theorem addLeaf_eq (r : Relation) (leaf : Series) :
    r.addLeaf leaf = { r with targets := r.series.gather r.targets leaf } := by
  unfold addLeaf Series.gather Series.covers
  split <;> rfl

theorem foldl_addLeaf (r : Relation) (leaves : List Series) :
    leaves.foldl addLeaf r = { r with targets := r.series.gatherAll r.targets leaves } := by
  induction leaves generalizing r with
  | nil => rfl
  | cons leaf rest ih =>
    rw [List.foldl_cons, addLeaf_eq, ih]
    rfl

theorem addTarget_eq (r : Relation) (target : Series) :
    r.addTarget target = { r with targets := r.series.gatherAll r.targets target.leaves } :=
  foldl_addLeaf r target.leaves

/-- A call does to a relation what it brings. -/
theorem apply_eq (r : Relation) (c : Call) : r.apply c = r.receive c.contribution := by
  cases c with
  | filters negated pairs =>
    have folded : r.apply (.filters negated pairs) =
        (Call.filters negated pairs).verdicts.foldl add r := by
      simp [Relation.apply, Call.verdicts, List.foldl_map, filter]
    rw [folded]
    exact foldl_add r _
  | raw text => exact foldl_add r [Criterion.rawClause text]
  | fill fill =>
    change r.fill fill = _
    rw [fill_eq]
    simp [Call.contribution, Call.rejection?_fill, Call.clauses_fill]
  | timeWithFill interval fill =>
    change (r.bucket interval).fill fill = _
    rw [fill_eq]
    simp [Call.contribution, Call.rejection?_timeWithFill, Call.clauses_timeWithFill, bucket,
      receive]
  | merge series =>
    change r.addTarget series = _
    rw [addTarget_eq]
    simp [Call.contribution, Call.clauses, Call.rejection?, Call.verdicts, receive]
  | _ =>
    simp [Relation.apply, Relation.bucket, Call.contribution, Call.clauses, Call.rejection?,
      Call.verdicts, receive, Series.gatherAll]

end Relation

end Telemetry
