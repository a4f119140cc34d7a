import Telemetry.Proofs.Relation.Targets
import Telemetry.Relation.Run

/-!
# Rejections

A history flattens to the single calls made on the way, those on a merged relation after those on
the receiver, and a relation's rejection is that of the first rejected one among them. A rejected
call adds no clause and takes none away, and changes nothing else but for the bucket that comes with
a fill.

A relation with a rejection has no statement, so nothing that is asked of it reaches a datastore;
one without is never refused.
-/

namespace Telemetry

/-- A call as single calls: each pair of a filter is a filter of its own. -/
def Call.singles : Call → List Call
  | .filters negated pairs => pairs.map fun pair => .filters negated [pair]
  | c => [c]

/-- The single calls of a history, in order. -/
def History.calls : History → List Call
  | fresh _ => []
  | call before c => before.calls ++ c.singles
  | merge before other => before.calls ++ other.calls

/-- The rejection of the first rejected call. -/
def History.firstRejection (history : History) : Option Rejection :=
  history.calls.findSome? Call.rejection?

namespace Call

theorem findSome?_singles (c : Call) : c.singles.findSome? rejection? = c.rejection? := by
  cases c with
  | filters negated pairs =>
    have one (pair : String × Criterion) : rejection? (.filters negated [pair]) =
        rejectionOf (pair.2.clause pair.1 negated) := by
      simp [rejection?, verdicts]
    rw [singles, List.findSome?_map, rejection?, verdicts, List.findSome?_map]
    exact congrArg pairs.findSome? (funext one)
  | _ => simp [singles]

theorem singles_of_mem_singles {c single : Call} (h : single ∈ c.singles) :
    single.singles = [single] := by
  cases c with
  | filters negated pairs =>
    obtain ⟨pair, _, rfl⟩ := List.mem_map.mp h
    rfl
  | _ =>
    rw [List.mem_singleton.mp h]
    rfl

theorem flatMap_singles (c : Call) : c.singles.flatMap clauses = c.clauses := by
  cases c with
  | filters negated pairs =>
    simp only [singles, clauses, verdicts]
    induction pairs with
    | nil => rfl
    | cons pair rest ih =>
      rw [List.map_cons, List.flatMap_cons, ih, List.map_cons, List.filterMap_cons]
      simp [clauses, verdicts]
      cases pair.2.clause pair.1 negated <;> rfl
  | _ => simp [singles]

end Call

namespace Relation

/-- The bucket of a call that sets one along with a fill. -/
def regrouped (r : Relation) : Call → Relation
  | .timeWithFill interval _ => r.bucket interval
  | _ => r

/-- A call adds its verdicts in turn. -/
theorem apply_verdicts (r : Relation) (c : Call) :
    (r.apply c).rejection = r.rejection.or c.rejection? ∧
      (r.apply c).clauses = r.clauses ++ c.clauses := by
  rw [apply_eq, ← c.contribution_rejection, ← c.contribution_clauses]
  exact ⟨rfl, rfl⟩

/-- A rejected single call sets the rejection, if it is the first, and nothing else but the bucket
that comes with a fill. -/
theorem apply_of_rejected {c : Call} {rejection : Rejection} (single : c.singles = [c])
    (h : c.rejection? = some rejection) (r : Relation) :
    r.apply c = (r.regrouped c).reject rejection := by
  have refused {verdict : Except Rejection Clause}
      (h : [verdict].findSome? rejectionOf = some rejection) :
      r.add verdict = r.reject rejection := by
    cases verdict with
    | ok clause => cases h
    | error other => exact congrArg r.reject (Option.some.inj h)
  cases c with
  | filters negated pairs =>
    match pairs, single with
    | [pair], _ => exact refused h
  | raw text => exact refused h
  | fill fill =>
    rw [Call.rejection?_fill] at h
    exact fill_eq_reject h r
  | timeWithFill interval fill =>
    rw [Call.rejection?_timeWithFill] at h
    exact fill_eq_reject h (r.bucket interval)
  | _ => cases h

end Relation

namespace History

theorem singles_of_mem_calls {history : History} {c : Call} (h : c ∈ history.calls) :
    c.singles = [c] := by
  induction history with
  | fresh m => cases h
  | call before made ih =>
    rcases List.mem_append.mp h with h | h
    · exact ih h
    · exact Call.singles_of_mem_singles h
  | merge before other ih ihOther =>
    rcases List.mem_append.mp h with h | h
    · exact ih h
    · exact ihOther h

/-- A relation has the first rejection of its history and the clauses of the accepted calls. -/
theorem relation_verdicts (history : History) :
    history.relation.rejection = history.firstRejection ∧
      history.relation.clauses = history.calls.flatMap Call.clauses := by
  induction history with
  | fresh m => exact ⟨rfl, rfl⟩
  | call before c ih =>
    obtain ⟨rejection, clauses⟩ := Relation.apply_verdicts before.relation c
    constructor
    · rw [relation, rejection, ih.1, firstRejection, firstRejection, calls, List.findSome?_append,
        Call.findSome?_singles]
    · rw [relation, clauses, ih.2, calls, List.flatMap_append, Call.flatMap_singles]
  | merge before other ih ihOther =>
    rw [relation, Relation.merged_eq]
    constructor
    · change before.relation.rejection.or other.relation.rejection = _
      rw [ih.1, ihOther.1, firstRejection, firstRejection, firstRejection, calls,
        List.findSome?_append]
    · change before.relation.clauses ++ other.relation.clauses = _
      rw [ih.2, ihOther.2, calls, List.flatMap_append]

end History

/-- An answer fails for a query exactly with the given rejection, and then without an exchange. -/
structure Fetched.Refuses {σ α : Type} (fetched : Fetched σ α) (first : Option Rejection)
    (store : σ) : Prop where
  query : ∀ rejection, fetched.result = .error (.query rejection) ↔ first = some rejection
  untouched : first.isSome → fetched.store = store ∧ fetched.journal = []

theorem Fetched.Refuses.map {σ α β : Type} {fetched : Fetched σ α} {first : Option Rejection}
    {store : σ} (h : fetched.Refuses first store) (f : α → β) :
    (fetched.map f).Refuses first store := by
  refine ⟨fun rejection => ?_, h.untouched⟩
  rw [← h.query rejection]
  cases hr : fetched.result with
  | ok value => simp [Fetched.map, hr, Except.map]
  | error fault => simp [Fetched.map, hr, Except.map]

namespace Relation

variable {σ : Type} [Datastore σ]

theorem toSelect_eq_error_iff {r : Relation} {rejection : Rejection} :
    r.toSelect = .error rejection ↔ r.rejection = some rejection := by
  unfold toSelect
  split <;> simp_all

theorem toDelete_eq_error_iff {r : Relation} {rejection : Rejection} :
    r.toDelete = .error rejection ↔ r.rejection = some rejection := by
  unfold toDelete
  split <;> simp_all

theorem dispatch_refuses (note : String) {statement : Except Rejection String}
    {first : Option Rejection}
    (h : ∀ rejection, statement = .error rejection ↔ first = some rejection) (store : σ) :
    (dispatch note statement store).Refuses first store := by
  cases statement with
  | error rejection =>
    have given : first = some rejection := (h rejection).mp rfl
    refine ⟨fun other => ?_, fun _ => ⟨rfl, rfl⟩⟩
    simp [dispatch, given]
  | ok text =>
    have none : first = none := by
      cases first with
      | none => rfl
      | some rejection => cases (h rejection).mpr rfl
    refine ⟨fun other => ?_, fun given => ?_⟩
    · constructor
      · intro refused
        change (((Datastore.query store text).result.map (text, ·)).mapError Fault.store) = _
          at refused
        cases answer : (Datastore.query store text).result with
        | ok response =>
          rw [answer] at refused
          cases refused
        | error failure =>
          rw [answer] at refused
          cases refused
      · intro given
        rw [none] at given
        cases given
    · simp [none] at given

end Relation

/-- The first rejected call of a history gives the relation its rejection, every accepted call gives
its clauses, a rejected one changes nothing but the rejection and the bucket that comes with a fill,
and each way to ask the relation fails for a query exactly with that first rejection, before the
datastore is reached. -/
theorem History.first_rejection_blocks (history : History) :
    history.relation.rejection = history.firstRejection ∧
    history.relation.clauses = history.calls.flatMap Call.clauses ∧
    (∀ c ∈ history.calls, ∀ rejection, c.rejection? = some rejection →
      ∀ r : Relation, r.apply c = (r.regrouped c).reject rejection) ∧
    (∀ rejection, history.relation.toSelect = .error rejection ↔
      history.firstRejection = some rejection) ∧
    (∀ rejection, history.relation.toDelete = .error rejection ↔
      history.firstRejection = some rejection) ∧
    ∀ {σ : Type} [Datastore σ] (store : σ),
      (history.relation.load store).Refuses history.firstRejection store ∧
      (history.relation.isEmpty store).Refuses history.firstRejection store ∧
      (history.relation.isPresent store).Refuses history.firstRejection store ∧
      (history.relation.inspect store).Refuses history.firstRejection store ∧
      (history.relation.deleteAll store).Refuses history.firstRejection store := by
  obtain ⟨first, clauses⟩ := history.relation_verdicts
  have select (rejection : Rejection) : history.relation.toSelect = .error rejection ↔
      history.firstRejection = some rejection := by
    rw [← first]
    exact Relation.toSelect_eq_error_iff
  have delete (rejection : Rejection) : history.relation.toDelete = .error rejection ↔
      history.firstRejection = some rejection := by
    rw [← first]
    exact Relation.toDelete_eq_error_iff
  refine ⟨first, clauses, ?_, select, delete, ?_⟩
  · intro c hc rejection h r
    exact Relation.apply_of_rejected (singles_of_mem_calls hc) h r
  · intro σ _ store
    have fetched : (history.relation.fetch store).Refuses history.firstRejection store :=
      (Relation.dispatch_refuses _ select store).map _
    have loaded : (history.relation.load store).Refuses history.firstRejection store :=
      fetched.map _
    have empty : (history.relation.isEmpty store).Refuses history.firstRejection store :=
      fetched.map _
    exact ⟨loaded, empty, empty.map _, loaded.map _,
      (Relation.dispatch_refuses _ delete store).map _⟩

/-- A rejected filter of a merged relation comes after the receiver's own rejection, and is blocked
with it. -/
theorem History.first_rejection_blocks_nested :
    let receiver := (History.fresh (.new (.name "cpu"))).call (.raw " ")
    let other := ((History.fresh (.new (.name "mem"))).call (.fill (.float .nan))).call
      (.filters false [("host", .scalar (.string "a")), ("", .list [])])
    let history := receiver.merge other
    let c := Call.filters false [("", .list [])]
    c ∈ history.calls ∧ c.rejection? = some ⟨"", .emptyField⟩ ∧
      history.firstRejection = some ⟨"<raw>", .emptyText⟩ ∧
      history.relation.apply c = history.relation.reject ⟨"", .emptyField⟩ ∧
      history.relation.toSelect = .error ⟨"<raw>", .emptyText⟩ := by
  intro receiver other history c
  have made : c ∈ history.calls := by
    simp [history, receiver, other, c, calls, Call.singles]
  have rejected : c.rejection? = some ⟨"", .emptyField⟩ := by decide
  have first : history.firstRejection = some ⟨"<raw>", .emptyText⟩ := by decide
  obtain ⟨-, -, kept, select, -, -⟩ := history.first_rejection_blocks
  exact ⟨made, rejected, first, kept c made _ rejected _, (select _).mpr first⟩

/-- A fill that is no number is rejected, but the bucket that comes with it stays. -/
theorem History.bucket_of_rejected_fill :
    let before := History.fresh (.new (.name "cpu"))
    let c := Call.timeWithFill (.unit .hour) (.float .nan)
    c ∈ (before.call c).calls ∧ c.rejection? = some ⟨"fill", .notFinite .nan⟩ ∧
      (before.call c).relation ≠ before.relation.reject ⟨"fill", .notFinite .nan⟩ := by
  intro before c
  refine ⟨by simp [c, calls, Call.singles], by decide, fun same => ?_⟩
  have bucket : (before.call c).relation.grouping.bucket = some (.unit .hour) := by decide
  rw [same] at bucket
  cases bucket

end Telemetry
