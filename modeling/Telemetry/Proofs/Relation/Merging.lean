import Telemetry.Proofs.Relation.Targets

/-!
# Merging

Merging a relation that was built by calls is the same as making the calls: every clause follows its
own policy when relations merge (appended, replaced when set, first one wins, gathered), and each
policy is what the calls of that clause do one after the other. The exceptions are fields, which are
appended by calls and replaced by merges, and a list as the primary series of the other relation,
which is opened when merged but compared as a whole when the other's own targets were gathered.

So merging is associative up to the merged series, and in them too unless a list is merged; a fresh
relation over the same measurement changes nothing from either side.
-/

namespace Telemetry.Relation

variable {r o : Relation}

/-- The primary series of another relation can be gathered from what the other brings: it is read
already or is no list. -/
def Gatherable (own : Series) (series : Series) : Prop :=
  series.equal own = true ∨ series.isList = false

theorem covers_other {own series : Series} (h : Gatherable own series) (start : List Series) :
    own.covers (own.gatherAll start (other own series)) series = true := by
  by_cases same : series.equal own = true
  · exact Series.covers_gatherAll (Series.covers_iff.mpr (Or.inl same)) _
  · have single : other own series = [series] := by
      rw [other, if_neg same]
      exact Series.leaves_of_not_list (h.resolve_left same)
    rw [single]
    exact Series.covers_of_mem_leaves (List.mem_singleton_self series)

/-- What the other relation received before the merge is received after it. -/
theorem merged_receive (tidy : o.Tidy) (series : Gatherable r.series o.series) {k : Contribution}
    (leaves : ∀ leaf ∈ k.leaves, leaf.isList = false)
    (fields : r.fields = [] ∨ o.fields ++ k.fields = []) :
    r.merged (o.receive k) = (r.merged o).receive k := by
  have received : (o.receive k).Tidy := (tidy.gatherAll leaves).congr ⟨rfl, rfl, rfl⟩
  have gathered : r.series.gatherAll r.targets (incoming r.series (o.receive k)) =
      r.series.gatherAll (r.series.gatherAll r.targets (incoming r.series o)) k.leaves := by
    rw [incoming_of_tidy _ received, incoming_of_tidy _ tidy, receive,
      Series.gatherAll_append_gatherAll _ (covers_other series r.targets), Series.gatherAll_append]
  have appended : (if (o.fields ++ k.fields).isEmpty then r.fields else o.fields ++ k.fields) =
      (if o.fields.isEmpty then r.fields else o.fields) ++ k.fields := by
    rcases fields with none | none
    · cases hf : o.fields <;> cases k.fields <;> simp [none]
    · obtain ⟨hf, hfields⟩ := List.append_eq_nil_iff.mp none
      simp [hf, hfields]
  rw [merged_eq, gathered, merged_eq]
  simp only [joined, receive, List.append_assoc, Option.or_assoc]
  -- only the fields still differ in form, as `appended` says
  congr 1

/-- A call on the other relation before the merge is that call after it. -/
theorem merged_apply (tidy : o.Tidy) (series : Gatherable r.series o.series) (c : Call)
    (fields : r.fields = [] ∨ (o.apply c).fields = []) :
    r.merged (o.apply c) = (r.merged o).apply c := by
  rw [apply_eq] at fields
  rw [apply_eq, apply_eq]
  refine merged_receive tidy series (fun leaf mem => ?_) fields
  rw [Call.contribution_leaves] at mem
  exact not_list_of_mem_brought mem

theorem prefix_fields_apply (o : Relation) (c : Call) : o.fields <+: (o.apply c).fields := by
  rw [apply_eq]
  exact List.prefix_append o.fields c.contribution.fields

theorem prefix_fields_run (o : Relation) (calls : List Call) :
    o.fields <+: (o.run calls).fields := by
  induction calls generalizing o with
  | nil => exact List.prefix_rfl
  | cons c rest ih => exact (prefix_fields_apply o c).trans (ih (o.apply c))

theorem merged_run (tidy : o.Tidy) (series : Gatherable r.series o.series) (calls : List Call)
    (fields : r.fields = [] ∨ (o.run calls).fields = []) :
    r.merged (o.run calls) = (r.merged o).run calls := by
  induction calls generalizing o with
  | nil => rfl
  | cons c rest ih =>
    have step : r.fields = [] ∨ (o.apply c).fields = [] :=
      fields.imp_right fun none => by
        have grown : (o.apply c).fields <+: ((o.apply c).run rest).fields :=
          prefix_fields_run (o.apply c) rest
        rw [show ((o.apply c).run rest).fields = [] from none] at grown
        exact List.prefix_nil.mp grown
    have kept : (o.apply c).series = o.series := (sameSeries_apply o c).series
    have later := ih (tidy.apply c) (by rwa [kept]) fields
    rw [merged_apply tidy series c step] at later
    exact later

/-- A fresh relation brings its series and nothing else. -/
theorem merged_new (r : Relation) (m : Measurement) :
    r.merged (new m) =
      if m.series.equal r.series then r else r.apply (.merge m.series) := by
  have brings : incoming r.series (new m) = other r.series m.series := List.append_nil _
  have nothing : joined r (new m) = r := by
    simp [joined, new]
  rw [merged_eq, brings, nothing, other]
  split
  · rfl
  · exact (addTarget_eq r m.series).symm

/-- Merging is replaying: a relation built by calls on a fresh one is merged by merging its series,
if different, and making the same calls on the receiver. -/
theorem merged_eq_replay (r : Relation) (m : Measurement) (calls : List Call)
    (series : m.series.equal r.series = true ∨ m.series.isList = false)
    (fields : r.fields = [] ∨ ((new m).run calls).fields = []) :
    let built := r.merged ((new m).run calls)
    let replayed := (if m.series.equal r.series then r else r.apply (.merge m.series)).run calls
    built = replayed ∧ built.toSelect = replayed.toSelect ∧
      built.toDelete = replayed.toDelete := by
  intro built replayed
  have same : built = replayed := by
    have run := merged_run (tidy_new m) series calls fields
    rwa [merged_new] at run
  exact ⟨same, congrArg toSelect same, congrArg toDelete same⟩

/-- A receiver with fields and a rejection of its own, and calls that merge the receiver's series,
bring the other's primary series again and are rejected in part. -/
theorem merged_eq_replay_rejected :
    let r := (new (.new (.name "cpu"))).run [.select ["load"], .raw " "]
    let m := Measurement.new (.name "mem")
    let calls : List Call := [.merge (.list [.name "cpu", .list [.name "mem", .name "disk"]]),
      .timeWithFill (.unit .hour) (.float .nan), .filter true "host" (.scalar (.string "a"))]
    (m.series.equal r.series = true ∨ m.series.isList = false) ∧
    (r.fields = [] ∨ ((new m).run calls).fields = []) ∧
    r.merged ((new m).run calls) =
      (if m.series.equal r.series then r else r.apply (.merge m.series)).run calls := by
  intro r m calls
  have series : m.series.equal r.series = true ∨ m.series.isList = false := Or.inr rfl
  have fields : r.fields = [] ∨ ((new m).run calls).fields = [] := Or.inr rfl
  exact ⟨series, fields, (merged_eq_replay r m calls series fields).1⟩

theorem joined_assoc (a b c : Relation) : joined (joined a b) c = joined a (joined b c) := by
  by_cases none : c.fields = []
  · simp [joined, none, Option.or_assoc]
  · simp [joined, none, Option.or_assoc]

/-- What a third relation brings is the same whether the primary series it is compared with is the
first one's or the second one's, once the latter is covered. -/
theorem gatherAll_other {own mid series : Series} {start : List Series}
    (h : own.covers start mid = true) (hs : series.isList = false) :
    own.gatherAll start (other own series) = own.gatherAll start (other mid series) := by
  have skipped (known : own.covers start series = true) :
      own.gatherAll start [series] = start := Series.gather_of_covers known
  unfold other
  rw [Series.leaves_of_not_list hs]
  by_cases sameOwn : series.equal own = true
  · have known : own.covers start series = true := Series.covers_iff.mpr (Or.inl sameOwn)
    rw [if_pos sameOwn]
    split
    · rfl
    · exact (skipped known).symm
  · rw [if_neg sameOwn]
    by_cases sameMid : series.equal mid = true
    · rw [if_pos sameMid, skipped]
      · rfl
      · rw [Series.covers_congr sameMid]
        exact h
    · rw [if_neg sameMid]

/-- All of a relation but its merged series. -/
def untargeted (r : Relation) : Relation :=
  { r with targets := [] }

theorem eq_of_untargeted {r s : Relation} (h : r.untargeted = s.untargeted)
    (targets : r.targets = s.targets) : r = s := by
  cases r
  cases s
  simp_all [untargeted]

/-- Everything but the merged series is merged in one order as in the other. -/
theorem untargeted_merged_assoc (a b c : Relation) :
    ((a.merged b).merged c).untargeted = (a.merged (b.merged c)).untargeted := by
  have erased : (joined (joined a b) c).untargeted = (joined a (joined b c)).untargeted :=
    congrArg untargeted (joined_assoc a b c)
  rw [merged_eq, merged_eq, merged_eq a (b.merged c), merged_eq b c]
  exact erased

theorem merged_assoc {a b c : Relation} (hb : b.Tidy) (hc : c.Tidy)
    (leafB : b.series.isList = false) (leafC : c.series.isList = false) :
    (a.merged b).merged c = a.merged (b.merged c) := by
  have series : Gatherable a.series b.series := Or.inr leafB
  have covered : a.series.covers
      (a.series.gatherAll a.targets (other a.series b.series ++ b.targets)) b.series = true := by
    rw [Series.gatherAll_append]
    exact Series.covers_gatherAll (covers_other series a.targets) b.targets
  have targets : ((a.merged b).merged c).targets = (a.merged (b.merged c)).targets := by
    calc ((a.merged b).merged c).targets
        = a.series.gatherAll (a.series.gatherAll a.targets (incoming a.series b))
            (incoming a.series c) := by
          rw [merged_eq, merged_eq]
          rfl
      _ = a.series.gatherAll (a.series.gatherAll (a.series.gatherAll a.targets
            (other a.series b.series ++ b.targets)) (other b.series c.series)) c.targets := by
          rw [incoming_of_tidy _ hb, incoming_of_tidy _ hc,
            Series.gatherAll_append _ _ (other _ c.series), gatherAll_other covered leafC]
      _ = a.series.gatherAll a.targets (other a.series b.series ++
            b.series.gatherAll b.targets (incoming b.series c)) := by
          rw [Series.gatherAll_append_gatherAll _ (covers_other series a.targets),
            incoming_of_tidy _ hc, Series.gatherAll_append, Series.gatherAll_append,
            Series.gatherAll_append, Series.gatherAll_append]
      _ = (a.merged (b.merged c)).targets := by
          rw [merged_eq a, incoming_of_tidy _ (hb.merged c), merged_eq]
          rfl
  exact eq_of_untargeted (untargeted_merged_assoc a b c) targets

theorem merged_new_self {r : Relation} (tidy : r.Tidy) : r.merged (new r.measurement) = r := by
  rw [merged_new, ← tidy.own, if_pos (Series.equal_refl r.series)]

theorem new_self_merged {r : Relation} (tidy : r.Tidy) : (new r.measurement).merged r = r := by
  have own : (new r.measurement).series = r.series := tidy.own.symm
  refine eq_of_untargeted ?_ ?_
  · rw [merged_eq]
    cases r
    simp_all [untargeted, joined, new]
  · rw [merged_eq]
    change (new r.measurement).series.gatherAll [] (incoming (new r.measurement).series r) = _
    rw [own, incoming_of_tidy _ tidy, other, if_pos (Series.equal_refl r.series)]
    exact tidy.gatherAll_targets

/-- Merging is a monoid: in everything but the merged series at once, in them too unless a list is
merged, and with the fresh relation over the same measurement as its identity. -/
theorem merged_monoid {a b c r : Relation} (hb : b.Reachable) (hc : c.Reachable)
    (hr : r.Reachable) :
    ((a.merged b).merged c).untargeted = (a.merged (b.merged c)).untargeted ∧
    (b.series.isList = false → c.series.isList = false →
      (a.merged b).merged c = a.merged (b.merged c) ∧
      ((a.merged b).merged c).toSelect = (a.merged (b.merged c)).toSelect ∧
      ((a.merged b).merged c).toDelete = (a.merged (b.merged c)).toDelete) ∧
    r.merged (new r.measurement) = r ∧ (new r.measurement).merged r = r := by
  refine ⟨untargeted_merged_assoc a b c, fun leafB leafC => ?_, merged_new_self hr.tidy,
    new_self_merged hr.tidy⟩
  have assoc := merged_assoc (a := a) hb.tidy hc.tidy leafB leafC
  exact ⟨assoc, congrArg toSelect assoc, congrArg toDelete assoc⟩

/-- Three relations that merge each other's primary series. -/
theorem merged_monoid_crossed :
    let a := (new (.new (.list [.name "cpu", .name "mem"]))).run [.limit 5]
    let b := (new (.new (.name "mem"))).run [.merge (.list [.name "disk", .name "cpu"]), .limit 7]
    let c := (new (.new (.name "disk"))).run [.select ["load"], .merge (.name "mem")]
    b.Reachable ∧ c.Reachable ∧ b.series.isList = false ∧ c.series.isList = false ∧
    (a.merged b).merged c = a.merged (b.merged c) ∧
    b.merged (new b.measurement) = b ∧ (new b.measurement).merged b = b := by
  intro a b c
  have hb : b.Reachable := Reachable.run ⟨.fresh _, rfl⟩ _
  have hc : c.Reachable := Reachable.run ⟨.fresh _, rfl⟩ _
  obtain ⟨_, assoc, right, left⟩ := merged_monoid (a := a) hb hc hb
  exact ⟨hb, hc, rfl, rfl, (assoc rfl rfl).1, right, left⟩

end Telemetry.Relation
