import Telemetry.Proofs.Relation.Sections

/-!
# Reading a statement back

Plain relations with the same statement are alike: they read the same series, select the same,
and agree on every clause, condition by condition, on the window, on what they group by and fill
with, and on limit and offset. What stands in quotes never takes part in how the rest is read.
-/

namespace Telemetry

open Text (isBare isWord Stops Readable listed)

theorem Fill.bare_text {f : Fill} (h : f.isPlain = true) :
    ∀ c ∈ f.text.toList, isBare c = true := by
  cases f with
  | none => exact List.all_eq_true.mp (by decide)
  | null => exact List.all_eq_true.mp (by decide)
  | integer n => exact Text.bare_of_mem_toString n
  | float x => cases h

/-- No numeral ends in a letter. -/
theorem toString_ne_of_last {n : Int} {word : String} (last : Char)
    (ends : word.toList.getLast? = some last) (letter : last.isDigit = false) :
    toString n ≠ word := by
  intro same
  obtain ⟨before, other, digits, digit⟩ := Text.exists_last_digit n
  rw [← same, digits, List.getLast?_concat] at ends
  rw [Option.some.inj ends, letter] at digit
  cases digit

/-- Fills are told apart by their texts. -/
theorem Fill.eq_of_text {f g : Fill} (hf : f.isPlain = true) (hg : g.isPlain = true)
    (h : f.text = g.text) : f = g := by
  have number (n : Int) : toString n ≠ "none" ∧ toString n ≠ "null" :=
    ⟨toString_ne_of_last 'e' rfl rfl, toString_ne_of_last 'l' rfl rfl⟩
  cases f with
  | none =>
    cases g with
    | none => rfl
    | null => exact absurd h (by decide)
    | integer n => exact absurd h.symm (number n).1
    | float x => cases hg
  | null =>
    cases g with
    | none => exact absurd h (by decide)
    | null => rfl
    | integer n => exact absurd h.symm (number n).2
    | float x => cases hg
  | integer m =>
    cases g with
    | none => exact absurd h (number m).1
    | null => exact absurd h (number m).2
    | integer n => exact congrArg integer (Text.toString_int_injective h)
    | float x => cases hg
  | float x => cases hf

theorem Fill.readable_text :
    Readable (fun f : Fill => f.text.toList ++ [')']) id (·.isPlain = true) (fun _ => True) := by
  intro f g x y hf hg _ _ h
  have bracket (z : List Char) : Stops isBare ([')'] ++ z) := rfl
  simp only [List.append_assoc] at h
  obtain ⟨same, rest⟩ := Text.eq_of_run (bare_text hf) (bare_text hg) (bracket x) (bracket y) h
  exact ⟨eq_of_text hf hg (String.toList_injective same), List.append_cancel_left rest⟩

namespace Relation

/-- Two relations agree in all that a statement tells: series and targets are equal as series are,
lengths of time by their texts, timestamps to the second, patterns by their literals. -/
structure Alike (r s : Relation) : Prop where
  series : r.series.equal s.series = true
  targets : r.targets.isEqv s.targets Series.equal = true
  selected : r.selected = s.selected
  clauses : r.clauses.map Clause.reading = s.clauses.map Clause.reading
  window : r.window.map Window.reading = s.window.map Window.reading
  bucket : r.grouping.bucket.map Interval.text = s.grouping.bucket.map Interval.text
  terms : r.grouping.terms.eraseDups = s.grouping.terms.eraseDups
  fill : r.grouping.fill = s.grouping.fill
  limit : r.limit = s.limit
  offset : r.offset = s.offset

variable {r s : Relation} {x y : List Char}

theorem eq_of_selection (hr : r.Plain) (hs : s.Plain)
    (h : r.selection.toList ++ (" from ".toList ++ x) =
      s.selection.toList ++ (" from ".toList ++ y)) :
    r.selected = s.selected ∧ x = y := by
  have run {r : Relation} (hr : r.Plain) : ∀ c ∈ r.selection.toList, (c != ' ') = true := by
    intro c mem
    rw [bne_iff_ne]
    intro blank
    exact hr.unspaced_selection (blank ▸ mem)
  have blank (z : List Char) : Stops (· != ' ') (" from ".toList ++ z) := rfl
  obtain ⟨same, rest⟩ := Text.eq_of_run (run hr) (run hs) (blank x) (blank y) h
  exact ⟨selected_eq_of_selection hr hs (String.toList_injective same),
    List.append_cancel_left rest⟩

theorem isEqv_of_texts {targets targets' : List Series}
    (h : targets.map Series.text = targets'.map Series.text) :
    targets.isEqv targets' Series.equal = true := by
  induction targets generalizing targets' with
  | nil =>
    cases targets' with
    | nil => rfl
    | cons u rest => cases h
  | cons t targets ih =>
    cases targets' with
    | nil => cases h
    | cons u targets' =>
      obtain ⟨head, tail⟩ := List.cons.inj h
      rw [List.isEqv, Bool.and_eq_true]
      exact ⟨Series.equal_iff.mpr head, ih tail⟩

theorem eq_of_targetsText (hr : r.Plain) (hs : s.Plain)
    (hx : Opens ['w', 'g', 'f', 'l', 'o'] x) (hy : Opens ['w', 'g', 'f', 'l', 'o'] y)
    (h : r.targetsText ++ x = s.targetsText ++ y) :
    r.targets.isEqv s.targets Series.equal = true ∧ x = y := by
  have new (z : List Char) : ¬ Opens ['w', 'g', 'f', 'l', 'o'] (" merge ".toList ++ z) :=
    fun opens => absurd opens.2 (by decide)
  have known := readable_section Series.readable_text new new (fun _ => trivial) fun _ _ => trivial
  obtain ⟨same, rest⟩ := known hr.targets hs.targets hx hy h
  exact ⟨isEqv_of_texts same, rest⟩

theorem Plain.groups (h : r.Plain) : ∀ g ∈ r.groups, g.isPlain = true := by
  intro g mem
  rcases List.mem_append.mp mem with mem | mem
  · obtain ⟨clause, member, rfl⟩ := List.mem_map.mp mem
    exact h.clauses clause member
  · obtain ⟨window, member, rfl⟩ := List.mem_map.mp mem
    exact h.window window (Option.mem_toList.mp member)

theorem eq_of_groupsText (hr : r.Plain) (hs : s.Plain)
    (hx : Opens ['g', 'f', 'l', 'o'] x) (hy : Opens ['g', 'f', 'l', 'o'] y)
    (h : r.groupsText ++ x = s.groupsText ++ y) :
    r.clauses.map Clause.reading = s.clauses.map Clause.reading ∧
      r.window.map Window.reading = s.window.map Window.reading ∧ x = y := by
  have new (z : List Char) : ¬ Opens ['g', 'f', 'l', 'o'] (" where ".toList ++ z) :=
    fun opens => absurd opens.2 (by decide)
  have apart (z : List Char) : ¬ Opens ['g', 'f', 'l', 'o'] (" and ".toList ++ z) :=
    fun opens => absurd opens.2 (by decide)
  have known := readable_section Group.readable_text new apart (fun _ => trivial) fun _ _ => trivial
  obtain ⟨same, rest⟩ := known hr.groups hs.groups hx hy h
  have clauses (r : Relation) : (r.groups.map Group.reading).filterMap Sum.getLeft? =
      r.clauses.map Clause.reading := by
    simp [groups, Group.reading, List.filterMap_map, Function.comp_def]
  have window (r : Relation) : (r.groups.map Group.reading).filterMap Sum.getRight? =
      (r.window.map Window.reading).toList := by
    simp [groups, Group.reading, List.filterMap_map, Function.comp_def, Option.toList_map]
  refine ⟨?_, ?_, rest⟩
  · rw [← clauses r, ← clauses s, same]
  · refine eq_of_toList ?_
    rw [← window r, ← window s, same]

/-- A character of what a statement groups by. -/
def isTermCharacter (c : Char) : Bool := isWord c || c == '(' || c == ')'

theorem Plain.term_characters (h : r.Plain) :
    ∀ term ∈ r.groupTerms, ∀ c ∈ term.toList, isTermCharacter c = true := by
  have word {c : Char} (h : isWord c = true) : isTermCharacter c = true := by
    simp [isTermCharacter, h]
  intro term mem c hc
  rw [h.groupTerms_eq] at mem
  rcases List.mem_append.mp mem with mem | mem
  · obtain ⟨interval, given, rfl⟩ := Option.map_eq_some_iff.mp (Option.mem_toList.mp mem)
    simp only [bucketTerm, String.toList_append, List.mem_append] at hc
    rcases hc with (hc | hc) | hc
    · have opening : "time(".toList.all isTermCharacter = true := by decide
      exact List.all_eq_true.mp opening c hc
    · have digits := List.all_eq_true.mp (h.bucket interval given) c hc
      exact word (by simp [isWord, digits])
    · rw [List.mem_singleton.mp hc]
      rfl
  · exact word (Text.word_of_identifier (h.terms term (List.mem_eraseDups.mp mem)) c hc)

theorem eq_of_termsText (hr : r.Plain) (hs : s.Plain)
    (hx : Opens ['f', 'l', 'o'] x) (hy : Opens ['f', 'l', 'o'] y)
    (h : r.termsText ++ x = s.termsText ++ y) : r.groupTerms = s.groupTerms ∧ x = y := by
  have item : Readable String.toList id (∀ c ∈ ·.toList, isTermCharacter c = true)
      (Stops isTermCharacter) :=
    Text.readable_run (fun _ run => run) fun _ _ _ _ => String.toList_injective
  have new (z : List Char) : ¬ Opens ['f', 'l', 'o'] (" group by ".toList ++ z) :=
    fun opens => absurd opens.2 (by decide)
  have apart (z : List Char) : ¬ Opens ['f', 'l', 'o'] (",".toList ++ z) := by
    intro opens
    cases z with
    | nil => exact opens
    | cons c rest => exact absurd opens.1 (by decide)
  have known := readable_section item new apart (fun _ => rfl) fun _ => Opens.stops rfl
  obtain ⟨same, rest⟩ := known hr.term_characters hs.term_characters hx hy h
  rw [List.map_id, List.map_id] at same
  exact ⟨same, rest⟩

theorem eq_of_fillText (hr : r.Plain) (hs : s.Plain) (hx : Opens ['l', 'o'] x)
    (hy : Opens ['l', 'o'] y) (h : r.fillText ++ x = s.fillText ++ y) :
    r.grouping.fill = s.grouping.fill ∧ x = y := by
  have new (z : List Char) : ¬ Opens ['l', 'o'] (" fill(".toList ++ z) :=
    fun opens => absurd opens.2 (by decide)
  exact readable_option Fill.readable_text new (fun _ => trivial) (fun _ _ => trivial) hr.fill
    hs.fill hx hy h

/-- Numbers are read where no digit follows. -/
theorem readable_number :
    Readable (fun n : Nat => (toString n).toList) id (fun _ => True) (Stops Char.isDigit) :=
  Text.readable_run (fun n _ => Text.digit_of_mem_toString n) fun _ _ _ _ same =>
    Text.toString_nat_injective (String.toList_injective same)

theorem eq_of_limitText (hx : Opens ['o'] x) (hy : Opens ['o'] y)
    (h : r.limitText ++ x = s.limitText ++ y) : r.limit = s.limit ∧ x = y := by
  have new (z : List Char) : ¬ Opens ['o'] (" limit ".toList ++ z) :=
    fun opens => absurd opens.2 (by decide)
  exact readable_option readable_number new (fun _ => rfl) (fun _ => Opens.stops rfl)
    (fun _ _ => trivial) (fun _ _ => trivial) hx hy h

theorem eq_of_offsetText (h : r.offsetText = s.offsetText) : r.offset = s.offset := by
  have new (z : List Char) : ¬ Opens [] (" offset ".toList ++ z) :=
    fun opens => absurd opens.2 (by decide)
  have ended : Opens [] [] := trivial
  have texts : r.offsetText ++ [] = s.offsetText ++ [] := congrArg (· ++ []) h
  exact (readable_option readable_number new (fun _ => rfl) (fun _ => Opens.stops rfl)
    (fun _ _ => trivial) (fun _ _ => trivial) ended ended texts).1

/-- Plain relations with the same statement are alike. -/
theorem Plain.alike (hr : r.Plain) (hs : s.Plain) (h : r.selectStatement = s.selectStatement) :
    r.Alike s := by
  -- what follows a section opens none of the earlier ones
  have offset (r : Relation) : Opens ['o'] r.offsetText := by
    rw [← List.append_nil r.offsetText]
    exact opens_listed (fun _ => ⟨rfl, by decide⟩) trivial
  have limit (r : Relation) : Opens ['l', 'o'] (r.limitText ++ r.offsetText) :=
    opens_listed (fun _ => ⟨rfl, by decide⟩) ((offset r).mono (by decide))
  have fill (r : Relation) : Opens ['f', 'l', 'o'] (r.fillText ++ (r.limitText ++ r.offsetText)) :=
    opens_listed (fun _ => ⟨rfl, by decide⟩) ((limit r).mono (by decide))
  have terms (r : Relation) : Opens ['g', 'f', 'l', 'o']
      (r.termsText ++ (r.fillText ++ (r.limitText ++ r.offsetText))) :=
    opens_listed (fun _ => ⟨rfl, by decide⟩) ((fill r).mono (by decide))
  have groups (r : Relation) : Opens ['w', 'g', 'f', 'l', 'o']
      (r.groupsText ++ (r.termsText ++ (r.fillText ++ (r.limitText ++ r.offsetText)))) :=
    opens_listed (fun _ => ⟨rfl, by decide⟩) ((terms r).mono (by decide))
  have texts := congrArg String.toList h
  rw [toList_selectStatement, toList_selectStatement] at texts
  obtain ⟨selected, rest⟩ := eq_of_selection hr hs (List.append_cancel_left texts)
  obtain ⟨series, rest⟩ := Series.readable_text hr.series hs.series trivial trivial rest
  obtain ⟨targets, rest⟩ := eq_of_targetsText hr hs (groups r) (groups s) rest
  obtain ⟨clauses, window, rest⟩ := eq_of_groupsText hr hs (terms r) (terms s) rest
  obtain ⟨grouped, rest⟩ := eq_of_termsText hr hs (fill r) (fill s) rest
  obtain ⟨bucket, names⟩ := grouping_eq_of_groupTerms hr hs grouped
  obtain ⟨filled, rest⟩ := eq_of_fillText hr hs (limit r) (limit s) rest
  obtain ⟨limits, rest⟩ := eq_of_limitText (offset r) (offset s) rest
  exact ⟨Series.equal_iff.mpr series, targets, selected, clauses, window, bucket, names, filled,
    limits, eq_of_offsetText rest⟩

theorem toSelect_eq_ok_iff {statement : String} :
    r.toSelect = .ok statement ↔ r.rejection = none ∧ r.selectStatement = statement := by
  unfold toSelect
  split <;> simp_all

end Relation

/-- Statements are unambiguous: relations that plain calls lead to are alike if they have the same
statement. -/
theorem History.alike_of_toSelect {a b : History} (ha : a.isPlain = true) (hb : b.isPlain = true)
    {statement : String} (h : a.relation.toSelect = .ok statement)
    (h' : b.relation.toSelect = .ok statement) : a.relation.Alike b.relation := by
  obtain ⟨-, text⟩ := Relation.toSelect_eq_ok_iff.mp h
  obtain ⟨-, text'⟩ := Relation.toSelect_eq_ok_iff.mp h'
  exact (plain_relation ha).alike (plain_relation hb) (text.trans text'.symm)

/-- Two histories of one statement, whose names and strings hold quotes, backslashes, brackets and
words of the language. -/
theorem History.alike_of_quotes :
    let series : Series := .list [.name "cpu\" where (x", .pattern ⟨"a/b\\\\"⟩]
    let a : History := .merge
      (.call (.call (.fresh (.new series)) (.select ["load", "load"]))
        (.filters true [("host", .list [.string "it's \\", .string "') and ('"]),
          ("at", .range (.timestamp ⟨-5, 7⟩) (.timestamp ⟨9, 1⟩))]))
      (.call (.call (.fresh (.new (.name "mem"))) (.within (.past (.unit .hour))))
        (.timeWithFill (.unit .day) (.integer (-1))))
    let b : History := .call (.call (.call (.call (.call (.call
      (.fresh (.new (.list [.list [.name "cpu\" where (x"], .pattern ⟨"a\\/b\\\\"⟩])))
      (.select ["load"]))
      (.filters true [("host", .list [.string "it's \\", .string "') and ('"])]))
      (.filters true [("at", .range (.timestamp ⟨-5, 0⟩) (.timestamp ⟨9, 0⟩))]))
      (.within (.past (.literal "1h")))) (.merge (.name "mem")))
      (.timeWithFill (.suffix "d") (.integer (-1)))
    let statement := "select load from merge(\"cpu\\\" where (x\",/a\\/b\\\\/) merge \"mem\"" ++
      " where (host<>'it\\'s \\\\' and host<>'\\') and (\\'')" ++
      " and (at<-5s and at>9s) and (time > now() - 1h) group by time(1d) fill(-1)"
    a.isPlain = true ∧ b.isPlain = true ∧ a.relation.toSelect = .ok statement ∧
      b.relation.toSelect = .ok statement ∧ a.relation.Alike b.relation := by
  intro series a b statement
  have ha : a.isPlain = true := by decide
  have hb : b.isPlain = true := by decide
  have h : a.relation.toSelect = .ok statement :=
    Relation.toSelect_eq_ok_iff.mpr ⟨by decide, by decide +kernel⟩
  have h' : b.relation.toSelect = .ok statement :=
    Relation.toSelect_eq_ok_iff.mpr ⟨by decide, by decide +kernel⟩
  exact ⟨ha, hb, h, h', alike_of_toSelect ha hb h h'⟩

end Telemetry
