import Telemetry.Proofs.Condition.Reading
import Telemetry.Relation.Call

/-!
# Reading clauses and windows back

A clause tells its conditions in order, and, if there are several, the word that joins them; it ends
with its bracket. A window tells its length or its whole second. The two, which make up a `where`
section, are told apart by the blank that a window has after the word it begins with.
-/

namespace Telemetry

open Text (isBare isWord isNumeral isAlphanumeric Stops Readable listed)

namespace Clause

def isPlain (c : Clause) : Bool := c.terms.all Condition.isPlain

/-- A clause as its text tells it: the word that joins one condition to the next is told if there
is a next one. -/
def reading (c : Clause) : List Term × Option Join :=
  (c.terms.map Condition.reading, if 1 < c.terms.length then some c.join else none)

/-- The conditions of a clause as they are written. -/
def joinedText (join : Join) (terms : List Condition) : List Char :=
  listed [] join.separator.toList (·.text.toList) terms

theorem toList_text (c : Clause) : c.text.toList = '(' :: (joinedText c.join c.terms ++ [')']) := by
  rw [text, String.toList_append, String.toList_append, Text.toList_intercalate, Text.listed_map]
  rfl

theorem toList_text_append (c : Clause) (x : List Char) :
    c.text.toList ++ x = '(' :: (joinedText c.join c.terms ++ ')' :: x) := by
  rw [toList_text, List.cons_append, List.append_assoc]
  rfl

/-- After a condition comes a blank or the bracket. -/
def Closed (x : List Char) : Prop := ∃ y, x = ')' :: y

theorem Closed.stops {x : List Char} (h : Closed x) : Stops isBare x := by
  obtain ⟨y, rfl⟩ := h
  rfl

theorem stops_separator (join : Join) (x : List Char) :
    Stops isBare (join.separator.toList ++ x) := by
  cases join <;> rfl

theorem not_closed_separator (join : Join) (x : List Char) :
    ¬ Closed (join.separator.toList ++ x) := by
  rintro ⟨y, same⟩
  cases join <;> cases same

theorem not_closed_condition {c : Condition} (h : c.isPlain = true) (x : List Char) :
    ¬ Closed (c.text.toList ++ x) := by
  rintro ⟨y, same⟩
  obtain ⟨first, rest, letters, word⟩ :=
    Text.exists_of_identifier (Condition.identifier_of_isPlain h)
  rw [Condition.toList_text h, letters] at same
  rw [(List.cons.inj same).1] at word
  exact absurd word (by decide)

theorem readable_joinedText (join : Join) :
    Readable (joinedText join) (List.map Condition.reading)
      (fun terms => ∀ term ∈ terms, term.isPlain = true) Closed := by
  refine Text.readable_listed Condition.readable_text (stops_separator join)
    (fun _ => Closed.stops) ?_ ?_
  · intro a x ha
    exact not_closed_condition ha x
  · intro a x _
    exact not_closed_separator join _

/-- The word that joins several conditions is told by the blank after the first one. -/
theorem join_eq_of_several {terms terms' : List Condition} {join join' : Join} {x y : List Char}
    (plain : ∀ term ∈ terms, term.isPlain = true) (plain' : ∀ term ∈ terms', term.isPlain = true)
    (hy : Closed y)
    (h : joinedText join terms ++ x = joinedText join' terms' ++ y) (several : 1 < terms.length) :
    join = join' := by
  match terms, several with
  | a :: second :: rest, _ =>
    cases terms' with
    | nil =>
      rw [joinedText, Text.listed_cons_append, joinedText, listed, List.nil_append,
        List.nil_append] at h
      exact absurd (h ▸ hy) (not_closed_condition (plain a List.mem_cons_self) _)
    | cons b rest' =>
      have ends : Stops isBare
          (listed join'.separator.toList join'.separator.toList (·.text.toList) rest' ++ y) := by
        cases rest' with
        | nil => exact hy.stops
        | cons _ _ =>
          rw [Text.listed_cons_append]
          exact stops_separator join' _
      rw [joinedText, joinedText, Text.listed_cons_append, Text.listed_cons_append,
        Text.listed_cons_append] at h
      obtain ⟨-, tails⟩ := Condition.readable_text (plain a List.mem_cons_self)
        (plain' b List.mem_cons_self) (stops_separator join _) ends h
      cases rest' with
      | nil =>
        rw [listed, List.nil_append] at tails
        exact absurd (tails ▸ hy) (not_closed_separator join _)
      | cons _ _ =>
        rw [Text.listed_cons_append] at tails
        cases join <;> cases join' <;> first | rfl | simp [Join.separator] at tails

theorem joinedText_of_single {terms : List Condition} (h : terms.length ≤ 1) (join join' : Join) :
    joinedText join terms = joinedText join' terms := by
  match terms, h with
  | [], _ => rfl
  | [_], _ => rfl

theorem readable_text :
    Readable (fun c : Clause => c.text.toList) reading (·.isPlain = true) (fun _ => True) := by
  intro a b x y ha hb _ _ h
  rw [isPlain, List.all_eq_true] at ha hb
  rw [toList_text_append, toList_text_append] at h
  have inner := (List.cons.inj h).2
  have closed (z : List Char) : Closed (')' :: z) := ⟨z, rfl⟩
  have joins : 1 < a.terms.length → a.join = b.join :=
    join_eq_of_several ha hb (closed y) inner
  have shared : joinedText a.join a.terms = joinedText b.join a.terms := by
    by_cases several : 1 < a.terms.length
    · rw [joins several]
    · exact joinedText_of_single (by omega) _ _
  rw [shared] at inner
  obtain ⟨terms, rest⟩ := readable_joinedText b.join ha hb (closed x) (closed y) inner
  have lengths : a.terms.length = b.terms.length := by
    simpa using congrArg List.length terms
  refine ⟨?_, (List.cons.inj rest).2⟩
  rw [reading, reading, terms, ← lengths]
  by_cases several : 1 < a.terms.length
  · rw [if_pos several, if_pos several, joins several]
  · rw [if_neg several, if_neg several]

end Clause

def Interval.isPlain (interval : Interval) : Bool := interval.text.toList.all isAlphanumeric

namespace Window

def isPlain : Window → Bool
  | past interval => interval.isPlain
  | since _ => true

/-- A window as its text tells it: a length by its text, an instant to the second. -/
def reading : Window → Window
  | past interval => past (.literal interval.text)
  | since instant => since instant.whole

/-- What is written of a window after the comparison of the time. -/
def bound : Window → String
  | past interval => "now() - " ++ interval.text
  | since instant => toString instant.seconds ++ "s"

theorem toList_text_append (w : Window) (x : List Char) :
    w.clause.text.toList ++ x = '(' :: ("time > ".toList ++ (w.bound.toList ++ ')' :: x)) := by
  have raw (text : String) :
      (Clause.single (.raw text)).text.toList ++ x = '(' :: (text.toList ++ ')' :: x) := by
    rw [Clause.toList_text_append, Clause.single, Clause.joinedText, listed, listed,
      List.append_nil]
    rfl
  cases w with
  | past interval =>
    rw [clause, raw, bound, String.toList_append, String.toList_append, ← List.append_assoc,
      ← List.append_assoc]
    rfl
  | since instant =>
    rw [clause, raw, bound, String.append_assoc, String.toList_append, List.append_assoc]

/-- The numeral of an instant begins otherwise than the word for the present. -/
theorem past_ne_since (interval : Interval) (instant : Instant) (x y : List Char) :
    (past interval).bound.toList ++ x ≠ (since instant).bound.toList ++ y := by
  intro h
  obtain ⟨before, last, ends, -⟩ := Text.exists_last_digit instant.seconds
  have nothing : ∀ c ∈ ([] : List Char), isNumeral c = true := by simp
  have word : Stops isNumeral ("now() - ".toList ++ (interval.text.toList ++ x)) := rfl
  have letter : Stops isNumeral ("s".toList ++ y) := rfl
  simp only [bound, String.toList_append, List.append_assoc] at h
  obtain ⟨empty, -⟩ := Text.eq_of_run nothing (Text.numeral_of_mem_toString instant.seconds) word
    letter h
  rw [ends] at empty
  simp at empty

theorem readable_text :
    Readable (fun w : Window => w.clause.text.toList) reading (·.isPlain = true)
      (fun _ => True) := by
  intro a b x y ha hb _ _ h
  simp only [toList_text_append] at h
  have bounds := List.append_cancel_left (List.cons.inj h).2
  cases a with
  | past i =>
    cases b with
    | past j =>
      have run (i : Interval) (h : (past i).isPlain = true) :
          ∀ c ∈ i.text.toList, isAlphanumeric c = true := List.all_eq_true.mp h
      have bracket (z : List Char) : Stops isAlphanumeric (')' :: z) := rfl
      simp only [bound, String.toList_append, List.append_assoc] at bounds
      obtain ⟨same, rest⟩ := Text.eq_of_run (run i ha) (run j hb) (bracket x) (bracket y)
        (List.append_cancel_left bounds)
      refine ⟨?_, (List.cons.inj rest).2⟩
      rw [reading, reading, String.toList_injective same]
    | since t => exact absurd bounds (past_ne_since i t _ _)
  | since t =>
    cases b with
    | past j => exact absurd bounds.symm (past_ne_since j t _ _)
    | since u =>
      have letter (z : List Char) : Stops isNumeral ("s".toList ++ z) := rfl
      simp only [bound, String.toList_append, List.append_assoc] at bounds
      obtain ⟨same, rest⟩ := Text.eq_of_run (Text.numeral_of_mem_toString t.seconds)
        (Text.numeral_of_mem_toString u.seconds) (letter _) (letter _) bounds
      have seconds : t.seconds = u.seconds :=
        Text.toString_int_injective (String.toList_injective same)
      refine ⟨?_, (List.cons.inj (List.append_cancel_left rest)).2⟩
      rw [reading, reading, Instant.whole, Instant.whole, seconds]

end Window

/-- A clause of identifiers goes on with a mark where a window has a blank. -/
theorem Clause.text_ne_window {c : Clause} (h : c.isPlain = true) (w : Window) (x y : List Char) :
    c.text.toList ++ x ≠ w.clause.text.toList ++ y := by
  intro same
  rw [toList_text_append, Window.toList_text_append] at same
  have inner := (List.cons.inj same).2
  rw [isPlain, List.all_eq_true] at h
  cases terms : c.terms with
  | nil => simp [joinedText, terms, listed] at inner
  | cons a rest =>
    have plain : a.isPlain = true := h a (by simp [terms])
    have time : "time > ".toList = "time".toList ++ " > ".toList := rfl
    have word : "time".toList.all isWord = true := by decide
    have blank (z : List Char) : Stops isWord (" > ".toList ++ z) := rfl
    rw [terms, joinedText, Text.listed_cons_append, List.nil_append, Condition.toList_text plain,
      List.append_assoc, List.append_assoc, time, List.append_assoc] at inner
    obtain ⟨-, rest⟩ := Text.eq_of_run
      (Text.word_of_identifier (Condition.identifier_of_isPlain plain))
      (List.all_eq_true.mp word) (Condition.stops_operator plain _) (blank _) inner
    obtain ⟨mark, others, marks, -⟩ := Condition.exists_mark plain
    have first : isMark mark = true := Condition.operator_marks a mark (by simp [marks])
    rw [marks] at rest
    rw [(List.cons.inj rest).1] at first
    cases first

/-- What a `where` section is made of. -/
abbrev Group := Clause ⊕ Window

namespace Group

def isPlain : Group → Bool := Sum.elim Clause.isPlain Window.isPlain

def text : Group → String := Sum.elim Clause.text (·.clause.text)

def reading : Group → (List Term × Option Join) ⊕ Window := Sum.map Clause.reading Window.reading

theorem readable_text :
    Readable (fun g : Group => g.text.toList) reading (·.isPlain = true) (fun _ => True) := by
  intro a b x y ha hb _ _ h
  cases a with
  | inl c =>
    cases b with
    | inl d =>
      obtain ⟨same, rest⟩ := Clause.readable_text ha hb trivial trivial h
      exact ⟨congrArg Sum.inl same, rest⟩
    | inr w => exact absurd h (Clause.text_ne_window ha w x y)
  | inr v =>
    cases b with
    | inl d => exact absurd h.symm (Clause.text_ne_window hb v y x)
    | inr w =>
      obtain ⟨same, rest⟩ := Window.readable_text ha hb trivial trivial h
      exact ⟨congrArg Sum.inr same, rest⟩

end Group

end Telemetry
