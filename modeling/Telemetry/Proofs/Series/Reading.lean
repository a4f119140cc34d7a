import Telemetry.Proofs.Text.Framing
import Telemetry.Proofs.Text.Quoted
import Telemetry.Series

/-!
# Reading a series back

The text of a series tells where it ends: names and patterns close themselves, and a merge of
several series ends with the bracket after its last item, however deep merges nest. This asks that
no name ends in a backslash and no pattern in a bare one, and that no series depends on the point
that is written.
-/

namespace Telemetry

/-- The slash after the pattern is not held by a backslash at its end. -/
def Pattern.closes (p : Pattern) : Bool :=
  Text.trailingBackslashes p.source.toList % 2 = 0

theorem Pattern.eq_of_literal {p q : Pattern} {x y : List Char} (hp : p.closes = true)
    (hq : q.closes = true) (h : p.literal.toList ++ x = q.literal.toList ++ y) :
    p.literal = q.literal ∧ x = y :=
  Text.eq_of_quotePattern (of_decide_eq_true hp) (of_decide_eq_true hq) h

namespace Series

mutual

/-- The series is the same for every point, no name ends in a backslash, and every pattern
closes. -/
def isPlain : Series → Bool
  | .name text => text.toList.getLast? ≠ some '\\'
  | .pattern p => p.closes
  | .computed _ => false
  | .list items => arePlain items

def arePlain : List Series → Bool
  | [] => true
  | item :: rest => item.isPlain && arePlain rest

end

mutual

theorem plain_of_mem_leaves {leaf : Series} :
    ∀ {series : Series}, series.isPlain = true → leaf ∈ series.leaves → leaf.isPlain = true
  | .name _, h, mem => by
    rw [List.mem_singleton.mp mem]
    exact h
  | .pattern _, h, mem => by
    rw [List.mem_singleton.mp mem]
    exact h
  | .computed _, h, mem => by
    rw [List.mem_singleton.mp mem]
    exact h
  | .list _, h, mem => by
    rw [isPlain] at h
    exact plain_of_mem_leavesOf h mem

theorem plain_of_mem_leavesOf {leaf : Series} :
    ∀ {items : List Series}, arePlain items = true → leaf ∈ leavesOf items → leaf.isPlain = true
  | [], _, mem => by cases mem
  | _ :: _, h, mem => by
    rw [arePlain, Bool.and_eq_true] at h
    rcases List.mem_append.mp mem with mem | mem
    · exact plain_of_mem_leaves h.1 mem
    · exact plain_of_mem_leavesOf h.2 mem

end

/-- How a series is written, and how a merge goes on after one of its items. -/
inductive Written : Bool → List Char → Prop
  | name {body : List Char} (inside : Text.Inside Text.holdsInName '"' false body) :
      Written true ('"' :: (body ++ ['"']))
  | pattern {body : List Char} (inside : Text.Inside Text.holds '/' false body) :
      Written true ('/' :: (body ++ ['/']))
  | merge {item rest : List Char} (first : Written true item) (later : Written false rest) :
      Written true ("merge(".toList ++ (item ++ rest))
  | close : Written false [')']
  | comma {item rest : List Char} (next : Written true item) (later : Written false rest) :
      Written false (',' :: (item ++ rest))

/-- No text of a series, and no rest of a merge, begins another one. -/
theorem Written.eq_of_append {kind : Bool} {u v x y : List Char} (hu : Written kind u)
    (hv : Written kind v) (h : u ++ x = v ++ y) : u = v ∧ x = y := by
  induction hu generalizing v x y with
  | name inside =>
    cases hv with
    | name inside' =>
      simp only [List.cons_append, List.append_assoc, List.cons.injEq, true_and] at h
      obtain ⟨body, rest⟩ := inside.eq_of_marked inside' h
      exact ⟨by rw [body], rest⟩
    | pattern _ => simp at h
    | merge _ _ => simp at h
  | pattern inside =>
    cases hv with
    | name _ => simp at h
    | pattern inside' =>
      simp only [List.cons_append, List.append_assoc, List.cons.injEq, true_and] at h
      obtain ⟨body, rest⟩ := inside.eq_of_marked inside' h
      exact ⟨by rw [body], rest⟩
    | merge _ _ => simp at h
  | merge _ _ ihFirst ihLater =>
    cases hv with
    | name _ => simp at h
    | pattern _ => simp at h
    | merge first' later' =>
      rw [List.append_assoc, List.append_assoc, List.append_assoc, List.append_assoc] at h
      obtain ⟨item, tails⟩ := ihFirst first' (List.append_cancel_left h)
      obtain ⟨rest, after⟩ := ihLater later' tails
      exact ⟨by rw [item, rest], after⟩
  | close =>
    cases hv with
    | close => exact ⟨rfl, (List.cons.inj h).2⟩
    | comma _ _ => simp at h
  | comma _ _ ihNext ihLater =>
    cases hv with
    | close => simp at h
    | comma next' later' =>
      rw [List.cons_append, List.cons_append, List.append_assoc, List.append_assoc] at h
      obtain ⟨item, tails⟩ := ihNext next' (List.cons.inj h).2
      obtain ⟨rest, after⟩ := ihLater later' tails
      exact ⟨by rw [item, rest], after⟩

theorem written_name {text : String} (h : text.toList.getLast? ≠ some '\\') :
    Written true (Text.quoteName text).toList := by
  rw [Text.toList_quoteName]
  exact .name (Text.inside_escape_name (Text.foldl_holdsInName h))

theorem written_pattern {p : Pattern} (h : p.closes = true) : Written true p.literal.toList := by
  rw [Pattern.literal, Text.toList_quotePattern]
  exact .pattern (Text.inside_pattern (of_decide_eq_true h))

theorem written_later {texts : List String} (h : ∀ text ∈ texts, Written true text.toList) :
    Written false (Text.listed [','] [','] String.toList texts ++ [')']) := by
  induction texts with
  | nil => exact .close
  | cons text rest ih =>
    have later := ih fun other mem => h other (List.mem_cons_of_mem _ mem)
    rw [Text.listed_cons_append, List.singleton_append]
    exact .comma (h text List.mem_cons_self) later

theorem toList_mergeText (first second : String) (rest : List String) :
    (mergeText (first :: second :: rest)).toList = "merge(".toList ++
      (first.toList ++ (Text.listed [','] [','] String.toList (second :: rest) ++ [')'])) := by
  rw [mergeText, String.toList_append, String.toList_append, Text.toList_intercalate_cons,
    List.append_assoc, List.append_assoc]
  · rfl
  · simp
  · simp

theorem written_mergeText {texts : List String} (h : ∀ text ∈ texts, Written true text.toList) :
    Written true (mergeText texts).toList := by
  match texts with
  | [] => exact written_name (by decide)
  | [text] => exact h text List.mem_cons_self
  | first :: second :: rest =>
    rw [toList_mergeText]
    exact .merge (h first List.mem_cons_self)
      (written_later fun text mem => h text (List.mem_cons_of_mem _ mem))

mutual

theorem written_text : ∀ {series : Series}, series.isPlain = true →
    Written true (series.quoted none).toList
  | .name _, h => by
    rw [isPlain, decide_eq_true_eq] at h
    rw [quoted]
    exact written_name h
  | .pattern _, h => by
    rw [isPlain] at h
    rw [quoted]
    exact written_pattern h
  | .computed _, h => by
    rw [isPlain] at h
    cases h
  | .list _, h => by
    rw [isPlain] at h
    rw [quoted]
    exact written_mergeText (written_items h)

theorem written_items : ∀ {items : List Series}, arePlain items = true →
    ∀ text ∈ quotedItems none items, Written true text.toList
  | [], _ => by
    rw [quotedItems]
    simp
  | _ :: _, h => by
    rw [arePlain, Bool.and_eq_true] at h
    rw [quotedItems]
    intro text mem
    rcases List.mem_cons.mp mem with rfl | mem
    · exact written_text h.1
    · exact written_items h.2 text mem

end

/-- A plain series is read back from its text and anything that follows it. -/
theorem readable_text :
    Text.Readable (fun series : Series => series.text.toList) text (·.isPlain = true)
      (fun _ => True) := by
  intro a b x y ha hb _ _ h
  obtain ⟨same, rest⟩ := (written_text ha).eq_of_append (written_text hb) h
  exact ⟨String.toList_injective same, rest⟩

end Series

end Telemetry
