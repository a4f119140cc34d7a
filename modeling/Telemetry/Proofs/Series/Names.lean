import Telemetry.Proofs.Text.Quoted
import Telemetry.Relation

/-!
# Where a quoted name ends

Quoting a name puts a backslash before each of its quotes, but leaves its own backslashes as they
are. So a name that ends in a backslash holds the quote that should close it, and read from the left
the text goes on as a longer name. This is the only way in which one name is taken for another, and
a name that does not end in a backslash ends where it should.
-/

namespace Telemetry

namespace Text

/-- The name `m` before the text `t` reads as the name `n` before `u`: `m` ends in a backslash where
`n` has a quote, and what `n` goes on with is found in `t` up to the next bare quote. -/
def Swallows (m t n u : List Char) : Prop :=
  ∃ before after, m = before ++ ['\\'] ∧ n = before ++ '"' :: after ∧
    t = escape (· = '"') after ++ '"' :: u

theorem Swallows.cons {m t n u : List Char} (h : Swallows m t n u) (c : Char) :
    Swallows (c :: m) t (c :: n) u := by
  obtain ⟨before, after, rfl, rfl, rest⟩ := h
  exact ⟨c :: before, after, rfl, rfl, rest⟩

theorem Swallows.getLast? {m t n u : List Char} (h : Swallows m t n u) :
    m.getLast? = some '\\' := by
  obtain ⟨before, after, rfl, -, -⟩ := h
  exact List.getLast?_concat ..

theorem escape_name_quote (rest : List Char) :
    escape (· = '"') ('"' :: rest) = '\\' :: '"' :: escape (· = '"') rest :=
  rfl

theorem escape_name_cons_inj {c : Char} {m n x y : List Char}
    (h : escape (· = '"') (c :: m) ++ x = escape (· = '"') (c :: n) ++ y) :
    escape (· = '"') m ++ x = escape (· = '"') n ++ y := by
  rw [← List.singleton_append, ← List.singleton_append (l := n), escape_append,
    escape_append, List.append_assoc, List.append_assoc] at h
  exact List.append_cancel_left h

/-- No quoted name that has characters begins with the closing quote. -/
theorem escape_name_ne_quote (c : Char) (name x y : List Char) :
    escape (· = '"') (c :: name) ++ x ≠ '"' :: y := by
  intro begins
  by_cases quote : c = '"'
  · subst quote
    exact absurd (List.cons.inj begins).1 (by decide)
  · rw [escape_name_of_ne quote] at begins
    exact quote (List.cons.inj begins).1

/-- Where one name has a quote and the other something else, the other ends there. -/
theorem swallows_of_quote {c : Char} {m n t u : List Char} (other : c ≠ '"')
    (h : escape (· = '"') (c :: m) ++ '"' :: t = escape (· = '"') ('"' :: n) ++ '"' :: u) :
    Swallows (c :: m) t ('"' :: n) u := by
  rw [escape_name_of_ne other, escape_name_quote] at h
  obtain ⟨rfl, tails⟩ := List.cons.inj h
  cases m with
  | nil => exact ⟨[], n, rfl, rfl, (List.cons.inj tails).2⟩
  | cons d m => exact absurd tails (escape_name_ne_quote d m _ _)

theorem eq_or_swallows {m n t u : List Char}
    (h : escape (· = '"') m ++ '"' :: t = escape (· = '"') n ++ '"' :: u) :
    (m = n ∧ t = u) ∨ Swallows m t n u ∨ Swallows n u m t := by
  -- the names are read side by side, up to where they differ
  induction m generalizing n with
  | nil =>
    cases n with
    | nil => exact Or.inl ⟨rfl, (List.cons.inj h).2⟩
    | cons d n => exact absurd h.symm (escape_name_ne_quote d n _ _)
  | cons c m ih =>
    cases n with
    | nil => exact absurd h (escape_name_ne_quote c m _ _)
    | cons d n =>
      by_cases same : c = d
      · subst same
        rcases ih (escape_name_cons_inj h) with ⟨rfl, rest⟩ | longer | shorter
        · exact Or.inl ⟨rfl, rest⟩
        · exact Or.inr (Or.inl (longer.cons c))
        · exact Or.inr (Or.inr (shorter.cons c))
      · by_cases first : c = '"'
        · subst first
          exact Or.inr (Or.inr (swallows_of_quote (fun quote => same quote.symm) h.symm))
        · by_cases second : d = '"'
          · subst second
            exact Or.inr (Or.inl (swallows_of_quote first h))
          · rw [escape_name_of_ne first, escape_name_of_ne second] at h
            exact absurd (List.cons.inj h).1 same

theorem Swallows.escape_eq {m t n u : List Char} (h : Swallows m t n u) :
    escape (· = '"') m ++ '"' :: t = escape (· = '"') n ++ '"' :: u := by
  obtain ⟨before, after, rfl, rfl, rfl⟩ := h
  have held : escape (· = '"') ['\\'] = ['\\'] := rfl
  rw [escape_append, escape_append, held, escape_name_quote, List.append_assoc,
    List.append_assoc]
  rfl

theorem quoteName_append_eq_iff {m n t u : String} :
    quoteName m ++ t = quoteName n ++ u ↔
      (m = n ∧ t = u) ∨ Swallows m.toList t.toList n.toList u.toList ∨
        Swallows n.toList u.toList m.toList t.toList := by
  have bodies : quoteName m ++ t = quoteName n ++ u ↔
      escape (· = '"') m.toList ++ '"' :: t.toList =
        escape (· = '"') n.toList ++ '"' :: u.toList := by
    rw [← String.toList_inj, String.toList_append, String.toList_append, toList_quoteName,
      toList_quoteName]
    simp
  rw [bodies]
  constructor
  · intro h
    rcases eq_or_swallows h with ⟨same, rest⟩ | swallows
    · exact Or.inl ⟨String.toList_inj.mp same, String.toList_inj.mp rest⟩
    · exact Or.inr swallows
  · rintro (⟨rfl, rfl⟩ | longer | shorter)
    · rfl
    · exact longer.escape_eq
    · exact shorter.escape_eq.symm

end Text

namespace Series

/-- Two quoted names with something after them are one text exactly when the names and what follows
are the same, or one name ends in a backslash and swallows what follows it up to the end of the
other. Names that do not end in a backslash are told apart whatever follows. -/
theorem quoted_append_eq_iff (sample : Option Sample) (m n t u : String) :
    ((name m).quoted sample ++ t = (name n).quoted sample ++ u ↔
      (m = n ∧ t = u) ∨ Text.Swallows m.toList t.toList n.toList u.toList ∨
        Text.Swallows n.toList u.toList m.toList t.toList) ∧
    (m.toList.getLast? ≠ some '\\' → n.toList.getLast? ≠ some '\\' →
      ((name m).quoted sample ++ t = (name n).quoted sample ++ u ↔ m = n ∧ t = u)) := by
  have texts : (name m).quoted sample ++ t = (name n).quoted sample ++ u ↔ _ :=
    Text.quoteName_append_eq_iff
  refine ⟨texts, fun left right => texts.trans ?_⟩
  rw [or_iff_left_iff_imp]
  rintro (longer | shorter)
  · exact absurd longer.getLast? left
  · exact absurd shorter.getLast? right

/-- A name that is a backslash holds its closing quote: before another quote it is written as the
name that is a quote. Two relations of different series come to one statement in this way. -/
theorem backslash_read_as_quote :
    let r := ((Relation.new (.new (.name "\\"))).apply (.merge (.name " where (x"))).apply
      (.filter false "y" (.scalar (.integer 1)))
    let s := (Relation.new (.new (.name "\" merge "))).apply
      (.filter false "x\" where (y" (.scalar (.integer 1)))
    "\\" ≠ "\"" ∧ (name "\\").quoted none ++ "\"" = (name "\"").quoted none ++ "" ∧
      "\\" ≠ "\" merge " ∧ r.toSelect = s.toSelect := by
  intro r s
  refine ⟨by decide, rfl, by decide, rfl⟩

end Series

end Telemetry
