import Telemetry.Text.Quoted

/-!
# Quoted text closes itself

Each quoting ends at the first mark that no backslash holds. In a name every backslash holds what
comes after it; in a string value and in a pattern a backslash that is held itself does not. So a
string value always ends where it should, a name does unless it ends in a backslash, and a pattern
does unless it ends in an odd number of them.

Read from its end, a quoted name or pattern begins at the last mark before its closing one that no
backslash stands before: within it each mark has one there. This holds of every name and every
source, also of those that hide their closing mark from a reader that comes from the left.
-/

namespace Telemetry.Text

/-- Whether the next character of a name is held. -/
def holdsInName (_ : Bool) (c : Char) : Bool := c == '\\'

/-- Whether the next character of a string value or a pattern is held. -/
def holds (held : Bool) (c : Char) : Bool := c == '\\' && !held

/-- Characters among which no bare mark stands, and after which none is held. -/
def Inside (hold : Bool → Char → Bool) (mark : Char) : Bool → List Char → Prop
  | held, [] => held = false
  | held, c :: rest => (c = mark → held = true) ∧ Inside hold mark (hold held c) rest

/-- The first bare mark ends what is quoted. -/
theorem Inside.eq_of_marked {hold : Bool → Char → Bool} {mark : Char} {held : Bool}
    {u v x y : List Char} (hu : Inside hold mark held u) (hv : Inside hold mark held v)
    (h : u ++ mark :: x = v ++ mark :: y) : u = v ∧ x = y := by
  induction u generalizing v held with
  | nil =>
    have free : held = false := hu
    cases v with
    | nil => exact ⟨rfl, (List.cons.inj h).2⟩
    | cons d v =>
      have marked : d = mark := (List.cons.inj h).1.symm
      exact absurd (hv.1 marked) (by simp [free])
  | cons c u ih =>
    cases v with
    | nil =>
      have free : held = false := hv
      have marked : c = mark := (List.cons.inj h).1
      exact absurd (hu.1 marked) (by simp [free])
    | cons d v =>
      obtain ⟨head, tails⟩ := List.cons.inj h
      subst head
      obtain ⟨tail, rest⟩ := ih hu.2 hv.2 tails
      exact ⟨by rw [tail], rest⟩

theorem escape_name_of_ne {c : Char} {rest : List Char} (h : c ≠ '"') :
    escape (· = '"') (c :: rest) = c :: escape (· = '"') rest := by
  simp [escape, h]

theorem inside_escape_name {held : Bool} {name : List Char}
    (h : name.foldl holdsInName held = false) :
    Inside holdsInName '"' held (escape (· = '"') name) := by
  induction name generalizing held with
  | nil => exact h
  | cons c rest ih =>
    by_cases quote : c = '"'
    · subst quote
      have later : Inside holdsInName '"' false (escape (· = '"') rest) := ih h
      exact ⟨fun backslash => absurd backslash (by decide), fun _ => rfl, later⟩
    · rw [escape_name_of_ne quote]
      exact ⟨fun same => absurd same quote, ih h⟩

theorem foldl_holdsInName {name : List Char} (h : name.getLast? ≠ some '\\') :
    name.foldl holdsInName false = false := by
  rcases List.eq_nil_or_concat name with rfl | ⟨before, c, rfl⟩
  · rfl
  · have other : c ≠ '\\' := by simpa using h
    simp [holdsInName, other]

theorem toList_quoteName (name : String) :
    (quoteName name).toList = '"' :: (escape (· = '"') name.toList ++ ['"']) := by
  simp [quoteName]

theorem inside_escape_value (text : List Char) :
    Inside holds '\x27' false (escape (fun c => c = '\x27' || c = '\\') text) := by
  induction text with
  | nil => rfl
  | cons c rest ih =>
    by_cases quote : c = '\x27'
    · subst quote
      exact ⟨fun backslash => absurd backslash (by decide), fun _ => rfl, ih⟩
    · by_cases backslash : c = '\\'
      · subst backslash
        exact ⟨fun same => absurd same (by decide), fun same => absurd same (by decide), ih⟩
      · have bare : escape (fun c => c = '\x27' || c = '\\') (c :: rest) =
            c :: escape (fun c => c = '\x27' || c = '\\') rest := by
          simp [escape, quote, backslash]
        have free : holds false c = false := by simp [holds, backslash]
        rw [bare]
        refine ⟨fun same => absurd same quote, ?_⟩
        rw [free]
        exact ih

/-- No escaped text begins with a marked character, unless backslashes are marked. -/
theorem not_marked_of_escape {marked : Char → Bool} (h : marked '\\' = false) {v x : List Char}
    {c : Char} (begins : escape marked v = c :: x) : marked c = false := by
  cases v with
  | nil => cases begins
  | cons d v =>
    by_cases hd : marked d = true
    · rw [escape, if_pos hd] at begins
      exact (List.cons.inj begins).1 ▸ h
    · rw [escape, if_neg hd] at begins
      exact (List.cons.inj begins).1 ▸ Bool.eq_false_iff.mpr hd

/-- What backslashes are put before can be read back. -/
theorem escape_injective {marked : Char → Bool} {u v : List Char}
    (same : escape marked u = escape marked v) : u = v := by
  -- where one text has a marked character and the other a backslash, the next one tells them apart
  have differ {c : Char} {u v : List Char} (hc : marked c = true) (h : marked '\\' = false) :
      c :: u ≠ escape marked v := by
    intro begins
    rw [not_marked_of_escape h begins.symm] at hc
    cases hc
  induction u generalizing v with
  | nil =>
    cases v with
    | nil => rfl
    | cons d v => by_cases hd : marked d <;> simp [escape, hd] at same
  | cons c u ih =>
    cases v with
    | nil => by_cases hc : marked c <;> simp [escape, hc] at same
    | cons d v =>
      by_cases hc : marked c <;> by_cases hd : marked d <;> simp [escape, hc, hd] at same
      · rw [same.1, ih same.2]
      · exact absurd same.2 (differ hc (by rw [same.1]; simpa using hd))
      · exact absurd same.2.symm (differ hd (by rw [← same.1]; simpa using hc))
      · rw [same.1, ih same.2]

theorem quoteName_injective {m n : String} (same : quoteName m = quoteName n) : m = n := by
  have texts := congrArg String.toList same
  rw [toList_quoteName, toList_quoteName] at texts
  have bodies := List.append_cancel_right (List.cons.inj texts).2
  exact String.toList_injective (escape_injective bodies)

/-- A quoted name begins with its quote. -/
theorem quoteName_ne {c : Char} (other : c ≠ '"') {text : String} {rest : List Char}
    (begins : text.toList = c :: rest) (name : String) : text ≠ quoteName name := by
  rintro rfl
  rw [toList_quoteName] at begins
  exact other (List.cons.inj begins).1.symm

/-- What stands between the quotes of a string value. -/
def valueBody (text : String) : List Char :=
  escape (fun c => c = '\x27' || c = '\\') text.toList

theorem toList_quoteValue (text : String) :
    (quoteValue text).toList = '\x27' :: (valueBody text ++ ['\x27']) := by
  simp [quoteValue, valueBody]

theorem eq_of_quoteValue {s t : String} {x y : List Char}
    (h : (quoteValue s).toList ++ x = (quoteValue t).toList ++ y) : s = t ∧ x = y := by
  rw [toList_quoteValue, toList_quoteValue, List.cons_append, List.cons_append, List.append_assoc,
    List.append_assoc] at h
  obtain ⟨body, rest⟩ := Inside.eq_of_marked (inside_escape_value s.toList)
    (inside_escape_value t.toList) (List.cons.inj h).2
  exact ⟨String.toList_injective (escape_injective body), rest⟩

/-- A character other than a bare slash stays as it is. -/
theorem escapeSlashes_of_kept {held : Bool} {c : Char} {rest : List Char}
    (kept : ¬ (c = '/' ∧ held = false)) :
    escapeSlashes held (c :: rest) = c :: escapeSlashes (holds held c) rest := by
  rw [escapeSlashes, if_neg]
  · rfl
  · simpa using kept

/-- Slashes that are escaped already are left as they are. -/
theorem escapeSlashes_idem (held : Bool) (source : List Char) :
    escapeSlashes held (escapeSlashes held source) = escapeSlashes held source := by
  induction source generalizing held with
  | nil => rfl
  | cons c rest ih =>
    by_cases bare : c = '/' ∧ held = false
    · obtain ⟨rfl, rfl⟩ := bare
      have escaped : escapeSlashes false ('/' :: rest) =
          '\\' :: '/' :: escapeSlashes false rest := rfl
      rw [escaped, escapeSlashes_of_kept (by decide), escapeSlashes_of_kept (by decide)]
      exact congrArg (fun tail => '\\' :: '/' :: tail) (ih false)
    · rw [escapeSlashes_of_kept bare, escapeSlashes_of_kept bare, ih]

theorem inside_escapeSlashes {held : Bool} {source : List Char}
    (h : source.foldl holds held = false) :
    Inside holds '/' held (escapeSlashes held source) := by
  induction source generalizing held with
  | nil => exact h
  | cons c rest ih =>
    have later : Inside holds '/' (holds held c) (escapeSlashes (holds held c) rest) := ih h
    by_cases bare : c = '/' ∧ held = false
    · obtain ⟨rfl, rfl⟩ := bare
      exact ⟨fun backslash => absurd backslash (by decide), fun _ => rfl, later⟩
    · rw [escapeSlashes_of_kept bare]
      refine ⟨fun slash => ?_, later⟩
      by_cases free : held = false
      · exact absurd ⟨slash, free⟩ bare
      · simpa using free

/-- The length of the run of backslashes that a text ends in. -/
def trailingBackslashes (text : List Char) : Nat :=
  (text.reverse.takeWhile (· = '\\')).length

theorem foldl_holds_reverse (ending : List Char) :
    ending.reverse.foldl holds false =
      decide ((ending.takeWhile (· = '\\')).length % 2 = 1) := by
  induction ending with
  | nil => rfl
  | cons c before ih =>
    rw [List.reverse_cons, List.foldl_append, ih]
    by_cases backslash : c = '\\'
    · have longer : ((c :: before).takeWhile (· = '\\')).length =
          (before.takeWhile (· = '\\')).length + 1 := by
        simp [backslash]
      rw [longer]
      simp only [List.foldl_cons, List.foldl_nil, holds, backslash]
      by_cases odd : (before.takeWhile (· = '\\')).length % 2 = 1
      · simp [odd, show ((before.takeWhile (· = '\\')).length + 1) % 2 = 0 by omega]
      · simp [odd, show ((before.takeWhile (· = '\\')).length + 1) % 2 = 1 by omega]
    · simp [holds, backslash]

theorem foldl_holds (source : List Char) :
    source.foldl holds false = decide (trailingBackslashes source % 2 = 1) := by
  have ending := foldl_holds_reverse source.reverse
  rwa [List.reverse_reverse] at ending

/-- What follows `before`, with a backslash put before each slash that is not escaped: backslashes
that stand in front of it, if any, escape each other. -/
def slashed (before : List Char) : List Char → List Char
  | [] => []
  | c :: rest =>
    let later := c :: slashed (before ++ [c]) rest
    if c = '/' ∧ trailingBackslashes before % 2 = 0 then '\\' :: later else later

theorem slashed_eq_escapeSlashes (before rest : List Char) :
    slashed before rest = escapeSlashes (before.foldl holds false) rest := by
  induction rest generalizing before with
  | nil => rfl
  | cons c rest ih =>
    have held : (before ++ [c]).foldl holds false = holds (before.foldl holds false) c :=
      List.foldl_append
    have even : before.foldl holds false = false ↔ trailingBackslashes before % 2 = 0 := by
      rw [foldl_holds, decide_eq_false_iff_not]
      omega
    rw [slashed, ih, held]
    by_cases bare : c = '/' ∧ trailingBackslashes before % 2 = 0
    · obtain ⟨rfl, free⟩ := bare
      rw [if_pos ⟨rfl, free⟩, even.mpr free]
      rfl
    · rw [if_neg bare, escapeSlashes_of_kept]
      rintro ⟨slash, free⟩
      exact bare ⟨slash, even.mp free⟩

theorem toList_quotePattern (source : String) :
    (quotePattern source).toList = '/' :: (escapeSlashes false source.toList ++ ['/']) := by
  simp [quotePattern]

theorem inside_pattern {source : String} (h : trailingBackslashes source.toList % 2 = 0) :
    Inside holds '/' false (escapeSlashes false source.toList) := by
  refine inside_escapeSlashes ?_
  rw [foldl_holds]
  simp [h]

theorem eq_of_quotePattern {s t : String} {x y : List Char}
    (hs : trailingBackslashes s.toList % 2 = 0) (ht : trailingBackslashes t.toList % 2 = 0)
    (h : (quotePattern s).toList ++ x = (quotePattern t).toList ++ y) :
    quotePattern s = quotePattern t ∧ x = y := by
  rw [toList_quotePattern, toList_quotePattern, List.cons_append, List.cons_append,
    List.append_assoc, List.append_assoc] at h
  obtain ⟨body, rest⟩ :=
    Inside.eq_of_marked (inside_pattern hs) (inside_pattern ht) (List.cons.inj h).2
  refine ⟨String.toList_injective ?_, rest⟩
  rw [toList_quotePattern, toList_quotePattern, body]

theorem eq_of_last {c d : Char} {u v x y : List Char} (h : x ++ (u ++ [c]) = y ++ (v ++ [d])) :
    x ++ u = y ++ v ∧ c = d := by
  rw [← List.append_assoc, ← List.append_assoc] at h
  obtain ⟨before, last⟩ := List.append_inj' h rfl
  exact ⟨before, List.singleton_inj.mp last⟩

/-- Each mark stands right after a backslash; `after` tells whether one stands before the text. -/
def Guarded (mark : Char) : Bool → List Char → Prop
  | _, [] => True
  | after, c :: rest => (c = mark → after = true) ∧ Guarded mark (c == '\\') rest

variable {mark : Char} {after : Bool}

/-- A mark of a guarded text ends what goes before it with a backslash. -/
theorem Guarded.of_mark {before rest : List Char}
    (h : Guarded mark after (before ++ mark :: rest)) :
    before.getLast? = some '\\' ∨ before = [] ∧ after = true := by
  induction before generalizing after with
  | nil => exact Or.inr ⟨rfl, h.1 rfl⟩
  | cons c before ih =>
    left
    rcases ih h.2 with ends | ⟨rfl, backslash⟩
    · rw [List.getLast?_cons, ends]
      rfl
    · rw [eq_of_beq backslash]
      rfl

/-- What is cut off before a mark within a guarded text ends with a backslash. -/
theorem Guarded.ends_before {before rest after : List Char} {c : Char}
    (h : Guarded mark false (rest ++ mark :: after)) :
    (before ++ c :: rest).getLast? = some '\\' := by
  rcases h.of_mark with ends | ⟨-, backslash⟩
  · rw [List.getLast?_append, List.getLast?_cons, ends]
    rfl
  · cases backslash

/-- The last mark that is not preceded by a backslash begins what is quoted. -/
theorem Guarded.eq_of_marked {u v x y : List Char} (hu : Guarded mark false u)
    (hv : Guarded mark false v) (hx : x.getLast? ≠ some '\\') (hy : y.getLast? ≠ some '\\')
    (h : x ++ mark :: u = y ++ mark :: v) : x = y ∧ u = v := by
  rcases List.append_eq_append_iff.mp h with ⟨between, rfl, cut⟩ | ⟨between, rfl, cut⟩
  · cases between with
    | nil => exact ⟨(List.append_nil x).symm, (List.cons.inj cut).2⟩
    | cons c rest =>
      rw [(List.cons.inj cut).2] at hu
      exact absurd hu.ends_before hy
  · cases between with
    | nil => exact ⟨List.append_nil y, (List.cons.inj cut).2.symm⟩
    | cons c rest =>
      rw [(List.cons.inj cut).2] at hv
      exact absurd hv.ends_before hx

theorem guarded_escape_name (after : Bool) (name : List Char) :
    Guarded '"' after (escape (· = '"') name) := by
  induction name generalizing after with
  | nil => trivial
  | cons c rest ih =>
    by_cases quote : c = '"'
    · subst quote
      exact ⟨fun same => absurd same (by decide), fun _ => rfl, ih _⟩
    · rw [escape_name_of_ne quote]
      exact ⟨fun same => absurd same quote, ih _⟩

theorem guarded_escapeSlashes {held : Bool} (h : held = true → after = true)
    (source : List Char) : Guarded '/' after (escapeSlashes held source) := by
  induction source generalizing held after with
  | nil => trivial
  | cons c rest ih =>
    by_cases bare : c = '/' ∧ held = false
    · obtain ⟨rfl, rfl⟩ := bare
      exact ⟨fun same => absurd same (by decide), fun _ => rfl, ih (by decide)⟩
    · rw [escapeSlashes_of_kept bare]
      refine ⟨fun slash => h ?_, ih fun holding => (Bool.and_eq_true_iff.mp holding).1⟩
      cases held with
      | false => exact absurd ⟨slash, rfl⟩ bare
      | true => rfl

end Telemetry.Text
