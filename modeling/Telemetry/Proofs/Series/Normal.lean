import Telemetry.Proofs.Series.Gathering
import Telemetry.Proofs.Series.Reading
import Telemetry.Proofs.Text.Quoted

/-!
# Normal forms of series

In normal form a list of one series is that series, an empty list is the empty name, the slashes of
a pattern are escaped, and a computed series is what it is when no point is written. Longer lists
stay nested as they are.

A series is written as its normal form is, and the normal form is known from the text. From the left
it is not: a name that ends in a backslash hides its closing quote, and what a name or a pattern
holds may look like a merge. Read from the right, though, every name, pattern and merge tells where
it begins. So series are equal just when their normal forms are the same.
-/

namespace Telemetry

/-- The same pattern with its bare slashes escaped. -/
def Pattern.normal (p : Pattern) : Pattern :=
  ⟨String.ofList (Text.slashed [] p.source.toList)⟩

theorem Pattern.toList_source_normal (p : Pattern) :
    p.normal.source.toList = Text.escapeSlashes false p.source.toList := by
  rw [normal, String.toList_ofList, Text.slashed_eq_escapeSlashes]
  rfl

namespace Series

/-- A list as one series, where it comes down to one. -/
def collapse : List Series → Series
  | [] => .name ""
  | [item] => item
  | items => .list items

mutual

def normal : Series → Series
  | .name text => .name text
  | .pattern p => .pattern p.normal
  | .computed resolve => (resolve none).normal
  | .list items => collapse (normalItems items)

def normalItems : List Series → List Series
  | [] => []
  | item :: rest => item.normal :: normalItems rest

end

theorem text_collapse (items : List Series) :
    (collapse items).text = mergeText (quotedItems none items) := by
  match items with
  | [] => rfl
  | [_] => rfl
  | _ :: _ :: _ => rfl

theorem literal_normal (p : Pattern) : p.normal.literal = p.literal := by
  rw [Pattern.literal, Pattern.literal, Text.quotePattern, Text.quotePattern,
    p.toList_source_normal, Text.escapeSlashes_idem]

mutual

/-- A series is written as its normal form. -/
theorem text_normal : ∀ s : Series, s.normal.text = s.text
  | .name _ => rfl
  | .pattern p => literal_normal p
  | .computed resolve => text_normal (resolve none)
  | .list items => by
    rw [normal, text_collapse, quotedItems_normalItems items]
    rfl

theorem quotedItems_normalItems : ∀ items : List Series,
    quotedItems none (normalItems items) = quotedItems none items
  | [] => rfl
  | item :: rest => by
    rw [normalItems, quotedItems, quotedItems, quotedItems_normalItems rest]
    exact congrArg (· :: quotedItems none rest) (text_normal item)

end

/-- How the series of a list are spelled: a single one, or what a merge begins with. -/
inductive Spells : Bool → List Series → List Char → Prop
  | name (text : String) :
      Spells true [.name text] ('"' :: Text.escape (· = '"') text.toList ++ ['"'])
  | pattern {p : Pattern} (guarded : Text.Guarded '/' false p.source.toList) :
      Spells true [.pattern p] ('/' :: p.source.toList ++ ['/'])
  | merge {items : List Series} {begun : List Char} (spelled : Spells false items begun) :
      Spells true [.list items] (begun ++ [')'])
  | first {item : Series} {text : List Char} (spelled : Spells true [item] text) :
      Spells false [item] ("merge(".toList ++ text)
  | next {items : List Series} {item : Series} {begun text : List Char}
      (before : Spells false items begun) (spelled : Spells true [item] text) :
      Spells false (items ++ [item]) (begun ++ ',' :: text)

/-- What stands before an item ends with a bracket or a comma, never with a backslash. -/
theorem getLast?_opened (before : List Char) :
    (before ++ "merge(".toList).getLast? ≠ some '\\' := by
  simp

theorem getLast?_comma (before : List Char) : (before ++ [',']).getLast? ≠ some '\\' := by
  simp

theorem opened_ne_comma (x y : List Char) : x ++ "merge(".toList ≠ y ++ [','] := by
  intro h
  have last := congrArg List.getLast? h
  simp at last

theorem append_comma (x begun text : List Char) :
    x ++ (begun ++ ',' :: text) = (x ++ begun ++ [',']) ++ text := by
  simp

/-- A spelling is read back from what ends with it. -/
theorem Spells.eq_of_append {kind : Bool} {as bs : List Series} {u v x y : List Char}
    (hu : Spells kind as u) (hv : Spells kind bs v) (hx : x.getLast? ≠ some '\\')
    (hy : y.getLast? ≠ some '\\') (h : x ++ u = y ++ v) : as = bs ∧ x = y := by
  induction hu generalizing bs v x y with
  | name text =>
    cases hv with
    | name text' =>
      obtain ⟨body, -⟩ := Text.eq_of_last h
      obtain ⟨before, same⟩ := (Text.guarded_escape_name false text.toList).eq_of_marked
        (Text.guarded_escape_name false text'.toList) hx hy body
      rw [String.toList_injective (Text.escape_injective same)]
      exact ⟨rfl, before⟩
    | pattern _ => exact absurd (Text.eq_of_last h).2 (by decide)
    | merge _ => exact absurd (Text.eq_of_last h).2 (by decide)
  | @pattern p guarded =>
    cases hv with
    | name _ => exact absurd (Text.eq_of_last h).2 (by decide)
    | @pattern q guarded' =>
      obtain ⟨body, -⟩ := Text.eq_of_last h
      obtain ⟨before, same⟩ := guarded.eq_of_marked guarded' hx hy body
      rw [show p = q from congrArg Pattern.mk (String.toList_injective same)]
      exact ⟨rfl, before⟩
    | merge _ => exact absurd (Text.eq_of_last h).2 (by decide)
  | merge _ ih =>
    cases hv with
    | name _ => exact absurd (Text.eq_of_last h).2 (by decide)
    | pattern _ => exact absurd (Text.eq_of_last h).2 (by decide)
    | merge spelled =>
      obtain ⟨items, before⟩ := ih spelled hx hy (Text.eq_of_last h).1
      exact ⟨by rw [items], before⟩
  | @first item text _ ih =>
    cases hv with
    | first spelled =>
      rw [← List.append_assoc, ← List.append_assoc] at h
      obtain ⟨same, before⟩ := ih spelled (getLast?_opened x) (getLast?_opened y) h
      exact ⟨same, List.append_cancel_right before⟩
    | @next _ _ begun _ _ spelled =>
      rw [← List.append_assoc, append_comma] at h
      obtain ⟨-, before⟩ := ih spelled (getLast?_opened x) (getLast?_comma (y ++ begun)) h
      exact absurd before (opened_ne_comma x _)
  | @next _ _ begun _ _ _ ihBefore ih =>
    cases hv with
    | first spelled =>
      rw [append_comma, ← List.append_assoc] at h
      obtain ⟨-, before⟩ := ih spelled (getLast?_comma (x ++ begun)) (getLast?_opened y) h
      exact absurd before.symm (opened_ne_comma y _)
    | @next _ _ begun' _ before' spelled =>
      rw [append_comma, append_comma] at h
      obtain ⟨item, before⟩ := ih spelled (getLast?_comma _) (getLast?_comma _) h
      obtain ⟨items, start⟩ := ihBefore before' hx hy (List.append_cancel_right before)
      exact ⟨by rw [items, item], start⟩

theorem spells_name (text : String) : Spells true [.name text] (Text.quoteName text).toList := by
  rw [Text.toList_quoteName]
  exact .name text

theorem spells_pattern (p : Pattern) : Spells true [.pattern p.normal] p.literal.toList := by
  have guarded : Text.Guarded '/' false p.normal.source.toList := by
    rw [p.toList_source_normal]
    exact Text.guarded_escapeSlashes id p.source.toList
  rw [Pattern.literal, Text.toList_quotePattern, ← p.toList_source_normal]
  exact .pattern guarded

mutual

/-- The text of a series spells its normal form. -/
theorem spells_normal : ∀ s : Series, Spells true [s.normal] s.text.toList
  | .name text => spells_name text
  | .pattern p => spells_pattern p
  | .computed resolve => spells_normal (resolve none)
  | .list [] => spells_name ""
  | .list [item] => spells_normal item
  | .list (first :: second :: rest) => by
    have merged := Spells.merge (spells_items (second :: rest) (.first (spells_normal first)))
    rw [List.append_assoc, List.append_assoc] at merged
    rw [text, quoted, quotedItems, quotedItems, toList_mergeText]
    exact merged

/-- The items that go on after a merge has begun. -/
theorem spells_items : ∀ (items : List Series) {before : List Series} {begun : List Char},
    Spells false before begun → Spells false (before ++ normalItems items)
      (begun ++ Text.listed [','] [','] String.toList (quotedItems none items))
  | [], before, begun, spelled => by
    rw [normalItems, quotedItems, Text.listed, List.append_nil, List.append_nil]
    exact spelled
  | item :: rest, before, begun, spelled => by
    have later := spells_items rest (.next spelled (spells_normal item))
    rw [List.append_assoc, List.append_assoc] at later
    exact later

end

/-- Series are equal just when they have the same normal form. -/
theorem equal_iff_normal {a b : Series} : a.equal b = true ↔ a.normal = b.normal := by
  rw [equal_iff]
  constructor
  · intro same
    have spelled : [] ++ a.text.toList = [] ++ b.text.toList := by rw [same]
    obtain ⟨normal, -⟩ :=
      (spells_normal a).eq_of_append (spells_normal b) (by decide) (by decide) spelled
    exact List.singleton_inj.mp normal
  · intro same
    rw [← text_normal a, same, text_normal b]

example : (list [list [name "a", name "b"], name "c"]).equal
    (list [name "a", name "b", name "c"]) = false := by
  decide

end Series

end Telemetry
