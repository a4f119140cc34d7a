
/-!
# Framing

What is written for an item can be read back from a longer text when that text fixes where the item
ends: it goes on with a character the item cannot hold, or the item closes itself. A list of such
items, each but the first after a separator, is read back the same way, as long as what follows the
list is no further item.

An item is read up to a view of it, since different items may be written alike.
-/

namespace Telemetry.Text

variable {α β : Type}

/-- What follows a run of characters does not go on with one of them. -/
def Stops (p : Char → Bool) : List Char → Prop
  | [] => True
  | c :: _ => p c = false

theorem Stops.takeWhile {p : Char → Bool} {rest : List Char} (h : Stops p rest) :
    rest.takeWhile p = [] := by
  cases rest with
  | nil => rfl
  | cons c rest => exact List.takeWhile_cons_of_neg (Bool.eq_false_iff.mp h)

theorem eq_of_run {p : Char → Bool} {u v x y : List Char} (hu : ∀ c ∈ u, p c = true)
    (hv : ∀ c ∈ v, p c = true) (hx : Stops p x) (hy : Stops p y) (h : u ++ x = v ++ y) :
    u = v ∧ x = y := by
  have runs : (u ++ x).takeWhile p = (v ++ y).takeWhile p := congrArg (List.takeWhile p) h
  rw [List.takeWhile_append_of_pos hu, List.takeWhile_append_of_pos hv, hx.takeWhile, hy.takeWhile,
    List.append_nil, List.append_nil] at runs
  subst runs
  exact ⟨rfl, List.append_cancel_left h⟩

/-- An item and what is written after it are known from the two together, if what follows is as
`next` tells. -/
def Readable (write : α → List Char) (view : α → β) (ok : α → Prop) (next : List Char → Prop) :
    Prop :=
  ∀ ⦃a b : α⦄ ⦃x y : List Char⦄, ok a → ok b → next x → next y →
    write a ++ x = write b ++ y → view a = view b ∧ x = y

/-- Items of one class of characters are readable before any other character. -/
theorem readable_run {write : α → List Char} {view : α → β} {ok : α → Prop} {p : Char → Bool}
    (run : ∀ a, ok a → ∀ c ∈ write a, p c = true)
    (known : ∀ a b, ok a → ok b → write a = write b → view a = view b) :
    Readable write view ok (Stops p) := by
  intro a b x y ha hb hx hy h
  obtain ⟨same, rest⟩ := eq_of_run (run a ha) (run b hb) hx hy h
  exact ⟨known a b ha hb same, rest⟩

/-- Items one after another, the first after an opening and the others after a separator. -/
def listed (opening separator : List Char) (write : α → List Char) : List α → List Char
  | [] => []
  | a :: rest => opening ++ (write a ++ listed separator separator write rest)

theorem listed_cons_append (opening separator : List Char) (write : α → List Char) (a : α)
    (rest : List α) (x : List Char) :
    listed opening separator write (a :: rest) ++ x =
      opening ++ (write a ++ (listed separator separator write rest ++ x)) := by
  rw [listed, List.append_assoc, List.append_assoc]

theorem mem_of_mem_listed {opening separator : List Char} {write : α → List Char} {items : List α}
    {c : Char} (h : c ∈ listed opening separator write items) :
    c ∈ opening ∨ c ∈ separator ∨ ∃ a ∈ items, c ∈ write a := by
  induction items generalizing opening with
  | nil => cases h
  | cons a rest ih =>
    rcases List.mem_append.mp h with h | h
    · exact Or.inl h
    · rcases List.mem_append.mp h with h | h
      · exact Or.inr (Or.inr ⟨a, List.mem_cons_self, h⟩)
      · rcases ih h with h | h | ⟨b, mem, h⟩
        · exact Or.inr (Or.inl h)
        · exact Or.inr (Or.inl h)
        · exact Or.inr (Or.inr ⟨b, List.mem_cons_of_mem _ mem, h⟩)

theorem listed_map (opening separator : List Char) (write : β → List Char) (f : α → β)
    (items : List α) :
    listed opening separator write (items.map f) = listed opening separator (write ∘ f) items := by
  induction items generalizing opening with
  | nil => rfl
  | cons a rest ih =>
    rw [List.map_cons, listed, ih]
    rfl

theorem listed_eq_flatMap (separator : List Char) (write : α → List Char) (items : List α) :
    listed separator separator write items = items.flatMap (separator ++ write ·) := by
  induction items with
  | nil => rfl
  | cons a rest ih => rw [listed, ih, List.flatMap_cons, List.append_assoc]

/-- Items that are lists of items themselves, written with the same separator, are one list. -/
theorem listed_flatten {opening separator : List Char} {write : List α → List Char}
    {writeItem : α → List Char} {groups : List (List α)}
    (grouped : ∀ group ∈ groups,
      group ≠ [] ∧ write group = listed [] separator writeItem group) :
    listed opening separator write groups = listed opening separator writeItem groups.flatten := by
  induction groups generalizing opening with
  | nil => rfl
  | cons group rest ih =>
    obtain ⟨filled, written⟩ := grouped group List.mem_cons_self
    obtain ⟨first, others, rfl⟩ := List.exists_cons_of_ne_nil filled
    have later : listed separator separator writeItem (others ++ rest.flatten) =
        listed separator separator writeItem others ++
          listed separator separator writeItem rest.flatten := by
      rw [listed_eq_flatMap, listed_eq_flatMap, listed_eq_flatMap, List.flatMap_append]
    rw [listed, written, ih fun other mem => grouped other (List.mem_cons_of_mem _ mem), listed,
      List.flatten_cons, List.cons_append, listed, later, List.nil_append, List.append_assoc]

/-- Where nothing is kept of openings and separators, what is kept is kept of the items. -/
theorem filter_listed {p : Char → Bool} {opening separator : List Char} (write : α → List Char)
    (opened : opening.filter p = []) (separated : separator.filter p = []) (items : List α) :
    (listed opening separator write items).filter p = items.flatMap fun a => (write a).filter p := by
  induction items generalizing opening with
  | nil => rfl
  | cons a rest ih =>
    rw [listed, List.filter_append, List.filter_append, opened, ih separated, List.flatMap_cons,
      List.nil_append]

theorem toList_intercalate_cons (separator a : String) (rest : List String) :
    (separator.intercalate (a :: rest)).toList =
      a.toList ++ listed separator.toList separator.toList String.toList rest := by
  rw [String.toList_intercalate]
  induction rest generalizing a with
  | nil => simp [listed]
  | cons b rest ih =>
    have later := ih b
    rw [List.map_cons] at later
    rw [List.map_cons, List.map_cons, List.intercalate_cons_cons, later]
    simp [listed]

theorem toList_intercalate (separator : String) (items : List String) :
    (separator.intercalate items).toList =
      listed [] separator.toList String.toList items := by
  cases items with
  | nil => rfl
  | cons a rest => rw [toList_intercalate_cons, listed, List.nil_append]

/-- A list of readable items is readable where what follows it cannot be taken for an item. -/
theorem readable_listed {write : α → List Char} {view : α → β} {ok : α → Prop}
    {next after : List Char → Prop} {opening separator : List Char}
    (item : Readable write view ok next) (goesOn : ∀ x, next (separator ++ x))
    (ends : ∀ x, after x → next x)
    (first : ∀ a x, ok a → ¬ after (opening ++ (write a ++ x)))
    (later : ∀ a x, ok a → ¬ after (separator ++ (write a ++ x))) :
    Readable (listed opening separator write) (List.map view) (∀ a ∈ ·, ok a) after := by
  have followed {items : List α} {x : List Char} (hx : after x) :
      next (listed separator separator write items ++ x) := by
    cases items with
    | nil => exact ends x hx
    | cons a rest =>
      rw [listed_cons_append]
      exact goesOn _
  intro as bs x y has hbs hx hy h
  induction as generalizing bs opening with
  | nil =>
    cases bs with
    | nil => exact ⟨rfl, h⟩
    | cons b bs =>
      rw [listed_cons_append, listed, List.nil_append] at h
      exact absurd (h ▸ hx) (first b _ (hbs b List.mem_cons_self))
  | cons a as ih =>
    cases bs with
    | nil =>
      rw [listed_cons_append, listed, List.nil_append] at h
      exact absurd (h ▸ hy) (first a _ (has a List.mem_cons_self))
    | cons b bs =>
      rw [listed_cons_append, listed_cons_append] at h
      obtain ⟨head, tails⟩ := item (has a List.mem_cons_self) (hbs b List.mem_cons_self)
        (followed hx) (followed hy) (List.append_cancel_left h)
      obtain ⟨tail, rest⟩ := ih later (fun a ha => has a (List.mem_cons_of_mem _ ha))
        (fun b hb => hbs b (List.mem_cons_of_mem _ hb)) tails
      exact ⟨by rw [List.map_cons, List.map_cons, head, tail], rest⟩

end Telemetry.Text
