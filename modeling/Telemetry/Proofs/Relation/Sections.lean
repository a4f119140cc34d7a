import Telemetry.Proofs.Relation.Selection

/-!
# Sections of a statement

A statement is its selection and its sections in a fixed order, each of them with an opening of its
own after a blank. The first letters of the openings differ, so from where the statement stands it
is known which sections are left out.
-/

namespace Telemetry.Relation

open Text (isBare isWord Stops Readable listed)

/-- What the `where` section is made of, the window last. -/
def groups (r : Relation) : List Group :=
  r.clauses.map Sum.inl ++ r.window.toList.map Sum.inr

def targetsText (r : Relation) : List Char :=
  listed " merge ".toList " merge ".toList (fun s : Series => s.text.toList) r.targets

def groupsText (r : Relation) : List Char :=
  listed " where ".toList " and ".toList (fun g : Group => g.text.toList) r.groups

def termsText (r : Relation) : List Char :=
  listed " group by ".toList ",".toList String.toList r.groupTerms

def fillText (r : Relation) : List Char :=
  listed " fill(".toList " fill(".toList (fun f : Fill => f.text.toList ++ [')'])
    r.grouping.fill.toList

def limitText (r : Relation) : List Char :=
  listed " limit ".toList " limit ".toList (fun n : Nat => (toString n).toList) r.limit.toList

def offsetText (r : Relation) : List Char :=
  listed " offset ".toList " offset ".toList (fun n : Nat => (toString n).toList) r.offset.toList

theorem conditions_eq (r : Relation) : r.conditions = r.groups.map Group.text := by
  rw [conditions, groups, List.map_append, List.map_append, List.map_map]
  cases r.window <;> rfl

/-- A blank before each section. -/
def spaced (sections : List String) : List Char := sections.flatMap ([' '] ++ ·.toList)

theorem spaced_append (first second : List String) :
    spaced (first ++ second) = spaced first ++ spaced second :=
  List.flatMap_append

theorem spaced_sectionOf (opening separator : String) (items : List String) :
    spaced (sectionOf opening separator items) =
      listed (' ' :: (opening.toList ++ [' '])) separator.toList String.toList items := by
  cases items with
  | nil => rfl
  | cons item rest =>
    have one : sectionOf opening separator (item :: rest) =
        [opening ++ " " ++ separator.intercalate (item :: rest)] := rfl
    rw [one, spaced, List.flatMap_singleton, String.toList_append, String.toList_append,
      Text.toList_intercalate_cons, listed]
    simp

theorem spaced_map {α : Type} (items : List α) {write : α → String} {opening : List Char}
    {text : α → List Char} (h : ∀ a, ' ' :: (write a).toList = opening ++ text a) :
    spaced (items.map write) = listed opening opening text items := by
  rw [spaced, List.flatMap_map, Text.listed_eq_flatMap]
  exact congrArg items.flatMap (funext h)

theorem spaced_option {α : Type} (item : Option α) {write : α → String} {opening : List Char}
    {text : α → List Char} (h : ∀ a, ' ' :: (write a).toList = opening ++ text a) :
    spaced (item.map write).toList = listed opening opening text item.toList := by
  rw [Option.toList_map]
  exact spaced_map item.toList h

theorem spaced_sections (r : Relation) :
    spaced r.sections = " from ".toList ++ (r.series.text.toList ++ (r.targetsText ++
      (r.groupsText ++ (r.termsText ++ (r.fillText ++ (r.limitText ++ r.offsetText)))))) := by
  have prefixed (opening text : String) :
      ' ' :: (opening ++ text).toList = (' ' :: opening.toList) ++ text.toList := by
    rw [String.toList_append, List.cons_append]
  have source : spaced ["from " ++ r.series.text] = " from ".toList ++ r.series.text.toList := by
    rw [spaced, List.flatMap_singleton]
    exact prefixed "from " r.series.text
  have targets : spaced (r.targets.map ("merge " ++ ·.text)) = r.targetsText :=
    spaced_map r.targets fun s => prefixed "merge " s.text
  have groups : spaced (sectionOf "where" " and " r.conditions) = r.groupsText := by
    rw [spaced_sectionOf, conditions_eq, Text.listed_map]
    rfl
  have terms : spaced (sectionOf "group by" "," r.groupTerms) = r.termsText :=
    spaced_sectionOf "group by" "," r.groupTerms
  have fill : spaced (r.grouping.fill.map fun f => "fill(" ++ f.text ++ ")").toList =
      r.fillText := by
    refine spaced_option r.grouping.fill fun f => ?_
    rw [String.append_assoc, prefixed, String.toList_append]
    rfl
  have limit : spaced (r.limit.map fun n => "limit " ++ toString n).toList = r.limitText :=
    spaced_option r.limit fun n => prefixed "limit " (toString n)
  have offset : spaced (r.offset.map fun n => "offset " ++ toString n).toList = r.offsetText :=
    spaced_option r.offset fun n => prefixed "offset " (toString n)
  rw [sections, spaced_append, spaced_append, spaced_append, spaced_append, spaced_append,
    spaced_append, source, targets, groups, terms, fill, limit, offset]
  simp only [List.append_assoc]

theorem toList_selectStatement (r : Relation) :
    r.selectStatement.toList = "select ".toList ++ (r.selection.toList ++ (" from ".toList ++
      (r.series.text.toList ++ (r.targetsText ++ (r.groupsText ++ (r.termsText ++
        (r.fillText ++ (r.limitText ++ r.offsetText)))))))) := by
  have rest : listed " ".toList " ".toList String.toList (r.selection :: r.sections) =
      ' ' :: (r.selection.toList ++ spaced r.sections) := by
    rw [listed, Text.listed_eq_flatMap]
    rfl
  rw [selectStatement, Text.toList_intercalate_cons, rest, spaced_sections]
  rfl

/-- The rest of a statement: nothing, or a blank and a section that begins with one of the
letters. -/
def Opens (letters : List Char) : List Char → Prop
  | [] => True
  | [_] => False
  | blank :: letter :: _ => blank = ' ' ∧ letter ∈ letters

theorem Opens.mono {letters letters' : List Char} (h : letters ⊆ letters') {x : List Char}
    (hx : Opens letters x) : Opens letters' x := by
  match x, hx with
  | [], _ => trivial
  | _ :: _ :: _, hx => exact ⟨hx.1, h hx.2⟩

theorem opens_listed {α : Type} {letters opening separator : List Char} {write : α → List Char}
    {items : List α} {x : List Char} (begins : ∀ z, Opens letters (opening ++ z))
    (hx : Opens letters x) : Opens letters (listed opening separator write items ++ x) := by
  cases items with
  | nil => exact hx
  | cons a rest =>
    rw [Text.listed_cons_append]
    exact begins _

/-- A section is known where neither its opening nor its separator can follow. -/
theorem readable_section {α β : Type} {write : α → List Char} {view : α → β} {ok : α → Prop}
    {next : List Char → Prop} {letters opening separator : List Char}
    (item : Readable write view ok next) (new : ∀ z, ¬ Opens letters (opening ++ z))
    (apart : ∀ z, ¬ Opens letters (separator ++ z)) (goesOn : ∀ z, next (separator ++ z))
    (ends : ∀ z, Opens letters z → next z) :
    Readable (listed opening separator write) (List.map view) (∀ a ∈ ·, ok a)
      (Opens letters) :=
  Text.readable_listed item goesOn ends (fun _ _ _ => new _) (fun _ _ _ => apart _)

theorem eq_of_toList {α : Type} {first second : Option α} (h : first.toList = second.toList) :
    first = second := by
  rw [← Option.head?_toList (o := first), h, Option.head?_toList]

/-- A section that is written once if at all. -/
theorem readable_option {α : Type} {write : α → List Char} {ok : α → Prop}
    {next : List Char → Prop} {letters opening : List Char} (item : Readable write id ok next)
    (new : ∀ z, ¬ Opens letters (opening ++ z)) (goesOn : ∀ z, next (opening ++ z))
    (ends : ∀ z, Opens letters z → next z) :
    Readable (fun given : Option α => listed opening opening write given.toList) id
      (∀ a ∈ ·, ok a) (Opens letters) := by
  intro first second x y hfirst hsecond hx hy h
  have known := readable_section item new new goesOn ends
  obtain ⟨same, rest⟩ := known (fun a mem => hfirst a (Option.mem_toList.mp mem))
    (fun a mem => hsecond a (Option.mem_toList.mp mem)) hx hy h
  rw [List.map_id, List.map_id] at same
  exact ⟨eq_of_toList same, rest⟩

theorem Opens.stops {letters : List Char} {p : Char → Bool} (blank : p ' ' = false)
    {x : List Char} (hx : Opens letters x) : Stops p x := by
  match x, hx with
  | [], _ => trivial
  | _ :: _ :: _, hx =>
    rw [hx.1]
    exact blank

end Telemetry.Relation
