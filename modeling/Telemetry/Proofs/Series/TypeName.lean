import Telemetry.Measurement
import Telemetry.Proofs.Series.SnakeCase

/-!
# Series names of type names

The series of a type is named by the words of the type's name, whatever way they are joined there.
Taken as the name of a type, a series name is its own. It is empty only for pairs of colons, alone
or before the ending: the ending is dropped wherever something is left of the name, even if what is
left holds no word.
-/

namespace Telemetry

namespace TypeName

open Text (isUpper listed)

/-- What is left of a type name without its ending, the whole name where nothing would be left. -/
inductive Base : String → String → Prop
  | dropped {base : String} (left : base ≠ "") : Base (base ++ "Metrics") base
  | whole {name : String} (unended : ∀ base, base ≠ "" → name ≠ base ++ "Metrics") : Base name name

theorem exists_base (name : String) : ∃ base, Base name base := by
  by_cases ended : ∃ base, base ≠ "" ∧ name = base ++ "Metrics"
  · obtain ⟨base, left, rfl⟩ := ended
    exact ⟨base, .dropped left⟩
  · exact ⟨name, .whole fun base left same => ended ⟨base, left, same⟩⟩

variable {name base : String}

theorem stem_append {start : List Char} (left : start ≠ []) : stem (start ++ ending) = start := by
  have ends : ending.isSuffixOf (start ++ ending) = true :=
    List.isSuffixOf_iff_suffix.mpr (List.suffix_append _ _)
  have length : (start ++ ending).length = start.length + ending.length := List.length_append
  have longer : (start ++ ending).length ≠ ending.length := by
    have filled := List.length_pos_iff.mpr left
    omega
  rw [stem, if_pos (Bool.and_eq_true_iff.mpr ⟨ends, decide_eq_true longer⟩), length,
    Nat.add_sub_cancel, List.take_left]

theorem stem_of_unended {text : List Char}
    (unended : ∀ start, start ≠ [] → text ≠ start ++ ending) : stem text = text := by
  rw [stem, if_neg]
  intro ended
  obtain ⟨ends, longer⟩ := Bool.and_eq_true_iff.mp ended
  obtain ⟨start, same⟩ := List.isSuffixOf_iff_suffix.mp ends
  refine unended start ?_ same.symm
  rintro rfl
  exact of_decide_eq_true longer (congrArg List.length same.symm)

theorem Base.stem_eq (h : Base name base) : stem name.toList = base.toList := by
  cases h with
  | dropped left =>
    rw [String.toList_append]
    exact stem_append fun none => left (String.toList_injective none)
  | whole unended =>
    refine stem_of_unended fun start left same => unended (String.ofList start) ?_ ?_
    · rintro none
      exact left (String.ofList_injective none)
    · rw [← String.toList_inj, String.toList_append, String.toList_ofList, same]
      rfl

theorem Base.mem (h : Base name base) {c : Char} (mem : c ∈ base.toList) : c ∈ name.toList := by
  cases h with
  | dropped left =>
    rw [String.toList_append]
    exact List.mem_append_left _ mem
  | whole unended => exact mem

/-- The segments that hold something. -/
def words (base : String) : List (List Char) := (segments base.toList).filter (· ≠ [])

theorem Base.toList_seriesName (h : Base name base) :
    (seriesName name).toList = listed [] ['_'] (snakeCase none) (words base) := by
  have written : String.toList ∘ (fun word => String.ofList (snakeCase none word)) =
      snakeCase none := by
    funext word
    exact String.toList_ofList
  rw [seriesName, h.stem_eq, Text.toList_intercalate, Text.listed_map, written]
  rfl

theorem words_eq_nil_iff :
    words base = [] ↔ ∃ pairs, base.toList = List.replicate (2 * pairs) ':' := by
  rw [← segments_all_empty_iff, words, List.filter_eq_nil_iff]
  simp

theorem Base.seriesName_eq_empty_iff (h : Base name base) :
    seriesName name = "" ↔ ∃ pairs, base.toList = List.replicate (2 * pairs) ':' := by
  rw [← words_eq_nil_iff, ← String.toList_inj, h.toList_seriesName]
  constructor
  · intro empty
    cases held : words base with
    | nil => rfl
    | cons word rest =>
      rw [held] at empty
      have filled : word ≠ [] := by
        have mem : word ∈ words base := held ▸ List.mem_cons_self
        simpa using (List.mem_filter.mp mem).2
      have none : snakeCase none word = [] :=
        (List.append_eq_nil_iff.mp (List.append_eq_nil_iff.mp empty).2).1
      exact absurd none (snakeCase_ne_nil filled _)
  · intro none
    rw [none]
    rfl

theorem seriesName_eq_empty_iff (typeName : String) :
    seriesName typeName = "" ↔
      ∃ pairs, typeName.toList = List.replicate (2 * pairs) ':' ∨
        (0 < pairs ∧ typeName.toList = List.replicate (2 * pairs) ':' ++ "Metrics".toList) := by
  obtain ⟨base, based⟩ := exists_base typeName
  rw [based.seriesName_eq_empty_iff]
  cases based with
  | dropped left =>
    constructor
    · rintro ⟨pairs, colons⟩
      have some : pairs ≠ 0 := by
        rintro rfl
        exact left (String.toList_injective colons)
      exact ⟨pairs, Or.inr ⟨Nat.pos_of_ne_zero some, by rw [String.toList_append, colons]⟩⟩
    · rintro ⟨pairs, alone | ⟨-, ended⟩⟩
      · have held : 'M' ∈ (base ++ "Metrics").toList := by simp
        rw [alone] at held
        exact absurd (List.eq_of_mem_replicate held) (by decide)
      · rw [String.toList_append] at ended
        exact ⟨pairs, List.append_cancel_right ended⟩
  | whole unended =>
    constructor
    · rintro ⟨pairs, alone⟩
      exact ⟨pairs, Or.inl alone⟩
    · rintro ⟨pairs, alone | ⟨some, ended⟩⟩
      · exact ⟨pairs, alone⟩
      · have several : 2 * pairs ≠ 0 := by omega
        have left : String.ofList (List.replicate (2 * pairs) ':') ≠ "" := by simpa using several
        refine absurd (String.toList_injective ?_) (unended _ left)
        rw [String.toList_append, String.toList_ofList, ended]

/-- The series of a measurement that is named after a type is empty just when the type's name is
made of pairs of colons, alone or, at least one, before the ending. Of the names that hold anything
but colons only the latter have an empty series. -/
theorem empty_series_iff (typeName : String) :
    ((Measurement.new (Series.ofTypeName typeName)).series = .name "" ↔
      ∃ pairs, typeName.toList = List.replicate (2 * pairs) ':' ∨
        (0 < pairs ∧ typeName.toList = List.replicate (2 * pairs) ':' ++ "Metrics".toList)) ∧
    ((∃ c ∈ typeName.toList, c ≠ ':') →
      (seriesName typeName ≠ "" ↔ ∀ pairs, 0 < pairs →
        typeName.toList ≠ List.replicate (2 * pairs) ':' ++ "Metrics".toList)) := by
  have empty := seriesName_eq_empty_iff typeName
  constructor
  · have named : (Measurement.new (Series.ofTypeName typeName)).series = .name "" ↔
        seriesName typeName = "" := Series.name.injEq _ _ ▸ Iff.rfl
    rw [named, empty]
  · rintro ⟨c, held, other⟩
    rw [Ne, empty, not_exists]
    constructor
    · intro filled pairs some ended
      exact filled pairs (Or.inr ⟨some, ended⟩)
    · rintro unended pairs (alone | ⟨some, ended⟩)
      · rw [alone] at held
        exact other (List.eq_of_mem_replicate held)
      · exact unended pairs some ended

/-- One pair of colons before the ending: something is left of the name, but it holds no word. -/
theorem no_word_before_ending :
    (∃ c ∈ "::Metrics".toList, c ≠ ':') ∧ seriesName "::Metrics" = "" ∧
      (Measurement.new (Series.ofTypeName "::Metrics")).series = .name "" :=
  ⟨⟨'M', by decide, by decide⟩, by decide, congrArg Series.name (by decide)⟩

theorem empty_series_iff_namespace :
    (Measurement.new (Series.ofTypeName "::::Metrics")).series = .name "" ∧
    (∃ c ∈ "Admin::Metrics".toList, c ≠ ':') ∧ seriesName "Admin::Metrics" ≠ "" := by
  obtain ⟨colons, -⟩ := empty_series_iff "::::Metrics"
  obtain ⟨-, filled⟩ := empty_series_iff "Admin::Metrics"
  have held : ∃ c ∈ "Admin::Metrics".toList, c ≠ ':' := ⟨'A', by decide, by decide⟩
  refine ⟨colons.mpr ⟨2, Or.inr ⟨by decide, by decide⟩⟩, held, (filled held).mpr ?_⟩
  rintro (_ | pairs) some ended
  · cases some
  · exact absurd (List.cons.inj ended).1 (by decide)

/-- Segments of a namespace, each of words in camel case. -/
def namespaced (segments : List (List String)) : String := "::".intercalate (segments.map camelCase)

theorem camelCase_ne_nil {words : List String} (filled : words ≠ [])
    (small : ∀ word ∈ words, isSmallWord word = true) : (camelCase words).toList ≠ [] := by
  intro none
  obtain ⟨word, rest, rfl⟩ := List.exists_cons_of_ne_nil filled
  obtain ⟨first, second, others, letters, -, -⟩ :=
    isSmallWord_iff.mp (small word List.mem_cons_self)
  rw [camelCase, List.map_cons, String.join_cons, String.toList_append, capitalized,
    String.toList_ofList, letters] at none
  cases none

theorem words_namespaced {segments : List (List String)} (filled : segments ≠ [])
    (small : ∀ words ∈ segments, words ≠ [] ∧ ∀ word ∈ words, isSmallWord word = true) :
    words (namespaced segments) = segments.map (String.toList ∘ camelCase) := by
  obtain ⟨first, others, rfl⟩ := List.exists_cons_of_ne_nil filled
  have joined : (namespaced (first :: others)).toList = (camelCase first).toList ++
      listed [':', ':'] [':', ':'] (String.toList ∘ camelCase) others := by
    rw [namespaced, List.map_cons, Text.toList_intercalate_cons, Text.listed_map]
    rfl
  have plain (segment : List String) (mem : segment ∈ first :: others) :
      ':' ∉ (String.toList ∘ camelCase) segment := no_colon_in_camelCase (small segment mem).2
  have cut : TypeName.segments (namespaced (first :: others)).toList =
      (first :: others).map (String.toList ∘ camelCase) := by
    rw [joined]
    exact segments_listed first others plain
  rw [words, cut]
  refine List.filter_eq_self.mpr fun word mem => ?_
  obtain ⟨segment, given, rfl⟩ := List.mem_map.mp mem
  exact decide_eq_true (camelCase_ne_nil (small segment given).1 (small segment given).2)

/-- Words in camel case, in segments of a namespace and before the ending, are the words of the
series name. -/
theorem seriesName_namespaced {segments : List (List String)} (filled : segments ≠ [])
    (small : ∀ words ∈ segments, words ≠ [] ∧ ∀ word ∈ words, isSmallWord word = true) :
    seriesName (namespaced segments ++ "Metrics") = "_".intercalate segments.flatten := by
  have held := words_namespaced filled small
  have some : namespaced segments ≠ "" := by
    intro none
    rw [none] at held
    exact filled (List.map_eq_nil_iff.mp held.symm)
  rw [← String.toList_inj, (Base.dropped some).toList_seriesName, held, Text.listed_map,
    Text.toList_intercalate]
  refine Text.listed_flatten fun segment mem => ⟨(small segment mem).1, ?_⟩
  exact snakeCase_camelCase (small segment mem).2 fun _ none => nomatch none

example : seriesName "Admin::HTTPRequestsMetrics" = "admin_http_requests" := by decide

/-- What stands between the words of a name. -/
def isSeparator (c : Char) : Bool := c = '_' || c = ':'

def letters (name : String) : List Char := name.toList.filter (!isSeparator ·)

/-- Segments that hold nothing add nothing. -/
theorem flatMap_words {f : List Char → List Char} (nothing : f [] = []) (base : String) :
    (words base).flatMap f = (segments base.toList).flatMap f := by
  unfold words
  induction segments base.toList with
  | nil => rfl
  | cons word rest ih =>
    by_cases empty : word = []
    · rw [List.filter_cons_of_neg (by simpa using empty), ih, List.flatMap_cons, empty, nothing,
        List.nil_append]
    · rw [List.filter_cons_of_pos (by simpa using empty), List.flatMap_cons, ih, List.flatMap_cons]

theorem unpaired_listed {words : List (List Char)} {write : List Char → List Char}
    (unpaired : ∀ word ∈ words, Unpaired (write word)) :
    Unpaired (listed [] ['_'] write words) := by
  have later {words : List (List Char)} (unpaired : ∀ word ∈ words, Unpaired (write word)) :
      Unpaired (listed ['_'] ['_'] write words) ∧
        (listed ['_'] ['_'] write words).head? ≠ some ':' := by
    induction words with
    | nil => exact ⟨.nil, fun none => nomatch none⟩
    | cons word rest ih =>
      obtain ⟨others, apart⟩ := ih fun other mem => unpaired other (List.mem_cons_of_mem _ mem)
      have tail := (unpaired word List.mem_cons_self).append others apart
      refine ⟨List.isChain_cons.mpr ⟨fun d _ colon => absurd colon (by decide), tail⟩, ?_⟩
      intro begins
      exact absurd (Option.some.inj begins) (by decide)
  cases words with
  | nil => exact .nil
  | cons word rest =>
    obtain ⟨others, apart⟩ := later fun other mem => unpaired other (List.mem_cons_of_mem _ mem)
    exact (unpaired word List.mem_cons_self).append others apart

section Ascii

variable (ascii : ∀ c ∈ name.toList, c.toNat < 128)

include ascii

theorem Base.ascii_of_mem_words (h : Base name base) {word : List Char} (mem : word ∈ words base) :
    ∀ c ∈ word, c.toNat < 128 :=
  fun c held => ascii c (h.mem (mem_of_mem_segments (List.mem_filter.mp mem).1 held))

theorem isUpper_of_mem_seriesName {c : Char} (mem : c ∈ (seriesName name).toList) :
    isUpper c = false := by
  obtain ⟨base, based⟩ := exists_base name
  rw [based.toList_seriesName] at mem
  rcases Text.mem_of_mem_listed mem with none | underscore | ⟨word, given, held⟩
  · cases none
  · rw [List.mem_singleton.mp underscore]
    decide
  · exact isUpper_of_mem_snakeCase (based.ascii_of_mem_words ascii given) held

theorem unpaired_seriesName : Unpaired (seriesName name).toList := by
  obtain ⟨base, based⟩ := exists_base name
  rw [based.toList_seriesName]
  refine unpaired_listed fun word mem => ?_
  exact unpaired_snakeCase (based.ascii_of_mem_words ascii mem)
    (unpaired_of_mem_segments (List.mem_filter.mp mem).1) none

/-- Separators apart, a series name is its type's name without the ending, in lower case. -/
theorem Base.letters_eq (h : Base name base) : letters (seriesName name) = letters base.toLower := by
  have lower : base.toLower.toList = base.toList.map Char.toLower := String.toList_map
  calc letters (seriesName name)
      = (words base).flatMap fun word => (snakeCase none word).filter (!isSeparator ·) := by
        rw [letters, h.toList_seriesName, Text.filter_listed _ rfl rfl]
    _ = (words base).flatMap fun word => (word.map Char.toLower).filter (!isSeparator ·) :=
        List.flatMap_congr fun word mem =>
          filter_snakeCase rfl (h.ascii_of_mem_words ascii mem) none
    _ = (segments base.toList).flatMap fun word =>
          (word.filter (!isSeparator ·.toLower)).map Char.toLower := by
        rw [flatMap_words rfl]
        exact List.flatMap_congr fun word _ => List.filter_map
    _ = (base.toList.filter (!isSeparator ·.toLower)).map Char.toLower := by
        rw [← List.map_flatMap, flatMap_filter_segments rfl]
    _ = letters base.toLower := by
        rw [letters, lower, List.filter_map]
        rfl

end Ascii

theorem seriesName_of_settled (noCapitals : ∀ c ∈ name.toList, isUpper c = false)
    (unpaired : Unpaired name.toList) : seriesName name = name := by
  have based : Base name name := by
    refine .whole fun base _ same => ?_
    have capital : 'M' ∈ name.toList := by simp [same]
    exact absurd (noCapitals 'M' capital) (by decide)
  rw [← String.toList_inj, based.toList_seriesName, words, segments_of_unpaired unpaired]
  by_cases empty : name.toList = []
  · rw [empty]
    rfl
  · have kept : [name.toList].filter (· ≠ []) = [name.toList] :=
      List.filter_cons_of_pos (decide_eq_true empty)
    rw [kept, listed, listed, List.append_nil, snakeCase_of_no_capitals noCapitals]
    rfl

/-- Type names and series names correspond. Words in camel case, joined in segments of a namespace
and before the ending, are the words of the series name. For every type name of ASCII the series
name has no capital and no pair of colons, it is its own series name, and separators apart it is the
type's name without the ending, in lower case. -/
theorem names_correspond :
    (∀ segments : List (List String), segments ≠ [] →
      (∀ words ∈ segments, words ≠ [] ∧ ∀ word ∈ words, isSmallWord word = true) →
        seriesName (namespaced segments ++ "Metrics") = "_".intercalate segments.flatten) ∧
    ∀ typeName : String, (∀ c ∈ typeName.toList, c.toNat < 128) →
      (∀ c ∈ (seriesName typeName).toList, isUpper c = false) ∧
      ¬ "::".toList <:+: (seriesName typeName).toList ∧
      seriesName (seriesName typeName) = seriesName typeName ∧
      ∃ base, Base typeName base ∧ letters (seriesName typeName) = letters base.toLower := by
  refine ⟨fun segments filled small => seriesName_namespaced filled small, ?_⟩
  intro typeName ascii
  have noCapitals (c : Char) (mem : c ∈ (seriesName typeName).toList) : isUpper c = false :=
    isUpper_of_mem_seriesName ascii mem
  have unpaired : Unpaired (seriesName typeName).toList := unpaired_seriesName ascii
  obtain ⟨base, based⟩ := exists_base typeName
  exact ⟨noCapitals, unpaired.not_infix, seriesName_of_settled noCapitals unpaired, base, based,
    based.letters_eq ascii⟩

theorem names_correspond_acronym :
    (seriesName (namespaced [["admin"], ["user", "visits24"]] ++ "Metrics") =
      "_".intercalate ["admin", "user", "visits24"]) ∧
    (∀ c ∈ ":::HTTPServer".toList, c.toNat < 128) ∧
      seriesName (seriesName ":::HTTPServer") = seriesName ":::HTTPServer" := by
  obtain ⟨joined, ofAscii⟩ := names_correspond
  have ascii : ∀ c ∈ ":::HTTPServer".toList, c.toNat < 128 := by simp
  obtain ⟨-, -, settled, -⟩ := ofAscii ":::HTTPServer" ascii
  exact ⟨joined [["admin"], ["user", "visits24"]] (by decide) (by decide), ascii, settled⟩

end TypeName

end Telemetry
