import Mathlib.Data.List.Chain
import Telemetry.Proofs.Text.Framing
import Telemetry.Series.TypeName

/-!
# Segments between pairs of colons

A name is cut at pairs of colons, from the left. So no segment holds a pair, though one may begin
with a colon or, if it is the last, end with one. Apart from colons the segments hold what the name
holds, in its order.
-/

namespace Telemetry.TypeName

/-- No two colons stand side by side. -/
def Unpaired (name : List Char) : Prop := name.IsChain fun c d => c = ':' → d ≠ ':'

theorem segments_ne_nil (name : List Char) : segments name ≠ [] := by
  cases name using segments.fun_cases with
  | case1 => exact List.cons_ne_nil _ _
  | case2 rest => exact List.cons_ne_nil _ _
  | case3 c rest free none =>
    rw [segments.eq_3 c rest free, none]
    exact List.cons_ne_nil _ _
  | case4 c rest free first others cut =>
    rw [segments.eq_3 c rest free, cut]
    exact List.cons_ne_nil _ _

/-- A colon that another one follows is taken with it; all else is taken by itself. -/
theorem colons_induction {motive : List Char → Prop} (nil : motive [])
    (pair : ∀ rest, motive rest → motive (':' :: ':' :: rest))
    (single : ∀ c rest, (c = ':' → rest.head? ≠ some ':') → motive rest → motive (c :: rest))
    (name : List Char) : motive name := by
  induction name using segments.induct with
  | case1 => exact nil
  | case2 rest ih => exact pair rest ih
  | case3 c rest _ none _ => exact absurd none (segments_ne_nil rest)
  | case4 c rest free _ _ _ ih =>
    refine single c rest (fun colon begins => ?_) ih
    obtain ⟨later, rfl⟩ := List.head?_eq_some_iff.mp begins
    exact free later colon rfl

theorem segments_pair (rest : List Char) : segments (':' :: ':' :: rest) = [] :: segments rest :=
  rfl

theorem segments_single {c : Char} {rest : List Char} (free : c = ':' → rest.head? ≠ some ':') :
    ∃ first others, segments rest = first :: others ∧
      segments (c :: rest) = (c :: first) :: others := by
  have unpaired (later : List Char) (colon : c = ':') (begins : rest = ':' :: later) : False :=
    free colon (by rw [begins, List.head?_cons])
  obtain ⟨first, others, cut⟩ := List.exists_cons_of_ne_nil (segments_ne_nil rest)
  exact ⟨first, others, cut, by rw [segments.eq_3 c rest unpaired, cut]⟩

/-- The first segment begins as the name does, if it holds anything. -/
theorem head?_first {name first : List Char} {others : List (List Char)}
    (cut : segments name = first :: others) : ∀ c ∈ first.head?, name.head? = some c := by
  intro c begins
  cases name using colons_induction with
  | nil =>
    rw [← (List.cons.inj cut).1] at begins
    cases begins
  | pair rest _ =>
    rw [segments_pair] at cut
    rw [← (List.cons.inj cut).1] at begins
    cases begins
  | single d rest free _ =>
    obtain ⟨head, tail, -, longer⟩ := segments_single free
    rw [longer] at cut
    rw [← (List.cons.inj cut).1] at begins
    exact begins

theorem unpaired_of_mem_segments {name word : List Char} (mem : word ∈ segments name) :
    Unpaired word := by
  induction name using colons_induction generalizing word with
  | nil =>
    rw [List.mem_singleton.mp mem]
    exact .nil
  | pair rest ih =>
    rcases List.mem_cons.mp mem with rfl | mem
    · exact .nil
    · exact ih mem
  | single c rest free ih =>
    obtain ⟨first, others, cut, longer⟩ := segments_single free
    rw [longer] at mem
    rcases List.mem_cons.mp mem with rfl | mem
    · refine List.isChain_cons.mpr ⟨?_, ih (cut ▸ List.mem_cons_self)⟩
      rintro d begins rfl rfl
      exact free rfl (head?_first cut _ begins)
    · exact ih (cut ▸ List.mem_cons_of_mem _ mem)

theorem mem_of_mem_segments {name word : List Char} (mem : word ∈ segments name) {c : Char}
    (held : c ∈ word) : c ∈ name := by
  induction name using colons_induction generalizing word with
  | nil =>
    rw [List.mem_singleton.mp mem] at held
    cases held
  | pair rest ih =>
    rcases List.mem_cons.mp mem with rfl | mem
    · cases held
    · exact List.mem_cons_of_mem _ (List.mem_cons_of_mem _ (ih mem held))
  | single d rest free ih =>
    obtain ⟨first, others, cut, longer⟩ := segments_single free
    rw [longer] at mem
    rcases List.mem_cons.mp mem with rfl | mem
    · rcases List.mem_cons.mp held with rfl | held
      · exact List.mem_cons_self
      · exact List.mem_cons_of_mem _ (ih (cut ▸ List.mem_cons_self) held)
    · exact List.mem_cons_of_mem _ (ih (cut ▸ List.mem_cons_of_mem _ mem) held)

/-- Cutting takes nothing but colons away. -/
theorem flatMap_filter_segments {p : Char → Bool} (colon : p ':' = false) (name : List Char) :
    (segments name).flatMap (List.filter p) = name.filter p := by
  induction name using colons_induction with
  | nil => rfl
  | pair rest ih =>
    have dropped : ¬ p ':' = true := Bool.eq_false_iff.mp colon
    rw [segments_pair, List.flatMap_cons, ih, List.filter_cons_of_neg dropped,
      List.filter_cons_of_neg dropped]
    rfl
  | single c rest free ih =>
    obtain ⟨first, others, cut, longer⟩ := segments_single free
    rw [cut, List.flatMap_cons] at ih
    rw [longer, List.flatMap_cons]
    by_cases kept : p c = true
    · rw [List.filter_cons_of_pos kept, List.filter_cons_of_pos kept, ← ih, List.cons_append]
    · rw [List.filter_cons_of_neg kept, List.filter_cons_of_neg kept, ih]

/-- Only pairs of colons have nothing in any segment. -/
theorem segments_all_empty_iff {name : List Char} :
    (∀ word ∈ segments name, word = []) ↔ ∃ pairs, name = List.replicate (2 * pairs) ':' := by
  induction name using colons_induction with
  | nil =>
    constructor
    · intro _
      exact ⟨0, rfl⟩
    · intro _ word mem
      exact List.mem_singleton.mp mem
  | pair rest ih =>
    rw [segments_pair, List.forall_mem_cons, and_iff_right rfl, ih]
    constructor
    · rintro ⟨pairs, rfl⟩
      exact ⟨pairs + 1, rfl⟩
    · rintro ⟨_ | pairs, colons⟩
      · cases colons
      · exact ⟨pairs, (List.cons.inj (List.cons.inj colons).2).2⟩
  | single c rest free ih =>
    obtain ⟨first, others, -, longer⟩ := segments_single free
    rw [longer]
    constructor
    · intro empty
      exact absurd (empty _ List.mem_cons_self) (List.cons_ne_nil c first)
    · rintro ⟨_ | pairs, colons⟩
      · cases colons
      · obtain ⟨rfl, rest⟩ := List.cons.inj colons
        exact absurd (by rw [rest]; rfl) (free rfl)

/-- What holds no colon joins the first segment of what follows it. -/
theorem segments_append {word rest first : List Char} {others : List (List Char)}
    (plain : ':' ∉ word) (cut : segments rest = first :: others) :
    segments (word ++ rest) = (word ++ first) :: others := by
  induction word with
  | nil => exact cut
  | cons c word ih =>
    have other : c ≠ ':' := fun colon => plain (colon ▸ List.mem_cons_self)
    have free (colon : c = ':') : (word ++ rest).head? ≠ some ':' := absurd colon other
    obtain ⟨head, tail, begun, longer⟩ := segments_single free
    rw [ih fun mem => plain (List.mem_cons_of_mem _ mem)] at begun
    obtain ⟨rfl, rfl⟩ := List.cons.inj begun
    exact longer

/-- Words without colons are the segments of what they are joined to. -/
theorem segments_listed {α : Type} {write : α → List Char} (first : α) (others : List α)
    (plain : ∀ a ∈ first :: others, ':' ∉ write a) :
    segments (write first ++ Text.listed [':', ':'] [':', ':'] write others) =
      (first :: others).map write := by
  induction others generalizing first with
  | nil =>
    rw [segments_append (plain first List.mem_cons_self) rfl, List.append_nil]
    rfl
  | cons second rest ih =>
    have later := ih second fun a mem => plain a (List.mem_cons_of_mem _ mem)
    have cut : segments (Text.listed [':', ':'] [':', ':'] write (second :: rest)) =
        [] :: (second :: rest).map write := congrArg ([] :: ·) later
    rw [segments_append (plain first List.mem_cons_self) cut, List.append_nil]
    rfl

theorem segments_of_unpaired {name : List Char} (unpaired : Unpaired name) :
    segments name = [name] := by
  induction name with
  | nil => rfl
  | cons c rest ih =>
    obtain ⟨next, later⟩ := List.isChain_cons.mp unpaired
    have free (colon : c = ':') (begins : rest.head? = some ':') : False :=
      next ':' begins colon rfl
    obtain ⟨first, others, cut, longer⟩ := segments_single free
    rw [ih later] at cut
    obtain ⟨rfl, rfl⟩ := List.cons.inj cut
    exact longer

theorem Unpaired.append {u v : List Char} (left : Unpaired u) (right : Unpaired v)
    (apart : v.head? ≠ some ':') : Unpaired (u ++ v) := by
  refine List.isChain_append.mpr ⟨left, right, ?_⟩
  rintro c - d begins - rfl
  exact apart begins

theorem Unpaired.not_infix {name : List Char} (h : Unpaired name) : ¬ [':', ':'] <:+: name := by
  intro pair
  have held := List.IsChain.infix h pair
  obtain ⟨next, -⟩ := List.isChain_cons.mp held
  exact next ':' rfl rfl rfl

end Telemetry.TypeName
