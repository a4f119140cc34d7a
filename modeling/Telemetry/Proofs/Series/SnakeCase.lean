import Telemetry.Proofs.Series.Segments

/-!
# Snake case

Each character of a word gives a piece of its own: itself, or its lower case where it is a capital,
with an underscore before it where a word starts. Which piece it is depends on the two characters
around it and on nothing else, so what holds of every piece holds of the whole.
-/

namespace Telemetry

namespace Text

theorem ascii_induction {motive : Char → Prop} (numbered : ∀ n < 128, motive (Char.ofNat n))
    {c : Char} (ascii : c.toNat < 128) : motive c := by
  have known := numbered c.toNat ascii
  rwa [Char.ofNat_toNat] at known

theorem lowered_of_ascii {c : Char} (ascii : c.toNat < 128) : lowered c = [c.toLower] :=
  if_pos ascii

theorem isUpper_toLower {c : Char} (ascii : c.toNat < 128) : isUpper c.toLower = false :=
  ascii_induction (motive := fun c => isUpper c.toLower = false) (by decide) ascii

theorem toLower_of_not_upper {c : Char} (ascii : c.toNat < 128) (small : isUpper c = false) :
    c.toLower = c :=
  ascii_induction (motive := fun c => isUpper c = false → c.toLower = c) (by decide) ascii small

theorem eq_colon_of_toLower {c : Char} (ascii : c.toNat < 128) (colon : c.toLower = ':') :
    c = ':' :=
  ascii_induction (motive := fun c => c.toLower = ':' → c = ':') (by decide) ascii colon

theorem lowered_ne_nil (c : Char) : lowered c ≠ [] := by
  unfold lowered
  split
  · exact List.cons_ne_nil _ _
  · split
    · exact List.cons_ne_nil _ _
    · split
      · exact List.cons_ne_nil _ _
      · exact List.cons_ne_nil _ _

/-- The small letters and digits of ASCII. -/
def isSmall (c : Char) : Bool := c.isLower || c.isDigit

theorem ascii_of_isSmall {c : Char} (small : isSmall c = true) : c.toNat < 128 := by
  rcases Bool.or_eq_true_iff.mp small with letter | digit
  · have bound := of_decide_eq_true (Bool.and_eq_true_iff.mp letter).2
    exact Nat.lt_of_le_of_lt (UInt32.le_iff_toNat_le.mp bound) (by decide)
  · have bound := of_decide_eq_true (Bool.and_eq_true_iff.mp digit).2
    exact Nat.lt_of_le_of_lt (UInt32.le_iff_toNat_le.mp bound) (by decide)

theorem isUpper_of_isSmall {c : Char} (small : isSmall c = true) : isUpper c = false :=
  ascii_induction (motive := fun c => isSmall c = true → isUpper c = false) (by decide)
    (ascii_of_isSmall small) small

theorem isLower_or_isDigit {c : Char} (small : isSmall c = true) :
    (isLower c || c.isDigit) = true :=
  ascii_induction (motive := fun c => isSmall c = true → (isLower c || c.isDigit) = true)
    (by decide) (ascii_of_isSmall small) small

theorem ne_colon_of_isSmall {c : Char} (small : isSmall c = true) : c ≠ ':' := by
  rintro rfl
  cases small

theorem isSmall_of_isLower {c : Char} (letter : c.isLower = true) : isSmall c = true :=
  Bool.or_eq_true_iff.mpr (Or.inl letter)

theorem isUpper_toUpper {c : Char} (letter : c.isLower = true) : isUpper c.toUpper = true :=
  ascii_induction (motive := fun c => c.isLower = true → isUpper c.toUpper = true) (by decide)
    (ascii_of_isSmall (isSmall_of_isLower letter)) letter

theorem lowered_toUpper {c : Char} (letter : c.isLower = true) : lowered c.toUpper = [c] :=
  ascii_induction (motive := fun c => c.isLower = true → lowered c.toUpper = [c]) (by decide)
    (ascii_of_isSmall (isSmall_of_isLower letter)) letter

end Text

namespace TypeName

open Text

/-- What a character gives between the two around it. -/
def piece (before : Option Char) (c : Char) (next : Option Char) : List Char :=
  if !isUpper c then [c] else if startsWord before next then '_' :: lowered c else lowered c

theorem snakeCase_cons (before : Option Char) (c : Char) (rest : List Char) :
    snakeCase before (c :: rest) = piece before c rest.head? ++ snakeCase (some c) rest := by
  rw [snakeCase, piece]
  by_cases small : isUpper c = false
  · rw [small, if_pos (by decide), if_pos (by decide), List.singleton_append]
  · have capital : ¬ (!isUpper c) = true := by simpa using small
    rw [if_neg capital, if_neg capital]
    by_cases starts : startsWord before rest.head? = true
    · rw [if_pos starts, if_pos starts]
    · rw [if_neg starts, if_neg starts]

theorem piece_of_not_upper {c : Char} (small : isUpper c = false) (before next : Option Char) :
    piece before c next = [c] := by
  rw [piece, small, if_pos (by decide)]

theorem piece_ne_nil (before : Option Char) (c : Char) (next : Option Char) :
    piece before c next ≠ [] := by
  unfold piece
  split
  · exact List.cons_ne_nil _ _
  · split
    · exact List.cons_ne_nil _ _
    · exact lowered_ne_nil c

/-- In ASCII a piece is one character, perhaps after an underscore. -/
theorem piece_of_ascii {c : Char} (ascii : c.toNat < 128) (before next : Option Char) :
    piece before c next = [c.toLower] ∨ piece before c next = ['_', c.toLower] := by
  rw [piece, lowered_of_ascii ascii]
  by_cases capital : isUpper c = true
  · rw [capital, if_neg (by decide)]
    by_cases starts : startsWord before next = true
    · exact Or.inr (if_pos starts)
    · exact Or.inl (if_neg starts)
  · have small : isUpper c = false := by simpa using capital
    rw [small, if_pos (by decide), toLower_of_not_upper ascii small]
    exact Or.inl rfl

theorem snakeCase_ne_nil {word : List Char} (filled : word ≠ []) (before : Option Char) :
    snakeCase before word ≠ [] := by
  obtain ⟨c, rest, rfl⟩ := List.exists_cons_of_ne_nil filled
  rw [snakeCase_cons]
  exact List.append_ne_nil_of_left_ne_nil (piece_ne_nil before c rest.head?) _

/-- What has no capitals stays as it is. -/
theorem snakeCase_append {word : List Char} (small : ∀ c ∈ word, isUpper c = false)
    (before : Option Char) (rest : List Char) :
    snakeCase before (word ++ rest) = word ++ snakeCase (word.getLast?.or before) rest := by
  induction word generalizing before with
  | nil => rfl
  | cons c word ih =>
    have last : (c :: word).getLast?.or before = word.getLast?.or (some c) := by
      rw [List.getLast?_cons, Option.some_or]
      cases word.getLast? <;> rfl
    rw [List.cons_append, snakeCase_cons, piece_of_not_upper (small c List.mem_cons_self),
      ih fun d mem => small d (List.mem_cons_of_mem _ mem), last]
    rfl

theorem snakeCase_of_no_capitals {word : List Char} (small : ∀ c ∈ word, isUpper c = false)
    (before : Option Char) : snakeCase before word = word := by
  have kept := snakeCase_append small before []
  rwa [List.append_nil, snakeCase, List.append_nil] at kept

theorem isUpper_of_mem_snakeCase {word : List Char} (ascii : ∀ c ∈ word, c.toNat < 128)
    {before : Option Char} {d : Char} (mem : d ∈ snakeCase before word) : isUpper d = false := by
  induction word generalizing before with
  | nil => cases mem
  | cons c rest ih =>
    have first := ascii c List.mem_cons_self
    rw [snakeCase_cons] at mem
    rcases List.mem_append.mp mem with mem | mem
    · rcases piece_of_ascii first before rest.head? with bare | marked
      · rw [bare] at mem
        rw [List.mem_singleton.mp mem]
        exact isUpper_toLower first
      · rw [marked] at mem
        rcases List.mem_cons.mp mem with rfl | mem
        · decide
        · rw [List.mem_singleton.mp mem]
          exact isUpper_toLower first
    · exact ih (fun c mem => ascii c (List.mem_cons_of_mem _ mem)) mem

/-- Underscores apart, each character gives its lower case. -/
theorem filter_snakeCase {p : Char → Bool} (underscore : p '_' = false) {word : List Char}
    (ascii : ∀ c ∈ word, c.toNat < 128) (before : Option Char) :
    (snakeCase before word).filter p = (word.map Char.toLower).filter p := by
  induction word generalizing before with
  | nil => rfl
  | cons c rest ih =>
    have later := ih (fun c mem => ascii c (List.mem_cons_of_mem _ mem)) (some c)
    rw [snakeCase_cons, List.filter_append, later, List.map_cons, ← List.singleton_append,
      List.filter_append]
    rcases piece_of_ascii (ascii c List.mem_cons_self) before rest.head? with bare | marked
    · rw [bare]
    · rw [marked, List.filter_cons_of_neg (Bool.eq_false_iff.mp underscore)]

theorem head?_of_snakeCase {word : List Char} (ascii : ∀ c ∈ word, c.toNat < 128)
    {before : Option Char} (begins : (snakeCase before word).head? = some ':') :
    word.head? = some ':' := by
  cases word with
  | nil => cases begins
  | cons c rest =>
    have first := ascii c List.mem_cons_self
    rw [snakeCase_cons] at begins
    rcases piece_of_ascii first before rest.head? with bare | marked
    · rw [bare] at begins
      rw [List.head?_cons, eq_colon_of_toLower first (Option.some.inj begins)]
    · rw [marked] at begins
      cases begins

theorem unpaired_snakeCase {word : List Char} (ascii : ∀ c ∈ word, c.toNat < 128)
    (unpaired : Unpaired word) (before : Option Char) : Unpaired (snakeCase before word) := by
  induction word generalizing before with
  | nil => exact .nil
  | cons c rest ih =>
    have others (d : Char) (mem : d ∈ rest) : d.toNat < 128 := ascii d (List.mem_cons_of_mem _ mem)
    obtain ⟨next, unpairedRest⟩ := List.isChain_cons.mp unpaired
    have first := ascii c List.mem_cons_self
    have lower : Unpaired (c.toLower :: snakeCase (some c) rest) := by
      refine List.isChain_cons.mpr ⟨?_, ih others unpairedRest (some c)⟩
      rintro d begins colon rfl
      exact next ':' (head?_of_snakeCase others begins) (eq_colon_of_toLower first colon) rfl
    rw [snakeCase_cons]
    rcases piece_of_ascii first before rest.head? with bare | marked
    · rw [bare]
      exact lower
    · rw [marked]
      exact List.isChain_cons.mpr ⟨fun d _ underscore => absurd underscore (by decide), lower⟩

/-- A small letter, and then at least one more small letter or digit. -/
def isSmallWord (word : String) : Bool :=
  match word.toList with
  | [] => false
  | first :: rest => first.isLower && !rest.isEmpty && rest.all isSmall

def capitalized (word : String) : String := String.ofList (word.toList.modifyHead Char.toUpper)

def camelCase (words : List String) : String := String.join (words.map capitalized)

theorem isSmallWord_iff {word : String} :
    isSmallWord word = true ↔ ∃ first second rest, word.toList = first :: second :: rest ∧
      first.isLower = true ∧ ∀ c ∈ second :: rest, isSmall c = true := by
  unfold isSmallWord
  constructor
  · intro small
    split at small
    · cases small
    · rename_i first others letters
      obtain ⟨⟨letter, filled⟩, all⟩ := by simpa only [Bool.and_eq_true] using small
      cases others with
      | nil => cases filled
      | cons second rest => exact ⟨first, second, rest, letters, letter, List.all_eq_true.mp all⟩
  · rintro ⟨first, second, rest, letters, letter, all⟩
    rw [letters]
    simp only [letter, List.isEmpty_cons, Bool.not_false, Bool.and_self, Bool.true_and]
    exact List.all_eq_true.mpr all

/-- What stands before a word that comes after `before`. -/
def opening : Option Char → List Char
  | none => []
  | some _ => ['_']

/-- A capital starts a word unless a name begins with it. -/
theorem piece_toUpper {c : Char} (letter : c.isLower = true) {before : Option Char}
    (after : ∀ p ∈ before, isSmall p = true) (next : Option Char) :
    piece before c.toUpper next = opening before ++ [c] := by
  rw [piece, isUpper_toUpper letter, lowered_toUpper letter, if_neg (by decide)]
  cases before with
  | none => exact if_neg Bool.false_ne_true
  | some p =>
    have starts : startsWord (some p) next = true :=
      Bool.or_eq_true_iff.mpr (Or.inl (isLower_or_isDigit (after p rfl)))
    rw [if_pos starts]
    rfl

theorem snakeCase_capitalized {word : String} (small : isSmallWord word = true) :
    ∃ last, isSmall last = true ∧ ∀ (before : Option Char) (rest : List Char),
      (∀ p ∈ before, isSmall p = true) →
        snakeCase before ((capitalized word).toList ++ rest) =
          opening before ++ (word.toList ++ snakeCase (some last) rest) := by
  obtain ⟨first, second, others, letters, letter, all⟩ := isSmallWord_iff.mp small
  refine ⟨(second :: others).getLast (List.cons_ne_nil _ _), all _ (List.getLast_mem _), ?_⟩
  intro before rest after
  have noCapitals (c : Char) (mem : c ∈ second :: others) : isUpper c = false :=
    isUpper_of_isSmall (all c mem)
  have kept := snakeCase_append noCapitals (some first.toUpper) rest
  rw [List.getLast?_eq_some_getLast (List.cons_ne_nil _ _), Option.some_or] at kept
  rw [capitalized, String.toList_ofList, letters, List.modifyHead_cons, List.cons_append,
    snakeCase_cons, piece_toUpper letter after, kept]
  simp

theorem snakeCase_camelCase {words : List String} (small : ∀ word ∈ words, isSmallWord word = true)
    {before : Option Char} (after : ∀ p ∈ before, isSmall p = true) :
    snakeCase before (camelCase words).toList =
      listed (opening before) ['_'] String.toList words := by
  induction words generalizing before with
  | nil => rfl
  | cons word rest ih =>
    obtain ⟨last, ends, snake⟩ := snakeCase_capitalized (small word List.mem_cons_self)
    have later : ∀ p ∈ some last, isSmall p = true := by
      rintro p ⟨rfl⟩
      exact ends
    rw [camelCase, List.map_cons, String.join_cons, String.toList_append, snake before _ after,
      ← camelCase, ih (fun other mem => small other (List.mem_cons_of_mem _ mem)) later]
    rfl

theorem no_colon_in_camelCase {words : List String}
    (small : ∀ word ∈ words, isSmallWord word = true) : ':' ∉ (camelCase words).toList := by
  rw [camelCase, String.toList_join, List.mem_flatMap]
  rintro ⟨text, mem, colon⟩
  obtain ⟨word, given, rfl⟩ := List.mem_map.mp mem
  obtain ⟨first, second, others, letters, letter, all⟩ := isSmallWord_iff.mp (small word given)
  rw [capitalized, String.toList_ofList, letters, List.modifyHead_cons] at colon
  rcases List.mem_cons.mp colon with colon | colon
  · have lower := lowered_toUpper letter
    rw [← colon] at lower
    exact ne_colon_of_isSmall (isSmall_of_isLower letter) (List.cons.inj lower).1.symm
  · exact ne_colon_of_isSmall (all _ colon) rfl

end TypeName

end Telemetry
