import Telemetry.Proofs.Text.Quoted

/-!
# Quoted text as a reader takes it

A reader goes from the left and takes a backslash together with the character after it; the first
mark that it meets alone ends what is quoted. So what is quoted is a list of pieces, and the reader
stops where it should exactly when no mark inside is bare and the last one is not held.
-/

namespace Telemetry.Text

/-- A backslash with the character after it, or a character alone. -/
inductive Piece where
  | plain (c : Char)
  | pair (c : Char)
deriving DecidableEq, Repr

namespace Piece

def letters : Piece → List Char
  | plain c => [c]
  | pair c => ['\\', c]

/-- The character that a piece stands for when backslashes make characters literal. -/
def character : Piece → Char
  | plain c => c
  | pair c => c

/-- A bare slash is given a backslash. -/
def slashed : Piece → Piece
  | plain c => if c = '/' then pair '/' else plain c
  | pair c => pair c

/-- A slash is rid of its backslash; no other piece is touched. -/
def bared : Piece → Piece
  | plain c => plain c
  | pair c => if c = '/' then plain '/' else pair c

theorem bared_slashed (p : Piece) : p.slashed.bared = p.bared := by
  cases p with
  | plain c =>
    by_cases slash : c = '/'
    · subst slash
      rfl
    · rw [slashed, if_neg slash]
  | pair c => rfl

end Piece

/-- The letters of pieces one after another. -/
def written (pieces : List Piece) : List Char := pieces.flatMap Piece.letters

def pieces : List Char → List Piece
  | [] => []
  | '\\' :: c :: rest => .pair c :: pieces rest
  | c :: rest => .plain c :: pieces rest

/-- The pieces before the first bare mark, and what stands after it. -/
def readTo (mark : Char) : List Char → Option (List Piece × List Char)
  | [] => none
  | '\\' :: c :: rest => (readTo mark rest).map fun (body, left) => (.pair c :: body, left)
  | c :: rest =>
    if c = mark then some ([], rest)
    else (readTo mark rest).map fun (body, left) => (.plain c :: body, left)

/-- Reads what is quoted between two marks. -/
def readQuoted (mark : Char) (text : String) : Option (List Piece × String) :=
  match text.toList with
  | [] => none
  | c :: rest =>
    if c = mark then (readTo mark rest).map fun (body, left) => (body, String.ofList left) else none

/-- Reads a string value: a backslash makes the next character literal. -/
def readValue (text : String) : Option (String × String) :=
  (readQuoted '\x27' text).map fun (body, left) =>
    (String.ofList (body.map Piece.character), left)

/-- Each pair of a backslash and a slash becomes the slash alone. -/
def bareSlashes (text : List Char) : List Char := written ((pieces text).map Piece.bared)

/-- The way in which a text falls into pieces; a last backslash has nothing to hold. -/
@[elab_as_elim]
theorem pieces_induction {P : List Char → Prop} (nil : P []) (last : P ['\\'])
    (pair : ∀ c rest, P rest → P ('\\' :: c :: rest))
    (plain : ∀ c rest, c ≠ '\\' → P rest → P (c :: rest)) (text : List Char) : P text := by
  fun_induction pieces text with
  | case1 => exact nil
  | case2 c rest ih => exact pair c rest ih
  | case3 c rest alone ih =>
    by_cases backslash : c = '\\'
    · cases rest with
      | nil => exact backslash ▸ last
      | cons d rest => exact absurd rfl (alone d rest backslash)
    · exact plain c rest backslash ih

theorem pieces_cons {c : Char} (h : c ≠ '\\') (rest : List Char) :
    pieces (c :: rest) = .plain c :: pieces rest := by
  rw [pieces]
  intro d tail backslash
  exact absurd backslash h

theorem written_pieces (text : List Char) : written (pieces text) = text := by
  induction text using pieces_induction with
  | nil => rfl
  | last => rfl
  | pair c rest ih => exact congrArg (fun tail => '\\' :: c :: tail) ih
  | plain c rest other ih =>
    rw [pieces_cons other]
    exact congrArg (c :: ·) ih

theorem holds_pair (c : Char) : holds (holds false '\\') c = false := by
  simp [holds]

theorem holds_plain {c : Char} (h : c ≠ '\\') (held : Bool) : holds held c = false := by
  simp [holds, h]

variable {mark : Char}

theorem readTo_cons {c : Char} (h : c ≠ '\\') (rest : List Char) :
    readTo mark (c :: rest) =
      if c = mark then some ([], rest)
      else (readTo mark rest).map fun (body, left) => (.plain c :: body, left) := by
  rw [readTo]
  intro d tail backslash
  exact absurd backslash h

/-- Text without bare marks is read to its end. -/
theorem readTo_of_inside (h : mark ≠ '\\') {u x : List Char} (inside : Inside holds mark false u) :
    readTo mark (u ++ mark :: x) = some (pieces u, x) := by
  induction u using pieces_induction with
  | nil => exact (readTo_cons h x).trans (if_pos rfl)
  | last => exact Bool.noConfusion (show true = false from inside.2)
  | pair c rest ih =>
    have later : Inside holds mark false rest := holds_pair c ▸ inside.2.2
    rw [List.cons_append, List.cons_append, readTo, ih later]
    rfl
  | plain c rest other ih =>
    have bare : c ≠ mark := fun same => Bool.noConfusion (inside.1 same)
    have later : Inside holds mark false rest := holds_plain other false ▸ inside.2
    rw [List.cons_append, readTo_cons other, if_neg bare, ih later, pieces_cons other]
    rfl

/-- What is read is the text up to a bare mark, and no mark in it is bare. -/
theorem inside_of_readTo (h : mark ≠ '\\') {text left : List Char} {body : List Piece}
    (reads : readTo mark text = some (body, left)) :
    text = written body ++ mark :: left ∧ Inside holds mark false (written body) := by
  induction text using pieces_induction generalizing body with
  | nil => cases reads
  | last =>
    -- the backslash is no mark, and there is nothing after it to be read
    have unread : readTo mark ['\\'] = none := if_neg h.symm
    rw [unread] at reads
    cases reads
  | pair c rest ih =>
    rw [readTo] at reads
    obtain ⟨⟨tail, after⟩, read, same⟩ := Option.map_eq_some_iff.mp reads
    cases same
    obtain ⟨known, inside⟩ := ih read
    refine ⟨congrArg (fun tail => '\\' :: c :: tail) known, fun same => absurd same.symm h,
      fun _ => rfl, ?_⟩
    rwa [holds_pair c]
  | plain c rest other ih =>
    rw [readTo_cons other] at reads
    by_cases bare : c = mark
    · rw [if_pos bare] at reads
      cases reads
      exact ⟨congrArg (· :: left) bare, rfl⟩
    · rw [if_neg bare] at reads
      obtain ⟨⟨tail, after⟩, read, same⟩ := Option.map_eq_some_iff.mp reads
      cases same
      obtain ⟨known, inside⟩ := ih read
      refine ⟨congrArg (c :: ·) known, fun same => absurd same bare, ?_⟩
      rwa [holds_plain other false]

/-- A reader stops at the mark after a text exactly when the text holds no bare one. -/
theorem readTo_iff_inside (h : mark ≠ '\\') {u x : List Char} :
    (∃ body, readTo mark (u ++ mark :: x) = some (body, x)) ↔ Inside holds mark false u := by
  constructor
  · rintro ⟨body, reads⟩
    obtain ⟨known, inside⟩ := inside_of_readTo h reads
    have same : u = written body := List.append_cancel_right known
    rwa [same]
  · exact fun inside => ⟨pieces u, readTo_of_inside h inside⟩

/-- Between two marks the reader takes what stands after the first. -/
theorem readQuoted_eq_some_iff {quoted : String} {inner : List Char}
    (marked : quoted.toList = mark :: (inner ++ [mark])) {after left : String}
    {body : List Piece} :
    readQuoted mark (quoted ++ after) = some (body, left) ↔
      readTo mark (inner ++ mark :: after.toList) = some (body, left.toList) := by
  have text : (quoted ++ after).toList = mark :: (inner ++ mark :: after.toList) := by
    rw [String.toList_append, marked]
    simp
  have opened : readQuoted mark (quoted ++ after) =
      (readTo mark (inner ++ mark :: after.toList)).map fun (body, left) =>
        (body, String.ofList left) := by
    rw [readQuoted, text]
    exact if_pos rfl
  rw [opened, Option.map_eq_some_iff]
  constructor
  · rintro ⟨⟨body', rest⟩, reads, same⟩
    cases same
    rw [reads, String.toList_ofList]
  · intro reads
    exact ⟨_, reads, congrArg (body, ·) String.ofList_toList⟩

theorem map_character_escape {marked : Char → Bool} (h : marked '\\' = true) (text : List Char) :
    (pieces (escape marked text)).map Piece.character = text := by
  induction text with
  | nil => rfl
  | cons c rest ih =>
    by_cases hc : marked c = true
    · rw [escape, if_pos hc, pieces, List.map_cons, ih]
      rfl
    · have other : c ≠ '\\' := fun same => hc (same ▸ h)
      rw [escape, if_neg hc, pieces_cons other, List.map_cons, ih]
      rfl

theorem escapeSlashes_pair (c : Char) (rest : List Char) :
    escapeSlashes false ('\\' :: c :: rest) = '\\' :: c :: escapeSlashes false rest := by
  rw [escapeSlashes_of_kept (by simp), escapeSlashes_of_kept (by simp [holds]), holds_pair]

theorem escapeSlashes_plain {c : Char} (backslash : c ≠ '\\') (rest : List Char) :
    escapeSlashes false (c :: rest) =
      (Piece.plain c).slashed.letters ++ escapeSlashes false rest := by
  by_cases slash : c = '/'
  · subst slash
    rfl
  · rw [escapeSlashes_of_kept fun bare => slash bare.1, holds_plain backslash, Piece.slashed,
      if_neg slash]
    rfl

theorem pieces_slashed {c : Char} (backslash : c ≠ '\\') (rest : List Char) :
    pieces ((Piece.plain c).slashed.letters ++ rest) = (Piece.plain c).slashed :: pieces rest := by
  by_cases slash : c = '/'
  · subst slash
    rfl
  · rw [Piece.slashed, if_neg slash]
    exact pieces_cons backslash rest

theorem Inside.foldl_eq_false {hold : Bool → Char → Bool} {held : Bool} {text : List Char}
    (inside : Inside hold mark held text) : text.foldl hold held = false := by
  induction text generalizing held with
  | nil => exact inside
  | cons c rest ih => exact ih inside.2

/-- Escaping a source changes nothing in what its end holds. -/
theorem foldl_escapeSlashes (held : Bool) (source : List Char) :
    (escapeSlashes held source).foldl holds held = source.foldl holds held := by
  induction source generalizing held with
  | nil => rfl
  | cons c rest ih =>
    by_cases bare : c = '/' ∧ held = false
    · obtain ⟨rfl, rfl⟩ := bare
      exact ih false
    · rw [escapeSlashes_of_kept bare]
      exact ih (holds held c)

/-- Escaping gives each bare slash a backslash and leaves every other piece as it is. -/
theorem pieces_escapeSlashes (source : List Char) :
    pieces (escapeSlashes false source) = (pieces source).map Piece.slashed := by
  induction source using pieces_induction with
  | nil => rfl
  | last => rfl
  | pair c rest ih =>
    rw [escapeSlashes_pair, pieces, ih]
    rfl
  | plain c rest other ih =>
    rw [escapeSlashes_plain other, pieces_slashed other, ih, pieces_cons other, List.map_cons]

theorem map_bared_escapeSlashes (source : List Char) :
    (pieces (escapeSlashes false source)).map Piece.bared = (pieces source).map Piece.bared := by
  rw [pieces_escapeSlashes, List.map_map]
  exact congrArg (List.map · (pieces source)) (funext Piece.bared_slashed)

theorem bareSlashes_pair (c : Char) (rest : List Char) :
    bareSlashes ('\\' :: c :: rest) = (Piece.pair c).bared.letters ++ bareSlashes rest :=
  rfl

theorem bareSlashes_plain {c : Char} (backslash : c ≠ '\\') (rest : List Char) :
    bareSlashes (c :: rest) = c :: bareSlashes rest := by
  rw [bareSlashes, pieces_cons backslash]
  rfl

/-- The escaped form of a source is known from what it is without the backslashes of its slashes. -/
theorem escapeSlashes_bareSlashes (source : List Char) :
    escapeSlashes false (bareSlashes source) = escapeSlashes false source := by
  induction source using pieces_induction with
  | nil => rfl
  | last => rfl
  | pair c rest ih =>
    rw [bareSlashes_pair, escapeSlashes_pair]
    by_cases slash : c = '/'
    · subst slash
      exact congrArg (fun tail => '\\' :: '/' :: tail) ih
    · rw [Piece.bared, if_neg slash]
      exact (escapeSlashes_pair c (bareSlashes rest)).trans
        (congrArg (fun tail => '\\' :: c :: tail) ih)
  | plain c rest other ih =>
    rw [bareSlashes_plain other, escapeSlashes_plain other, escapeSlashes_plain other, ih]

theorem bareSlashes_eq_iff {source other : List Char} :
    bareSlashes source = bareSlashes other ↔
      escapeSlashes false source = escapeSlashes false other := by
  constructor
  · intro same
    rw [← escapeSlashes_bareSlashes source, same, escapeSlashes_bareSlashes]
  · intro same
    rw [bareSlashes, bareSlashes, ← map_bared_escapeSlashes source, same, map_bared_escapeSlashes]

end Telemetry.Text
