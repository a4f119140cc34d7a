import Telemetry.Condition
import Telemetry.Proofs.Text.Pieces

/-!
# Literals of conditions

A string value is read back exactly, whatever follows it, so it cannot run into the text of its
clause. A pattern is read to its closing slash unless its source ends in an odd run of backslashes,
the last of which would hold that slash; what is read is the source up to the backslashes of its
slashes, and no more than that is lost in a literal.
-/

namespace Telemetry

open Text (Piece readQuoted readTo readValue bareSlashes written trailingBackslashes)

namespace Scalar

theorem readValue_text (s after : String) :
    readValue ((string s).text ++ after) = some (s, after) := by
  have quoted : readQuoted '\x27' ((string s).text ++ after) =
      some (Text.pieces (Text.valueBody s), after) :=
    (Text.readQuoted_eq_some_iff (Text.toList_quoteValue s)).mpr
      (Text.readTo_of_inside (by decide) (Text.inside_escape_value s.toList))
  have value : String.ofList ((Text.pieces (Text.valueBody s)).map Piece.character) = s := by
    rw [Text.valueBody, Text.map_character_escape (by decide), String.ofList_toList]
  rw [readValue, quoted]
  exact congrArg (fun read => some (read, after)) value

/-- A string value is read back and what stands after it is left, so two of them with what follows
are one text only if they are the same, and so is what follows. -/
theorem string_delimited (s after : String) :
    readValue ((string s).text ++ after) = some (s, after) ∧
    (∀ s' after' : String,
      (string s).text ++ after = (string s').text ++ after' ↔ s = s' ∧ after = after') ∧
    ∀ s' : String, (string s).text = (string s').text ↔ s = s' := by
  have read (s' after' : String)
      (same : (string s).text ++ after = (string s').text ++ after') :
      s = s' ∧ after = after' := by
    have reads := readValue_text s after
    rw [same, readValue_text] at reads
    cases reads
    exact ⟨rfl, rfl⟩
  refine ⟨readValue_text s after, fun s' after' => ⟨read s' after', ?_⟩, fun s' => ⟨?_, ?_⟩⟩
  · rintro ⟨rfl, rfl⟩
    rfl
  · exact fun same => (read s' after (congrArg (· ++ after) same)).1
  · rintro rfl
    rfl

end Scalar

namespace Pattern

theorem readQuoted_literal_iff {source after left : String} {body : List Piece} :
    readQuoted '/' ((mk source).literal ++ after) = some (body, left) ↔
      readTo '/' (Text.escapeSlashes false source.toList ++ '/' :: after.toList) =
        some (body, left.toList) :=
  Text.readQuoted_eq_some_iff (Text.toList_quotePattern source)

theorem readQuoted_of_even {source : String}
    (even : trailingBackslashes source.toList % 2 = 0) (after : String) :
    readQuoted '/' ((mk source).literal ++ after) =
      some (Text.pieces (Text.escapeSlashes false source.toList), after) :=
  readQuoted_literal_iff.mpr (Text.readTo_of_inside (by decide) (Text.inside_pattern even))

theorem even_of_readQuoted {source after : String} {body : List Piece}
    (reads : readQuoted '/' ((mk source).literal ++ after) = some (body, after)) :
    trailingBackslashes source.toList % 2 = 0 := by
  have inside : Text.Inside Text.holds '/' false (Text.escapeSlashes false source.toList) :=
    (Text.readTo_iff_inside (by decide)).mp ⟨body, readQuoted_literal_iff.mp reads⟩
  have ends := inside.foldl_eq_false
  rw [Text.foldl_escapeSlashes, Text.foldl_holds, decide_eq_false_iff_not] at ends
  omega

theorem literal_eq_iff {source other : String} :
    (mk source).literal = (mk other).literal ↔
      bareSlashes source.toList = bareSlashes other.toList := by
  rw [Text.bareSlashes_eq_iff, literal, literal, ← String.toList_inj, Text.toList_quotePattern,
    Text.toList_quotePattern, List.cons.injEq, List.append_left_inj]
  exact and_iff_right rfl

/-- The reader of a literal stops at its last character exactly when the source ends in an even run
of backslashes. Then what it reads is the body of the literal, which is the source piece by piece
but for the backslashes of slashes. Sources have one literal if they differ in those alone. -/
theorem literal_delimited (source : String) :
    (∀ after : String,
      (∃ body, readQuoted '/' ((mk source).literal ++ after) = some (body, after)) ↔
        trailingBackslashes source.toList % 2 = 0) ∧
    (trailingBackslashes source.toList % 2 = 0 → ∀ after : String, ∃ body,
      readQuoted '/' ((mk source).literal ++ after) = some (body, after) ∧
      (mk source).literal.toList = '/' :: (written body ++ ['/']) ∧
      bareSlashes (written body) = bareSlashes source.toList ∧
      body.map Piece.bared = (Text.pieces source.toList).map Piece.bared) ∧
    ∀ other : String, (mk source).literal = (mk other).literal ↔
      bareSlashes source.toList = bareSlashes other.toList := by
  refine ⟨fun after => ⟨?_, fun even => ⟨_, readQuoted_of_even even after⟩⟩,
    fun even after => ⟨_, readQuoted_of_even even after, ?_, ?_, ?_⟩, fun other => literal_eq_iff⟩
  · rintro ⟨body, reads⟩
    exact even_of_readQuoted reads
  · rw [Text.written_pieces]
    exact Text.toList_quotePattern source
  · rw [Text.written_pieces, bareSlashes, bareSlashes, Text.map_bared_escapeSlashes]
  · exact Text.map_bared_escapeSlashes source.toList

/-- A bare slash, an escaped one and a run of two backslashes at the end, before more text with a
slash in it. -/
theorem literal_delimited_mixed :
    let source := "a/b\\/c\\\\"
    let after := " or path=~/d/)"
    trailingBackslashes source.toList % 2 = 0 ∧
    (∃ body, readQuoted '/' ((mk source).literal ++ after) = some (body, after) ∧
      bareSlashes (written body) = "a/b/c\\\\".toList) ∧
    (mk source).literal = (mk "a\\/b/c\\\\").literal := by
  intro source after
  obtain ⟨-, reads, known⟩ := literal_delimited source
  have even : trailingBackslashes source.toList % 2 = 0 := by decide
  obtain ⟨body, read, -, bare, -⟩ := reads even after
  exact ⟨even, ⟨body, read, bare.trans (by decide)⟩, (known _).mpr (by decide)⟩

end Pattern

end Telemetry
