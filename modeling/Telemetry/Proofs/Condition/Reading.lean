import Telemetry.Condition
import Telemetry.Proofs.Series.Reading
import Telemetry.Proofs.Text.Words

/-!
# Reading a condition back

The text of a condition tells its field, its operator and its operands, and where it ends, if the
field is an identifier, no operand is a float and patterns close. Operands are read up to what is
written of them: a timestamp to the second, a pattern by its literal.
-/

namespace Telemetry

open Text (isBare isWord isIdentifier Stops Readable)

/-- An instant as it is written: the whole seconds. -/
def Instant.whole (t : Instant) : Instant := ⟨t.seconds, 0⟩

namespace Scalar

/-- A float is written with characters of its own, any other scalar is plain. -/
def isPlain : Scalar → Bool
  | float _ => false
  | _ => true

/-- A scalar as its text tells it: of a timestamp, the whole seconds. -/
def reading : Scalar → Scalar
  | timestamp t => timestamp t.whole
  | value => value

/-- The kind of a plain scalar by the last character of its text. -/
def kindOfLast (last : Char) : Kind :=
  if last = '\x27' then .string
  else if last = 'e' then .boolean
  else if last = 's' then .timestamp
  else .integer

theorem exists_last {value : Scalar} (h : value.isPlain = true) :
    ∃ before last, value.text.toList = before ++ [last] ∧ kindOfLast last = value.kind := by
  cases value with
  | integer n =>
    obtain ⟨before, last, ends, digit⟩ := Text.exists_last_digit n
    refine ⟨before, last, ends, ?_⟩
    have other {c : Char} (hc : c.isDigit = false) : last ≠ c := fun same => by
      rw [same, hc] at digit
      cases digit
    rw [kindOfLast, if_neg (other rfl), if_neg (other rfl), if_neg (other rfl)]
    rfl
  | float x => cases h
  | string s =>
    refine ⟨'\x27' :: Text.valueBody s, '\x27', ?_, rfl⟩
    rw [text, Text.toList_quoteValue, List.cons_append]
  | boolean b =>
    cases b with
    | true => exact ⟨['t', 'r', 'u'], 'e', rfl, rfl⟩
    | false => exact ⟨['f', 'a', 'l', 's'], 'e', rfl, rfl⟩
  | timestamp t =>
    refine ⟨(toString t.seconds).toList, 's', ?_, rfl⟩
    rw [text, String.toList_append]
    rfl

theorem kind_eq_of_text {a b : Scalar} (ha : a.isPlain = true) (hb : b.isPlain = true)
    (h : a.text = b.text) : a.kind = b.kind := by
  obtain ⟨before, last, ends, kind⟩ := exists_last ha
  obtain ⟨before', last', ends', kind'⟩ := exists_last hb
  rw [h, ends'] at ends
  have same : last' = last := List.singleton_inj.mp (List.append_inj' ends rfl).2
  rw [← kind, ← kind', same]

theorem reading_eq_of_text {a b : Scalar} (ha : a.isPlain = true) (hb : b.isPlain = true)
    (h : a.text = b.text) : a.reading = b.reading := by
  have kinds := kind_eq_of_text ha hb h
  cases a with
  | integer m =>
    cases b with
    | integer n => exact congrArg integer (Text.toString_int_injective h)
    | _ => cases kinds
  | float x => cases ha
  | string s =>
    cases b with
    | string t =>
      have quoted : (Text.quoteValue s).toList ++ [] = (Text.quoteValue t).toList ++ [] :=
        congrArg (·.toList ++ []) h
      exact congrArg string (Text.eq_of_quoteValue quoted).1
    | _ => cases kinds
  | boolean p =>
    cases b with
    | boolean q => cases p <;> cases q <;> first | rfl | exact absurd h (by decide)
    | _ => cases kinds
  | timestamp t =>
    cases b with
    | timestamp u =>
      have seconds : t.seconds = u.seconds :=
        Text.toString_int_injective (String.append_left_inj "s" |>.mp h)
      rw [reading, reading, Instant.whole, Instant.whole, seconds]
    | _ => cases kinds

theorem bare_text {value : Scalar} (h : value.isPlain = true) (other : value.kind ≠ .string) :
    ∀ c ∈ value.text.toList, isBare c = true := by
  cases value with
  | integer n => exact Text.bare_of_mem_toString n
  | float x => cases h
  | string s => exact absurd rfl other
  | boolean b => cases b <;> exact List.all_eq_true.mp (by decide)
  | timestamp t =>
    intro c hc
    rw [text, String.toList_append] at hc
    rcases List.mem_append.mp hc with hc | hc
    · exact Text.bare_of_mem_toString t.seconds c hc
    · rw [List.mem_singleton.mp hc]
      decide

theorem exists_first {value : Scalar} (h : value.isPlain = true) (other : value.kind ≠ .string) :
    ∃ first rest, value.text.toList = first :: rest ∧ isBare first = true := by
  have bare := bare_text h other
  obtain ⟨before, last, ends, -⟩ := exists_last h
  cases letters : value.text.toList with
  | nil => simp [ends] at letters
  | cons first rest => exact ⟨first, rest, rfl, bare first (by simp [letters])⟩

/-- A text that begins with a quote is that of a string. -/
theorem string_of_quote {value : Scalar} (h : value.isPlain = true) {x y : List Char}
    (quote : value.text.toList ++ x = '\x27' :: y) : value.kind = .string := by
  by_cases other : value.kind = .string
  · exact other
  · obtain ⟨first, rest, letters, bare⟩ := exists_first h other
    rw [letters] at quote
    rw [(List.cons.inj quote).1] at bare
    exact absurd bare (by decide)

theorem exists_string {value : Scalar} (h : value.kind = .string) : ∃ s, value = .string s := by
  cases value with
  | string s => exact ⟨s, rfl⟩
  | _ => cases h

theorem readable_text :
    Readable (fun value : Scalar => value.text.toList) reading (·.isPlain = true)
      (Stops isBare) := by
  have quoted (s : String) (x : List Char) :
      (string s).text.toList ++ x = '\x27' :: (Text.valueBody s ++ ['\x27'] ++ x) := by
    rw [text, Text.toList_quoteValue, List.cons_append]
  intro a b x y ha hb hx hy h
  by_cases string : a.kind = .string
  · obtain ⟨s, rfl⟩ := exists_string string
    have other : b.kind = .string := string_of_quote hb (h.symm.trans (quoted s x))
    obtain ⟨t, rfl⟩ := exists_string other
    obtain ⟨same, rest⟩ := Text.eq_of_quoteValue h
    exact ⟨congrArg Scalar.string same, rest⟩
  · have other : b.kind ≠ .string := by
      intro quote
      obtain ⟨t, rfl⟩ := exists_string quote
      exact string (string_of_quote ha (h.trans (quoted t y)))
    obtain ⟨same, rest⟩ := Text.eq_of_run (bare_text ha string) (bare_text hb other) hx hy h
    exact ⟨reading_eq_of_text ha hb (String.toList_injective same), rest⟩

end Scalar

/-- What a condition asks of its field: to compare with a scalar or two, or with a text taken as it
is written. -/
inductive Operand where
  | scalar (value : Scalar)
  | range (low high : Scalar)
  | text (literal : String)
deriving DecidableEq

@[ext]
structure Term where
  field : String
  operator : String
  operand : Operand
deriving DecidableEq

/-- A mark of comparison. -/
def isMark (c : Char) : Bool := c ∈ ['=', '<', '>', '!', '~']

theorem isMark_of_isBare {c : Char} (h : isBare c = true) : isMark c = false := by
  have marks : ['=', '<', '>', '!', '~'].all (!isBare ·) = true := by decide
  refine decide_eq_false fun mark => ?_
  have other := List.all_eq_true.mp marks c mark
  rw [h] at other
  cases other

theorem Scalar.stops_isMark {value : Scalar} (h : value.isPlain = true) (x : List Char) :
    Stops isMark (value.text.toList ++ x) := by
  by_cases string : value.kind = .string
  · obtain ⟨s, rfl⟩ := exists_string string
    rw [text, Text.toList_quoteValue]
    rfl
  · obtain ⟨first, rest, letters, bare⟩ := exists_first h string
    rw [letters]
    exact isMark_of_isBare bare

namespace Condition

/-- The field is an identifier, no operand is a float, and patterns close; no raw text. -/
def isPlain : Condition → Bool
  | equals field value | differs field value => isIdentifier field && value.isPlain
  | inside field low high | outside field low high =>
    isIdentifier field && (low.isPlain && high.isPlain)
  | like field p | unlike field p => isIdentifier field && p.closes
  | raw _ => false

/-- A condition as its text tells it. -/
def reading : Condition → Term
  | equals field value => ⟨field, "=", .scalar value.reading⟩
  | differs field value => ⟨field, "<>", .scalar value.reading⟩
  | inside field low high => ⟨field, ">", .range low.reading high.reading⟩
  | outside field low high => ⟨field, "<", .range low.reading high.reading⟩
  | like field p => ⟨field, "=~", .text p.literal⟩
  | unlike field p => ⟨field, "!~", .text p.literal⟩
  | raw text => ⟨"", "", .text text⟩

/-- What is written after the operator. -/
def tail : Condition → List Char
  | equals _ value | differs _ value => value.text.toList
  | inside field low high =>
    low.text.toList ++ (" and ".toList ++ (field.toList ++ ('<' :: high.text.toList)))
  | outside field low high =>
    low.text.toList ++ (" and ".toList ++ (field.toList ++ ('>' :: high.text.toList)))
  | like _ p | unlike _ p => p.literal.toList
  | raw _ => []

variable {a b c : Condition} {x y : List Char}

theorem toList_text (h : c.isPlain = true) :
    c.text.toList = c.reading.field.toList ++ (c.reading.operator.toList ++ c.tail) := by
  cases c with
  | raw text => cases h
  | _ => simp [text, reading, tail]

theorem identifier_of_isPlain (h : c.isPlain = true) : isIdentifier c.reading.field = true := by
  cases c with
  | raw text => cases h
  | _ => exact (Bool.and_eq_true_iff.mp h).1

theorem operator_marks (c : Condition) : ∀ m ∈ c.reading.operator.toList, isMark m = true := by
  cases c <;> simp [reading, isMark]

/-- An operator is not empty. -/
theorem exists_mark (h : c.isPlain = true) :
    ∃ mark rest, c.reading.operator.toList = mark :: rest ∧ isWord mark = false := by
  cases c with
  | raw text => cases h
  | _ => simp [reading]; decide

theorem stops_tail (h : c.isPlain = true) (x : List Char) : Stops isMark (c.tail ++ x) := by
  cases c with
  | equals field value | differs field value =>
    exact Scalar.stops_isMark (Bool.and_eq_true_iff.mp h).2 x
  | inside field low high | outside field low high =>
    obtain ⟨-, bounds⟩ := Bool.and_eq_true_iff.mp h
    rw [tail, List.append_assoc]
    exact Scalar.stops_isMark (Bool.and_eq_true_iff.mp bounds).1 _
  | like field p | unlike field p =>
    rw [tail, Pattern.literal, Text.toList_quotePattern]
    rfl
  | raw text => cases h

theorem eq_of_range {field field' : List Char} {mark mark' : Char}
    {low low' high high' : Scalar} (fields : field = field')
    (h : (low.isPlain && high.isPlain) = true) (h' : (low'.isPlain && high'.isPlain) = true)
    (hx : Stops isBare x) (hy : Stops isBare y)
    (same : low.text.toList ++ (" and ".toList ++ (field ++ (mark :: high.text.toList))) ++ x =
      low'.text.toList ++ (" and ".toList ++ (field' ++ (mark' :: high'.text.toList))) ++ y) :
    low.reading = low'.reading ∧ high.reading = high'.reading ∧ x = y := by
  subst fields
  rw [Bool.and_eq_true_iff] at h h'
  simp only [List.append_assoc, List.cons_append] at same
  have blank (z : List Char) : Stops isBare (" and ".toList ++ z) := rfl
  obtain ⟨lows, rest⟩ := Scalar.readable_text h.1 h'.1 (blank _) (blank _) same
  have tails := List.append_cancel_left (List.append_cancel_left rest)
  obtain ⟨highs, after⟩ := Scalar.readable_text h.2 h'.2 hx hy (List.cons.inj tails).2
  exact ⟨lows, highs, after⟩

/-- Conditions of one field and one operator are read by what follows the operator. -/
theorem reading_eq_of_tail (ha : a.isPlain = true) (hb : b.isPlain = true)
    (field : a.reading.field = b.reading.field) (operator : a.reading.operator = b.reading.operator)
    (hx : Stops isBare x) (hy : Stops isBare y) (h : a.tail ++ x = b.tail ++ y) :
    a.reading = b.reading ∧ x = y := by
  cases a with
  | equals name v | differs name v =>
    cases b with
    | equals name' w | differs name' w =>
      obtain ⟨same, rest⟩ := Scalar.readable_text (Bool.and_eq_true_iff.mp ha).2
        (Bool.and_eq_true_iff.mp hb).2 hx hy h
      exact ⟨Term.ext field operator (congrArg Operand.scalar same), rest⟩
    | raw _ => cases hb
    | _ => simp [reading] at operator
  | inside name low high | outside name low high =>
    cases b with
    | inside name' low' high' | outside name' low' high' =>
      obtain ⟨lows, highs, rest⟩ := eq_of_range (congrArg String.toList field)
        (Bool.and_eq_true_iff.mp ha).2 (Bool.and_eq_true_iff.mp hb).2 hx hy h
      have operand : Operand.range low.reading high.reading =
          Operand.range low'.reading high'.reading := by rw [lows, highs]
      exact ⟨Term.ext field operator operand, rest⟩
    | raw _ => cases hb
    | _ => simp [reading] at operator
  | like name p | unlike name p =>
    cases b with
    | like name' q | unlike name' q =>
      obtain ⟨same, rest⟩ := Pattern.eq_of_literal (Bool.and_eq_true_iff.mp ha).2
        (Bool.and_eq_true_iff.mp hb).2 h
      exact ⟨Term.ext field operator (congrArg Operand.text same), rest⟩
    | raw _ => cases hb
    | _ => simp [reading] at operator
  | raw _ => cases ha

theorem stops_operator (h : c.isPlain = true) (x : List Char) :
    Stops isWord (c.reading.operator.toList ++ x) := by
  obtain ⟨mark, rest, marks, other⟩ := exists_mark h
  rw [marks]
  exact other

/-- A plain condition is read back where no word goes on after it. -/
theorem readable_text :
    Readable (fun c : Condition => c.text.toList) reading (·.isPlain = true) (Stops isBare) := by
  intro a b x y ha hb hx hy h
  simp only [toList_text ha, toList_text hb, List.append_assoc] at h
  obtain ⟨field, rest⟩ := Text.eq_of_run (Text.word_of_identifier (identifier_of_isPlain ha))
    (Text.word_of_identifier (identifier_of_isPlain hb)) (stops_operator ha _) (stops_operator hb _)
    h
  obtain ⟨operator, tails⟩ := Text.eq_of_run (operator_marks a) (operator_marks b)
    (stops_tail ha x) (stops_tail hb y) rest
  exact reading_eq_of_tail ha hb (String.toList_injective field) (String.toList_injective operator)
    hx hy tails

end Condition

end Telemetry
