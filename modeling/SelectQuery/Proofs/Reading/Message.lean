import SelectQuery.Proofs.Reading.Simulation
import SelectQuery.Proofs.Text.Unquote

/-!
# Messages

What a message says can be read off it. A token is named by its category and its text: the category
ends at the first space and determines the kind of the token (`Token.ofKind?`), and the text stands in
quotes. The two tokens without a text are named without quotes (`Token.mark_mem_displayBy_iff`).

An expectation that reading comes to has a fixed wording (`Expectation.ofText`) without a comma, so
that the name of the token that was found starts behind the first comma.
-/

namespace SelectQuery

open Text Text.Diagnostic

/-! ## Tokens -/

def Operator.all : List Operator := [.plus, .minus, .multiply, .divide]

namespace Token

def ofKind? (kind literal : String) : Option Token :=
  match kind with
  | "EOF" => some .eof
  | "WS" => some .whitespace
  | "STRING" => some (.word literal)
  | "QUOTED_STRING" => some (.quoted literal)
  | "." => some .dot
  | "," => some .comma
  | "=" => some .equal
  | "OTHER" => (Operator.all.find? fun op => op.symbol == literal).map .operator
  | spelling => (Keyword.all.find? fun k => k.spelling == spelling).map fun k => .keyword k literal

variable {shown : Char → Bool} {a b t : Token}

theorem ofKind?_kind (t : Token) : ofKind? t.kind t.literal = some t := by
  cases t with
  | keyword k text => cases k <;> rfl
  | operator op => cases op <;> rfl
  | _ => rfl

theorem space_not_mem_kind (t : Token) : ' ' ∉ t.kind.toList := by
  cases t with
  | keyword k text => cases k <;> simp [kind, Keyword.spelling]
  | _ => simp [kind]

theorem toList_displayBy (heof : t ≠ .eof) (hblank : t ≠ .whitespace) :
    (t.displayBy shown).toList =
      t.kind.toList ++ ' ' :: Text.quoted (escapeBy shown) t.literal.toList := by
  cases t with
  | eof => exact absurd rfl heof
  | whitespace => exact absurd rfl hblank
  | _ => simp [displayBy, toList_quoteBy]

theorem mark_mem_displayBy_iff :
    '"' ∈ (t.displayBy shown).toList ↔ t ≠ .eof ∧ t ≠ .whitespace := by
  constructor
  · intro h
    constructor <;> rintro rfl <;> simp [displayBy] at h
  · rintro ⟨heof, hblank⟩
    simp [toList_displayBy heof hblank, Text.quoted]

/-- **No two tokens have the same name** in messages. -/
theorem displayBy_inj (h : a.displayBy shown = b.displayBy shown) : a = b := by
  by_cases ha : a ≠ .eof ∧ a ≠ .whitespace
  · have hb : b ≠ .eof ∧ b ≠ .whitespace := by
      rw [← mark_mem_displayBy_iff, ← h]
      exact mark_mem_displayBy_iff.2 ha
    have hnames := congrArg String.toList h
    rw [toList_displayBy ha.1 ha.2, toList_displayBy hb.1 hb.2] at hnames
    obtain ⟨hkind, -, hquoted⟩ := append_marked_inj (m := (· = ' '))
      (fun _ hc => ne_of_mem_of_not_mem hc (space_not_mem_kind a))
      (fun _ hc => ne_of_mem_of_not_mem hc (space_not_mem_kind b)) rfl rfl hnames
    have hliteral := quoted_escapeBy_inj hquoted
    have htoken : some a = some b := by
      rw [← ofKind?_kind a, ← ofKind?_kind b, String.toList_inj.1 hkind, String.toList_inj.1 hliteral]
    exact Option.some.inj htoken
  · have hb : ¬(b ≠ .eof ∧ b ≠ .whitespace) := by
      rw [← mark_mem_displayBy_iff, ← h]
      exact mt mark_mem_displayBy_iff.1 ha
    obtain rfl | rfl : a = .eof ∨ a = .whitespace := by simpa [or_iff_not_imp_left] using ha
    all_goals obtain rfl | rfl : b = .eof ∨ b = .whitespace := by simpa [or_iff_not_imp_left] using hb
    · rfl
    · simp [displayBy] at h
    · simp [displayBy] at h
    · rfl

end Token

/-! ## Errors -/

def Expectation.ofText : String → Expectation
  | "expected SELECT" => .selectKeyword
  | "expected column name" => .columnName
  | "expected '.' after name" => .dotAfterName
  | "expected column name after '.'" => .columnNameAfterDot
  | "expected comma after table.column" => .commaAfterQualified
  | "expected table name" => .tableName
  | "expected comma" => .commaAfterTable
  | text => .custom text

namespace Place

theorem ofText_expectation (place : Place) :
    Expectation.ofText place.expectation.text = place.expectation := by
  cases place <;> rfl

theorem comma_not_mem_expectation (place : Place) : ',' ∉ place.expectation.text.toList := by
  cases place <;> simp [expectation, Expectation.text]

end Place

theorem Progress.expectation_of_outcome {p : Progress} {e : SyntaxError} (h : p.outcome = .error e) :
    ∃ place : Place, e.expectation = place.expectation := by
  unfold outcome result at h
  split at h
  · cases h
  · cases h
  · cases h
    exact ⟨_, rfl⟩

namespace SyntaxError

variable {shown : Char → Bool} {e e' : SyntaxError}

/-- The wording of the expectation ends at a comma. -/
theorem toList_messageBy : (e.messageBy shown).toList = "syntax error: ".toList ++
    (e.expectation.text.toList ++ ',' :: (" found ".toList ++ (e.found.displayBy shown).toList)) := by
  have hmessage : e.messageBy shown =
      "syntax error: " ++ e.expectation.text ++ ", found " ++ e.found.displayBy shown := rfl
  have hcomma : ", found ".toList = ',' :: " found ".toList := rfl
  rw [hmessage, String.toList_append, String.toList_append, String.toList_append, hcomma,
    List.append_assoc, List.append_assoc, List.cons_append]

/-- **A message tells its two parts**, the wording of an expectation and the token that was found, if there
is no comma in the wording. -/
theorem messageBy_inj (hcomma : ',' ∉ e.expectation.text.toList)
    (hcomma' : ',' ∉ e'.expectation.text.toList) (h : e.messageBy shown = e'.messageBy shown) :
    e.expectation.text = e'.expectation.text ∧ e.found = e'.found := by
  have hlists := congrArg String.toList h
  rw [toList_messageBy, toList_messageBy] at hlists
  obtain ⟨htext, -, hfound⟩ := append_marked_inj (m := (· = ','))
    (fun _ hc => ne_of_mem_of_not_mem hc hcomma) (fun _ hc => ne_of_mem_of_not_mem hc hcomma') rfl rfl
    (List.append_cancel_left hlists)
  have hnames := String.toList_inj.1 (List.append_cancel_left hfound)
  exact ⟨String.toList_inj.1 htext, Token.displayBy_inj hnames⟩

/-- **Messages are unambiguous**, whichever characters are shown as they are. No two tokens have the same
name, and no two errors of reading have the same message. -/
theorem messages_unambiguous (shown : Char → Bool) :
    (∀ a b : Token, a.displayBy shown = b.displayBy shown → a = b) ∧
      ∀ (text text' : String) (e e' : SyntaxError),
        Statement.parse text = .error e → Statement.parse text' = .error e' →
          e.messageBy shown = e'.messageBy shown →
            e.expectation = e'.expectation ∧ e.found = e'.found := by
  refine ⟨fun a b => Token.displayBy_inj, fun text text' e e' he he' h => ?_⟩
  rw [Statement.parse_eq] at he he'
  obtain ⟨place, hplace⟩ := Progress.expectation_of_outcome he
  obtain ⟨place', hplace'⟩ := Progress.expectation_of_outcome he'
  obtain ⟨htext, hfound⟩ := messageBy_inj (by rw [hplace]; exact place.comma_not_mem_expectation)
    (by rw [hplace']; exact place'.comma_not_mem_expectation) h
  refine ⟨?_, hfound⟩
  calc e.expectation = Expectation.ofText e.expectation.text := by rw [hplace, place.ofText_expectation]
    _ = Expectation.ofText e'.expectation.text := by rw [htext]
    _ = e'.expectation := by rw [hplace', place'.ofText_expectation]

/-- Two texts with the same message, about quoted text that looks like the end of one. -/
theorem messages_unambiguous_quoted :
    ∃ e e' : SyntaxError, Statement.parse "SELECT '\", found " = .error e ∧
      Statement.parse "select a,\n'\", found ' from" = .error e' ∧
        e.message = e'.message ∧ e.expectation = e'.expectation ∧ e.found = e'.found := by
  have he : Statement.parse "SELECT '\", found " = .error ⟨.columnName, .quoted "\", found "⟩ := by
    decide +kernel
  have he' : Statement.parse "select a,\n'\", found ' from" =
      .error ⟨.columnName, .quoted "\", found "⟩ := by
    decide +kernel
  exact ⟨_, _, he, he', rfl, (messages_unambiguous isVisible).2 _ _ _ _ he he' rfl⟩

end SyntaxError

end SelectQuery
