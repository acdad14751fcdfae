import SelectQuery.Proofs.Json.Minify
import SelectQuery.Proofs.Text.Unquote
import SelectQuery.Statement.Json

/-!
# Statements can be told from their JSON text

The JSON text of a value on a single line tells where it ends and what the value is, whatever stands
behind it (`Json.delimited_write`): a string ends at the first quotation mark that is not escaped, and a
list ends where no comma follows. The text on indented lines tells the same, since it is the other one with
white space added. So no two statements have the same JSON text in either layout
(`Statement.json_lossless`), though some have the same text as queries.
-/

namespace SelectQuery

namespace Json

open Text

/-! ## Strings -/

/-- A code point has four digits. -/
def escapes : EscapeReader where
  letters := [('"', '"'), ('\\', '\\'), ('b', '\x08'), ('t', '\t'), ('n', '\n'), ('f', '\x0c'), ('r', '\r')]
  code cs := (Char.ofNat (ofHexDigits (cs.take 4)), cs.drop 4)

theorem unescapes_escape : Unescapes escapes.unescape? escape where
  mark _ := rfl
  append c rest := by
    fun_cases escape c with
    | case8 c =>
      have hhigh := hexValue_digitChar (c.toNat / 16) (by omega)
      have hlow := hexValue_digitChar (c.toNat % 16) (Nat.mod_lt _ (by decide))
      have hzero : hexValue '0' = 0 := rfl
      have hcode : ofHexDigits ['0', '0', Nat.digitChar (c.toNat / 16), Nat.digitChar (c.toNat % 16)] =
          c.toNat := by
        simp only [ofHexDigits, List.foldl_cons, List.foldl_nil, hzero, hhigh, hlow]
        omega
      simp only [List.cons_append, List.nil_append, EscapeReader.unescape?, escapes,
        List.take_succ_cons, List.take_zero, List.drop_succ_cons, List.drop_zero, hcode, Char.ofNat_toNat]
    | case9 c hmark hbackslash => exact escapes.unescape?_of_plain hbackslash hmark rest
    | _ => rfl

/-! ## Written forms that tell where they end -/

variable {α : Type} {f : α → List Char}

/-- The written form tells where it ends and what it stands for, whatever follows it. -/
def Delimited (f : α → List Char) (a : α) : Prop :=
  ∀ (b : α) (rest rest' : List Char), f a ++ rest = f b ++ rest' → a = b ∧ rest = rest'

theorem delimited_quote (s : String) : Delimited quote s := by
  intro t rest rest' h
  obtain ⟨hs, hrest⟩ := unescapes_escape.quoted_append_inj h
  exact ⟨String.toList_inj.1 hs, hrest⟩

/-- Behind an item stands a comma and another item, or the end of the list. -/
theorem delimited_items {as : List α} {closing : Char} (h : ∀ a ∈ as, Delimited f a)
    (hclosing : closing ≠ ',') :
    Delimited (fun as => as.flatMap (fun a => ',' :: f a) ++ [closing]) as := by
  induction as with
  | nil =>
    intro bs rest rest' heq
    cases bs with
    | nil => exact ⟨rfl, by simpa using heq⟩
    | cons b bs => exact absurd (by simpa using congrArg List.head? heq) hclosing
  | cons a as ih =>
    obtain ⟨ha, has⟩ := List.forall_mem_cons.1 h
    intro bs rest rest' heq
    cases bs with
    | nil => exact absurd (by simpa using congrArg List.head? heq.symm) hclosing
    | cons b bs =>
      simp only [List.flatMap_cons, List.cons_append, List.append_assoc, List.cons.injEq,
        true_and] at heq
      obtain ⟨rfl, hitems⟩ := ha b _ _ heq
      obtain ⟨rfl, hrest⟩ := ih has bs rest rest' (by simpa using hitems)
      exact ⟨rfl, hrest⟩

/-- **A bracketed list tells its items**, if no item starts like the closing bracket. -/
theorem delimited_enclose {as : List α} {opening closing : Char} (h : ∀ a ∈ as, Delimited f a)
    (hclosing : closing ≠ ',') (hhead : ∀ a, ∃ c w, f a = c :: w ∧ c ≠ closing) (depth : Nat) :
    Delimited (fun as => Layout.compact.enclose depth opening closing (as.map f)) as := by
  have hne : ∀ (a : α) (w rest : List Char), closing :: rest ≠ f a ++ w := by
    intro a w rest heq
    obtain ⟨c, v, hf, hc⟩ := hhead a
    rw [hf, List.cons_append] at heq
    exact hc (List.cons.inj heq).1.symm
  intro bs rest rest' heq
  cases as with
  | nil =>
    cases bs with
    | nil => exact ⟨rfl, by simpa [Layout.enclose] using heq⟩
    | cons b bs =>
      simp only [Layout.enclose, List.map_nil, List.map_cons, List.cons_append, List.append_assoc,
        Layout.compact, List.nil_append, List.cons.injEq, true_and] at heq
      exact absurd heq (hne b _ _)
  | cons a as =>
    obtain ⟨ha, has⟩ := List.forall_mem_cons.1 h
    cases bs with
    | nil =>
      simp only [Layout.enclose, List.map_nil, List.map_cons, List.cons_append, List.append_assoc,
        Layout.compact, List.nil_append, List.cons.injEq, true_and] at heq
      exact absurd heq.symm (hne a _ _)
    | cons b bs =>
      simp only [Layout.enclose, List.map_cons, List.cons_append, List.append_assoc, Layout.compact,
        List.nil_append, List.flatMap_map, List.cons.injEq, true_and] at heq
      obtain ⟨rfl, hitems⟩ := ha b _ _ heq
      obtain ⟨rfl, hrest⟩ := delimited_items has hclosing bs rest rest' (by simpa using hitems)
      exact ⟨rfl, hrest⟩

/-! ## Values -/

/-- The first character of a value, from which its kind can be told. -/
def opening : Json → Char
  | .null => 'n'
  | .string _ => '"'
  | .array _ => '['
  | .object _ => '\x7b'

theorem exists_enclose_eq (l : Layout) (depth : Nat) (opening closing : Char)
    (parts : List (List Char)) : ∃ w, l.enclose depth opening closing parts = opening :: w := by
  cases parts with
  | nil => exact ⟨_, rfl⟩
  | cons part parts => exact ⟨_, rfl⟩

theorem exists_write_eq (depth : Nat) (j : Json) : ∃ w, write .compact depth j = j.opening :: w := by
  cases j with
  | null => exact ⟨_, write.eq_1 _ _⟩
  | string s => exact ⟨_, write.eq_2 _ _ s⟩
  | array elements =>
    rw [write_array]
    exact exists_enclose_eq _ _ _ _ _
  | object members =>
    rw [write_object]
    exact exists_enclose_eq _ _ _ _ _

theorem opening_eq {j k : Json} {depth : Nat} {rest rest' : List Char}
    (h : write .compact depth j ++ rest = write .compact depth k ++ rest') : j.opening = k.opening := by
  obtain ⟨w, hw⟩ := exists_write_eq depth j
  obtain ⟨v, hv⟩ := exists_write_eq depth k
  rw [hw, hv, List.cons_append, List.cons_append] at h
  exact (List.cons.inj h).1

theorem opening_ne (j : Json) : j.opening ≠ ']' := by
  cases j <;> simp [opening]

theorem delimited_writeMember {depth : Nat} {m : String × Json}
    (h : Delimited (write .compact depth) m.2) : Delimited (writeMember .compact depth) m := by
  intro n rest rest' heq
  simp only [writeMember, List.append_assoc, List.cons_append] at heq
  obtain ⟨hname, hrest⟩ := delimited_quote m.1 n.1 _ _ heq
  obtain ⟨hvalue, hrest⟩ := h n.2 _ _ (List.cons.inj hrest).2
  exact ⟨Prod.ext hname hvalue, hrest⟩

/-- **A value on a single line tells where it ends**, and what it is. -/
theorem delimited_write (j : Json) : ∀ depth, Delimited (write .compact depth) j := by
  induction j with
  | null =>
    intro depth k rest rest' h
    cases k with
    | null => exact ⟨rfl, List.append_cancel_left h⟩
    | _ => exact absurd (opening_eq h) (by simp [opening])
  | string s =>
    intro depth k rest rest' h
    cases k with
    | string t =>
      rw [write, write] at h
      obtain ⟨rfl, hrest⟩ := delimited_quote s t rest rest' h
      exact ⟨rfl, hrest⟩
    | _ => exact absurd (opening_eq h) (by simp [opening])
  | array elements ih =>
    intro depth k rest rest' h
    cases k with
    | array elements' =>
      rw [write_array, write_array] at h
      have hhead : ∀ j, ∃ c w, write .compact (depth + 1) j = c :: w ∧ c ≠ ']' := by
        intro j
        obtain ⟨w, hw⟩ := exists_write_eq (depth + 1) j
        exact ⟨j.opening, w, hw, j.opening_ne⟩
      obtain ⟨rfl, hrest⟩ := delimited_enclose (fun j hj => ih j hj (depth + 1)) (by decide) hhead
        depth elements' rest rest' h
      exact ⟨rfl, hrest⟩
    | _ => exact absurd (opening_eq h) (by simp [opening])
  | object members ih =>
    intro depth k rest rest' h
    cases k with
    | object members' =>
      rw [write_object, write_object] at h
      have hhead : ∀ m, ∃ c w, writeMember .compact (depth + 1) m = c :: w ∧ c ≠ '\x7d' :=
        fun m => ⟨'"', _, rfl, by decide⟩
      obtain ⟨rfl, hrest⟩ := delimited_enclose (fun m hm => delimited_writeMember (ih m hm (depth + 1)))
        (by decide) hhead depth members' rest rest' h
      exact ⟨rfl, hrest⟩
    | _ => exact absurd (opening_eq h) (by simp [opening])

theorem compact_injective : Function.Injective compact := by
  intro j k h
  have hchars : write .compact 0 j ++ [] = write .compact 0 k ++ [] :=
    congrArg (· ++ []) (String.ofList_inj.1 h)
  exact (delimited_write j 0 k [] [] hchars).1

/-- **No two values have the same text on indented lines**, since the text on a single line can be had from
it. -/
theorem indented_injective : Function.Injective indented := by
  intro j k h
  apply compact_injective
  rw [← minify_indented, h, minify_indented]

end Json

/-! ## Statements -/

theorem Column.toJson_injective : Function.Injective Column.toJson := by
  rintro ⟨table, name⟩ ⟨table', name'⟩ h
  cases table <;> cases table' <;> simp_all [Column.toJson]

/-- **A statement can be told from its value**: a table that is absent is no text, and lists keep all of
their items in order. -/
theorem Statement.toJson_injective : Function.Injective Statement.toJson := by
  rintro ⟨columns, tables, condition⟩ ⟨columns', tables', condition'⟩ h
  simp only [toJson, Json.object.injEq, List.cons.injEq, Prod.mk.injEq, Json.array.injEq,
    Json.string.injEq, true_and, and_true] at h
  obtain ⟨hcolumns, htables, hcondition⟩ := h
  obtain rfl := (List.map_inj_right fun _ _ hc => Column.toJson_injective hc).1 hcolumns
  obtain rfl := (List.map_inj_right fun _ _ ht => Json.string.inj ht).1 htables
  rw [hcondition]

namespace Statement

/-- **JSON text loses nothing of a statement**, on a single line or on indented lines, and the two differ
in white space outside of strings alone. Query text does lose something: a condition without tables. -/
theorem json_lossless :
    (∀ s t : Statement, s.toJson.compact = t.toJson.compact ↔ s = t) ∧
      (∀ s t : Statement, s.toJson.indented = t.toJson.indented ↔ s = t) ∧
      (∀ s : Statement, Json.minify s.toJson.indented = s.toJson.compact) ∧
      ∃ s t : Statement, s ≠ t ∧ s.render = t.render := by
  refine ⟨fun s t => ?_, fun s t => ?_, fun s => Json.minify_indented s.toJson, ?_⟩
  · exact (Json.compact_injective.comp toJson_injective).eq_iff
  · exact (Json.indented_injective.comp toJson_injective).eq_iff
  · exact ⟨⟨[], [], ""⟩, ⟨[], [], " x"⟩, by decide, rfl⟩

end Statement

end SelectQuery
