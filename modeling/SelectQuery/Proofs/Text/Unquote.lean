import SelectQuery.Text.Quoted

/-!
# Reading quoted text back

A text in quotation marks tells where it ends and what it is, whatever stands behind it, if the escaped
characters can be taken off its front one by one (`Unescapes`). The escapes of diagnostics are such, with
any characters shown as they are (`Diagnostic.unescapes_escapeBy`).
-/

namespace SelectQuery.Text

/-- The reader takes one escaped character off the front of a text and leaves the rest. It stops at the
closing mark. -/
structure Unescapes (unescape : List Char → Option (Char × List Char)) (escape : Char → List Char) :
    Prop where
  append (c : Char) (rest : List Char) : unescape (escape c ++ rest) = some (c, rest)
  mark (rest : List Char) : unescape ('"' :: rest) = none

/-- **Quoted text tells where it ends**, and what it is. -/
theorem Unescapes.quoted_append_inj {unescape : List Char → Option (Char × List Char)}
    {escape : Char → List Char} (hu : Unescapes unescape escape) {s t rest rest' : List Char}
    (h : quoted escape s ++ rest = quoted escape t ++ rest') : s = t ∧ rest = rest' := by
  have hopen : s.flatMap escape ++ '"' :: rest = t.flatMap escape ++ '"' :: rest' := by
    simpa [quoted] using h
  clear h
  induction s generalizing t with
  | nil =>
    cases t with
    | nil => simpa using hopen
    | cons d t => simpa [hu.mark, hu.append] using congrArg unescape hopen
  | cons c s ih =>
    cases t with
    | nil => simpa [hu.mark, hu.append] using congrArg unescape hopen
    | cons d t =>
      have hfirst := congrArg unescape hopen
      simp only [List.flatMap_cons, List.append_assoc, hu.append, Option.some.injEq,
        Prod.mk.injEq] at hfirst
      obtain ⟨rfl, hrest⟩ := hfirst
      obtain ⟨rfl, htail⟩ := ih hrest
      exact ⟨rfl, htail⟩

/-! ## Numbers in base sixteen -/

def hexValue (c : Char) : Nat :=
  if c.toNat < 'a'.toNat then c.toNat - '0'.toNat else c.toNat - 'a'.toNat + 10

def ofHexDigits (digits : List Char) : Nat := digits.foldl (fun n c => 16 * n + hexValue c) 0

theorem hexValue_digitChar : ∀ k < 16, hexValue (Nat.digitChar k) = k := by decide

theorem hexDigits_of_lt {n : Nat} (hn : n < 16) : hexDigits n = [Nat.digitChar n] :=
  Nat.toDigits_of_lt_base hn

theorem hexDigits_step {n k : Nat} (hn : 0 < n) (hk : k < 16) :
    hexDigits (16 * n + k) = hexDigits n ++ [Nat.digitChar k] := by
  rw [hexDigits, ← Nat.toDigits_append_toDigits (by decide) hn hk, Nat.toDigits_of_lt_base hk, ← hexDigits]

theorem ofHexDigits_concat (digits : List Char) (c : Char) :
    ofHexDigits (digits ++ [c]) = 16 * ofHexDigits digits + hexValue c := by
  simp [ofHexDigits]

theorem ofHexDigits_hexDigits (n : Nat) : ofHexDigits (hexDigits n) = n := by
  induction n using Nat.base_induction 16 (by decide) with
  | single k hk => simp [hexDigits_of_lt hk, ofHexDigits, hexValue_digitChar k hk]
  | digit n k hk hn ih => rw [hexDigits_step hn hk, ofHexDigits_concat, ih, hexValue_digitChar k hk]

theorem brace_not_mem_hexDigits (n : Nat) : '\x7d' ∉ hexDigits n := by
  induction n using Nat.base_induction 16 (by decide) with
  | single k hk => simp [hexDigits_of_lt hk]
  | digit n k hk hn ih => simp [hexDigits_step hn hk, ih]

/-! ## Escapes with a backslash -/

/-- How escapes are read: the letters that stand for a character of their own behind a backslash, and what
is behind the letter `u`, which opens a code point. -/
structure EscapeReader where
  letters : List (Char × Char)
  code : List Char → Char × List Char

namespace EscapeReader

/-- Takes one escaped character off the front of a text. -/
def unescape? (e : EscapeReader) : List Char → Option (Char × List Char)
  | '\\' :: 'u' :: rest => some (e.code rest)
  | '\\' :: c :: rest => (e.letters.lookup c).map fun d => (d, rest)
  | '"' :: _ => none
  | c :: rest => some (c, rest)
  | [] => none

theorem unescape?_of_plain (e : EscapeReader) {c : Char} (hbackslash : c ≠ '\\') (hmark : c ≠ '"')
    (rest : List Char) : e.unescape? (c :: rest) = some (c, rest) := by
  simp [unescape?, hbackslash]

end EscapeReader

namespace Diagnostic

/-- The digits of a code point stand between braces. -/
def escapes : EscapeReader where
  letters := [('"', '"'), ('\\', '\\'), ('t', '\t'), ('n', '\n'), ('r', '\r'), ('0', '\x00')]
  code cs :=
    let cs := cs.drop 1
    (Char.ofNat (ofHexDigits (cs.takeWhile (· != '\x7d'))), (cs.dropWhile (· != '\x7d')).drop 1)

theorem unescape?_codeEscape (c : Char) (rest : List Char) :
    escapes.unescape? (codeEscape c ++ rest) = some (c, rest) := by
  have hdigits : ∀ d ∈ hexDigits c.toNat, (d != '\x7d') = true := by
    intro d hd
    have hne : d ≠ '\x7d' := fun hbrace => brace_not_mem_hexDigits c.toNat (hbrace ▸ hd)
    simpa using hne
  simp only [codeEscape, List.cons_append, List.append_assoc, List.nil_append, escapes,
    EscapeReader.unescape?, List.drop_succ_cons, List.drop_zero,
    List.takeWhile_append_of_pos hdigits, List.dropWhile_append_of_pos hdigits]
  simp [ofHexDigits_hexDigits]

/-- **The escapes of diagnostics can be taken off one by one**, whichever characters are shown. -/
theorem unescapes_escapeBy (shown : Char → Bool) : Unescapes escapes.unescape? (escapeBy shown) where
  mark _ := rfl
  append c rest := by
    fun_cases escapeBy shown c with
    | case7 c hmark hbackslash => exact escapes.unescape?_of_plain hbackslash hmark rest
    | case8 => exact unescape?_codeEscape _ rest
    | _ => rfl

theorem quoted_escapeBy_inj {shown : Char → Bool} {s t : List Char}
    (h : quoted (escapeBy shown) s = quoted (escapeBy shown) t) : s = t :=
  ((unescapes_escapeBy shown).quoted_append_inj (congrArg (· ++ []) h)).1

end Diagnostic

end SelectQuery.Text
