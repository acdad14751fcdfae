import Mathlib.Data.List.Forall2
import Mathlib.Data.List.Infix
import SelectQuery.Proofs.Text.Uppercase

/-!
# How keywords are spelled

A keyword is recognised by the upper-case form of a text. That form may be longer than the text, and it
may hold letters where the text has none: `ß` becomes `SS`, and a ligature of two letters becomes both of
them. For keywords all this comes down to one exception. No keyword holds the form of an expanding
character. Of the two characters beyond ASCII that become a single ASCII letter, the dotless i becomes a
letter that no keyword has, and what is left is the long s (`Keyword.spellings_exact`).
-/

namespace SelectQuery

namespace Text

/-! ## Upper-case forms in ASCII -/

/-- A number that is no code point stands for the character with the code point zero. -/
theorem toNat_eq_of_ofNat {code : Nat} {c : Char} (h : Char.ofNat code = c) (hc : c.toNat ≠ 0) :
    c.toNat = code := by
  subst h
  by_cases hcode : code.isValidChar
  · rw [Char.ofNat, dif_pos hcode]
    rfl
  · refine absurd ?_ hc
    rw [Char.ofNat, dif_neg hcode]
    rfl

/-- The only runs with images in ASCII are the dotless i and the long s. -/
theorem CaseRun.ascii_cases : ∀ r ∈ caseRuns, r.image < 0x80 →
    r.first = r.last ∧ (r.first = 0x131 ∧ r.image = 0x49 ∨ r.first = 0x17f ∧ r.image = 0x53) := by
  decide +kernel

/-- The two code points beyond ASCII that have a single one in ASCII for their upper-case form. -/
theorem upperCodes_ascii {code letter : Nat} (h : upperCodes code = [letter]) (hcode : 0x80 ≤ code)
    (hletter : letter < 0x80) : code = 0x131 ∧ letter = 0x49 ∨ code = 0x17f ∧ letter = 0x53 := by
  obtain ⟨r, hr, hcontains, hupper⟩ | ⟨e, he, hupper⟩ | hupper := upperCodes_cases code
  · obtain rfl : r.upper code = letter := by simpa using hupper.symm.trans h
    simp only [CaseRun.upper] at hletter ⊢
    obtain ⟨hsingle, hcases⟩ := CaseRun.ascii_cases r hr (by omega)
    simp only [CaseRun.contains, Bool.and_eq_true, decide_eq_true_eq] at hcontains
    omega
  · have hlength := e.length_image he
    rw [← hupper, h] at hlength
    simp at hlength
  · obtain rfl : code = letter := by simpa using hupper.symm.trans h
    omega

end Text

open Text

namespace Keyword

/-! ## Letters -/

/-- The characters that a capital letter of a keyword is written with: the letter in either case, and the
long s for `S`. -/
def WrittenAs (letter c : Char) : Prop := c = letter ∨ c = letter.toLower ∨ letter = 'S' ∧ c = 'ſ'

instance (letter c : Char) : Decidable (WrittenAs letter c) :=
  inferInstanceAs (Decidable (c = letter ∨ c = letter.toLower ∨ letter = 'S' ∧ c = 'ſ'))

/-- The text has the letters of the keyword one by one, and no other characters. -/
def Spells (k : Keyword) (text : String) : Prop :=
  List.Forall₂ WrittenAs k.spelling.toList text.toList

variable {k : Keyword} {letter c : Char} {text : String}

theorem forall_letter {p : Char → Bool} (hp : ∀ k ∈ all, k.spelling.toList.all p = true)
    (h : letter ∈ k.spelling.toList) : p letter = true :=
  List.all_eq_true.1 (hp k k.mem_all) letter h

/-- The letters of keywords are capital letters of ASCII, and `I` is not among them. -/
theorem letter_range (h : letter ∈ k.spelling.toList) :
    0x41 ≤ letter.toNat ∧ letter.toNat ≤ 0x5a ∧ letter.toNat ≠ 0x49 ∧ letter.toLower.toNat < 0x80 := by
  have hall : ∀ k ∈ all, (k.spelling.toList.all fun letter => decide (0x41 ≤ letter.toNat ∧
      letter.toNat ≤ 0x5a ∧ letter.toNat ≠ 0x49 ∧ letter.toLower.toNat < 0x80)) = true := by
    decide
  exact of_decide_eq_true (forall_letter hall h)

/-- Among the characters of ASCII, a letter of a keyword is the upper-case form of itself and of the small
letter. -/
theorem upperChar_ascii_iff (h : letter ∈ k.spelling.toList) : ∀ code < 0x80,
    upperChar (Char.ofNat code) = [letter] ↔ WrittenAs letter (Char.ofNat code) := by
  have hall : ∀ k ∈ all, (k.spelling.toList.all fun letter => decide (∀ code : Nat, code < 0x80 →
      (upperChar (Char.ofNat code) = [letter] ↔ WrittenAs letter (Char.ofNat code)))) = true := by
    decide +kernel
  exact of_decide_eq_true (forall_letter hall h)

/-- **The characters whose upper-case form is a given letter of a keyword.** -/
theorem upperChar_eq_iff (h : letter ∈ k.spelling.toList) :
    upperChar c = [letter] ↔ WrittenAs letter c := by
  by_cases hc : c.toNat < 0x80
  · have hascii := upperChar_ascii_iff h c.toNat hc
    rwa [Char.ofNat_toNat] at hascii
  · obtain ⟨hge, hle, hi, hlower⟩ := letter_range h
    constructor
    · intro hupper
      rw [upperChar, if_neg hc] at hupper
      obtain ⟨code, hcodes, hcode⟩ := List.map_eq_singleton_iff.1 hupper
      have hletter : letter.toNat = code := toNat_eq_of_ofNat hcode (by omega)
      obtain ⟨-, rfl⟩ | ⟨hlong, hs⟩ := upperCodes_ascii hcodes (by omega) (by omega)
      · exact absurd hletter hi
      · refine .inr (.inr ⟨?_, ?_⟩)
        · rw [← Char.ofNat_toNat letter, hletter, hs]
        · rw [← Char.ofNat_toNat c, hlong]
    · rintro (rfl | rfl | ⟨rfl, rfl⟩)
      · omega
      · omega
      · decide

/-! ## Texts -/

/-- No keyword holds the upper-case form of an expanding character. -/
theorem not_infix_spelling : ∀ e ∈ caseExpansions, ∀ k ∈ all,
    ¬e.image.map Char.ofNat <:+: k.spelling.toList := by
  decide +kernel

theorem exists_letter (h : ofText? text = some k) (hc : c ∈ text.toList) :
    ∃ letter, upperChar c = [letter] := by
  rw [ofText?_eq_some_iff] at h
  have hinfix : upperChar c <:+: k.spelling.toList := by
    rw [← h, toList_uppercase]
    exact List.infix_flatMap_of_mem hc upperChar
  obtain hletter | ⟨e, he, hexpands⟩ := upperChar_cases c
  · exact hletter
  · rw [hexpands] at hinfix
    exact absurd hinfix (not_infix_spelling e he k k.mem_all)

theorem forall₂_upperChar {cs letters : List Char} (hcs : ∀ c ∈ cs, ∃ letter, upperChar c = [letter])
    (h : cs.flatMap upperChar = letters) :
    List.Forall₂ (fun letter c => upperChar c = [letter]) letters cs := by
  induction cs generalizing letters with
  | nil =>
    subst h
    exact .nil
  | cons c cs ih =>
    obtain ⟨⟨letter, hletter⟩, hrest⟩ := List.forall_mem_cons.1 hcs
    subst h
    rw [List.flatMap_cons, hletter]
    exact .cons hletter (ih hrest rfl)

theorem flatMap_upperChar {cs letters : List Char}
    (h : List.Forall₂ (fun letter c => upperChar c = [letter]) letters cs) :
    cs.flatMap upperChar = letters := by
  induction h with
  | nil => rfl
  | cons hletter _ ih => rw [List.flatMap_cons, hletter, ih, List.singleton_append]

/-- To be written with a letter is to have it for the upper-case form, as long as it is one of a keyword. -/
theorem spells_iff :
    k.Spells text ↔
      List.Forall₂ (fun letter c => upperChar c = [letter]) k.spelling.toList text.toList := by
  have hself : ∀ letter ∈ k.spelling.toList, letter ∈ k.spelling.toList := fun _ h => h
  constructor
  · intro h
    refine ((List.forall₂_and_left _ _).2 ⟨hself, h⟩).imp fun letter c hc => ?_
    exact (upperChar_eq_iff hc.1).2 hc.2
  · intro h
    refine ((List.forall₂_and_left _ _).2 ⟨hself, h⟩).imp fun letter c hc => ?_
    exact (upperChar_eq_iff hc.1).1 hc.2

/-- **The spellings of keywords.** A text spells a keyword exactly if it is written with its letters, one for
one, and no text with a character that expands spells any. -/
theorem spellings_exact :
    (∀ (text : String) (k : Keyword), ofText? text = some k ↔ k.Spells text) ∧
      ∀ (text : String) (c : Char), c ∈ text.toList → 1 < (upperChar c).length → ofText? text = none := by
  refine ⟨fun text k => ?_, fun text c hc hexpands => ?_⟩
  · rw [spells_iff]
    constructor
    · intro h
      refine forall₂_upperChar (fun c hc => exists_letter h hc) ?_
      rw [← toList_uppercase, ofText?_eq_some_iff.1 h]
    · intro h
      rw [ofText?_eq_some_iff, ← String.toList_inj, toList_uppercase]
      exact flatMap_upperChar h
  · rw [Option.eq_none_iff_forall_ne_some]
    intro k hk
    obtain ⟨letter, hletter⟩ := exists_letter hk hc
    rw [hletter] at hexpands
    exact absurd hexpands (by simp)

/-- The long s takes the place of a letter, and the letter that becomes two of them does not. -/
theorem spellings_exact_long_s :
    Spells .select "ſelecT" ∧ ofText? "ſelecT" = some .select ∧
      'ß' ∈ "ßELECT".toList ∧ 1 < (upperChar 'ß').length ∧ ofText? "ßELECT" = none := by
  have hspells : Spells .select "ſelecT" := by
    simp only [Spells, spelling]
    decide +kernel
  have hmem : 'ß' ∈ "ßELECT".toList := by decide
  have hexpands : 1 < (upperChar 'ß').length := by decide +kernel
  exact ⟨hspells, (spellings_exact.1 _ _).2 hspells, hmem, hexpands, spellings_exact.2 _ _ hmem hexpands⟩

end Keyword

end SelectQuery
