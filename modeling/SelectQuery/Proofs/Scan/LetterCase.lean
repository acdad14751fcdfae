import SelectQuery.Proofs.Scan.Piece

/-!
# The case of letters in a text

Letters in capitals and small letters are cut alike: blanks and marks have no case, and keywords are
recognised without regard to it. So the tokens of a text in small letters are those of the text itself,
with their texts in small letters (`Token.scan_asciiLower`). The small letters meant here are those of
ASCII; all other characters stay as they are, also those whose upper-case form is an ASCII letter.
-/

namespace SelectQuery

namespace Text

/-- The text with the capital letters from `A` to `Z` replaced by the small ones. -/
def asciiLower (text : String) : String := String.ofList (text.toList.map Char.toLower)

theorem toList_asciiLower (text : String) :
    (asciiLower text).toList = text.toList.map Char.toLower := by
  simp [asciiLower]

theorem asciiLower_ofList (cs : List Char) :
    asciiLower (String.ofList cs) = String.ofList (cs.map Char.toLower) := by
  rw [asciiLower, String.toList_ofList]

theorem asciiLower_append (a b : String) :
    asciiLower (a ++ b) = asciiLower a ++ asciiLower b := by
  simp [asciiLower]

/-- Only the capital letters change, and each of them becomes the small letter. -/
theorem toLower_cases (c : Char) :
    c.toLower = c ∨ (0x41 ≤ c.toNat ∧ c.toNat ≤ 0x5a) ∧ c.toLower.toNat = c.toNat + 0x20 := by
  by_cases hc : c.val ≥ 'A'.val ∧ c.val ≤ 'Z'.val
  · have hle : 0x41 ≤ c.toNat ∧ c.toNat ≤ 0x5a := hc
    refine .inr ⟨hle, ?_⟩
    have hval : c.toLower.val = c.val + 0x20 := congrArg Char.val (dif_pos hc)
    have hadd : (c.val + 0x20).toNat = (c.val.toNat + 0x20) % 2 ^ 32 := UInt32.toNat_add _ _
    have hnat : c.toLower.toNat = (c.toNat + 0x20) % 2 ^ 32 := by
      rw [Char.toNat, hval, hadd]
      rfl
    omega
  · exact .inl (dif_neg hc)

/-- The characters in front of the letters have no case. -/
theorem toLower_eq_iff {c d : Char} (hd : d.toNat < 0x41) : c.toLower = d ↔ c = d := by
  obtain h | ⟨hrange, hlower⟩ := toLower_cases c
  · rw [h]
  · refine iff_of_false ?_ ?_
    · rintro rfl
      omega
    · rintro rfl
      omega

theorem upperChar_toLower (c : Char) : upperChar c.toLower = upperChar c := by
  obtain h | ⟨hrange, hlower⟩ := toLower_cases c
  · rw [h]
  · have hletters : ∀ code < 0x80, (Char.ofNat code).toLower.toUpper = (Char.ofNat code).toUpper := by
      decide
    have hc := hletters c.toNat (by omega)
    rw [Char.ofNat_toNat] at hc
    rw [upperChar, upperChar, if_pos (by omega), if_pos (by omega), hc]

theorem uppercase_asciiLower (text : String) : uppercase (asciiLower text) = uppercase text := by
  rw [uppercase, uppercase, toList_asciiLower, List.flatMap_map]
  simp only [upperChar_toLower]

end Text

open Text

theorem Keyword.ofText?_asciiLower (text : String) : ofText? (asciiLower text) = ofText? text := by
  rw [ofText?, ofText?, uppercase_asciiLower]

theorem isBlank_toLower (c : Char) : isBlank c.toLower = isBlank c := by
  simp only [isBlank, toLower_eq_iff (by decide : ' '.toNat < 0x41),
    toLower_eq_iff (by decide : '\t'.toNat < 0x41), toLower_eq_iff (by decide : '\n'.toNat < 0x41)]

theorem isMark_toLower (c : Char) : isMark c.toLower = isMark c := by
  simp only [isMark, toLower_eq_iff (by decide : '.'.toNat < 0x41),
    toLower_eq_iff (by decide : ','.toNat < 0x41), toLower_eq_iff (by decide : '\''.toNat < 0x41),
    toLower_eq_iff (by decide : '='.toNat < 0x41)]

theorem isWordChar_toLower (c : Char) : isWordChar c.toLower = isWordChar c := by
  rw [isWordChar, isWordChar, isBlank_toLower, isMark_toLower]

theorem head_map_toLower {p : Char → Bool} {rest : List Char} (hp : ∀ c, p c.toLower = p c)
    (hrest : ∀ c ∈ rest.head?, p c = false) : ∀ c ∈ (rest.map Char.toLower).head?, p c = false := by
  intro c hc
  rw [List.head?_map] at hc
  obtain ⟨d, hd, rfl⟩ := Option.map_eq_some_iff.1 hc
  rw [hp, hrest d hd]

theorem quote_not_mem_map_toLower {q : List Char} (hq : '\'' ∉ q) : '\'' ∉ q.map Char.toLower := by
  rw [List.mem_map]
  rintro ⟨c, hc, heq⟩
  rw [toLower_eq_iff (by decide)] at heq
  exact hq (heq ▸ hc)

namespace Token

def lower : Token → Token
  | .word text => .word (asciiLower text)
  | .quoted text => .quoted (asciiLower text)
  | .keyword k text => .keyword k (asciiLower text)
  | t => t

theorem literal_lower (t : Token) : t.lower.literal = asciiLower t.literal := by
  cases t with
  | operator op => cases op <;> decide
  | word | quoted | keyword => rfl
  | _ => decide

theorem ofWord_asciiLower (text : String) : ofWord (asciiLower text) = (ofWord text).lower := by
  unfold ofWord
  rw [Keyword.ofText?_asciiLower]
  split <;> rfl

variable {w rest : List Char} {t : Token}

/-- **A piece in small letters** is a piece of the text in small letters. -/
theorem Piece.lower (h : Piece w rest t) :
    Piece (w.map Char.toLower) (rest.map Char.toLower) t.lower := by
  cases h with
  | dot => exact .dot
  | comma => exact .comma
  | equal => exact .equal
  | blanks hne hw hrest =>
    refine .blanks (by simpa using hne) (List.forall_mem_map.2 fun c hc => ?_)
      (head_map_toLower isBlank_toLower hrest)
    rw [isBlank_toLower, hw c hc]
  | word hne hw hrest =>
    rw [← ofWord_asciiLower, asciiLower_ofList]
    refine .word (by simpa using hne) (List.forall_mem_map.2 fun c hc => ?_)
      (head_map_toLower isWordChar_toLower hrest)
    rw [isWordChar_toLower, hw c hc]
  | @quoted q _ hq =>
    have hpiece := @Piece.quoted _ (rest.map Char.toLower) (quote_not_mem_map_toLower hq)
    rw [← asciiLower_ofList] at hpiece
    simpa [lower] using hpiece
  | unclosed hq =>
    rw [List.map_cons, List.map_nil]
    have hpiece := Piece.unclosed (quote_not_mem_map_toLower hq)
    rwa [← asciiLower_ofList] at hpiece

/-- **A text in small letters has the tokens of the text**, with their texts in small letters. -/
theorem scanChars_map_toLower (cs : List Char) :
    scanChars (cs.map Char.toLower) = (scanChars cs).map lower := by
  induction cs using piece_induction with
  | nil => rw [List.map_nil, scanChars_nil, List.map_nil]
  | piece hp ih => rw [List.map_append, hp.lower.scanChars_eq, hp.scanChars_eq, ih, List.map_cons]

theorem scan_asciiLower (text : String) : scan (asciiLower text) = (scan text).map lower := by
  rw [scan, toList_asciiLower, scanChars_map_toLower]
  rfl

end Token

end SelectQuery
