import SelectQuery.Proofs.Reading.Condition

/-!
# Runs of blanks in a condition

Whatever a condition is written with, reading it makes a single space of each run of blanks
(`squeeze`). A text without quotes is read as just that (`conditionOf_scanChars`). Most of the runs
that a condition may still hold after the reading come from quoted text, and they go when it is read
once more.
-/

namespace SelectQuery

/-- Each run of blanks becomes a single space: a blank with another one behind it is dropped, and any
other blank becomes a space. -/
def squeeze : List Char → List Char
  | [] => []
  | c :: cs =>
    if c ∈ [' ', '\t', '\n'] then
      if cs.head?.any (· ∈ [' ', '\t', '\n']) then squeeze cs else ' ' :: squeeze cs
    else c :: squeeze cs

variable {c : Char} {cs : List Char}

theorem squeeze_of_not_blank (h : isBlank c = false) : squeeze (c :: cs) = c :: squeeze cs := by
  rw [squeeze, if_neg]
  rw [← isBlank_iff, h]
  exact Bool.false_ne_true

theorem squeeze_of_isBlank (h : isBlank c = true) : squeeze (c :: cs) =
    if cs.head?.any isBlank then squeeze cs else ' ' :: squeeze cs := by
  rw [squeeze, if_pos (isBlank_iff.1 h), decide_mem_blanks]

theorem squeeze_of_blank (h : isBlank c = true) (hcs : ∀ d ∈ cs.head?, isBlank d = false) :
    squeeze (c :: cs) = ' ' :: squeeze cs := by
  rw [squeeze_of_isBlank h, if_neg]
  rw [Option.any_eq_true]
  rintro ⟨d, hd, hblank⟩
  rw [hcs d hd] at hblank
  cases hblank

theorem squeeze_of_blank_blank {d : Char} (h : isBlank c = true) (hd : isBlank d = true) :
    squeeze (c :: d :: cs) = squeeze (d :: cs) := by
  rw [squeeze_of_isBlank h, if_pos (by simpa using hd)]

/-! ## Reading squeezes -/

theorem unquote_eq_squeeze (hq : '\'' ∉ cs) : unquote false cs = squeeze cs := by
  induction cs with
  | nil => rfl
  | cons c cs ih =>
    rw [List.mem_cons, not_or] at hq
    by_cases hc : isBlank c = true
    · rw [unquote_of_isBlank hc, squeeze_of_isBlank hc, ih hq.2]
    · rw [Bool.not_eq_true] at hc
      rw [unquote_of_copied (fun h => hq.1 h.symm) (.inr hc), squeeze_of_not_blank hc, ih hq.2]

/-- **A text without quotes is a condition with its runs of blanks squeezed.** -/
theorem conditionOf_scanChars (hq : '\'' ∉ cs) :
    Statement.conditionOf (Token.scanChars cs) = String.ofList (squeeze cs) := by
  rw [conditionOf_scanChars_eq, unquote_eq_squeeze hq]

example : Statement.conditionOf (Token.scan " a \t\n=  b") = " a = b" := by decide +kernel

/-! ## What squeezing leaves as it is -/

theorem head_squeeze (cs : List Char) :
    (squeeze cs).head? = cs.head?.map fun c => if isBlank c then ' ' else c := by
  induction cs with
  | nil => rfl
  | cons c cs ih =>
    by_cases hc : isBlank c = true
    · cases cs with
      | nil => rw [squeeze_of_blank hc (by simp)]; simp [hc]
      | cons d cs =>
        by_cases hd : isBlank d = true
        · rw [squeeze_of_blank_blank hc hd, ih]
          simp [hc, hd]
        · rw [squeeze_of_blank hc (by simpa using hd)]
          simp [hc]
    · rw [Bool.not_eq_true] at hc
      rw [squeeze_of_not_blank hc]
      simp [hc]

theorem mem_of_mem_squeeze (h : c ∈ squeeze cs) : c = ' ' ∨ c ∈ cs := by
  fun_induction squeeze cs with
  | case1 => cases h
  | case2 d cs _ _ ih => exact (ih h).imp_right (List.mem_cons_of_mem d)
  | case3 d cs _ _ ih =>
    rcases List.mem_cons.1 h with rfl | h
    · exact .inl rfl
    · exact (ih h).imp_right (List.mem_cons_of_mem d)
  | case4 d cs _ ih =>
    rcases List.mem_cons.1 h with rfl | h
    · exact .inr List.mem_cons_self
    · exact (ih h).imp_right (List.mem_cons_of_mem d)

theorem length_squeeze_le (cs : List Char) : (squeeze cs).length ≤ cs.length := by
  fun_induction squeeze cs with
  | case1 => rfl
  | case2 c cs _ _ ih =>
    rw [List.length_cons]
    omega
  | case3 c cs _ _ ih => exact Nat.succ_le_succ ih
  | case4 c cs _ ih => exact Nat.succ_le_succ ih

/-- Two spaces next to each other in a longer text are at its start or behind it. -/
theorem spaces_infix_cons : [' ', ' '] <:+: c :: cs ↔
    c = ' ' ∧ cs.head? = some ' ' ∨ [' ', ' '] <:+: cs := by
  rw [List.infix_cons_iff, List.cons_prefix_cons]
  cases cs with
  | nil => simp
  | cons d cs => simp [eq_comm]

/-- **The texts that stay as they are** hold no blanks but single spaces. -/
theorem squeeze_eq_self_iff : squeeze cs = cs ↔
    '\t' ∉ cs ∧ '\n' ∉ cs ∧ ¬[' ', ' '] <:+: cs := by
  induction cs with
  | nil => simp [squeeze]
  | cons c cs ih =>
    rw [spaces_infix_cons]
    by_cases hc : isBlank c = true
    · have hcases := isBlank_iff.1 hc
      cases cs with
      | nil =>
        rw [squeeze_of_blank hc (by simp)]
        grind [squeeze]
      | cons d cs =>
        by_cases hd : isBlank d = true
        · have hd' := isBlank_iff.1 hd
          -- the first of two blanks is dropped, and what is left is shorter
          rw [squeeze_of_blank_blank hc hd]
          have hlen := length_squeeze_le (d :: cs)
          constructor
          · intro h
            rw [h, List.length_cons] at hlen
            omega
          · intro h
            grind
        · rw [squeeze_of_blank hc (by simpa using hd), List.cons.injEq, ih]
          rw [isBlank_iff] at hd
          grind
    · have hmem : c ∉ [' ', '\t', '\n'] := by rwa [← isBlank_iff]
      rw [squeeze_of_not_blank (by simpa using hc), List.cons.injEq, ih]
      grind

theorem any_head_squeeze_append (cs ds : List Char) :
    (squeeze cs ++ ds).head?.any isBlank = (cs ++ ds).head?.any isBlank := by
  cases cs with
  | nil => rfl
  | cons c cs =>
    have hhead := head_squeeze (c :: cs)
    cases hsqueeze : squeeze (c :: cs) with
    | nil => simp [hsqueeze] at hhead
    | cons d es =>
      rw [hsqueeze] at hhead
      cases hhead
      cases hc : isBlank c <;> simp [hc, isBlank_space]

/-- **Squeezing a part first changes nothing**, also if a run of blanks goes on behind it. -/
theorem squeeze_squeeze_append (cs ds : List Char) :
    squeeze (squeeze cs ++ ds) = squeeze (cs ++ ds) := by
  induction cs with
  | nil => rfl
  | cons c cs ih =>
    by_cases hc : isBlank c = true
    · have hany := any_head_squeeze_append cs ds
      rw [List.cons_append, squeeze_of_isBlank hc, squeeze_of_isBlank hc]
      split
      · rename_i hnext
        have hnext' : (cs ++ ds).head?.any isBlank = true := by cases cs <;> simp_all
        rw [if_pos hnext', ih]
      · rw [List.cons_append, squeeze_of_isBlank isBlank_space, ih, hany]
    · rw [Bool.not_eq_true] at hc
      rw [List.cons_append, squeeze_of_not_blank hc, List.cons_append, squeeze_of_not_blank hc, ih,
        squeeze_of_not_blank hc]

theorem squeeze_squeeze (cs : List Char) : squeeze (squeeze cs) = squeeze cs := by
  have h := squeeze_squeeze_append cs []
  rwa [List.append_nil, List.append_nil] at h

end SelectQuery
