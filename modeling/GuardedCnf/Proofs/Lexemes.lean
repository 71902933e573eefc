import GuardedCnf.Expression.Token
import Mathlib.Data.List.TakeWhile
import Mathlib.Tactic.SplitIfs
/-! # Lexemes — tokens at the front of a text

    A lexeme is a token as it is spelled, with any blanks before and after it.
    Scanning a text that begins with a lexeme gives its token and then the
    tokens of the rest, and whatever token scanning gives first is that of a
    lexeme at the front. -/

namespace GuardedCnf.Token

/-- The tokens of a text. -/
def ofText (cs : List Char) : List Token := (scan cs).map Prod.fst

/-- How a token may be spelled. -/
def Spelled : Token → List Char → Prop
  | .name s, w => w ≠ [] ∧ (∀ c ∈ w, isNameChar c = true) ∧ String.ofList w = s
  | .not, w => w = ['!'] ∨ w = ['~'] ∨ w = ['-']
  | .and, w => w = ['&']
  | .or, w => w = ['|']
  | .implies, w => w = ['-', '>']
  | .iff, w => w = ['<', '-', '>']
  | .opening, w => w = ['(']
  | .closing, w => w = [')']
  | .stray _, _ => False

/-- A text begins with a token, which has blanks around it, and goes on with the
    rest.  A name ends where no character of names follows. -/
inductive Lexeme (t : Token) : List Char → List Char → Prop where
  | intro (before w after rest : List Char) (spelled : t.Spelled w)
      (blankBefore : ∀ c ∈ before, isSpace c = true)
      (blankAfter : ∀ c ∈ after, isSpace c = true)
      (longest : ∀ s, t = .name s → ∀ c ∈ (after ++ rest).head?, isNameChar c = false) :
      Lexeme t (before ++ (w ++ (after ++ rest))) rest

/-- A text does not begin with a blank. -/
def Trimmed (cs : List Char) : Prop := ∀ c ∈ cs.head?, isSpace c = false

variable {t : Token} {ts : List Token} {c : Char} {cs rest : List Char}

/-! ## Scanning at the front. -/

theorem ofText_nil : ofText [] = [] := by
  rw [ofText, scan]
  rfl

/-- The sign of an equivalence is taken as a whole. -/
theorem ofText_iff (cs : List Char) : ofText ('<' :: '-' :: '>' :: cs) = .iff :: ofText cs := by
  rw [ofText, scan]
  rfl

/-- An arrow is taken as a whole, before its minus sign can be a negation. -/
theorem ofText_implies (cs : List Char) : ofText ('-' :: '>' :: cs) = .implies :: ofText cs := by
  rw [ofText, scan]
  rfl

/-- A character that begins no arrow is a blank, belongs to a name, or is a token
    of its own. -/
theorem ofText_cons (hiff : ∀ ds, c :: cs ≠ '<' :: '-' :: '>' :: ds)
    (himplies : ∀ ds, c :: cs ≠ '-' :: '>' :: ds) :
    ofText (c :: cs) =
      if isSpace c then ofText cs
      else if isNameChar c then
        .name (String.ofList (c :: cs.takeWhile isNameChar)) :: ofText (cs.dropWhile isNameChar)
      else ofChar c :: ofText cs := by
  rw [ofText, scan]
  · split
    · rfl
    · split <;> rfl
  · intro ds hc hcs
    exact hiff ds (by rw [hc, hcs])
  · intro ds hc hcs
    exact himplies ds (by rw [hc, hcs])

theorem ofText_space (h : isSpace c = true) (cs : List Char) : ofText (c :: cs) = ofText cs := by
  rw [ofText_cons, if_pos h]
  · rintro ds ⟨⟩
    exact nomatch h
  · rintro ds ⟨⟩
    exact nomatch h

/-- Blanks at the front have no meaning. -/
theorem ofText_spaces {before : List Char} (h : ∀ c ∈ before, isSpace c = true)
    (cs : List Char) : ofText (before ++ cs) = ofText cs := by
  induction before with
  | nil => rfl
  | cons c before ih =>
      obtain ⟨hc, hbefore⟩ := List.forall_mem_cons.mp h
      rw [List.cons_append, ofText_space hc, ih hbefore]

theorem not_isSpace_of_isNameChar (h : isNameChar c = true) : isSpace c = false := by
  refine Bool.eq_false_iff.mpr fun hspace => ?_
  simp only [isSpace, Bool.or_eq_true, beq_iff_eq] at hspace
  rcases hspace with ((rfl | rfl) | rfl) | rfl <;> exact nomatch h

/-- What passes a test is taken up to the first character that does not. -/
theorem takeWhile_append_of_stop {p : Char → Bool} {w rest : List Char} (hw : ∀ c ∈ w, p c = true)
    (hrest : ∀ c ∈ rest.head?, p c = false) : (w ++ rest).takeWhile p = w := by
  rw [List.takeWhile_append_of_pos hw]
  cases rest with
  | nil => exact List.append_nil w
  | cons c rest =>
      rw [List.takeWhile_cons_of_neg (by rw [hrest c rfl]; exact Bool.false_ne_true)]
      exact List.append_nil w

/-- What passes a test is dropped up to the first character that does not. -/
theorem dropWhile_append_of_stop {p : Char → Bool} {w rest : List Char} (hw : ∀ c ∈ w, p c = true)
    (hrest : ∀ c ∈ rest.head?, p c = false) : (w ++ rest).dropWhile p = rest := by
  rw [List.dropWhile_append_of_pos hw]
  cases rest with
  | nil => rfl
  | cons c rest =>
      exact List.dropWhile_cons_of_neg (by rw [hrest c rfl]; exact Bool.false_ne_true)

/-- A name is taken up to the first character that cannot belong to it. -/
theorem ofText_name {w : List Char} (hne : w ≠ []) (hw : ∀ c ∈ w, isNameChar c = true)
    (hrest : ∀ c ∈ rest.head?, isNameChar c = false) :
    ofText (w ++ rest) = .name (String.ofList w) :: ofText rest := by
  cases w with
  | nil => exact absurd rfl hne
  | cons c w =>
      obtain ⟨hc, hw⟩ := List.forall_mem_cons.mp hw
      rw [List.cons_append, ofText_cons, not_isSpace_of_isNameChar hc, if_neg Bool.false_ne_true,
        if_pos hc, takeWhile_append_of_stop hw hrest, dropWhile_append_of_stop hw hrest]
      · intro ds h
        rw [(List.cons.inj h).1] at hc
        exact nomatch hc
      · intro ds h
        rw [(List.cons.inj h).1] at hc
        exact nomatch hc

/-- A character that begins no arrow, is no blank and belongs to no name is a
    token of its own. -/
theorem ofText_char (hspace : isSpace c = false) (hname : isNameChar c = false)
    (hleft : c ≠ '<') (hminus : c = '-' → cs.head? ≠ some '>') :
    ofText (c :: cs) = ofChar c :: ofText cs := by
  rw [ofText_cons, hspace, hname]
  · rfl
  · intro ds h
    exact hleft (List.cons.inj h).1
  · intro ds h
    obtain ⟨hc, hcs⟩ := List.cons.inj h
    exact hminus hc (by rw [hcs]; rfl)

/-- **A LEXEME IS SCANNED AS ITS TOKEN**.  A minus sign for a negation is the
    only spelling that what follows could make part of another token. -/
theorem Lexeme.ofText_eq (h : Lexeme t cs rest) (hminus : t = .not → rest.head? ≠ some '>') :
    ofText cs = t :: ofText rest := by
  obtain ⟨before, w, after, _, hspelled, hbefore, hafter, hlongest⟩ := h
  rw [ofText_spaces hbefore]
  have hrest : ofText (after ++ rest) = ofText rest := ofText_spaces hafter rest
  cases t with
  | name s =>
      obtain ⟨hne, hw, rfl⟩ := hspelled
      rw [ofText_name hne hw (hlongest _ rfl), hrest]
  | not =>
      -- blanks keep the sign apart from what follows
      have hhead : (after ++ rest).head? ≠ some '>' := by
        cases after with
        | nil => exact hminus rfl
        | cons c after =>
            intro h
            have hc := hafter c (List.mem_cons_self ..)
            rw [Option.some.inj h] at hc
            exact nomatch hc
      rcases hspelled with rfl | rfl | rfl
      · rw [← hrest]
        exact ofText_char rfl rfl (by decide) fun h => absurd h (by decide)
      · rw [← hrest]
        exact ofText_char rfl rfl (by decide) fun h => absurd h (by decide)
      · rw [← hrest]
        exact ofText_char rfl rfl (by decide) fun _ => hhead
  | implies =>
      rw [show w = ['-', '>'] from hspelled, ← hrest]
      exact ofText_implies (after ++ rest)
  | iff =>
      rw [show w = ['<', '-', '>'] from hspelled, ← hrest]
      exact ofText_iff (after ++ rest)
  | and =>
      rw [show w = ['&'] from hspelled, ← hrest]
      exact ofText_char rfl rfl (by decide) fun h => absurd h (by decide)
  | or =>
      rw [show w = ['|'] from hspelled, ← hrest]
      exact ofText_char rfl rfl (by decide) fun h => absurd h (by decide)
  | opening =>
      rw [show w = ['('] from hspelled, ← hrest]
      exact ofText_char rfl rfl (by decide) fun h => absurd h (by decide)
  | closing =>
      rw [show w = [')'] from hspelled, ← hrest]
      exact ofText_char rfl rfl (by decide) fun h => absurd h (by decide)
  | stray c => exact hspelled.elim

/-- A lexeme does not begin with a character that is no blank and begins no
    spelling of its token. -/
theorem Lexeme.head?_ne (h : Lexeme t cs rest) (hspace : isSpace c = false)
    (hspelled : ∀ w, t.Spelled w → ∃ d ∈ w.head?, d ≠ c) : cs.head? ≠ some c := by
  obtain ⟨before, w, after, _, hw, hbefore, -, -⟩ := h
  cases before with
  | nil =>
      obtain ⟨d, hd, hne⟩ := hspelled w hw
      rw [List.nil_append, List.head?_append, Option.mem_def.mp hd]
      exact fun heq => hne (Option.some.inj heq)
  | cons b before =>
      intro heq
      have hblank := hbefore b (List.mem_cons_self ..)
      rw [Option.some.inj heq, hspace] at hblank
      exact nomatch hblank

/-! ## Lexemes from tokens. -/

/-- A lexeme from a spelling at the front without blanks around it. -/
theorem Lexeme.bare {w : List Char} (hspelled : t.Spelled w)
    (hlongest : ∀ s, t = .name s → ∀ c ∈ rest.head?, isNameChar c = false) :
    Lexeme t (w ++ rest) rest :=
  .intro [] w [] rest hspelled (List.forall_mem_nil _) (List.forall_mem_nil _) hlongest

/-- A lexeme from a spelling at the front and the blanks behind it. -/
theorem Lexeme.of_spelled {w : List Char} (hspelled : t.Spelled w)
    (hlongest : ∀ s, t = .name s → ∀ c ∈ cs.head?, isNameChar c = false) :
    Lexeme t (w ++ cs) (cs.dropWhile isSpace) := by
  have hcs : cs.takeWhile isSpace ++ cs.dropWhile isSpace = cs := List.takeWhile_append_dropWhile
  have h := Lexeme.intro [] w (cs.takeWhile isSpace) (cs.dropWhile isSpace) hspelled
    (List.forall_mem_nil _) (fun c hc => List.mem_takeWhile_imp hc) (by rwa [hcs])
  rwa [hcs] at h

/-- Blanks may stand before a lexeme. -/
theorem Lexeme.cons_space (h : Lexeme t cs rest) (hc : isSpace c = true) :
    Lexeme t (c :: cs) rest := by
  obtain ⟨before, w, after, _, hspelled, hbefore, hafter, hlongest⟩ := h
  exact Lexeme.intro (c :: before) w after rest hspelled
    (List.forall_mem_cons.mpr ⟨hc, hbefore⟩) hafter hlongest

/-- After dropping what passes a test, the front does not pass it. -/
theorem trimmed_dropWhile (p : Char → Bool) (cs : List Char) :
    ∀ c ∈ (cs.dropWhile p).head?, p c = false := by
  intro c hc
  have hnot := List.head?_dropWhile_not p cs
  rw [Option.mem_def.mp hc] at hnot
  exact hnot

/-- Dropping blanks at the front changes no tokens. -/
theorem ofText_dropWhile (cs : List Char) : ofText (cs.dropWhile isSpace) = ofText cs := by
  have hblank : ∀ c ∈ cs.takeWhile isSpace, isSpace c = true :=
    fun c hc => List.mem_takeWhile_imp hc
  have h := ofText_spaces hblank (cs.dropWhile isSpace)
  rwa [List.takeWhile_append_dropWhile, eq_comm] at h

/-- A character that is a token of its own spells it. -/
theorem spelled_ofChar (h : ∀ d, ofChar c ≠ .stray d) : (ofChar c).Spelled [c] := by
  unfold ofChar at h ⊢
  split_ifs at h ⊢ with hnot hand hor hopening hclosing
  · simp only [Bool.or_eq_true, decide_eq_true_eq] at hnot
    rcases hnot with (rfl | rfl) | rfl
    · exact Or.inl rfl
    · exact Or.inr (Or.inl rfl)
    · exact Or.inr (Or.inr rfl)
  · exact congrArg (fun c => [c]) hand
  · exact congrArg (fun c => [c]) hor
  · exact congrArg (fun c => [c]) hopening
  · exact congrArg (fun c => [c]) hclosing
  · exact absurd rfl (h c)

/-- All characters that are taken for a name belong to it. -/
theorem isNameChar_takeWhile {cs : List Char} {c : Char} (hc : isNameChar c = true) :
    ∀ d ∈ c :: cs.takeWhile isNameChar, isNameChar d = true :=
  List.forall_mem_cons.mpr ⟨hc, fun _ hd => List.mem_takeWhile_imp hd⟩

/-- A name at the front and the rest. -/
theorem name_append_rest (c : Char) (cs : List Char) :
    (c :: cs.takeWhile isNameChar) ++ cs.dropWhile isNameChar = c :: cs :=
  congrArg (c :: ·) List.takeWhile_append_dropWhile

theorem ofChar_ne_name (c : Char) (s : String) : ofChar c ≠ .name s := by
  unfold ofChar
  split_ifs <;> exact fun h => nomatch h

/-- **TOKENS COME FROM LEXEMES**: the first token of a text is that of a lexeme at
    its front, which leaves the other tokens to a text without blanks at its
    front. -/
theorem exists_lexeme (h : ofText cs = t :: ts) (ht : ∀ c, t ≠ .stray c) :
    ∃ rest, Lexeme t cs rest ∧ ofText rest = ts ∧ Trimmed rest := by
  have hfound {w cs' : List Char} (hspelled : t.Spelled w)
      (hlongest : ∀ s, t = .name s → ∀ c ∈ cs'.head?, isNameChar c = false)
      (hts : ofText cs' = ts) :
      ∃ rest, Lexeme t (w ++ cs') rest ∧ ofText rest = ts ∧ Trimmed rest :=
    ⟨cs'.dropWhile isSpace, Lexeme.of_spelled hspelled hlongest, (ofText_dropWhile cs').trans hts,
      trimmed_dropWhile isSpace cs'⟩
  -- the cases of scanning, of which only that of a blank goes on
  induction cs using scan.induct with
  | case1 =>
      rw [ofText_nil] at h
      exact nomatch h
  | case2 cs ih =>
      rw [ofText_iff] at h
      obtain ⟨rfl, hts⟩ := List.cons.inj h
      have hlongest : ∀ s, Token.iff = .name s → ∀ c ∈ cs.head?, isNameChar c = false :=
        fun s hs => nomatch hs
      exact hfound (w := ['<', '-', '>']) rfl hlongest hts
  | case3 cs ih =>
      rw [ofText_implies] at h
      obtain ⟨rfl, hts⟩ := List.cons.inj h
      have hlongest : ∀ s, Token.implies = .name s → ∀ c ∈ cs.head?, isNameChar c = false :=
        fun s hs => nomatch hs
      exact hfound (w := ['-', '>']) rfl hlongest hts
  | case4 c cs hiff himplies hspace ih =>
      rw [ofText_space hspace] at h
      obtain ⟨rest, hlexeme, hrest⟩ := ih h
      exact ⟨rest, hlexeme.cons_space hspace, hrest⟩
  | case5 c cs hiff himplies hspace hname ih =>
      have hcs := (name_append_rest c cs).symm
      have hstop := trimmed_dropWhile isNameChar cs
      rw [hcs, ofText_name (List.cons_ne_nil _ _) (isNameChar_takeWhile hname) hstop] at h
      obtain ⟨rfl, hts⟩ := List.cons.inj h
      rw [hcs]
      exact hfound ⟨List.cons_ne_nil _ _, isNameChar_takeWhile hname, rfl⟩ (fun _ _ => hstop) hts
  | case6 c cs hiff himplies hspace hname ih =>
      rw [ofText_cons (fun ds hds => ?_) (fun ds hds => ?_), if_neg hspace, if_neg hname] at h
      obtain ⟨rfl, hts⟩ := List.cons.inj h
      refine hfound (w := [c]) (spelled_ofChar ht) (fun s hs => absurd hs (ofChar_ne_name c s)) hts
      · obtain ⟨hc, hcs⟩ := List.cons.inj hds
        exact hiff ds hc hcs
      · obtain ⟨hc, hcs⟩ := List.cons.inj hds
        exact himplies ds hc hcs

/-- A text without tokens has only blanks. -/
theorem eq_nil_of_ofText (h : ofText cs = []) (htrimmed : Trimmed cs) : cs = [] := by
  cases cs with
  | nil => rfl
  | cons c cs =>
      have hspace := htrimmed c rfl
      by_cases hiff : ∃ ds, c :: cs = '<' :: '-' :: '>' :: ds
      · obtain ⟨ds, hds⟩ := hiff
        rw [hds, ofText_iff] at h
        exact nomatch h
      · by_cases himplies : ∃ ds, c :: cs = '-' :: '>' :: ds
        · obtain ⟨ds, hds⟩ := himplies
          rw [hds, ofText_implies] at h
          exact nomatch h
        · rw [ofText_cons (fun ds hds => hiff ⟨ds, hds⟩) (fun ds hds => himplies ⟨ds, hds⟩),
            hspace, if_neg Bool.false_ne_true] at h
          split at h <;> exact nomatch h

/-! ## Blanks at the end. -/

theorem not_isNameChar_of_isSpace (h : isSpace c = true) : isNameChar c = false := by
  refine Bool.eq_false_iff.mpr fun hname => ?_
  rw [not_isSpace_of_isNameChar hname] at h
  exact nomatch h

/-- A blank at the end does not complete what ends with another character. -/
theorem ne_append_of_isSpace {w : List Char} {d : Char} (hc : isSpace c = true)
    (hd : isSpace d = false) (h : ∀ ds, cs ≠ w ++ d :: ds) (ds : List Char) :
    cs ++ [c] ≠ w ++ d :: ds := by
  intro heq
  rcases List.eq_nil_or_concat ds with rfl | ⟨es, e, rfl⟩
  · have hlast := (List.append_inj' heq rfl).2
    rw [(List.cons.inj hlast).1, hd] at hc
    exact nomatch hc
  · rw [List.concat_eq_append, ← List.cons_append, ← List.append_assoc] at heq
    exact h es (List.append_inj' heq rfl).1

/-- A blank at the end has no meaning. -/
theorem ofText_append_space (hc : isSpace c = true) (cs : List Char) :
    ofText (cs ++ [c]) = ofText cs := by
  -- the cases of scanning, none of which finds another token in a blank
  induction cs using scan.induct with
  | case1 => exact ofText_space hc []
  | case2 cs ih => exact (ofText_iff _).trans ((congrArg _ ih).trans (ofText_iff cs).symm)
  | case3 cs ih => exact (ofText_implies _).trans ((congrArg _ ih).trans (ofText_implies cs).symm)
  | case4 d cs hiff himplies hspace ih =>
      rw [List.cons_append, ofText_space hspace, ofText_space hspace, ih]
  | case5 d cs hiff himplies hspace hname ih =>
      have hstop : ∀ e ∈ (cs.dropWhile isNameChar ++ [c]).head?, isNameChar e = false := by
        rw [List.head?_append]
        intro e he
        rcases Option.or_eq_some_iff.mp he with hrest | ⟨-, hrest⟩
        · exact trimmed_dropWhile isNameChar cs e hrest
        · rw [← Option.some.inj hrest]
          exact not_isNameChar_of_isSpace hc
      rw [← name_append_rest, List.append_assoc,
        ofText_name (List.cons_ne_nil _ _) (isNameChar_takeWhile hname) hstop,
        ofText_name (List.cons_ne_nil _ _) (isNameChar_takeWhile hname)
          (trimmed_dropWhile isNameChar cs), ih]
  | case6 d cs hiff himplies hspace hname ih =>
      have hiff : ∀ ds, d :: cs ≠ ['<', '-'] ++ '>' :: ds := fun ds h =>
        hiff ds (List.cons.inj h).1 (List.cons.inj h).2
      have himplies : ∀ ds, d :: cs ≠ ['-'] ++ '>' :: ds := fun ds h =>
        himplies ds (List.cons.inj h).1 (List.cons.inj h).2
      have happend := ofText_cons (ne_append_of_isSpace hc rfl hiff)
        (ne_append_of_isSpace hc rfl himplies)
      rw [if_neg hspace, if_neg hname] at happend
      rw [ofText_cons hiff himplies, if_neg hspace, if_neg hname, ← ih]
      exact happend

end GuardedCnf.Token
