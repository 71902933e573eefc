import GuardedCnf.Format.Text
import GuardedCnf.Proofs.Declarations
import GuardedCnf.Proofs.Reading
/-! # Text lines — the conjuncts of a text

    A text that is accepted is one expression on each of its lines, apart from
    the blank ones.  Its conjuncts are the normal forms of the formulas of these
    expressions, in order, and the map has the identifiers of all lines in the
    order in which they first occur. -/

namespace GuardedCnf.Format.Text

open GuardedCnf.Text
open VariableMap (Grows inputEntries)

variable {vars vars' : VariableMap}

/-- A line whose tokens make up one expression is read as this expression. -/
theorem ofLine_of_tokens {line : List Char} {e : Expr} (ts : List Token)
    (hscan : (Token.scan line).map Prod.fst = ts)
    (hread : (Reader.level (Reader.maxNesting + 1)).equivalence ts = .read e []) :
    Expr.ofLine line = .ok e := by
  simp only [Expr.ofLine, hscan, hread]

/-- The expressions of lines: one of each line that is not blank. -/
inductive Reads : List (Option String) → List Expr → Prop where
  | nil : Reads [] []
  | blank {line : String} {lines : List (Option String)} {es : List Expr}
      (blank : (content line).all isBlank = true) (rest : Reads lines es) :
      Reads (some line :: lines) es
  | expression {line : String} {lines : List (Option String)} {e : Expr} {es : List Expr}
      (nonblank : ¬(content line).all isBlank = true)
      (read : Expr.ofLine (content line) = .ok e) (rest : Reads lines es) :
      Reads (some line :: lines) (e :: es)

/-- Lines have one list of expressions. -/
theorem Reads.unique {lines : List (Option String)} {es es' : List Expr} (h : Reads lines es)
    (h' : Reads lines es') : es = es' := by
  induction h generalizing es' with
  | nil =>
      cases h'
      rfl
  | blank hblank _ ih =>
      cases h' with
      | blank _ hrest => exact ih hrest
      | expression hnonblank _ _ => exact absurd hblank hnonblank
  | expression hnonblank hread _ ih =>
      cases h' with
      | blank hblank _ => exact absurd hblank hnonblank
      | expression _ hread' hrest =>
          rw [Except.ok.inj (hread.symm.trans hread'), ih hrest]

/-- What lines say, apart from the blank ones. -/
def contents (lines : List (Option String)) : List (List Char) :=
  (lines.filterMap (·.map content)).filter fun text => !text.all isBlank

/-- The names on lines that stand for no constant, in the order in which they
    first occur. -/
def lineIdentifiers (lines : List (Option String)) : List String :=
  ((contents lines).flatMap fun text =>
    Token.identifiers ((Token.scan text).map Prod.fst)).eraseDups

theorem contents_cons_of_blank {line : String} (h : (content line).all isBlank = true)
    (lines : List (Option String)) : contents (some line :: lines) = contents lines :=
  List.filter_cons_of_neg (by rw [h]; decide)

theorem contents_cons_of_nonblank {line : String} (h : ¬(content line).all isBlank = true)
    (lines : List (Option String)) :
    contents (some line :: lines) = content line :: contents lines :=
  List.filter_cons_of_pos (by rw [Bool.eq_false_iff.mpr h]; decide)

/-- The expressions of lines have the identifiers on the lines. -/
theorem Reads.eraseDups_namesAll {lines : List (Option String)} {es : List Expr}
    (h : Reads lines es) : (Expr.namesAll es).eraseDups = lineIdentifiers lines := by
  refine congrArg List.eraseDups ?_
  induction h with
  | nil => rfl
  | blank hblank _ ih => rw [contents_cons_of_blank hblank, ih]
  | expression hnonblank hread _ ih =>
      rw [contents_cons_of_nonblank hnonblank, List.flatMap_cons, ← ih, Expr.namesAll,
        Expr.names_ofLine hread]

/-- The conjunct of an expression, with the variables of a map. -/
def conjunct (vars : VariableMap) (e : Expr) : Formula := (e.toFormula vars.indexOf).nnf

/-! ## Conjuncts. -/

/-- The conjunct of an expression is normal. -/
theorem isNnf_conjunct (vars : VariableMap) (e : Expr) : (conjunct vars e).isNnf = true :=
  Formula.isNnf_normal _ true

/-- A conjunct has the truth value of its expression. -/
theorem eval_conjunct (vars : VariableMap) (e : Expr) (v : Valuation) :
    (conjunct vars e).eval v = e.eval fun name => v (vars.indexOf name) := by
  rw [conjunct, Formula.eval_nnf, Expr.eval_toFormula]

/-- The variables of a conjunct are those of the names of its expression. -/
theorem vars_conjunct (vars : VariableMap) (e : Expr) :
    ∀ x ∈ (conjunct vars e).vars, ∃ name ∈ e.names, vars.indexOf name = x := by
  intro x hx
  rw [conjunct, Formula.nnf, Formula.vars_normal] at hx
  exact e.vars_toFormula vars.indexOf x hx

/-- A conjunct stays the same when the map grows. -/
theorem conjunct_of_grows {es : List Entry} {e : Expr} (h : vars.Grows vars' es)
    (hnames : ∀ name ∈ e.names, name ∈ vars.names) : conjunct vars' e = conjunct vars e := by
  refine congrArg Formula.nnf (Expr.toFormula_congr fun name hname => ?_)
  exact h.indexOf_eq (hnames name hname)

/-! ## Lines. -/

section

variable {line : String}

/-! What reading a line comes down to. -/

theorem readLine_of_blank (h : (content line).all isBlank = true) (i : Nat) :
    readLine i line = pure none := by
  simp only [readLine, h, if_true]

/-- A line that is no expression is refused with its number. -/
theorem readLine_of_error {e : LineError} (h : ¬(content line).all isBlank = true)
    (hread : Expr.ofLine (content line) = .error e) (i : Nat) :
    readLine i line = throw (.line i e) := by
  simp only [readLine, h, hread]
  rfl

/-- An expression on a line is lowered and normalized. -/
theorem readLine_of_ok {e : Expr} (h : ¬(content line).all isBlank = true)
    (hread : Expr.ofLine (content line) = .ok e) (i : Nat) :
    readLine i line = do return some (← e.lower.adaptExcept (.undeclared i)).nnf := by
  simp only [readLine, h, hread]
  rfl

end

/-- What a line is read as: nothing, or the conjunct of its expression, for which the
    new names are declared. -/
theorem readLine_ok {i : Nat} {line : String} {c : Option Formula}
    (h : (readLine i line).run vars = .ok c vars') :
    ((content line).all isBlank = true ∧ c = none ∧ vars' = vars) ∨
    (¬(content line).all isBlank = true ∧ ∃ e, Expr.ofLine (content line) = .ok e ∧
      c = some (conjunct vars' e) ∧
      vars.Grows vars' (inputEntries (vars.newNames e.names))) := by
  by_cases hblank : (content line).all isBlank = true
  · rw [readLine_of_blank hblank] at h
    obtain ⟨rfl, rfl⟩ := state_pure_ok.mp h
    exact Or.inl ⟨hblank, rfl, rfl⟩
  · cases hread : Expr.ofLine (content line) with
    | error err =>
        rw [readLine_of_error hblank hread] at h
        exact nomatch h
    | ok e =>
        rw [readLine_of_ok hblank hread] at h
        obtain ⟨f, t, hlower, h⟩ := state_bind_ok.mp h
        obtain ⟨rfl, rfl⟩ := state_pure_ok.mp h
        obtain ⟨rfl, hgrows⟩ := Expr.lower_ok (state_adapt_ok.mp hlower)
        exact Or.inr ⟨hblank, e, rfl, rfl, hgrows⟩

/-- **LINES ARE READ ONE BY ONE**, each with the identifiers of those before
    it. -/
theorem readLines_ok {i : Nat} {lines : List (Option String)} {fs : List Formula}
    (h : (readLines i lines).run vars = .ok fs vars') :
    ∃ es, Reads lines es ∧ fs = es.map (conjunct vars') ∧
      vars.Grows vars' (inputEntries (vars.newNames (Expr.namesAll es))) := by
  induction lines generalizing i vars fs with
  | nil =>
      obtain ⟨rfl, rfl⟩ := state_pure_ok.mp h
      exact ⟨[], Reads.nil, rfl, Grows.refl vars⟩
  | cons line lines ih =>
      cases line with
      | none => exact nomatch h
      | some line =>
          obtain ⟨c, t, hline, h⟩ := state_bind_ok.mp h
          obtain ⟨others, u, hothers, h⟩ := state_bind_ok.mp h
          obtain ⟨rfl, rfl⟩ := state_pure_ok.mp h
          obtain ⟨es, hreads, rfl, hgrows⟩ := ih hothers
          obtain ⟨hblank, rfl, rfl⟩ | ⟨hblank, e, hread, rfl, hfirst⟩ := readLine_ok hline
          · exact ⟨es, Reads.blank hblank hreads, rfl, hgrows⟩
          · -- the first line was read with a smaller map, which its names do not notice
            refine ⟨e :: es, Reads.expression hblank hread hreads, ?_,
              hfirst.append_newNames hgrows⟩
            rw [List.map_cons, conjunct_of_grows hgrows fun name hname =>
              VariableMap.mem_names_of_grows hfirst hname]
            rfl

/-- Lines with expressions are read if the map has room for their
    identifiers. -/
theorem exists_readLines {lines : List (Option String)} {es : List Expr}
    (hreads : Reads lines es) (i : Nat) (vars : VariableMap)
    (hroom : vars.size + (vars.newNames (Expr.namesAll es)).length ≤ vars.limit) :
    ∃ fs vars', (readLines i lines).run vars = .ok fs vars' := by
  induction hreads generalizing i vars with
  | nil => exact ⟨[], vars, rfl⟩
  | @blank line lines es hblank _ ih =>
      obtain ⟨fs, vars', hrest⟩ := ih (i + 1) vars hroom
      have hline : (readLine i line).run vars = .ok none vars := by
        rw [readLine_of_blank hblank]
        rfl
      exact ⟨fs, vars', state_bind_ok.mpr ⟨none, vars, hline, state_bind_ok.mpr
        ⟨fs, vars', hrest, rfl⟩⟩⟩
  | @expression line lines e es hblank hread _ ih =>
      have hfirst : vars.size + (vars.newNames e.names).length ≤ vars.limit :=
        Nat.le_trans (Nat.add_le_add_left (vars.length_newNames_le e.names _) _) hroom
      -- the names of the first line take their part of the room, and leave the rest
      obtain ⟨f, t, hlower⟩ := Expr.exists_lower vars e hfirst
      have hgrows := (Expr.lower_ok hlower).2
      obtain ⟨fs, vars', hrest⟩ := ih (i + 1) t (VariableMap.room_of_grows hgrows hroom)
      have hline : (readLine i line).run vars = .ok (some f.nnf) t := by
        rw [readLine_of_ok hblank hread]
        exact state_bind_ok.mpr ⟨f, t, state_adapt_ok.mpr hlower, rfl⟩
      exact ⟨f.nnf :: fs, vars', state_bind_ok.mpr ⟨some f.nnf, t, hline, state_bind_ok.mpr
        ⟨fs, vars', hrest, rfl⟩⟩⟩

/-- A text of expressions is read if there is room for their names. -/
theorem exists_parse {bytes : List UInt8} {es : List Expr} (hreads : Reads (textLines bytes) es)
    (vars : VariableMap)
    (hroom : vars.size + (vars.newNames (Expr.namesAll es)).length ≤ vars.limit) :
    ∃ f vars', (parse (.ok bytes)).run vars = .ok f vars' := by
  obtain ⟨fs, vars', h⟩ := exists_readLines hreads 1 vars hroom
  exact ⟨.and fs, vars', state_bind_ok.mpr ⟨fs, vars', h, rfl⟩⟩

/-- **WHAT A TEXT SAYS**: an accepted text is the conjunction of its lines, and
    declares their identifiers. -/
theorem parse_ok {bytes : List UInt8} {f : Formula}
    (h : (parse (.ok bytes)).run vars = .ok f vars') :
    ∃ es, Reads (textLines bytes) es ∧ f = .and (es.map (conjunct vars')) ∧
      vars.Grows vars' (inputEntries (vars.newNames (Expr.namesAll es))) := by
  obtain ⟨fs, t, hlines, h⟩ := state_bind_ok.mp h
  obtain ⟨rfl, rfl⟩ := state_pure_ok.mp h
  obtain ⟨es, hreads, rfl, hgrows⟩ := readLines_ok hlines
  exact ⟨es, hreads, rfl, hgrows⟩

end GuardedCnf.Format.Text
