import GuardedCnf.Proofs.Bytes
import GuardedCnf.Proofs.Grammar
import GuardedCnf.Proofs.TextLines
/-! # Printing — formulas are read back

    The written form of a formula is an operand, with parentheses around every
    node that has children.  Its derivation is made along the formula, and nests
    as deep as the formula does.  Reading it gives back the formula up to two
    things: it comes in normal form, and a node with one child is lost, since it
    is written as its child in parentheses. -/

namespace GuardedCnf

open Token (Lexeme isNameChar)

/-- A name that can be read back: it is made of the characters of names, and
    stands for no constant. -/
structure IsIdentifier (name : String) : Prop where
  nonempty : name.toList ≠ []
  nameChars : ∀ c ∈ name.toList, isNameChar c = true
  not_true : name ≠ "true"
  not_false : name ≠ "false"

/-- Expressions under a node, unless there is just one; a constant if there is
    none. -/
def Expr.joined (node : List Expr → Expr) (empty : Bool) : List Expr → Expr
  | [] => .const empty
  | e :: es => Joint.flat node e es

namespace Formula

mutual

/-- How deep the written form of a formula nests.  On a path from the root to a
    leaf the nodes with children count, and so do the signs of negation. -/
def nesting : Formula → Nat
  | .lit l => if l.positive then 0 else 1
  | .not f => f.nesting + 1
  | .and fs => if fs.isEmpty then 0 else nestingAll fs + 1
  | .or fs => if fs.isEmpty then 0 else nestingAll fs + 1

/-- How deep the deepest formula of a list nests. -/
def nestingAll : List Formula → Nat
  | [] => 0
  | f :: fs => max f.nesting (nestingAll fs)

end

/-- Formulas under a node, unless there is just one. -/
def join (node : List Formula → Formula) : List Formula → Formula
  | [f] => f
  | fs => node fs

mutual

/-- A formula with every node of one child replaced by the child. -/
def collapsed : Formula → Formula
  | .lit l => .lit l
  | .not f => .not f.collapsed
  | .and fs => join .and (collapsedAll fs)
  | .or fs => join .or (collapsedAll fs)

/-- The formulas of a list with every node of one child replaced by the
    child. -/
def collapsedAll : List Formula → List Formula
  | [] => []
  | f :: fs => f.collapsed :: collapsedAll fs

end

mutual

/-- The expression that the written form of a formula stands for. -/
def written (name : Var → String) : Formula → Expr
  | .lit l => if l.positive then .var (name l.var) else .not (.var (name l.var))
  | .not f => .not (f.written name)
  | .and fs => .joined .and true (writtenAll name fs)
  | .or fs => .joined .or false (writtenAll name fs)

/-- The expressions of the formulas of a list. -/
def writtenAll (name : Var → String) : List Formula → List Expr
  | [] => []
  | f :: fs => f.written name :: writtenAll name fs

end

variable {f : Formula} {fs : List Formula} {name : Var → String} {index : String → Var}

/-! ## The functions over lists of formulas. -/

theorem nestingAll_le_iff {n : Nat} : nestingAll fs ≤ n ↔ ∀ f ∈ fs, f.nesting ≤ n := by
  induction fs with
  | nil => exact iff_of_true (Nat.zero_le n) fun f hf => nomatch hf
  | cons f fs ih => rw [nestingAll, Nat.max_le, ih, List.forall_mem_cons]

@[simp] theorem collapsedAll_eq_map (fs : List Formula) : collapsedAll fs = fs.map collapsed := by
  induction fs with
  | nil => rfl
  | cons f fs ih => rw [collapsedAll, ih, List.map_cons]

@[simp] theorem writtenAll_eq_map (name : Var → String) (fs : List Formula) :
    writtenAll name fs = fs.map (written name) := by
  induction fs with
  | nil => rfl
  | cons f fs ih => rw [writtenAll, ih, List.map_cons]

/-! ## Nodes with one child. -/

/-- Conjunctions that are flattened keep their meaning. -/
theorem eval_join_and (v : Valuation) (fs : List Formula) :
    (join .and fs).eval v = fs.all (eval v) := by
  match fs with
  | [] => rfl
  | [f] => exact (Bool.and_true _).symm
  | f :: g :: fs => exact eval_and v (f :: g :: fs)

/-- Disjunctions that are flattened keep their meaning. -/
theorem eval_join_or (v : Valuation) (fs : List Formula) :
    (join .or fs).eval v = fs.any (eval v) := by
  match fs with
  | [] => rfl
  | [f] => exact (Bool.or_false _).symm
  | f :: g :: fs => exact eval_or v (f :: g :: fs)

/-- **NODES WITH ONE CHILD MEAN NOTHING**: a formula without them has the same
    truth value. -/
@[simp] theorem eval_collapsed (v : Valuation) (f : Formula) : f.collapsed.eval v = f.eval v := by
  induction f with
  | lit l => rfl
  | not f ih =>
      show (!f.collapsed.eval v) = !f.eval v
      rw [ih]
  | and fs ih =>
      rw [collapsed, collapsedAll_eq_map, eval_join_and, List.all_map, eval_and]
      exact all_congr_mem ih
  | or fs ih =>
      rw [collapsed, collapsedAll_eq_map, eval_join_or, List.any_map, eval_or]
      exact any_congr_mem ih

/-- The node that a conjunction or its negation has in normal form. -/
def conjoined (positive : Bool) : List Formula → Formula := if positive then .and else .or

/-- The node that a disjunction or its negation has in normal form. -/
def disjoined (positive : Bool) : List Formula → Formula := if positive then .or else .and

/-- A conjunction collapses to the joined parts, under a negation as a disjunction of
    them. -/
theorem collapsed_normal_and (p : Bool) (fs : List Formula) :
    ((Formula.and fs).normal p).collapsed
      = join (conjoined p) (fs.map fun f => (f.normal p).collapsed) := by
  cases p
  all_goals
    show join _ (collapsedAll (normalAll _ fs)) = _
    rw [collapsedAll_eq_map, normalAll_eq_map, List.map_map]
    rfl

/-- A disjunction collapses to the joined parts, under a negation as a conjunction of
    them. -/
theorem collapsed_normal_or (p : Bool) (fs : List Formula) :
    ((Formula.or fs).normal p).collapsed
      = join (disjoined p) (fs.map fun f => (f.normal p).collapsed) := by
  cases p
  all_goals
    show join _ (collapsedAll (normalAll _ fs)) = _
    rw [collapsedAll_eq_map, normalAll_eq_map, List.map_map]
    rfl

/-- The normal form of the formula of joined expressions. -/
theorem normal_toFormula_and (p : Bool) (es : List Expr) :
    ((Expr.joined .and true es).toFormula index).normal p
      = join (conjoined p) (es.map fun e => (e.toFormula index).normal p) := by
  match es with
  | [] => cases p <;> rfl
  | [e] => rfl
  | e :: e' :: es =>
      cases p
      all_goals
        show Formula.normal _ (.and (Expr.toFormulas index (e :: e' :: es))) = _
        rw [Expr.toFormulas_eq_map]
        simp only [normal, normalAll_eq_map, List.map_map, List.map_cons]
        rfl

/-- A disjunction that is read normalizes to the joined parts. -/
theorem normal_toFormula_or (p : Bool) (es : List Expr) :
    ((Expr.joined .or false es).toFormula index).normal p
      = join (disjoined p) (es.map fun e => (e.toFormula index).normal p) := by
  match es with
  | [] => cases p <;> rfl
  | [e] => rfl
  | e :: e' :: es =>
      cases p
      all_goals
        show Formula.normal _ (.or (Expr.toFormulas index (e :: e' :: es))) = _
        rw [Expr.toFormulas_eq_map]
        simp only [normal, normalAll_eq_map, List.map_map, List.map_cons]
        rfl

/-- **WHAT IS WRITTEN** is the formula in normal form, but for nodes with one
    child, under either polarity. -/
theorem normal_toFormula_written (h : ∀ x ∈ f.vars, index (name x) = x) (p : Bool) :
    ((f.written name).toFormula index).normal p = (f.normal p).collapsed := by
  induction f generalizing p with
  | lit l =>
      obtain ⟨x, positive⟩ := l
      have hx : index (name x) = x := h x (List.mem_singleton_self x)
      cases positive <;> cases p <;> exact congrArg (fun y => Formula.lit ⟨y, _⟩) hx
  | not f ih => exact ih h (!p)
  | and fs ih =>
      rw [written, writtenAll_eq_map, normal_toFormula_and, collapsed_normal_and, List.map_map]
      refine congrArg (join _) (List.map_congr_left fun f hf => ?_)
      exact ih f hf (fun x hx => h x (mem_vars_and.mpr ⟨f, hf, hx⟩)) p
  | or fs ih =>
      rw [written, writtenAll_eq_map, normal_toFormula_or, collapsed_normal_or, List.map_map]
      refine congrArg (join _) (List.map_congr_left fun f hf => ?_)
      exact ih f hf (fun x hx => h x (mem_vars_or.mpr ⟨f, hf, hx⟩)) p

end Formula

/-! ## Derivations of written forms. -/

/-- The front of a text has a derivation within the limit, which leaves a rest. -/
def Derivable (limit depth : Nat) (p : Part) (cs rest : List Char) (m : p.Meaning) : Prop :=
  ∃ d : Derivation p cs rest m, d.Admissible limit depth

/-- How a joint is written between operands. -/
def Joint.operator : Joint → String
  | .and => " & "
  | .or => " | "
  | .iff => " <-> "

/-- The operator that is printed is the sign that is read. -/
theorem Joint.lexeme (j : Joint) (cs : List Char) :
    Lexeme j.sign (j.operator.toList ++ cs) cs := by
  have hblank : ∀ c ∈ [' '], Token.isSpace c = true := List.forall_mem_singleton.mpr rfl
  cases j
  · exact .intro [' '] ['&'] [' '] cs rfl hblank hblank fun _ h => nomatch h
  · exact .intro [' '] ['|'] [' '] cs rfl hblank hblank fun _ h => nomatch h
  · exact .intro [' '] ['<', '-', '>'] [' '] cs rfl hblank hblank fun _ h => nomatch h

namespace Derivable

variable {limit depth : Nat} {cs rest : List Char} {e : Expr} {j : Joint}

/-- An operand is a chain of its own. -/
theorem single (h : Derivable limit depth (.phrase j.operand) cs rest e) (hdepth : depth ≤ limit) :
    Derivable limit depth (.phrase (.chain j)) cs rest e := by
  obtain ⟨d, hd⟩ := h
  have hnode : j.node e [] = e := by cases j <;> rfl
  rw [← hnode]
  exact ⟨.chain j d (.done j rest), hd, trivial, fun _ => hdepth⟩

/-- A disjunction before no arrow can stand for an implication. -/
theorem disjunction (h : Derivable limit depth (.phrase (.chain .or)) cs rest e) :
    Derivable limit depth (.phrase .implication) cs rest e := by
  obtain ⟨d, hd⟩ := h
  exact ⟨.disjunction d, hd⟩

/-- An operand is what any joint joins. -/
theorem operandOf (j : Joint) (h : Derivable limit depth (.phrase .operand) cs rest e)
    (hdepth : depth ≤ limit) : Derivable limit depth (.phrase j.operand) cs rest e := by
  cases j with
  | and => exact h
  | or => exact h.single (j := .and) hdepth
  | iff => exact ((h.single (j := .and) hdepth).single (j := .or) hdepth).disjunction

/-- Every chain is a chain of equivalences. -/
theorem equivalence (h : Derivable limit depth (.phrase (.chain j)) cs rest e)
    (hdepth : depth ≤ limit) : Derivable limit depth (.phrase (.chain .iff)) cs rest e := by
  cases j with
  | and => exact (h.single (j := .or) hdepth).disjunction.single (j := .iff) hdepth
  | or => exact h.disjunction.single (j := .iff) hdepth
  | iff => exact h

/-- A name that is printed is read as an operand when no name character follows. -/
theorem name {s : String} (h : s.toList ≠ []) (hs : ∀ c ∈ s.toList, isNameChar c = true)
    (hrest : ∀ c ∈ rest.head?, isNameChar c = false) (hdepth : depth ≤ limit) :
    Derivable limit depth (.phrase .operand) (s.toList ++ rest) rest (Reader.ofName s) := by
  have hspelled : Token.Spelled (.name s) s.toList := ⟨h, hs, String.ofList_toList⟩
  have hlexeme : Lexeme (.name s) (s.toList ++ rest) rest :=
    Lexeme.bare hspelled fun _ _ => hrest
  exact ⟨.name hlexeme, hdepth⟩

/-- The sign of a negation before an operand one level down. -/
theorem not (h : Derivable limit (depth + 1) (.phrase .operand) cs rest e)
    (hdepth : depth ≤ limit) :
    Derivable limit depth (.phrase .operand) ('!' :: cs) rest (.not e) := by
  obtain ⟨d, hd⟩ := h
  have hsign : Lexeme .not ('!' :: cs) cs :=
    Lexeme.bare (w := ['!']) (Or.inl rfl) (by rintro _ ⟨⟩)
  exact ⟨.not hsign d, hdepth, hd⟩

/-- Parentheses around an expression one level down. -/
theorem parentheses (h : Derivable limit (depth + 1) (.phrase (.chain .iff)) cs (')' :: rest) e)
    (hdepth : depth ≤ limit) : Derivable limit depth (.phrase .operand) ('(' :: cs) rest e := by
  obtain ⟨d, hd⟩ := h
  have hopening : Lexeme .opening ('(' :: cs) cs :=
    Lexeme.bare (w := ['(']) rfl (by rintro _ ⟨⟩)
  have hclosing : Lexeme .closing (')' :: rest) rest :=
    Lexeme.bare (w := [')']) rfl (by rintro _ ⟨⟩)
  exact ⟨.parentheses hopening d hclosing, hdepth, hd⟩

end Derivable

namespace Formula

variable {f : Formula} {fs : List Formula} {name : Var → String} {limit depth : Nat}
  {rest : List Char} {j : Joint}

/-- The written form of a formula can be derived in front of whatever ends a
    name. -/
def WrittenDerivable (limit depth : Nat) (name : Var → String) (f : Formula) : Prop :=
  ∀ rest : List Char, (∀ c ∈ rest.head?, isNameChar c = false) →
    Derivable limit depth (.phrase .operand) ((f.render name).toList ++ rest) rest (f.written name)

/-- The children of a node do not begin with a name behind the first one. -/
theorem head?_renderRest (name : Var → String) (j : Joint) (fs : List Formula)
    (rest : List Char) :
    ∀ c ∈ ((renderRest name j.operator fs).toList ++ rest).head?, isNameChar c = false := by
  cases fs with
  | nil =>
      rw [renderRest]
      rintro c ⟨⟩
      rfl
  | cons f fs =>
      rw [renderRest, String.toList_append, String.toList_append]
      cases j <;>
        · rintro c ⟨⟩
          rfl

/-- The printed operands after the first derive to the written ones, up to the closing
    parenthesis. -/
theorem derivable_renderRest (h : ∀ f ∈ fs, f.WrittenDerivable limit depth name)
    (hdepth : depth ≤ limit) (rest : List Char) :
    Derivable limit depth (.further j) ((renderRest name j.operator fs).toList ++ rest)
      (')' :: rest) (fs.map (written name)) := by
  induction fs with
  | nil =>
      rw [renderRest]
      exact ⟨.done j (')' :: rest), trivial⟩
  | cons f fs ih =>
      obtain ⟨hf, hfs⟩ := List.forall_mem_cons.mp h
      obtain ⟨others, hothers⟩ := ih hfs
      obtain ⟨next, hnext⟩ :=
        (hf _ (head?_renderRest name j fs rest)).operandOf j hdepth
      rw [renderRest, String.toList_append, String.toList_append, List.append_assoc,
        List.append_assoc]
      exact ⟨.more (j.lexeme _) next others, hnext, hothers⟩

/-- A node with children is an operand, in parentheses. -/
theorem derivable_node (hj : j ≠ .iff)
    (h : ∀ g ∈ f :: fs, g.WrittenDerivable limit (depth + 1) name) (hdepth : depth + 1 ≤ limit)
    (rest : List Char) :
    Derivable limit depth (.phrase .operand)
      (("(" ++ f.render name ++ renderRest name j.operator fs).toList ++ rest) rest
      (j.node (f.written name) (fs.map (written name))) := by
  obtain ⟨hf, hfs⟩ := List.forall_mem_cons.mp h
  obtain ⟨first, hfirst⟩ := (hf _ (head?_renderRest name j fs rest)).operandOf j hdepth
  obtain ⟨others, hothers⟩ := derivable_renderRest (j := j) hfs hdepth rest
  have hchain : Derivable limit (depth + 1) (.phrase (.chain j))
      ((f.render name).toList ++ ((renderRest name j.operator fs).toList ++ rest)) (')' :: rest)
      (j.node (f.written name) (fs.map (written name))) :=
    ⟨.chain j first others, hfirst, hothers, fun hiff => absurd hiff hj⟩
  rw [String.toList_append, String.toList_append, List.append_assoc, List.append_assoc]
  exact (hchain.equivalence hdepth).parentheses (Nat.le_of_succ_le hdepth)

/-- Children nest one level down. -/
theorem room_of_nesting (h : depth + (nestingAll fs + 1) ≤ limit) :
    depth + 1 ≤ limit ∧ ∀ f ∈ fs, depth + 1 + f.nesting ≤ limit := by
  refine ⟨by omega, fun f hf => ?_⟩
  have hle := nestingAll_le_iff.mp (Nat.le_refl _) f hf
  omega

/-- **WRITTEN FORMS ARE OPERANDS**, which nest as deep as their formulas. -/
theorem writtenDerivable (hname : ∀ x ∈ f.vars, IsIdentifier (name x))
    (hdepth : depth + f.nesting ≤ limit) : f.WrittenDerivable limit depth name := by
  induction f generalizing depth with
  | lit l =>
      obtain ⟨x, positive⟩ := l
      obtain ⟨hne, hchars, htrue, hfalse⟩ := hname x (List.mem_singleton_self x)
      -- an identifier is not one of the two constants
      have hvar : Reader.ofName (name x) = .var (name x) :=
        (if_neg htrue).trans (if_neg hfalse)
      intro rest hrest
      rw [render, written, String.toList_append, List.append_assoc, ← hvar]
      cases positive with
      | true => exact Derivable.name hne hchars hrest hdepth
      | false =>
          rw [if_neg Bool.false_ne_true, if_neg Bool.false_ne_true]
          exact (Derivable.name hne hchars hrest hdepth).not (Nat.le_of_succ_le hdepth)
  | not f ih =>
      intro rest hrest
      have hbelow : depth + 1 + f.nesting ≤ limit := by
        rw [nesting] at hdepth
        omega
      rw [render, String.toList_append, List.append_assoc]
      exact (ih hname hbelow rest hrest).not (by omega)
  | and fs ih =>
      intro rest hrest
      cases fs with
      | nil =>
          -- nothing joined is written as the constant that it means
          have hchars : ∀ c ∈ "true".toList, isNameChar c = true := List.all_eq_true.mp (by decide)
          exact Derivable.name (s := "true") (by decide) hchars hrest hdepth
      | cons g gs =>
          obtain ⟨hbelow, hchildren⟩ := room_of_nesting hdepth
          rw [render, written, writtenAll_eq_map]
          refine derivable_node (j := .and) (fun h => nomatch h) (fun f hf => ?_) hbelow rest
          exact ih f hf (fun x hx => hname x (mem_vars_and.mpr ⟨f, hf, hx⟩)) (hchildren f hf)
  | or fs ih =>
      intro rest hrest
      cases fs with
      | nil =>
          have hchars : ∀ c ∈ "false".toList, isNameChar c = true := List.all_eq_true.mp (by decide)
          exact Derivable.name (s := "false") (by decide) hchars hrest hdepth
      | cons g gs =>
          obtain ⟨hbelow, hchildren⟩ := room_of_nesting hdepth
          rw [render, written, writtenAll_eq_map]
          refine derivable_node (j := .or) (fun h => nomatch h) (fun f hf => ?_) hbelow rest
          exact ih f hf (fun x hx => hname x (mem_vars_or.mpr ⟨f, hf, hx⟩)) (hchildren f hf)

/-- A formula whose names can be read back is read back from its written
    form. -/
theorem ofLine_render (hname : ∀ x ∈ f.vars, IsIdentifier (name x))
    (hnesting : f.nesting ≤ Reader.maxNesting) :
    Expr.ofLine (f.render name).toList = .ok (f.written name) := by
  have hdepth : 0 + f.nesting ≤ Reader.maxNesting := (Nat.zero_add _).symm ▸ hnesting
  have hoperand := writtenDerivable hname hdepth [] fun c hc => nomatch hc
  rw [List.append_nil] at hoperand
  obtain ⟨d, hd⟩ := (hoperand.operandOf .iff (Nat.zero_le _)).single (Nat.zero_le _)
  exact Expr.ofLine_of_admissible d hd

/-! ## Characters and names of written forms. -/

/-- The characters of written forms. -/
def isPlain (c : Char) : Bool := isNameChar c || "!()&| ".toList.contains c

/-- Operands of plain characters are printed with plain characters between them. -/
theorem isPlain_renderRest (hj : j ≠ .iff)
    (h : ∀ f ∈ fs, (f.render name).toList.all isPlain = true) :
    (renderRest name j.operator fs).toList.all isPlain = true := by
  induction fs with
  | nil =>
      rw [renderRest]
      decide
  | cons f fs ih =>
      obtain ⟨hf, hfs⟩ := List.forall_mem_cons.mp h
      have hoperator : j.operator.toList.all isPlain = true := by
        cases j with
        | and => decide
        | or => decide
        | iff => exact absurd rfl hj
      rw [renderRest, String.toList_append, String.toList_append, List.all_append,
        List.all_append, hoperator, hf, ih hfs]
      rfl

/-- A node of plain operands is printed plainly. -/
theorem isPlain_node (hj : j ≠ .iff)
    (h : ∀ g ∈ f :: fs, (g.render name).toList.all isPlain = true) :
    ("(" ++ f.render name ++ renderRest name j.operator fs).toList.all isPlain = true := by
  obtain ⟨hf, hfs⟩ := List.forall_mem_cons.mp h
  rw [String.toList_append, String.toList_append, List.all_append, List.all_append, hf,
    isPlain_renderRest hj hfs]
  decide

/-- A formula whose names are identifiers is printed with characters of names, signs,
    parentheses and spaces alone. -/
theorem isPlain_render (hname : ∀ x ∈ f.vars, IsIdentifier (name x)) :
    (f.render name).toList.all isPlain = true := by
  induction f with
  | lit l =>
      have hchars := (hname l.var (List.mem_singleton_self _)).nameChars
      have hplain : (name l.var).toList.all isPlain = true :=
        List.all_eq_true.mpr fun c hc => by rw [isPlain, hchars c hc, Bool.true_or]
      rw [render, String.toList_append, List.all_append, hplain]
      cases l.positive <;> decide
  | not f ih =>
      rw [render, String.toList_append, List.all_append, ih hname]
      decide
  | and fs ih =>
      cases fs with
      | nil =>
          rw [render]
          decide
      | cons g gs =>
          rw [render]
          refine isPlain_node (j := .and) (fun h => nomatch h) fun f hf => ?_
          exact ih f hf fun x hx => hname x (mem_vars_and.mpr ⟨f, hf, hx⟩)
  | or fs ih =>
      cases fs with
      | nil =>
          rw [render]
          decide
      | cons g gs =>
          rw [render]
          refine isPlain_node (j := .or) (fun h => nomatch h) fun f hf => ?_
          exact ih f hf fun x hx => hname x (mem_vars_or.mpr ⟨f, hf, hx⟩)

/-- A written form is on one line and has no comment. -/
theorem plain_render (hname : ∀ x ∈ f.vars, IsIdentifier (name x)) :
    Text.Unbroken (f.render name) ∧
      Format.Text.content (f.render name) = (f.render name).toList := by
  have hplain := List.all_eq_true.mp (isPlain_render hname)
  constructor
  · intro c hc
    constructor
    · rintro rfl
      exact nomatch hplain _ hc
    · rintro rfl
      exact nomatch hplain _ hc
  · refine List.takeWhile_eq_self_iff.mpr fun c hc => bne_iff_ne.mpr ?_
    rintro rfl
    exact nomatch hplain _ hc

theorem bounds_of_isNameChar {c : Char} (h : isNameChar c = true) :
    33 ≤ c.toNat ∧ c.toNat < 127 := by
  have h : (decide (c.val ≥ 'A'.val ∧ c.val ≤ 'Z'.val) ||
      (decide (c.val ≥ 'a'.val) && decide (c.val ≤ 'z'.val)) || c.isDigit || c == '_' ||
      c == '.' || c == '$') = true := h
  simp only [Char.isDigit, Bool.or_eq_true, Bool.and_eq_true, decide_eq_true_eq, beq_iff_eq,
    ge_iff_le, UInt32.le_iff_toNat_le] at h
  rcases h with ((((h | h) | h) | rfl) | rfl) | rfl
  · exact ⟨Nat.le_trans (by decide) h.1, Nat.lt_of_le_of_lt h.2 (by decide)⟩
  · exact ⟨Nat.le_trans (by decide) h.1, Nat.lt_of_le_of_lt h.2 (by decide)⟩
  · exact ⟨Nat.le_trans (by decide) h.1, Nat.lt_of_le_of_lt h.2 (by decide)⟩
  all_goals decide

theorem not_isBlank_of_isNameChar {c : Char} (h : isNameChar c = true) :
    Text.isBlank c = false := by
  obtain ⟨hlow, hhigh⟩ := bounds_of_isNameChar h
  simp only [Text.isBlank, Bool.or_eq_false_iff, Bool.and_eq_false_iff, decide_eq_false_iff_not,
    beq_eq_false_iff_ne]
  omega

/-- A written form is not blank. -/
theorem nonblank_render (hname : ∀ x ∈ f.vars, IsIdentifier (name x)) :
    ¬(f.render name).toList.all Text.isBlank = true := by
  cases f with
  | lit l =>
      obtain ⟨hne, hchars, -, -⟩ := hname l.var (List.mem_singleton_self _)
      -- some character of the name is no blank
      obtain ⟨c, hc⟩ := List.exists_mem_of_ne_nil _ hne
      rw [render, String.toList_append, List.all_append]
      intro hblank
      have hall := (Bool.and_eq_true _ _ ▸ hblank).2
      have hcblank := List.all_eq_true.mp hall c hc
      rw [not_isBlank_of_isNameChar (hchars c hc)] at hcblank
      exact nomatch hcblank
  | not f =>
      rw [render, String.toList_append]
      exact fun h => nomatch h
  | and fs =>
      cases fs with
      | nil =>
          rw [render]
          decide
      | cons f fs =>
          rw [render, String.toList_append, String.toList_append]
          exact fun h => nomatch h
  | or fs =>
      cases fs with
      | nil =>
          rw [render]
          decide
      | cons f fs =>
          rw [render, String.toList_append, String.toList_append]
          exact fun h => nomatch h

/-- The names of joined expressions are those of the parts, whatever the node. -/
theorem names_joined {node : List Expr → Expr} (hnode : ∀ es, (node es).names = Expr.namesAll es)
    (empty : Bool) (es : List Expr) : (Expr.joined node empty es).names = Expr.namesAll es := by
  match es with
  | [] => rfl
  | [e] => exact (List.append_nil _).symm
  | e :: e' :: es => exact hnode (e :: e' :: es)

/-- The names of written formulas are those of their variables, in order. -/
theorem namesAll_written (h : ∀ f ∈ fs, (f.written name).names = f.vars.map name) :
    Expr.namesAll (fs.map (written name)) = ((litsAll fs).map (·.var)).map name := by
  rw [Expr.namesAll_eq_flatMap, litsAll_eq_flatMap, List.flatMap_map, List.map_flatMap,
    List.map_flatMap]
  exact List.flatMap_congr h

/-- The identifiers of a written form are the names of the variables. -/
theorem names_written (name : Var → String) (f : Formula) :
    (f.written name).names = f.vars.map name := by
  induction f with
  | lit l =>
      obtain ⟨x, positive⟩ := l
      cases positive <;> rfl
  | not f ih => exact ih
  | and fs ih =>
      rw [written, writtenAll_eq_map, names_joined fun _ => rfl]
      exact namesAll_written ih
  | or fs ih =>
      rw [written, writtenAll_eq_map, names_joined fun _ => rfl]
      exact namesAll_written ih

end Formula

/-! ## Reading written forms. -/

namespace Format.Text

open GuardedCnf.Text

variable {vars : VariableMap}

/-- A text of one line over names of the map is read as its conjunct. -/
theorem parse_line {line : String} {e : Expr} (hne : line ≠ "") (hline : Unbroken line)
    (hnonblank : ¬(content line).all isBlank = true)
    (hread : Expr.ofLine (content line) = .ok e) (hnames : ∀ name ∈ e.names, name ∈ vars.names) :
    (parse (.ok (encode line))).run vars = .ok (.and [conjunct vars e]) vars := by
  have hconjunct : (readLine 1 line).run vars = .ok (some (conjunct vars e)) vars := by
    simp only [readLine, hnonblank, hread]
    exact state_bind_ok.mpr ⟨e.toFormula vars.indexOf, vars,
      state_adapt_ok.mpr (Expr.lower_known hnames), rfl⟩
  have hlines : (readLines 1 (textLines (encode line))).run vars
      = .ok [conjunct vars e] vars := by
    rw [textLines_encode hne hline.not_mem.1]
    exact state_bind_ok.mpr ⟨_, vars, hconjunct, state_bind_ok.mpr ⟨[], vars, rfl, rfl⟩⟩
  exact state_bind_ok.mpr ⟨_, vars, hlines, rfl⟩

end Format.Text

namespace Formula

/-- **WRITTEN FORMULAS ARE READ BACK**.  A formula is written with the names of a
    map.  If its names can be read back and it does not nest too deep, the text
    format reads the line as the normal form of the formula, where the one child
    of a node replaces the node, and leaves the map as it is.  What is read has
    the same truth values. -/
theorem written_formulas_are_read_back (f : Formula) (vars : VariableMap)
    (hnames : ∀ x ∈ f.vars, ∃ name, vars.name? x = some name ∧ IsIdentifier name)
    (hnesting : f.nesting ≤ Reader.maxNesting) :
    (Format.text.parse (.ok (Text.encode (vars.render f)))).run vars
        = .ok (.and [f.nnf.collapsed]) vars ∧
      ∀ v : Valuation, f.nnf.collapsed.eval v = f.eval v := by
  -- each variable of the formula has an identifier as its label, which leads back to it
  have hlabel : ∀ x ∈ f.vars, IsIdentifier (vars.label x) ∧ vars.label x ∈ vars.names ∧
      vars.indexOf (vars.label x) = x := by
    intro x hx
    obtain ⟨name, hname, hidentifier⟩ := hnames x hx
    have hlabel : vars.label x = name := by rw [VariableMap.label, hname, Option.getD_some]
    rw [hlabel]
    exact ⟨hidentifier, VariableMap.indexOf_of_name? hname⟩
  have hidentifier : ∀ x ∈ f.vars, IsIdentifier (vars.label x) := fun x hx => (hlabel x hx).1
  obtain ⟨hunbroken, hcontent⟩ := plain_render hidentifier
  have hconjunct : Format.Text.conjunct vars (f.written vars.label) = f.nnf.collapsed :=
    normal_toFormula_written (fun x hx => (hlabel x hx).2.2) true
  have hnonblank := nonblank_render hidentifier
  refine ⟨?_, fun v => by rw [eval_collapsed, eval_nnf]⟩
  rw [← hconjunct]
  -- one line, not blank, read as the written expression, whose names the map has
  refine Format.Text.parse_line ?_ hunbroken ?_ ?_ ?_
  · intro hempty
    rw [VariableMap.render] at hempty
    rw [hempty] at hnonblank
    exact hnonblank rfl
  · exact hcontent.symm ▸ hnonblank
  · exact hcontent.symm ▸ ofLine_render hidentifier hnesting
  · rw [names_written]
    intro s hs
    obtain ⟨x, hx, rfl⟩ := List.mem_map.mp hs
    exact (hlabel x hx).2.1

/-- The formula `!(a & (!b))`, whose disjunction has one child, comes back as
    the disjunction of `!a` and `b`. -/
theorem written_formulas_are_read_back_nand :
    let vars := ((VariableMap.empty 2).push ⟨"a", false⟩ (by simp)).push ⟨"b", false⟩ (by simp)
    let f : Formula := .not (.and [.lit ⟨0, true⟩, .or [.lit ⟨1, false⟩]])
    vars.render f = "!(a & (!b))" ∧
      (Format.text.parse (.ok (Text.encode (vars.render f)))).run vars
        = .ok (.and [.or [.lit ⟨0, false⟩, .lit ⟨1, true⟩]]) vars ∧
      ∀ v : Valuation,
        (Formula.or [.lit ⟨0, false⟩, .lit ⟨1, true⟩]).eval v = f.eval v := by
  intro vars f
  have hnames : ∀ x ∈ f.vars, ∃ name, vars.name? x = some name ∧ IsIdentifier name := by
    intro x hx
    have hx : x = 0 ∨ x = 1 := by simpa [f, Formula.vars, lits, litsAll] using hx
    rcases hx with rfl | rfl
    · exact ⟨"a", rfl, by decide, List.all_eq_true.mp (by decide), by decide, by decide⟩
    · exact ⟨"b", rfl, by decide, List.all_eq_true.mp (by decide), by decide, by decide⟩
  exact ⟨by decide, written_formulas_are_read_back f vars hnames (by decide)⟩

end Formula

end GuardedCnf
