import GuardedCnf.Format.Registry
import GuardedCnf.Proofs.Bytes
import GuardedCnf.Proofs.TextLines
/-! # Line meanings — what the conjuncts of a text say

    An accepted text has one conjunct for each line that says something before its
    comment.  Two rewritings separate the conjunct from the line: operators are
    replaced by those of formulas, and negations move to the literals.  Neither
    changes a truth value, so the conjunct is true whenever the expression on the
    line is, and the map has grown by the identifiers of the lines that it did not
    have. -/

namespace GuardedCnf.Format.Text

open GuardedCnf.Text (encode textLines textLines_intercalate)
open VariableMap (Grows inputEntries)

variable {vars vars' : VariableMap} {lines : List (Option String)} {es : List Expr}

/-- A conjunct says what a line says.  The map has the identifiers of the line's
    expression, and whatever values variables have, the conjunct has the truth value
    of the expression at the values of their variables. -/
def Says (vars : VariableMap) (text : List Char) (f : Formula) : Prop :=
  ∃ e, Expr.ofLine text = .ok e ∧
    (∀ name ∈ e.names, vars.get? name = some (vars.indexOf name)) ∧
    ∀ v, f.eval v = e.eval fun name => v (vars.indexOf name)

theorem says_conjunct {text : List Char} {e : Expr} (hread : Expr.ofLine text = .ok e)
    (hnames : ∀ name ∈ e.names, name ∈ vars.names) : Says vars text (conjunct vars e) :=
  ⟨e, hread, fun _ hname => VariableMap.get?_eq_indexOf (hnames _ hname), eval_conjunct vars e⟩

/-- The conjuncts of the expressions of lines say what the lines say, each what the
    line at its place says. -/
theorem Reads.says (h : Reads lines es) (hnames : ∀ name ∈ Expr.namesAll es, name ∈ vars.names) :
    List.Forall₂ (Says vars) (contents lines) (es.map (conjunct vars)) := by
  induction h with
  | nil => exact List.Forall₂.nil
  | blank hblank _ ih =>
      rw [contents_cons_of_blank hblank]
      exact ih hnames
  | expression hnonblank hread _ ih =>
      obtain ⟨hfirst, hrest⟩ := List.forall_mem_append.mp hnames
      rw [contents_cons_of_nonblank hnonblank]
      exact List.Forall₂.cons (says_conjunct hread hfirst) (ih hrest)

/-- The identifiers on lines that a map does not have, in the order in which they
    first occur. -/
def newIdentifiers (vars : VariableMap) (lines : List (Option String)) : List String :=
  (lineIdentifiers lines).filter fun name => !vars.names.contains name

/-- What the expressions of lines declare can be told from the lines. -/
theorem Reads.newNames_eq (h : Reads lines es) (vars : VariableMap) :
    vars.newNames (Expr.namesAll es) = newIdentifiers vars lines := by
  rw [VariableMap.newNames_eq_filter, eraseDups_filter, h.eraseDups_namesAll, newIdentifiers]

/-- **A TEXT MEANS WHAT ITS LINES SAY**.  If a text is accepted with some map, then
    with every map that has room for the identifiers it lacks.  The conjuncts are
    those of the lines that are not blank before their comments, in order, and each
    has the truth value of the expression on its line.  The map grows by just the
    identifiers it lacked, as variables of the input, in the order in which they
    first occur. -/
theorem texts_mean_what_lines_say {bytes : List UInt8} {any any' : VariableMap} {g : Formula}
    (haccept : (Format.text.parse (.ok bytes)).run any = .ok g any')
    (hroom : vars.size + (newIdentifiers vars (textLines bytes)).length ≤ vars.limit) :
    ∃ fs vars', (Format.text.parse (.ok bytes)).run vars = .ok (.and fs) vars' ∧
      List.Forall₂ (Says vars') (contents (textLines bytes)) fs ∧
      vars.Grows vars' (inputEntries (newIdentifiers vars (textLines bytes))) := by
  obtain ⟨es, hreads, -, -⟩ := parse_ok haccept
  rw [← hreads.newNames_eq] at hroom ⊢
  obtain ⟨f, vars', h⟩ := exists_parse hreads vars hroom
  obtain ⟨es', hreads', rfl, hgrows⟩ := parse_ok h
  obtain rfl := hreads.unique hreads'
  exact ⟨_, vars', h, hreads.says fun _ => VariableMap.mem_names_of_grows hgrows, hgrows⟩

/-- The map has `b` already, and room for two more.  Two of the four lines say
    something; `c` and `a` are declared in this order. -/
theorem texts_mean_what_lines_say_two :
    let vars := (VariableMap.empty 3).push ⟨"b", true⟩ (by simp)
    let lines := ["c & !a <-> b # both sides", "# d", " \t", "!(a -> false | c)"]
    ∃ fs vars', (Format.text.parse (.ok (encode ("\n".intercalate lines)))).run vars =
        .ok (.and fs) vars' ∧
      List.Forall₂ (Says vars') ["c & !a <-> b ".toList, "!(a -> false | c)".toList] fs ∧
      vars.Grows vars' [⟨"c", false⟩, ⟨"a", false⟩] := by
  intro vars lines
  let bytes := encode ("\n".intercalate lines)
  let es : List Expr :=
    [.iff (.and [.var "c", .not (.var "a")]) (.var "b"),
      .not (.implies (.var "a") (.or [.const false, .var "c"]))]
  have hlines : textLines bytes = lines.map some := textLines_intercalate (by decide)
  have hreads : Reads (textLines bytes) es := by
    rw [hlines]
    refine .expression (by decide) ?_ (.blank (by decide) (.blank (by decide)
      (.expression (by decide) ?_ .nil)))
    · exact ofLine_of_tokens [.name "c", .and, .not, .name "a", .iff, .name "b"]
        (by decide +kernel) rfl
    · exact ofLine_of_tokens
        [.not, .opening, .name "a", .implies, .name "false", .or, .name "c", .closing]
        (by decide +kernel) rfl
  have hnew : newIdentifiers vars (textLines bytes) = ["c", "a"] := by
    rw [← hreads.newNames_eq, VariableMap.newNames_eq_filter]
    decide
  have hroom : vars.size + (newIdentifiers vars (textLines bytes)).length ≤ vars.limit := by
    rw [hnew]
    decide
  -- whether a text is accepted does not depend on the map it is read into
  obtain ⟨g, any', haccept⟩ := exists_parse hreads (.empty 3) (by
    rw [VariableMap.newNames_empty]
    decide)
  have htext := texts_mean_what_lines_say haccept hroom
  rw [hnew, hlines] at htext
  exact htext

end GuardedCnf.Format.Text
