import GuardedCnf.Proofs.Failures
import GuardedCnf.Proofs.Simplification
import Mathlib.Data.List.ProdSigma
/-! # Cross products — the clauses of a distributed formula

    Distributing a formula without any simplification lists, for a disjunction,
    all ways to choose one clause of each child.  Distribution simplifies after
    every child and at every level, but it has the same outcome as simplifying
    these clauses once, at the end: the clauses so far are reduced, and merging a
    reduced clause is simplifying a concatenation. -/

namespace GuardedCnf

open Clause (Reduced simplified)

/-! ## Choices. -/

/-- All ways to choose one member of each list, the first list varying
    slowest. -/
def choices {α : Type} : List (List α) → List (List α)
  | [] => [[]]
  | as :: rest => as.flatMap fun a => (choices rest).map (a :: ·)

namespace Formula

variable {f : Formula} {fs : List Formula}

/-! ## Success and truth. -/

/-- A formula with a negation node is not distributed. -/
theorem isNnf_of_distribute {g : Cnf} (h : f.distribute = .ok g) : f.isNnf = true := by
  rw [← firstNegation?_eq_none]
  cases hfirst : f.firstNegation? with
  | none => rfl
  | some k =>
      rw [distribute_error hfirst] at h
      exact nomatch h

/-- **DISTRIBUTION IS EXACT**: it succeeds for the formulas in normal form and for
    no others, and the clauses have the truth value of the formula under every
    valuation. -/
theorem distribution_is_exact (f : Formula) :
    ((∃ g, f.distribute = .ok g) ↔ f.isNnf = true) ∧
      ∀ g, f.distribute = .ok g → ∀ v, g.eval v = f.eval v := by
  refine ⟨⟨?_, exists_distribute⟩, fun g h => (distribute_standsFor h).eval⟩
  rintro ⟨g, h⟩
  exact isNnf_of_distribute h

/-- The clauses of `(x & !x) | false | y` are true where `y` is, and a negation
    is refused below them. -/
theorem distribution_is_exact_two :
    let x : Literal := ⟨0, true⟩
    let y : Literal := ⟨1, true⟩
    let f : Formula := .or [.and [.lit x, .lit x.complement], .or [], .lit y]
    f.distribute = .ok [[x, y], [x.complement, y]] ∧
      (∀ v, Cnf.eval v [[x, y], [x.complement, y]] = f.eval v) ∧
      ¬∃ g, (Formula.and [f, .or [.and [], .not f]]).distribute = .ok g := by
  intro x y f
  have hclauses : f.distribute = .ok [[x, y], [x.complement, y]] := rfl
  obtain ⟨-, htruth⟩ := distribution_is_exact f
  obtain ⟨hsuccess, -⟩ := distribution_is_exact (.and [f, .or [.and [], .not f]])
  refine ⟨hclauses, htruth _ hclauses, ?_⟩
  rw [hsuccess]
  decide

/-! ## The naive product. -/

mutual

/-- The clauses of a formula, as they come without simplification. -/
def naive : Formula → Cnf
  | .lit l => [[l]]
  | .not _ => []
  | .and fs => (naiveAll fs).flatten
  | .or fs => (choices (naiveAll fs)).map List.flatten

/-- The clauses of the formulas of a list, apart from each other. -/
def naiveAll : List Formula → List Cnf
  | [] => []
  | f :: fs => f.naive :: naiveAll fs

end

theorem naiveAll_eq_map (fs : List Formula) : naiveAll fs = fs.map naive := by
  induction fs with
  | nil => rfl
  | cons f fs ih => rw [naiveAll, ih, List.map_cons]

/-! ## Simplified products. -/

/-- Choices go on from a clause as they go on from what simplifying leaves
    of it. -/
theorem filterMap_choices (c : Clause) (rest : List (List Clause)) :
    (c.simplified.toList.flatMap fun r => rest.filterMap fun ds => simplified (r ++ ds.flatten))
      = rest.filterMap fun ds => simplified (c ++ ds.flatten) := by
  simp only [← Clause.simplified_append_left c]
  cases c.simplified with
  | none => exact (List.filterMap_eq_nil_iff.mpr fun _ _ => rfl).symm
  | some r => exact List.append_nil _

/-- Choices go on from each clause of a list. -/
theorem flatMap_filterMap_choices (c : Clause) (g : Cnf) (rest : List (List Clause)) :
    ((g.filterMap fun d => simplified (c ++ d)).flatMap fun r =>
        rest.filterMap fun ds => simplified (r ++ ds.flatten))
      = (g.flatMap fun d => rest.map (d :: ·)).filterMap fun ds =>
          simplified (c ++ ds.flatten) := by
  induction g with
  | nil => rfl
  | cons d g ih =>
      have hhead : (rest.map (d :: ·)).filterMap (fun ds => simplified (c ++ ds.flatten))
          = rest.filterMap fun ds => simplified ((c ++ d) ++ ds.flatten) := by
        rw [List.filterMap_map]
        refine List.filterMap_congr fun ds _ => ?_
        rw [Function.comp_apply, List.flatten_cons, List.append_assoc]
      have hfirst : ((d :: g).filterMap fun d => simplified (c ++ d))
          = (simplified (c ++ d)).toList ++ g.filterMap fun d => simplified (c ++ d) := by
        rw [List.filterMap_cons]
        cases simplified (c ++ d) <;> rfl
      rw [hfirst, List.flatMap_append, List.flatMap_cons, List.filterMap_append, hhead, ih,
        filterMap_choices]

/-- The product of reduced clauses with simplified ones. -/
theorem product_simplified {sofar : Cnf} (h : ∀ c ∈ sofar, Reduced c) (g : Cnf) :
    sofar.product (g.filterMap simplified)
      = sofar.flatMap fun c => g.filterMap fun d => simplified (c ++ d) := by
  refine List.flatMap_congr fun c hc => ?_
  rw [List.filterMap_filterMap]
  refine List.filterMap_congr fun d _ => ?_
  rw [← Clause.simplified_append_right]
  exact Option.bind_congr fun r _ => (h c hc).merge_eq r

/-- Merging keeps clauses reduced. -/
theorem reduced_of_mem_product {sofar g : Cnf} (h : ∀ c ∈ sofar, Reduced c) :
    ∀ c ∈ sofar.product g, Reduced c := by
  intro r hr
  obtain ⟨c, hc, hr⟩ := List.mem_flatMap.mp hr
  obtain ⟨d, -, hr⟩ := List.mem_filterMap.mp hr
  exact (h c hc).merge hr

/-! ## Distribution. -/

/-- Conjunctions simplify part by part. -/
theorem distributeAll_eq_naive
    (h : ∀ f ∈ fs, f.distribute = .ok (f.naive.filterMap simplified)) :
    distributeAll fs = .ok ((fs.map naive).flatten.filterMap simplified) := by
  induction fs with
  | nil => rfl
  | cons f fs ih =>
      obtain ⟨hf, hfs⟩ := List.forall_mem_cons.mp h
      rw [List.map_cons, List.flatten_cons, List.filterMap_append]
      exact except_bind_ok.mpr ⟨_, hf, except_bind_ok.mpr ⟨_, ih hfs, rfl⟩⟩

/-- **PARTIAL PRODUCTS**: from reduced clauses on, disjuncts are distributed
    into the simplified clauses of all choices.  The next clauses are reduced
    again, which carries the induction. -/
theorem distributeAny_eq_naive {sofar : Cnf} (hsofar : ∀ c ∈ sofar, Reduced c)
    (h : ∀ f ∈ fs, f.distribute = .ok (f.naive.filterMap simplified)) :
    distributeAny sofar fs = .ok (sofar.flatMap fun c =>
      (choices (fs.map naive)).filterMap fun ds => simplified (c ++ ds.flatten)) := by
  induction fs generalizing sofar with
  | nil =>
      have hself : ∀ c ∈ sofar,
          ([[]].filterMap fun ds : List Clause => simplified (c ++ ds.flatten)) = [c] := by
        intro c hc
        simp only [List.filterMap_cons, List.filterMap_nil, List.flatten_nil, List.append_nil,
          (hsofar c hc).simplified_eq]
      rw [distributeAny, List.map_nil, choices, List.flatMap_congr hself, List.flatMap_singleton']
  | cons f fs ih =>
      obtain ⟨hf, hfs⟩ := List.forall_mem_cons.mp h
      refine except_bind_ok.mpr ⟨_, hf, ?_⟩
      rw [ih (reduced_of_mem_product hsofar) hfs, product_simplified hsofar, List.flatMap_assoc]
      refine congrArg Except.ok (List.flatMap_congr fun c _ => ?_)
      exact flatMap_filterMap_choices c f.naive (choices (fs.map naive))

/-- **DISTRIBUTION IS THE NAIVE PRODUCT**, simplified at the end. -/
theorem distribute_eq_naive (h : f.isNnf = true) :
    f.distribute = .ok (f.naive.filterMap simplified) := by
  induction f with
  | lit l =>
      rw [naive, List.filterMap_cons_some (Clause.reduced_singleton l).simplified_eq]
      rfl
  | not f _ => exact nomatch h
  | and fs ih =>
      rw [isNnf, isNnfAll_eq_all, List.all_eq_true] at h
      rw [naive, naiveAll_eq_map]
      exact distributeAll_eq_naive fun f hf => ih f hf (h f hf)
  | or fs ih =>
      rw [isNnf, isNnfAll_eq_all, List.all_eq_true] at h
      have hempty : ∀ c ∈ [([] : Clause)], Reduced c :=
        List.forall_mem_singleton.mpr Clause.reduced_nil
      have hor := distributeAny_eq_naive hempty fun f hf => ih f hf (h f hf)
      rw [List.flatMap_singleton] at hor
      rw [naive, naiveAll_eq_map, List.filterMap_map]
      exact hor

/-! ## The mergers on the way. -/

mutual

/-- The clauses of a formula, and beside them the pairs of clauses whose mergers
    were taken on the way, in order. -/
def distributeLogged : Formula → Except EncodingError (Cnf × List (Clause × Clause))
  | .lit l => .ok ([[l]], [])
  | .not f => .error (.notNormal none (.not f))
  | .and fs => distributeAllLogged fs
  | .or fs => distributeAnyLogged [[]] fs

/-- The clauses of the formulas of a list, with the pairs that were merged. -/
def distributeAllLogged : List Formula → Except EncodingError (Cnf × List (Clause × Clause))
  | [] => .ok ([], [])
  | f :: fs => do
      let first ← f.distributeLogged
      let others ← distributeAllLogged fs
      return (first.1 ++ others.1, first.2 ++ others.2)

/-- The clauses of the disjunction of `sofar` with the formulas of a list, with
    the pairs that were merged.  A clause goes into the next product only as the
    merger of a pair that is listed. -/
def distributeAnyLogged (sofar : Cnf) :
    List Formula → Except EncodingError (Cnf × List (Clause × Clause))
  | [] => .ok (sofar, [])
  | f :: fs => do
      let first ← f.distributeLogged
      let pairs := sofar ×ˢ first.1
      let others ← distributeAnyLogged (pairs.filterMap fun p => p.1.merge p.2) fs
      return (others.1, first.2 ++ pairs ++ others.2)

end

/-- A product takes the mergers of all pairs. -/
theorem filterMap_merge_product (f g : Cnf) :
    ((f ×ˢ g).filterMap fun p => p.1.merge p.2) = f.product g := by
  induction f with
  | nil => rfl
  | cons c f ih =>
      rw [List.product_cons, List.filterMap_append, ih, List.filterMap_map]
      rfl

/-- The log of a conjunction does not change what it is distributed into. -/
theorem map_fst_distributeAllLogged
    (h : ∀ f ∈ fs, f.distributeLogged.map Prod.fst = f.distribute) :
    (distributeAllLogged fs).map Prod.fst = distributeAll fs := by
  induction fs with
  | nil => rfl
  | cons f fs ih =>
      obtain ⟨hf, hfs⟩ := List.forall_mem_cons.mp h
      rw [distributeAllLogged, distributeAll, ← hf, ← ih hfs]
      cases f.distributeLogged with
      | error err => rfl
      | ok first => cases distributeAllLogged fs <;> rfl

/-- The log of a disjunction does not change what it is distributed into. -/
theorem map_fst_distributeAnyLogged (sofar : Cnf)
    (h : ∀ f ∈ fs, f.distributeLogged.map Prod.fst = f.distribute) :
    (distributeAnyLogged sofar fs).map Prod.fst = distributeAny sofar fs := by
  induction fs generalizing sofar with
  | nil => rfl
  | cons f fs ih =>
      obtain ⟨hf, hfs⟩ := List.forall_mem_cons.mp h
      rw [distributeAnyLogged, distributeAny, ← hf]
      cases f.distributeLogged with
      | error err => rfl
      | ok first =>
          have hrest := ih (sofar.product first.1) hfs
          rw [← filterMap_merge_product] at hrest
          show _ = distributeAny (Cnf.product sofar first.1) fs
          rw [← filterMap_merge_product, ← hrest]
          show Except.map Prod.fst (distributeAnyLogged _ fs >>= _) = _
          cases distributeAnyLogged _ fs <;> rfl

/-- **LOGGING CHANGES NOTHING**: the clauses, and the failures, are those of
    distribution. -/
theorem map_fst_distributeLogged (f : Formula) :
    f.distributeLogged.map Prod.fst = f.distribute := by
  induction f with
  | lit l => rfl
  | not f _ => rfl
  | and fs ih => exact map_fst_distributeAllLogged ih
  | or fs ih => exact map_fst_distributeAnyLogged [[]] ih

/-- What is distributed has a log. -/
theorem exists_distributeLogged {g : Cnf} (h : f.distribute = .ok g) :
    ∃ pairs, f.distributeLogged = .ok (g, pairs) := by
  rw [← map_fst_distributeLogged] at h
  cases hlogged : f.distributeLogged with
  | error err =>
      rw [hlogged] at h
      exact nomatch h
  | ok r =>
      rw [hlogged] at h
      exact ⟨r.2, congrArg (fun g => Except.ok (g, r.2)) (Except.ok.inj h)⟩

/-- Whether the first clause of every pair is reduced. -/
def MergesReduced (pairs : List (Clause × Clause)) : Prop := ∀ p ∈ pairs, Reduced p.1

/-- Logs with reduced first clauses stay so when put together. -/
theorem MergesReduced.append {ps qs : List (Clause × Clause)} (hps : MergesReduced ps)
    (hqs : MergesReduced qs) : MergesReduced (ps ++ qs) :=
  List.forall_mem_append.mpr ⟨hps, hqs⟩

/-- The log of a conjunction is made of those of its parts. -/
theorem mergesReduced_all {r : Cnf × List (Clause × Clause)}
    (hfs : ∀ f ∈ fs, ∀ r, f.distributeLogged = .ok r → MergesReduced r.2)
    (h : distributeAllLogged fs = .ok r) : MergesReduced r.2 := by
  induction fs generalizing r with
  | nil =>
      rw [← Except.ok.inj h]
      exact fun p hp => nomatch hp
  | cons f fs ih =>
      obtain ⟨hf, hfs⟩ := List.forall_mem_cons.mp hfs
      obtain ⟨first, hfirst, h⟩ := except_bind_ok.mp h
      obtain ⟨others, hothers, h⟩ := except_bind_ok.mp h
      rw [← Except.ok.inj h]
      exact (hf first hfirst).append (ih hfs hothers)

/-- With reduced clauses to begin with, the clauses so far stay reduced. -/
theorem mergesReduced_any {sofar : Cnf} {r : Cnf × List (Clause × Clause)}
    (hsofar : ∀ c ∈ sofar, Reduced c)
    (hfs : ∀ f ∈ fs, ∀ r, f.distributeLogged = .ok r → MergesReduced r.2)
    (h : distributeAnyLogged sofar fs = .ok r) : MergesReduced r.2 := by
  induction fs generalizing sofar r with
  | nil =>
      rw [← Except.ok.inj h]
      exact fun p hp => nomatch hp
  | cons f fs ih =>
      obtain ⟨hf, hfs⟩ := List.forall_mem_cons.mp hfs
      obtain ⟨first, hfirst, h⟩ := except_bind_ok.mp h
      obtain ⟨others, hothers, h⟩ := except_bind_ok.mp h
      rw [← Except.ok.inj h]
      have hpairs : MergesReduced (sofar ×ˢ first.1) := fun p hp =>
        hsofar p.1 (List.mem_product.mp hp).1
      rw [filterMap_merge_product] at hothers
      have hrest := ih (reduced_of_mem_product hsofar) hfs hothers
      exact ((hf first hfirst).append hpairs).append hrest

/-- **MERGERS START FROM REDUCED CLAUSES**, by induction over the tree. -/
theorem mergesReduced_of_distributeLogged {r : Cnf × List (Clause × Clause)}
    (h : f.distributeLogged = .ok r) : MergesReduced r.2 := by
  induction f generalizing r with
  | lit l =>
      rw [← Except.ok.inj h]
      exact fun p hp => nomatch hp
  | not f _ => exact nomatch h
  | and fs ih => exact mergesReduced_all (fun f hf r hr => ih f hf hr) h
  | or fs ih =>
      refine mergesReduced_any ?_ (fun f hf r hr => ih f hf hr) h
      exact List.forall_mem_singleton.mpr Clause.reduced_nil

/-- **DISTRIBUTION IS A SIMPLIFIED CROSS PRODUCT**.  The clauses of a formula in
    normal form are those of the naive cross product, each simplified and the
    tautologies left out, in the same order.  They are reduced, and so is the
    first clause of every pair that is merged on the way. -/
theorem distribution_is_simplified_product (h : f.isNnf = true) :
    f.distribute = .ok (f.naive.filterMap simplified) ∧
      (∀ c ∈ f.naive.filterMap simplified, Reduced c) ∧
      ∃ pairs, f.distributeLogged = .ok (f.naive.filterMap simplified, pairs) ∧
        MergesReduced pairs := by
  have hclauses := distribute_eq_naive h
  obtain ⟨pairs, hlogged⟩ := exists_distributeLogged hclauses
  refine ⟨hclauses, ?_, pairs, hlogged, mergesReduced_of_distributeLogged hlogged⟩
  intro c hc
  obtain ⟨d, -, hd⟩ := List.mem_filterMap.mp hc
  exact Clause.reduced_of_simplified hd

/-- Of the four choices for `(x & !x) | (x & y)` one is a tautology, and two
    repeat a literal. -/
theorem distribution_is_simplified_product_four :
    let x : Literal := ⟨0, true⟩
    let y : Literal := ⟨1, true⟩
    let f : Formula := .or [.and [.lit x, .lit x.complement], .and [.lit x, .lit y]]
    f.isNnf = true ∧
      f.naive = [[x, x], [x, y], [x.complement, x], [x.complement, y]] ∧
      f.distribute = .ok [[x], [x, y], [x.complement, y]] ∧
      ∃ pairs, f.distributeLogged = .ok ([[x], [x, y], [x.complement, y]], pairs) ∧
        MergesReduced pairs := by
  intro x y f
  have hnnf : f.isNnf = true := by decide
  obtain ⟨hclauses, -, hlogged⟩ := distribution_is_simplified_product hnnf
  have hnaive : f.naive = [[x, x], [x, y], [x.complement, x], [x.complement, y]] := by decide
  have hsimplified : f.naive.filterMap simplified = [[x], [x, y], [x.complement, y]] := by decide
  rw [hsimplified] at hclauses hlogged
  exact ⟨hnnf, hnaive, hclauses, hlogged⟩

end Formula

end GuardedCnf
