import Mathlib.Data.Finset.Powerset
import Mathlib.Logic.Function.Basic
/-! # Counting — values for the members of a finite set

    A way to give truth values to the members of a finite set is the subset of
    those that are true.  Counting the ways under which a condition holds can be
    done member by member, and it is a bijection argument away from counting on
    another set whose values are determined by those on the first. -/

namespace GuardedCnf

variable {α β : Type} [DecidableEq α] [DecidableEq β]

/-- The values for which the members of a set are true, and nothing else is. -/
def trueOn (s : Finset α) : α → Bool := fun a => decide (a ∈ s)

/-- The number of ways to give values to the members of a finite set so that a
    condition holds, all else being false. -/
def countOver (dom : Finset α) (p : (α → Bool) → Prop) [DecidablePred p] : Nat :=
  (dom.powerset.filter fun s => p (trueOn s)).card

theorem trueOn_eq_true {s : Finset α} {a : α} : trueOn s a = true ↔ a ∈ s :=
  decide_eq_true_iff

theorem trueOn_eq_false {s : Finset α} {a : α} : trueOn s a = false ↔ a ∉ s :=
  decide_eq_false_iff_not

/-- With one more member, one more value is true. -/
theorem trueOn_insert (a : α) (s : Finset α) :
    trueOn (insert a s) = Function.update (trueOn s) a true := by
  funext b
  by_cases hb : b = a
  · rw [hb, Function.update_self]
    exact trueOn_eq_true.mpr (Finset.mem_insert_self a s)
  · rw [Function.update_of_ne hb, Bool.eq_iff_iff, trueOn_eq_true, trueOn_eq_true,
      Finset.mem_insert]
    exact ⟨fun h => h.resolve_left hb, Or.inr⟩

theorem update_trueOn_of_not_mem {a : α} {s : Finset α} (ha : a ∉ s) :
    Function.update (trueOn s) a false = trueOn s := by
  rw [← trueOn_eq_false.mpr ha]
  exact Function.update_eq_self a (trueOn s)

/-- The true members of a set under given values have the same values. -/
theorem trueOn_filter (dom : Finset α) (v : α → Bool) :
    ∀ a ∈ dom, trueOn (dom.filter fun a => v a = true) a = v a := by
  intro a ha
  rw [Bool.eq_iff_iff, trueOn_eq_true, Finset.mem_filter]
  exact ⟨fun h => h.2, fun h => ⟨ha, h⟩⟩

variable {dom : Finset α} {p q : (α → Bool) → Prop} [DecidablePred p] [DecidablePred q]

theorem countOver_congr (h : ∀ v, p v ↔ q v) : countOver dom p = countOver dom q := by
  unfold countOver
  refine congrArg Finset.card (Finset.filter_congr fun s _ => h (trueOn s))

theorem countOver_empty : countOver (∅ : Finset α) p = if p (trueOn ∅) then 1 else 0 := by
  unfold countOver
  rw [Finset.powerset_empty, Finset.filter_singleton]
  split <;> rfl

theorem countOver_eq_zero_iff : countOver dom p = 0 ↔ ∀ s ⊆ dom, ¬p (trueOn s) := by
  unfold countOver
  rw [Finset.card_eq_zero, Finset.filter_eq_empty_iff]
  exact forall_congr' fun s => imp_congr_left Finset.mem_powerset

/-- **COUNTING MEMBER BY MEMBER**: the ways for a larger set are those with the
    new member false and those with it true. -/
theorem countOver_insert {a : α} (ha : a ∉ dom) :
    countOver (insert a dom) p = countOver dom (fun v => p (Function.update v a false))
      + countOver dom (fun v => p (Function.update v a true)) := by
  -- the subsets with the new member are those without it, each enlarged
  have hne : ∀ s ∈ dom.powerset, a ∉ s := fun s hs hmem =>
    ha (Finset.mem_powerset.mp hs hmem)
  have hdisjoint : Disjoint dom.powerset (dom.powerset.image (insert a)) := by
    rw [Finset.disjoint_left]
    intro s hs himage
    obtain ⟨t, -, rfl⟩ := Finset.mem_image.mp himage
    exact hne _ hs (Finset.mem_insert_self a t)
  have hinj : Set.InjOn (insert a) (dom.powerset : Set (Finset α)) := by
    intro s hs t ht hst
    rw [← Finset.erase_insert (hne s hs), ← Finset.erase_insert (hne t ht)]
    exact congrArg (fun u => Finset.erase u a) hst
  unfold countOver
  rw [Finset.powerset_insert, Finset.filter_union,
    Finset.card_union_of_disjoint (Finset.disjoint_filter_filter hdisjoint), Finset.filter_image,
    Finset.card_image_of_injOn (hinj.mono fun s hs => (Finset.mem_filter.mp hs).1)]
  refine congrArg₂ (· + ·) ?_ ?_
  · refine congrArg Finset.card (Finset.filter_congr fun s hs => ?_)
    show p (trueOn s) ↔ p (Function.update (trueOn s) a false)
    rw [update_trueOn_of_not_mem (hne s hs)]
  · refine congrArg Finset.card (Finset.filter_congr fun s _ => ?_)
    show p (trueOn (insert a s)) ↔ p (Function.update (trueOn s) a true)
    rw [trueOn_insert]

/-- Without a condition every subset counts. -/
theorem countOver_of_forall (h : ∀ v, p v) : countOver dom p = 2 ^ dom.card := by
  unfold countOver
  rw [Finset.filter_true_of_mem fun s _ => h (trueOn s), Finset.card_powerset]

/-! ## Bijections. -/

/-- A condition that depends on the values of the members of a set only. -/
def DependsOn (dom : Finset α) (p : (α → Bool) → Prop) : Prop :=
  ∀ v w, (∀ a ∈ dom, v a = w a) → (p v ↔ p w)

/-- Values under which such a condition holds are counted. -/
theorem DependsOn.countOver_ne_zero (hp : DependsOn dom p) {v : α → Bool} (hv : p v) :
    countOver dom p ≠ 0 := by
  intro hzero
  have hnone := countOver_eq_zero_iff.mp hzero (dom.filter fun a => v a = true)
    (Finset.filter_subset ..)
  exact hnone ((hp _ _ (trueOn_filter dom v)).mpr hv)

/-- **UNIQUE EXTENSION**: when the values for which `p` holds on the larger set
    are, restricted to the smaller, just those for which `q` holds, and are
    determined by the restriction, both are equally many. -/
theorem countOver_eq_of_unique_extension {dom' : Finset α} (hsub : dom ⊆ dom')
    (hp : DependsOn dom' p) (hq : DependsOn dom q) (hpq : ∀ w, p w → q w)
    (hextend : ∀ v, q v → ∃ w, (∀ a ∈ dom, w a = v a) ∧ p w)
    (hunique : ∀ w w', p w → p w' → (∀ a ∈ dom, w a = w' a) → ∀ a ∈ dom', w a = w' a) :
    countOver dom' p = countOver dom q := by
  have hrestrict : ∀ s : Finset α, ∀ a ∈ dom, trueOn s a = trueOn (s ∩ dom) a := by
    intro s a ha
    rw [Bool.eq_iff_iff, trueOn_eq_true, trueOn_eq_true, Finset.mem_inter]
    exact (and_iff_left ha).symm
  unfold countOver
  -- valuations are sets of true variables here, and are cut down to the smaller domain
  refine Finset.card_bij (fun s _ => s ∩ dom) ?_ ?_ ?_
  · intro s hs
    have hps := (Finset.mem_filter.mp hs).2
    refine Finset.mem_filter.mpr ⟨Finset.mem_powerset.mpr Finset.inter_subset_right, ?_⟩
    exact (hq _ _ (hrestrict s)).mp (hpq _ hps)
  · intro s hs t ht hst
    obtain ⟨hs, hps⟩ := Finset.mem_filter.mp hs
    obtain ⟨ht, hpt⟩ := Finset.mem_filter.mp ht
    have hagree := hunique _ _ hps hpt fun a ha => by
      rw [hrestrict s a ha, hrestrict t a ha, show s ∩ dom = t ∩ dom from hst]
    ext a
    by_cases ha : a ∈ dom'
    · rw [← trueOn_eq_true, ← trueOn_eq_true, hagree a ha]
    · exact iff_of_false (fun hmem => ha (Finset.mem_powerset.mp hs hmem))
        fun hmem => ha (Finset.mem_powerset.mp ht hmem)
  · intro t ht
    obtain ⟨ht, hqt⟩ := Finset.mem_filter.mp ht
    -- the extension that exists is cut down to the valuation it came from
    obtain ⟨w, hagree, hpw⟩ := hextend _ hqt
    have htrue := trueOn_filter dom' w
    refine ⟨dom'.filter fun a => w a = true, ?_, ?_⟩
    · refine Finset.mem_filter.mpr ⟨Finset.mem_powerset.mpr (Finset.filter_subset ..), ?_⟩
      exact (hp _ _ htrue).mpr hpw
    · ext a
      rw [Finset.mem_inter]
      by_cases ha : a ∈ dom
      · rw [and_iff_left ha, ← trueOn_eq_true, htrue a (hsub ha), hagree a ha, trueOn_eq_true]
      · exact iff_of_false (fun hmem => ha hmem.2)
          fun hmem => ha (Finset.mem_powerset.mp ht hmem)

/-- Counting over names or over what they stand for is the same, when different
    names stand for different things. -/
theorem countOver_image {f : α → β} {r : (β → Bool) → Prop} [DecidablePred r]
    (hf : Set.InjOn f dom) (hpr : ∀ v w, (∀ a ∈ dom, v a = w (f a)) → (p v ↔ r w)) :
    countOver (dom.image f) r = countOver dom p := by
  have hvalue : ∀ s ⊆ dom, ∀ a ∈ dom, trueOn s a = trueOn (s.image f) (f a) := by
    intro s hs a ha
    rw [Bool.eq_iff_iff, trueOn_eq_true, trueOn_eq_true, Finset.mem_image]
    constructor
    · exact fun hmem => ⟨a, hmem, rfl⟩
    · rintro ⟨b, hb, hab⟩
      exact hf (hs hb) ha hab ▸ hb
  unfold countOver
  symm
  -- the true variables are renamed
  refine Finset.card_bij (fun s _ => s.image f) ?_ ?_ ?_
  · intro s hs
    obtain ⟨hs, hps⟩ := Finset.mem_filter.mp hs
    have hsub := Finset.mem_powerset.mp hs
    refine Finset.mem_filter.mpr ⟨Finset.mem_powerset.mpr (Finset.image_subset_image hsub), ?_⟩
    exact (hpr _ _ (hvalue s hsub)).mp hps
  · intro s hs t ht hst
    have hs := Finset.mem_powerset.mp (Finset.mem_filter.mp hs).1
    have ht := Finset.mem_powerset.mp (Finset.mem_filter.mp ht).1
    exact (Finset.image_eq_image_iff_of_injOn hf hs ht).mp hst
  · intro t ht
    obtain ⟨ht, hrt⟩ := Finset.mem_filter.mp ht
    obtain ⟨s, hs, rfl⟩ := Finset.subset_image_iff.mp (Finset.mem_powerset.mp ht)
    refine ⟨s, Finset.mem_filter.mpr ⟨Finset.mem_powerset.mpr hs, ?_⟩, rfl⟩
    exact (hpr _ _ (hvalue s hs)).mpr hrt

end GuardedCnf
