import GuardedCnf.Proofs.PackedValues
/-! # Counting on — all values one after the other

    Counting on adds one to the number of packed values modulo the power of two,
    whatever part of the last word is used: a word that wraps carries to the
    next, and the last word overflows where all variables were true.  So counting
    from the values that are all false meets all values once before it is
    back. -/

namespace GuardedCnf

namespace Packed

variable {p q last : Packed} {w o : UInt32} {ws : List UInt32} {ps : List Packed} {n k r : Nat}

/-! ## One step. -/

theorem toNat_add_one (w : UInt32) : (w + 1).toNat = (w.toNat + 1) % 2 ^ 32 :=
  UInt32.toNat_add w 1

/-- The last word, of which `r` bits are used, overflows exactly when these are
    all set. -/
theorem add_one_eq_iff (hr : r ≤ 32) (ho : o.toNat = 2 ^ r % 2 ^ 32) (hw : w.toNat < 2 ^ r) :
    w + 1 = o ↔ w.toNat + 1 = 2 ^ r := by
  have hpow : 2 ^ r ≤ 2 ^ 32 := Nat.pow_le_pow_right (by decide) hr
  rw [← UInt32.toNat_inj, toNat_add_one, ho]
  omega

/-- Any other word wraps exactly when all of its bits are set. -/
theorem add_one_eq_zero_iff (w : UInt32) : w + 1 = 0 ↔ w.toNat + 1 = 2 ^ 32 :=
  add_one_eq_iff (r := 32) (Nat.le_refl 32) rfl w.toNat_lt

theorem toNat_add_one_of_lt (h : w.toNat + 1 < 2 ^ 32) : (w + 1).toNat = w.toNat + 1 := by
  rw [toNat_add_one, Nat.mod_eq_of_lt h]

/-- **ADDING ONE TO WORDS**, of which `r` bits of the last are used, is adding
    one modulo the power of two; the flag is down where this gives zero. -/
theorem exists_countOn (hr : r ≤ 32) (ho : o.toNat = 2 ^ r % 2 ^ 32)
    (hlength : ws.length = k + 1) (hlt : number ws < 2 ^ (32 * k + r)) :
    ∃ ws' more, countOn o ws = some (ws', more) ∧
      number ws' = (number ws + 1) % 2 ^ (32 * k + r) ∧
      (more = false ↔ number ws + 1 = 2 ^ (32 * k + r)) := by
  induction k generalizing ws with
  | zero =>
      obtain ⟨w, rfl⟩ := List.length_eq_one_iff.mp hlength
      have hnumber (w : UInt32) : number [w] = w.toNat := Nat.zero_add _
      rw [Nat.mul_zero, Nat.zero_add, hnumber] at hlt ⊢
      -- the last word is compared with the sentinel, the bound that its part of the
      -- variables has
      by_cases hover : w + 1 = o
      · have hfull := (add_one_eq_iff hr ho hlt).mp hover
        refine ⟨[0], false, congrArg some (if_pos hover), ?_, iff_of_true rfl hfull⟩
        rw [hfull, Nat.mod_self]
        rfl
      · have hpow : 2 ^ r ≤ 2 ^ 32 := Nat.pow_le_pow_right (by decide) hr
        have hnot : w.toNat + 1 ≠ 2 ^ r := fun h => hover ((add_one_eq_iff hr ho hlt).mpr h)
        have hsucc : w.toNat + 1 < 2 ^ r := Nat.lt_of_le_of_ne hlt hnot
        refine ⟨[w + 1], true, congrArg some (if_neg hover), ?_, iff_of_false nofun hnot⟩
        rw [hnumber, toNat_add_one_of_lt (Nat.lt_of_lt_of_le hsucc hpow), Nat.mod_eq_of_lt hsucc]
  | succ k ih =>
      obtain ⟨w, ws, rfl⟩ := List.exists_cons_of_length_eq_add_one hlength
      have hlength : ws.length = k + 1 := Nat.succ.inj hlength
      obtain ⟨w', rest, rfl⟩ := List.exists_cons_of_length_eq_add_one hlength
      have hpow : 2 ^ (32 * (k + 1) + r) = 2 ^ 32 * 2 ^ (32 * k + r) := by ring
      have hw : w.toNat < 2 ^ 32 := w.toNat_lt
      rw [hpow, number] at hlt ⊢
      have hrest : number (w' :: rest) < 2 ^ (32 * k + r) := by omega
      rw [countOn]
      · -- all other words wrap at 32 bits
        by_cases hwrap : w + 1 = 0
        · -- the word wraps, and the carry adds one to the number of the others
          have hfull := (add_one_eq_zero_iff w).mp hwrap
          obtain ⟨ws', more, hcount, hnumber, hmore⟩ := ih hlength hrest
          refine ⟨0 :: ws', more, ?_, ?_, ?_⟩
          · rw [if_pos hwrap, hcount, Option.map_some]
          · have hcarry : 2 ^ 32 * number (w' :: rest) + w.toNat + 1 =
                2 ^ 32 * (number (w' :: rest) + 1) := by omega
            rw [number, hnumber, hcarry, Nat.mul_mod_mul_left]
            rfl
          · rw [hmore]
            omega
        · have hnot : w.toNat + 1 ≠ 2 ^ 32 := fun h => hwrap ((add_one_eq_zero_iff w).mpr h)
          have hsucc : w.toNat + 1 < 2 ^ 32 := Nat.lt_of_le_of_ne hw hnot
          refine ⟨(w + 1) :: w' :: rest, true, if_neg hwrap, ?_, iff_of_false nofun (by omega)⟩
          rw [number, toNat_add_one_of_lt hsucc, Nat.mod_eq_of_lt (by omega), Nat.add_assoc]
      · exact List.cons_ne_nil w' rest

theorem toNat_overflow (n : Nat) :
    (overflow n).toNat = 2 ^ (if n % 32 = 0 then 32 else n % 32) % 2 ^ 32 := by
  rw [overflow]
  split
  · rfl
  · have hlt : n % 32 < 32 := Nat.mod_lt n (by decide)
    have hnumber : (UInt32.ofNat (n % 32)).toNat = n % 32 := by
      rw [UInt32.toNat_ofNat', Nat.mod_eq_of_lt (Nat.lt_trans hlt (by decide))]
    rw [UInt32.toNat_shiftLeft, hnumber, Nat.mod_eq_of_lt hlt, Nat.shiftLeft_eq]
    exact congrArg (· % 2 ^ 32) (Nat.one_mul _)

/-- **WHAT COUNTING ON DOES** to values whose words are trimmed. -/
theorem exists_next (h : p.Trimmed) :
    ∃ q more, p.next? = some (q, more) ∧ q.size = p.size ∧ q.Trimmed ∧
      number q.words = (number p.words + 1) % 2 ^ p.size ∧
      (more = false ↔ number p.words + 1 = 2 ^ p.size) := by
  rw [trimmed_iff] at h
  by_cases hsize : p.size = 0
  · refine ⟨p, false, if_pos hsize, rfl, trimmed_iff.mpr h, ?_, iff_of_true rfl ?_⟩
    · rw [hsize] at h ⊢
      omega
    · rw [hsize] at h ⊢
      omega
  · -- of the last word either the remainder of the size is used or all of it
    let r := if p.size % 32 = 0 then 32 else p.size % 32
    have hr : r ≤ 32 ∧ 32 * ((p.size + 31) / 32 - 1) + r = p.size := by
      simp only [r]
      split <;> omega
    have hlength : p.words.length = (p.size + 31) / 32 - 1 + 1 := by
      rw [p.length_words]
      omega
    -- the number stays below the bound, so the bits above the size stay clear
    obtain ⟨ws', more, hcount, hnumber, hmore⟩ :=
      exists_countOn hr.1 (toNat_overflow p.size) hlength (by rw [hr.2]; exact h)
    rw [hr.2] at hnumber hmore
    have hlength' := (length_countOn hcount).trans p.length_words
    refine ⟨⟨p.size, ws', hlength'⟩, more, ?_, rfl, trimmed_iff.mpr ?_, hnumber, hmore⟩
    · rw [next?, if_neg hsize]
      split
      · next hnone => cases hnone.symm.trans hcount
      · next hsome =>
          cases hsome.symm.trans hcount
          rfl
    · show number ws' < 2 ^ p.size
      rw [hnumber]
      exact Nat.mod_lt _ (Nat.two_pow_pos p.size)

/-! ## All values. -/

/-- Counting on as long as there are further values meets the values of the
    list, and ends with the last ones given. -/
inductive Visits : Packed → List Packed → Packed → Prop where
  | stop {p q : Packed} (step : p.next? = some (q, false)) : Visits p [p] q
  | go {p q : Packed} {ps : List Packed} {last : Packed} (step : p.next? = some (q, true))
      (rest : Visits q ps last) : Visits p (p :: ps) last

/-- There is one way to count on. -/
theorem Visits.unique {ps' : List Packed} {last' : Packed} (h : Visits p ps last)
    (h' : Visits p ps' last') : ps' = ps ∧ last' = last := by
  induction h generalizing ps' last' with
  | stop step =>
      cases h' with
      | stop step' =>
          cases step.symm.trans step'
          exact ⟨rfl, rfl⟩
      | go step' _ => exact nomatch step.symm.trans step'
  | go step _ ih =>
      cases h' with
      | stop step' => exact nomatch step.symm.trans step'
      | go step' rest' =>
          cases step.symm.trans step'
          obtain ⟨rfl, rfl⟩ := ih rest'
          exact ⟨rfl, rfl⟩

/-- **COUNTING ON MEETS ALL NUMBERS** from that of the first values on, and ends
    at zero. -/
theorem exists_visits (h : p.Trimmed) :
    ∃ ps last, Visits p ps last ∧ last = allFalse p.size ∧
      (∀ q ∈ ps, q.size = p.size ∧ q.Trimmed) ∧
      ps.map (fun q => number q.words) =
        List.range' (number p.words) (2 ^ p.size - number p.words) := by
  -- the number of values that are left decreases
  induction hleft : 2 ^ p.size - (number p.words + 1) generalizing p with
  | zero =>
      have hlt := trimmed_iff.mp h
      have hfull : number p.words + 1 = 2 ^ p.size := by omega
      obtain ⟨q, more, hnext, hsize, -, hnumber, hmore⟩ := exists_next h
      rw [hmore.mpr hfull] at hnext
      have hone : 2 ^ p.size - number p.words = 1 := by omega
      refine ⟨[p], q, .stop hnext, eq_of_number hsize ?_, ?_, ?_⟩
      · rw [hnumber, hfull, Nat.mod_self, number_allFalse]
      · intro q hq
        rw [List.mem_singleton.mp hq]
        exact ⟨rfl, h⟩
      · rw [hone]
        rfl
  | succ left ih =>
      obtain ⟨q, more, hnext, hsize, htrimmed, hnumber, hmore⟩ := exists_next h
      have hmore : more = true := by
        rw [← Bool.not_eq_false, hmore]
        omega
      rw [hmore] at hnext
      rw [Nat.mod_eq_of_lt (by omega)] at hnumber
      obtain ⟨ps, last, hvisits, hlast, hall, hnumbers⟩ :=
        ih htrimmed (by rw [hsize, hnumber]; omega)
      refine ⟨p :: ps, last, .go hnext hvisits, hlast.trans (by rw [hsize]), ?_, ?_⟩
      · intro r hr
        rcases List.mem_cons.mp hr with rfl | hr
        · exact ⟨rfl, h⟩
        · exact ⟨(hall r hr).1.trans hsize, (hall r hr).2⟩
      · have hcount : 2 ^ p.size - number p.words = left + 1 + 1 := by omega
        have hcount' : 2 ^ p.size - (number p.words + 1) = left + 1 := hleft
        rw [List.map_cons, hnumbers, hsize, hnumber, hcount, hcount']
        rfl

/-- Of the values that counting on meets, no two are the same, and none is
    missing. -/
theorem exists_visits_allFalse (n : Nat) :
    ∃ ps, Visits (allFalse n) ps (allFalse n) ∧ (ps.map values).Nodup ∧
      ∀ bs : List Bool, bs ∈ ps.map values ↔ bs.length = n := by
  obtain ⟨ps, last, hvisits, rfl, hall, hnumbers⟩ := exists_visits (trimmed_allFalse n)
  rw [number_allFalse, Nat.sub_zero, ← List.range_eq_range'] at hnumbers
  refine ⟨ps, hvisits, ?_, fun bs => ⟨?_, fun hbs => ?_⟩⟩
  · have hnodup : (ps.map fun q => number q.words).Nodup := hnumbers ▸ List.nodup_range
    -- values with the same bits are packed into the same words
    refine hnodup.of_map.map_on fun q hq r hr h => ?_
    exact eq_of_values_eq (hall q hq).2 (hall r hr).2 h
  · rintro hbs
    obtain ⟨q, hq, rfl⟩ := List.mem_map.mp hbs
    exact (length_values q).trans (hall q hq).1
  · -- the number of the values is among those that are met
    have hlt := trimmed_iff.mp (trimmed_ofValues bs)
    have hmem : number (ofValues bs).words ∈ ps.map fun q => number q.words := by
      rw [hnumbers, List.mem_range]
      exact hbs ▸ hlt
    obtain ⟨q, hq, hnumber⟩ := List.mem_map.mp hmem
    have hsize : q.size = (ofValues bs).size := (hall q hq).1.trans hbs.symm
    refine List.mem_map.mpr ⟨q, hq, ?_⟩
    rw [eq_of_number hsize hnumber, values_ofValues]

end Packed

/-! ## Models. -/

theorem Packed.binary_ofValues (m : Model) :
    binary m.size (Packed.ofValues m.values).value = m.number :=
  binary_congr fun v _ => Packed.value_ofValues m.values v

/-- The model after another is that with the next number. -/
theorem Model.number_next (m : Model) :
    m.next.1.size = m.size ∧ m.next.1.number = (m.number + 1) % 2 ^ m.size ∧
      (m.next.2 = false ↔ m.number + 1 = 2 ^ m.size) := by
  have htrimmed := Packed.trimmed_ofValues m.values
  have hnumber : Packed.number (Packed.ofValues m.values).words = m.number :=
    (Packed.binary_value htrimmed).symm.trans (Packed.binary_ofValues m)
  obtain ⟨q, more, hnext, hsize, htrimmed', hnumber', hmore⟩ := Packed.exists_next htrimmed
  -- packed values always have a successor
  have hstep : m.next = (⟨q.values⟩, more) := by
    unfold Model.next
    simp only [hnext, Option.get_some]
  have hsize' : q.size = m.size := hsize
  have hlength : q.values.length = m.size := q.length_values.trans hsize
  have hvalues : binary m.size (⟨q.values⟩ : Model).value = Packed.number q.words := by
    rw [← Packed.binary_value htrimmed', hsize']
    refine binary_congr fun v hv => ?_
    rw [Model.value, List.getD_eq_getElem?_getD, Packed.getElem?_values (hsize'.symm ▸ hv),
      Option.getD_some]
  rw [hstep]
  refine ⟨hlength, ?_, hnumber ▸ hmore⟩
  rw [← hnumber]
  exact (congrArg (binary · _) hlength).trans (hvalues.trans hnumber')

namespace Packed

/-- **COUNTING MEETS ALL VALUES**.  For values of `n` variables with nothing above
    them, there is always a next step: it adds one to the number of the values
    modulo the power of two, sets nothing above them, and says that there is no
    further one exactly where all were true.  Counting on from the values that
    are all false meets all lists of `n` values, each once, and there is no other
    way to count; it ends where it began.  Models are counted through in this
    way. -/
theorem counting_meets_all_values (n : Nat) :
    (∀ p : Packed, p.size = n → p.Trimmed → ∃ q more, p.next? = some (q, more) ∧
      q.size = n ∧ q.Trimmed ∧ binary n q.value = (binary n p.value + 1) % 2 ^ n ∧
      (more = false ↔ binary n p.value = 2 ^ n - 1)) ∧
    (∃ ps, Visits (allFalse n) ps (allFalse n) ∧
      (∀ ps' last, Visits (allFalse n) ps' last → ps' = ps ∧ last = allFalse n) ∧
      (ps.map values).Nodup ∧ ∀ bs : List Bool, bs ∈ ps.map values ↔ bs.length = n) ∧
    (∀ m : Model, m.size = n → m.next.1.size = n ∧ m.next.1.number = (m.number + 1) % 2 ^ n ∧
      (m.next.2 = false ↔ m.number = 2 ^ n - 1)) := by
  have hpos : 0 < 2 ^ n := Nat.two_pow_pos n
  refine ⟨?_, ?_, ?_⟩
  · rintro p rfl htrimmed
    obtain ⟨q, more, hnext, hsize, htrimmed', hnumber, hmore⟩ := exists_next htrimmed
    refine ⟨q, more, hnext, hsize, htrimmed', ?_, ?_⟩
    · rw [binary_value htrimmed, ← hnumber, ← binary_value htrimmed', hsize]
    · rw [binary_value htrimmed, hmore]
      omega
  · -- the visits to the first values again, which are all there are
    obtain ⟨ps, hvisits, hnodup, hmem⟩ := exists_visits_allFalse n
    exact ⟨ps, hvisits, fun _ _ => hvisits.unique, hnodup, hmem⟩
  · -- a model counts on as its packed values do
    rintro m rfl
    obtain ⟨hsize, hnumber, hmore⟩ := m.number_next
    refine ⟨hsize, hnumber, hmore.trans ?_⟩
    omega

/-- Of 33 variables the first 32 are true, so adding one carries into the second
    word, of which one bit is used. -/
theorem counting_meets_all_values_carry :
    let p : Packed := ⟨33, [4294967295, 0], rfl⟩
    p.Trimmed ∧ binary 33 p.value = 2 ^ 32 - 1 ∧
      ∃ q, p.next? = some (q, true) ∧ q.size = 33 ∧ q.Trimmed ∧ binary 33 q.value = 2 ^ 32 := by
  intro p
  have htrimmed : p.Trimmed := trimmed_iff.mpr (by decide)
  have hnumber : binary 33 p.value = 2 ^ 32 - 1 := binary_value htrimmed
  obtain ⟨q, more, hnext, hsize, htrimmed', hvalue, hmore⟩ :=
    (counting_meets_all_values 33).1 p rfl htrimmed
  have hmore : more = true := by
    rw [← Bool.not_eq_false, hmore, hnumber]
    decide
  rw [hmore] at hnext
  rw [hnumber] at hvalue
  exact ⟨htrimmed, hnumber, q, hnext, hsize, htrimmed', hvalue⟩

end Packed

end GuardedCnf
