import Zboss.Nwk.TreeAddress

/-!
The value of `zb_nwk_daa_calc_cskip` against the formula of the address scheme.  Above the
maximal depth the 16-bit loop and the division give exactly the formula; from the maximal
depth on, where a device has no addresses to give, the code still evaluates the formula for
its children, with no round of the loop.
-/

namespace Zboss.TreeAddress

/-- The formula of the address scheme, in integers. -/
def formulaCskip (nib : TreeParams) (depth : ℕ) : ℤ :=
  if nib.maxDepth ≤ depth then 0
  else if nib.maxRouters = 1 then 1 + nib.maxChildren * ((nib.maxDepth : ℤ) - depth - 1)
  else
    (1 + nib.maxChildren - nib.maxRouters -
      nib.maxChildren * nib.maxRouters ^ (nib.maxDepth - depth - 1)) / (1 - nib.maxRouters)

/-- The products the loop computes before they are cut to 16 bits. -/
def powerProducts (maxRouters : ℕ) : ℕ → ℕ → List ℕ
  | 0, _ => []
  | rounds + 1, tmp =>
    tmp * maxRouters :: powerProducts maxRouters rounds (tmp * maxRouters % 2 ^ 16)

/-- What is expected of the skip of a device at `depth`. -/
structure SkipExact (nib : TreeParams) (depth : ℕ) : Prop where
  value : (daaCalcCskip nib depth : ℤ) = formulaCskip nib depth
  recurrence : ∀ parent, depth = parent + 1 → daaCalcCskip nib depth ≠ 0 →
    (daaCalcCskip nib parent : ℤ) =
      1 + nib.maxRouters * daaCalcCskip nib depth + (nib.maxChildren - nib.maxRouters)
  products : nib.maxRouters ≠ 1 →
    (∀ product ∈ powerProducts nib.maxRouters (nib.maxDepth - depth - 1) 1, product < 2 ^ 16) ∧
      nib.maxChildren * powerLoop nib.maxRouters (nib.maxDepth - depth - 1) 1 < 2 ^ 31
  division : nib.maxRouters ≠ 1 → (1 - nib.maxRouters : ℤ) ≠ 0 ∧
    (1 - nib.maxRouters : ℤ) ∣ 1 + nib.maxChildren - nib.maxRouters -
      nib.maxChildren * (powerLoop nib.maxRouters (nib.maxDepth - depth - 1) 1 : ℕ)

/-! ## The loop -/

theorem power_of_products {r rounds tmp : ℕ} (small : tmp < 2 ^ 16)
    (fit : ∀ product ∈ powerProducts r rounds tmp, product < 2 ^ 16) :
    tmp * r ^ rounds < 2 ^ 16 := by
  induction rounds generalizing tmp with
  | zero => rwa [Nat.pow_zero, Nat.mul_one]
  | succ rounds induction_ =>
    have first : tmp * r < 2 ^ 16 := fit _ List.mem_cons_self
    have later := induction_ (Nat.mod_lt _ (by decide)) fun product member =>
      fit product (List.mem_cons_of_mem _ member)
    rw [Nat.mod_eq_of_lt first] at later
    rwa [Nat.pow_succ', ← Nat.mul_assoc]

theorem products_of_power {r rounds tmp : ℕ} (fit : ∀ i ≤ rounds, tmp * r ^ i < 2 ^ 16) :
    ∀ product ∈ powerProducts r rounds tmp, product < 2 ^ 16 := by
  induction rounds generalizing tmp with
  | zero => exact fun product member => absurd member List.not_mem_nil
  | succ rounds induction_ =>
    have first : tmp * r < 2 ^ 16 := by
      have power := fit 1 (by omega)
      rwa [Nat.pow_one] at power
    intro product member
    rcases List.mem_cons.mp member with rfl | later
    · exact first
    · rw [Nat.mod_eq_of_lt first] at later
      refine induction_ (fun i inside => ?_) product later
      have power := fit (i + 1) (by omega)
      rwa [Nat.pow_succ', ← Nat.mul_assoc] at power

theorem powerLoop_lt (r rounds : ℕ) {tmp : ℕ} (small : tmp < 2 ^ 16) :
    powerLoop r rounds tmp < 2 ^ 16 := by
  rw [powerLoop_eq r rounds small]
  exact Nat.mod_lt _ (by decide)

/-- No smaller power is larger. -/
theorem pow_lt_of_le {r i k : ℕ} (shorter : i ≤ k) (fit : r ^ k < 2 ^ 16) : r ^ i < 2 ^ 16 := by
  rcases Nat.eq_zero_or_pos r with none | some
  · rw [none]
    have one : 0 ^ i ≤ 1 ^ i := Nat.pow_le_pow_left (Nat.zero_le 1) i
    rw [Nat.one_pow] at one
    omega
  · exact Nat.lt_of_le_of_lt (Nat.pow_le_pow_right some shorter) fit

/-- From the maximal depth on the loop makes no round. -/
theorem daaCalcCskip_deep {nib : TreeParams} {depth : ℕ} (deep : nib.maxDepth ≤ depth)
    (several : nib.maxRouters ≠ 1) : daaCalcCskip nib depth = 1 := by
  have rounds : nib.maxDepth - depth - 1 = 0 := by omega
  have nonzero : (1 - nib.maxRouters : ℤ) ≠ 0 := by omega
  have num : (1 + nib.maxChildren - nib.maxRouters - nib.maxChildren * ((1 : ℕ) : ℤ) : ℤ) =
      (1 - nib.maxRouters) * ((1 : ℕ) : ℤ) := by
    push_cast
    ring
  rw [daaCalcCskip, if_neg several, rounds]
  dsimp only [powerLoop]
  rw [num, Int.mul_tdiv_cancel_left _ nonzero, toUint16_natCast (by decide)]

/-- With one router child to a device the value counts devices behind the tree. -/
theorem daaCalcCskip_chain {nib : TreeParams} {depth : ℕ} (octet : depth < 2 ^ 8)
    (deep : nib.maxDepth ≤ depth) (single : nib.maxRouters = 1) :
    daaCalcCskip nib depth = 0 ↔ nib.maxChildren = 1 ∧ depth = nib.maxDepth := by
  obtain ⟨e, depthDef⟩ : ∃ e, depth = nib.maxDepth + e := ⟨depth - nib.maxDepth, by omega⟩
  have children := nib.maxChildren_lt
  have below : nib.maxChildren * (e + 1) ≤ 255 * 256 := Nat.mul_le_mul (by omega) (by omega)
  have factor : (1 + nib.maxChildren * ((nib.maxDepth : ℤ) - depth - 1)) =
      1 - ((nib.maxChildren * (e + 1) : ℕ) : ℤ) := by
    rw [depthDef]
    push_cast
    ring
  rw [daaCalcCskip, if_pos single, factor, toUint16]
  constructor
  · intro zero
    have one : nib.maxChildren * (e + 1) = 1 := by omega
    have child := Nat.eq_one_of_mul_eq_one_right one
    have last := Nat.eq_one_of_mul_eq_one_left one
    omega
  · rintro ⟨child, last⟩
    have none : e = 0 := by omega
    rw [child, none]
    rfl

/-- Above the maximal depth the formula is the size of a child's block. -/
theorem formulaCskip_eq {nib : TreeParams} {depth : ℕ} (shallow : depth < nib.maxDepth) :
    formulaCskip nib depth = blockSize nib (depth + 1) := by
  obtain ⟨k, depthDef⟩ : ∃ k, nib.maxDepth = depth + 1 + k := ⟨nib.maxDepth - depth - 1, by omega⟩
  have rounds : nib.maxDepth - depth - 1 = k := by omega
  have size : blockSize nib (depth + 1) = 1 + nib.maxChildren * geomSum nib.maxRouters k := by
    rw [blockSize, Nat.sub_add_eq, rounds]
  rw [formulaCskip, if_neg (Nat.not_le.mpr shallow)]
  by_cases single : nib.maxRouters = 1
  · have sum : geomSum nib.maxRouters k = k := by simp [geomSum, single]
    rw [if_pos single, size, sum, depthDef]
    push_cast
    ring
  · have nonzero : (1 - nib.maxRouters : ℤ) ≠ 0 := by omega
    have num := cskip_numerator nib.maxChildren nib.maxRouters k
    push_cast at num
    rw [if_neg single, rounds, num, size]
    push_cast
    exact Int.mul_ediv_cancel_left _ nonzero

/-! ## The exact value -/

theorem skipExact_shallow {nib : TreeParams} (fits : Fits nib) {depth : ℕ}
    (shallow : depth < nib.maxDepth)
    (power : nib.maxRouters ≠ 1 → nib.maxRouters ^ (nib.maxDepth - depth - 1) < 2 ^ 16) :
    SkipExact nib depth where
  value := by rw [daaCalcCskip_eq fits shallow, formulaCskip_eq shallow]
  recurrence := by
    rintro parent rfl -
    have sizes := blockSize_succ shallow
    rw [daaCalcCskip_eq fits shallow, daaCalcCskip_eq fits (by omega : parent < nib.maxDepth)]
    push_cast [← Nat.cast_inj (R := ℤ)] at sizes
    linear_combination sizes
  products several := by
    constructor
    · apply products_of_power
      intro i inside
      rw [Nat.one_mul]
      exact pow_lt_of_le inside (power several)
    · have tmp : powerLoop nib.maxRouters (nib.maxDepth - depth - 1) 1 < 2 ^ 16 :=
        powerLoop_lt nib.maxRouters (nib.maxDepth - depth - 1) (by decide)
      calc nib.maxChildren * powerLoop nib.maxRouters (nib.maxDepth - depth - 1) 1
          ≤ 255 * 65535 :=
            Nat.mul_le_mul (Nat.le_of_lt_succ nib.maxChildren_lt) (Nat.le_of_lt_succ tmp)
        _ < 2 ^ 31 := by decide
  division several := by
    obtain ⟨k, depthDef⟩ : ∃ k, nib.maxDepth = depth + 1 + k :=
      ⟨nib.maxDepth - depth - 1, by omega⟩
    have rounds : nib.maxDepth - depth - 1 = k := by omega
    refine ⟨by omega, ?_⟩
    rw [rounds, numerator_eq fits depthDef]
    exact Int.dvd_mul_right _ _

theorem skipExact_chain {nib : TreeParams} {depth : ℕ} (single : nib.maxRouters = 1)
    (child : nib.maxChildren = 1) (last : depth = nib.maxDepth) : SkipExact nib depth := by
  have zero : daaCalcCskip nib depth = 0 :=
    (daaCalcCskip_chain (last ▸ nib.maxDepth_lt) (Nat.le_of_eq last.symm) single).mpr ⟨child, last⟩
  refine ⟨?_, fun _ _ some_ => absurd zero some_, fun several => absurd single several,
    fun several => absurd single several⟩
  rw [zero, formulaCskip, if_pos (Nat.le_of_eq last.symm)]
  rfl

/-- The value is exact exactly above the maximal depth, where the loop of a device without
children may still overflow, and in one more case by accident. -/
theorem skip_exact_iff (nib : TreeParams) {depth : ℕ} (octet : depth < 2 ^ 8)
    (fits : blockSize nib 0 ≤ 0xfff8) :
    SkipExact nib depth ↔
      (depth < nib.maxDepth ∧ (nib.maxRouters ≠ 1 → nib.maxChildren = 0 →
        nib.maxRouters ^ (nib.maxDepth - depth - 1) < 2 ^ 16)) ∨
      (nib.maxRouters = 1 ∧ nib.maxChildren = 1 ∧ depth = nib.maxDepth) := by
  have fits : Fits nib := Nat.le_trans fits (by decide)
  constructor
  · intro exact_
    by_cases shallow : depth < nib.maxDepth
    · refine .inl ⟨shallow, fun several _ => ?_⟩
      have power := power_of_products (by decide) (exact_.products several).1
      rwa [Nat.one_mul] at power
    · have deep := Nat.le_of_not_lt shallow
      have zero := exact_.value
      rw [formulaCskip, if_pos deep] at zero
      by_cases single : nib.maxRouters = 1
      · exact .inr ⟨single, (daaCalcCskip_chain octet deep single).mp (by omega)⟩
      · rw [daaCalcCskip_deep deep single] at zero
        exact absurd zero (by decide)
  · rintro (⟨shallow, alone⟩ | ⟨single, child, last⟩)
    · refine skipExact_shallow fits shallow fun several => ?_
      rcases Nat.eq_zero_or_pos nib.maxChildren with none | some
      · exact alone several none
      · exact power_lt fits (by omega) some
    · exact skipExact_chain single child last

/-- The stack's own parameters, for a router of the second level. -/
theorem skip_exact_secondLevel : SkipExact ⟨32, 4, 5, by decide, by decide, by decide⟩ 2 :=
  (skip_exact_iff ⟨32, 4, 5, by decide, by decide, by decide⟩ (by decide) (by decide)).mpr
    (.inl ⟨by decide, fun _ => by decide⟩)

/-- A router of the last level gets one address for each child it cannot have. -/
theorem skip_not_zero :
    ¬∀ (nib : TreeParams) (depth : ℕ), depth < 2 ^ 8 → blockSize nib 0 ≤ 0xfff8 →
      SkipExact nib depth := by
  intro claim
  have exact_ := claim ⟨32, 4, 5, by decide, by decide, by decide⟩ 5 (by decide) (by decide)
  exact absurd exact_.value (by decide)

end Zboss.TreeAddress
