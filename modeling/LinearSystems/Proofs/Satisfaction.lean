import Mathlib
import LinearSystems.Proofs.FloatingPoint
import LinearSystems.Proofs.WellFormed

/-!
# Satisfied systems

A system holds at a point when all its residuals are small; an equation holds at a point when its own
residual is zero within its own tolerance.  The two are written differently: the one compares a
magnitude with the tolerance of the system, the other one compares a number with both signs of the
tolerance of its normal.  Over floating point the two comparisons are one, undefined values and odd
tolerances included (`FloatingPoint.isSmall_eq_isZero`).

A system of arrays hands its tolerance to its equations, and a system of equations without a tolerance
of its own takes theirs, if they share one (`LinearSystem.BuiltWithoutOverride`).  So **such a system
holds at a point exactly when each of its equations does**
(`LinearSystem.isSatisfiedBy_iff_forall_contains`).  A system with a tolerance of its own need not
agree with its equations.
-/

namespace LinearSystems

/-! ## One tolerance -/

namespace FloatingPoint

open Float.Model Float.Model.UnpackedFloat

/-- Numbers that compare equal are the same, up to the sign of zero. -/
theorem eq_or_zeros_of_beq {u v : UnpackedFloat} (h : u.beq v = true) :
    u = v ∨ (∃ s, u = .zero s) ∧ ∃ s, v = .zero s := by
  rw [UnpackedFloat.beq, beq_iff_eq] at h
  rcases u with (_ | _) | _ | (_ | _) | ⟨_ | _, m, e, hm⟩ <;>
    rcases v with (_ | _) | _ | (_ | _) | ⟨_ | _, m', e', hm'⟩ <;>
    simp_all [UnpackedFloat.compare, Ordering.then_eq_eq]

theorem lt_zero_congr (s s' : Sign) (u : UnpackedFloat) :
    (UnpackedFloat.zero s).lt u = (UnpackedFloat.zero s').lt u ∧
      u.lt (.zero s) = u.lt (.zero s') := by
  rcases u with (_ | _) | _ | _ | ⟨_ | _, m, e, hm⟩ <;> exact ⟨rfl, rfl⟩

theorem value_of_isNaN {x : Float} (h : Scalar.isNaN x = true) : value x = .notANumber := by
  have htest : (value x).isNaN = true := h
  generalize value x = u at htest
  cases u with
  | notANumber => rfl
  | _ => cases htest

/-- The zero test sees a tolerance only through what it compares to. -/
theorem isZero_congr {τ σ : Float} (h : LinearSystem.sameTolerance τ σ = true) (x : Float) :
    Scalar.isZero x τ = Scalar.isZero x σ := by
  have hsame : value τ = value σ ∨ (∃ s, value τ = .zero s) ∧ ∃ s, value σ = .zero s := by
    rcases Bool.or_eq_true_iff.1 h with hbeq | hnan
    · exact eq_or_zeros_of_beq hbeq
    · obtain ⟨hτ, hσ⟩ := Bool.and_eq_true_iff.1 hnan
      exact Or.inl ((value_of_isNaN hτ).trans (value_of_isNaN hσ).symm)
  rw [Bool.eq_iff_iff, Scalar.isZero, Scalar.isZero, Bool.and_eq_true, Bool.and_eq_true]
  simp only [decide_eq_true_iff, lt_iff, value_neg]
  rcases hsame with heq | ⟨⟨s, hs⟩, s', hs'⟩
  · rw [heq]
  · rw [hs, hs']
    generalize value x = u
    exact and_congr (Bool.eq_iff_iff.1 (lt_zero_congr _ _ u).1)
      (Bool.eq_iff_iff.1 (lt_zero_congr _ _ u).2)

end FloatingPoint

/-! ## Residuals -/

section AnyScalar

variable {K : Type} [Scalar K] {m d : Nat} {A : Grid K m d} {b : Vector K m}
  {es : List (LinearEquation K)} {τ : K} {x : Vector K d}

/-- An equation that states a row tests the residual of that row. -/
theorem LinearEquation.contains_of_toList_eq {e : LinearEquation K} {i : Fin m}
    (hrow : e.normal.toList = (A.row i).toList) (hoffset : e.offset = b.get i) :
    e.contains x =
      .ok (Scalar.isZero (sumOfProducts (A.entry i) x.get - b.get i) e.tolerance) := by
  have hd : e.dimensions = d := by
    have hlength := congrArg List.length hrow
    rwa [Vec.toList, Vector.length_toList, Vector.length_toList] at hlength
  obtain ⟨⟨n, components, _, _⟩, _, _⟩ := e
  obtain rfl : n = d := hd
  obtain rfl : components = A.row i := Vector.toList_inj.1 hrow
  obtain rfl := hoffset
  exact dif_pos rfl

omit [Scalar K] in
/-- What holds of every equation holds of every row. -/
theorem StatesRows.forall_iff (h : StatesRows es A b) {P : LinearEquation K → Prop}
    {Q : Fin m → Prop} (hPQ : ∀ e ∈ es, ∀ i, e.normal.toList = (A.row i).toList →
      e.offset = b.get i → (P e ↔ Q i)) :
    (∀ e ∈ es, P e) ↔ ∀ i, Q i := by
  constructor
  · intro hP i
    obtain ⟨e, hget, hrow, hoffset⟩ := h.row i
    have he := List.mem_of_getElem? hget
    exact (hPQ e he i hrow hoffset).1 (hP e he)
  · intro hQ e he
    obtain ⟨i, hrow, hoffset⟩ := h.exists_row he
    exact (hPQ e he i hrow hoffset).2 (hQ i)

/-- A system tests all its residuals, where the point has a coordinate for each unknown. -/
theorem LinearSystem.exists_isSatisfiedBy_eq_ok :
    ∃ p, (⟨m, d, A, b, τ, es⟩ : LinearSystem K).isSatisfiedBy x = .ok p ∧
      (p = true ↔ ∀ i, Scalar.isSmall τ (sumOfProducts (A.entry i) x.get - b.get i) = true) := by
  have hresiduals : (⟨m, d, A, b, τ, es⟩ : LinearSystem K).residuals x =
      .ok (Vector.ofFn fun i => sumOfProducts (A.entry i) x.get - b.get i) := dif_pos rfl
  rw [isSatisfiedBy, hresiduals]
  refine ⟨_, rfl, ?_⟩
  rw [Vector.all_eq_true]
  simp only [Vector.getElem_ofFn]
  exact ⟨fun h i => h i i.isLt, fun h i hi => h ⟨i, hi⟩⟩

end AnyScalar

/-! ## Points of unknown sort -/

/-- The name of an argument is in the refusals only. -/
theorem Value.toTensor_eq_ok_of_eq_ok {v : Value} {argument argument' : String} {t : Tensor Float}
    (h : v.toTensor argument = .ok t) : v.toTensor argument' = .ok t := by
  obtain ⟨extents, hextents, h⟩ := bind_eq_ok_iff.1 h
  refine bind_eq_ok_iff.2 ⟨extents, mapError_eq_ok_iff.2 (mapError_eq_ok_iff.1 hextents), ?_⟩
  dsimp only at h ⊢
  split at h
  · cases h
  · cases h
  · split at h
    · cases h
    · exact h

theorem Value.toCoordinates_eq_ok_of_eq_ok {v : Value} {argument argument' : String}
    {t : Tensor Float} (h : v.toCoordinates argument = .ok t) :
    v.toCoordinates argument' = .ok t := by
  cases v with
  | vec v => exact h
  | _ => exact toTensor_eq_ok_of_eq_ok h

/-! ## Systems and their equations -/

namespace LinearSystem

/-- The ways to a system that has no tolerance but that of its equations: arrays, and a sequence of
equations beside which no tolerance is given. -/
inductive BuiltWithoutOverride : LinearSystem Float → Prop
  | arrays {A b tolerance : Value} {s : LinearSystem Float} :
      ofArrayValues A b tolerance = .ok s → BuiltWithoutOverride s
  | equations {v : Value} {s : LinearSystem Float} :
      ofEquationValues v .none = .ok s → BuiltWithoutOverride s

/-- The equations state the rows, and under their tolerances the same numbers are zero. -/
structure SharesTolerance (s : LinearSystem Float) : Prop where
  states : StatesRows s.equations s.coefficients s.offsets
  same : ∀ e ∈ s.equations, ∀ r, Scalar.isZero r e.tolerance = Scalar.isZero r s.tolerance

variable {s : LinearSystem Float}

theorem sharesTolerance_of_ofArrays_eq_ok {m d : Nat} {A : Grid Float m d} {b : Vector Float m}
    {τ : Float} (hadmissible : AdmissibleArrays A b) (h : ofArrays A b τ = .ok s) :
    s.SharesTolerance := by
  refine ⟨(wellFormed_of_ofArrays_eq_ok hadmissible h).states, fun e he r => ?_⟩
  obtain ⟨rfl, -⟩ := hadmissible.ofArrays_eq_ok_iff.1 h
  obtain ⟨i, -, rfl⟩ := List.mem_map.1 he
  rfl

theorem sharesTolerance_of_ofEquations_eq_ok {es : List (LinearEquation Float)}
    (h : ofEquations es none = .ok s) : s.SharesTolerance := by
  cases es with
  | nil => cases h
  | cons first rest =>
      obtain ⟨⟨shared⟩, -, h⟩ := bind_eq_ok_iff.1 h
      obtain ⟨τ, hcommon, h⟩ := bind_eq_ok_iff.1 h
      obtain rfl := Except.ok.inj h
      refine ⟨statesRows_assemble shared τ, fun e he r => ?_⟩
      unfold commonTolerance at hcommon
      split at hcommon
      · next hall =>
          obtain rfl := Except.ok.inj hcommon
          rcases List.mem_cons.1 he with rfl | he
          · rfl
          · exact (FloatingPoint.isZero_congr (List.all_eq_true.1 hall e he) r).symm
      · cases hcommon

theorem BuiltWithoutOverride.sharesTolerance (h : s.BuiltWithoutOverride) : s.SharesTolerance := by
  cases h with
  | arrays h =>
      obtain ⟨m, d, g, c, hadmissible, hread⟩ := exists_arrays_of_ofArrayValues_eq_ok h
      obtain ⟨τ, -, hs⟩ := (hread _ _).1 h
      exact sharesTolerance_of_ofArrays_eq_ok hadmissible hs
  | equations h =>
      obtain ⟨_, -, h⟩ := bind_eq_ok_iff.1 h
      obtain ⟨es, -, h⟩ := bind_eq_ok_iff.1 h
      rw [ofEquationList_none] at h
      exact sharesTolerance_of_ofEquations_eq_ok (mapError_eq_ok_iff.1 h)

/-- **A system holds at a point exactly when each of its equations does**, and all of them answer,
whatever the point is given as and whatever its coordinates are. -/
theorem isSatisfiedBy_iff_forall_contains (hs : s.BuiltWithoutOverride) {x : Value}
    {point : Tensor Float} (hx : x.toCoordinates "x" = .ok point)
    (hsize : point.entries.length = s.dimensions) :
    ∃ p, s.isSatisfiedByValue x = .ok p ∧
      (∀ e ∈ s.equations, ∃ q, e.containsValue x = .ok q) ∧
      (p = true ↔ ∀ e ∈ s.equations, e.containsValue x = .ok true) := by
  obtain ⟨hstates, hsame⟩ := hs.sharesTolerance
  obtain ⟨m, d, A, b, τ, es⟩ := s
  obtain rfl : _ = d := hsize
  have hcontains {e : LinearEquation Float} (he : e ∈ es) {i : Fin m}
      (hrow : e.normal.toList = (A.row i).toList) (hoffset : e.offset = b.get i) :
      e.containsValue x = .ok
        (Scalar.isSmall τ (sumOfProducts (A.entry i) point.toVector.get - b.get i)) := by
    rw [FloatingPoint.isSmall_eq_isZero, ← hsame e he]
    refine bind_eq_ok_iff.2 ⟨point, mapError_eq_ok_iff.2 (Value.toCoordinates_eq_ok_of_eq_ok hx), ?_⟩
    exact mapError_eq_ok_iff.2 (LinearEquation.contains_of_toList_eq hrow hoffset)
  obtain ⟨p, hp, hall⟩ : ∃ p,
      (⟨m, _, A, b, τ, es⟩ : LinearSystem Float).isSatisfiedBy point.toVector = .ok p ∧ _ :=
    exists_isSatisfiedBy_eq_ok
  refine ⟨p, bind_eq_ok_iff.2 ⟨point, mapError_eq_ok_iff.2 hx, mapError_eq_ok_iff.2 hp⟩, ?_, ?_⟩
  · intro e he
    obtain ⟨i, hrow, hoffset⟩ := hstates.exists_row he
    exact ⟨_, hcontains he hrow hoffset⟩
  · rw [hall]
    refine (hstates.forall_iff fun e he i hrow hoffset => ?_).symm
    rw [hcontains he hrow hoffset, Except.ok.injEq]

/-- A row vector on both lines, and an undefined coordinate, which is on neither. -/
theorem isSatisfiedBy_of_undefined_coordinate :
    ∃ s, ofArrayValues (.list [.list [.int 1, .int 2], .list [.int 0, .int 1]])
        (.list [.int 3, .int 1]) .none = .ok s ∧
      (∀ e ∈ s.equations, e.containsValue (.vec ⟨2, #v[1, 1], .row, 1⟩) = .ok true) ∧
      ¬∀ e ∈ s.equations, e.containsValue (.list [.float (0 / 0), .int 1]) = .ok true := by
  obtain ⟨s, hs, hdimensions, hrow, hundefined⟩ : ∃ s,
      ofArrayValues (.list [.list [.int 1, .int 2], .list [.int 0, .int 1]])
        (.list [.int 3, .int 1]) .none = .ok s ∧ s.dimensions = 2 ∧
      (s.isSatisfiedByValue (.vec ⟨2, #v[1, 1], .row, 1⟩)).toOption = some true ∧
      (s.isSatisfiedByValue (.list [.float (0 / 0), .int 1])).toOption = some false :=
    exists_eq_ok_of_any (by decide +kernel)
  obtain ⟨p, hp, -, hiff⟩ := isSatisfiedBy_iff_forall_contains (.arrays hs)
    (x := .vec ⟨2, #v[1, 1], .row, 1⟩) rfl hdimensions.symm
  obtain ⟨q, hq, -, hiff'⟩ := isSatisfiedBy_iff_forall_contains (.arrays hs)
    (x := .list [.float (0 / 0), .int 1]) rfl hdimensions.symm
  rw [hp] at hrow
  rw [hq] at hundefined
  obtain rfl := Option.some.inj hrow
  obtain rfl := Option.some.inj hundefined
  exact ⟨s, hs, hiff.1 rfl, fun h => Bool.noConfusion (hiff'.2 h)⟩

end LinearSystem

end LinearSystems
