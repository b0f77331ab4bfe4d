import Mathlib
import LinearSystems.Scalar

/-!
# Binary floating point

The laws of the zero tests hold of binary floating point, infinities and undefined values included.

A number is read through its sign, mantissa and exponent (`FloatingPoint.value`), on which
comparisons, sums and products are defined.  Negation and magnitude only change the sign, which
survives the way through the 64 bits (`FloatingPoint.unpack_pack_withSign`); so both zero tests
compare the same two numbers, and one rules out the other.
-/

namespace LinearSystems

namespace FloatingPoint

open Float.Model Float.Model.UnpackedFloat

/-! ## Changing the sign of packed numbers -/

/-- The number with the given sign; an undefined value has none. -/
def withSign (s : Sign) : UnpackedFloat → UnpackedFloat
  | .notANumber => .notANumber
  | .infinity _ => .infinity s
  | .zero _ => .zero s
  | .finite _ m e hm => .finite s m e hm

theorem abs_eq_withSign (u : UnpackedFloat) : u.abs = withSign .positive u := by
  cases u <;> rfl

theorem ofBitVec_toBitVec (s : Sign) : Sign.ofBitVec s.toBitVec = s := by
  cases s <;> rfl

theorem unpackSign_packComponents {spec : Format} (s : Sign) (e : BitVec spec.exponentBits)
    (f : BitVec spec.mantissaBitsWithoutImplicit) :
    unpackSign (packComponents spec s e f) = s.toBitVec := by
  apply BitVec.eq_of_getLsbD_eq
  intro i hi
  obtain rfl : i = 0 := by omega
  simp [unpackSign, packComponents, BitVec.getLsbD_append, BitVec.getElem_append]

variable {b : BitVec Format.binary64.numBits} {s : Sign}

theorem unpack_packComponents :
    unpack Format.binary64
        (packComponents Format.binary64 s (unpackExponent b) (unpackMantissa b)) =
      withSign s (unpack Format.binary64 b) := by
  unfold UnpackedFloat.unpack
  simp only [unpackMantissa_packComponents, unpackExponent_packComponents,
    unpackSign_packComponents, ofBitVec_toBitVec]
  split
  · split <;> rfl
  · split
    · split <;> rfl
    · rfl

theorem exponentBias_binary64 : (Format.binary64.exponentBias : Int) = 1023 :=
  rfl

/-- A subnormal number keeps its mantissa; the packed exponent is zero. -/
theorem pack_subnormal (f : BitVec 52) (hf : 0 < f.toNat) :
    pack Format.binary64 (.finite s f.toNat (0 - (Format.binary64.exponentBias + 52) + 1) hf) =
      packComponents Format.binary64 s 0#11 f := by
  have hlog : f.toNat.log2 + 1 ≠ Format.binary64.mantissaBits := by
    have hlt : f.toNat.log2 < 52 := (Nat.log2_lt (Nat.ne_of_gt hf)).2 f.isLt
    exact Nat.ne_of_lt (Nat.succ_lt_succ hlt)
  have hbiased : ((0 : Int) - (Format.binary64.exponentBias + 52) + 1 +
      Format.binary64.exponentBias + (52 : Nat)).toNat = 1 := by
    rw [exponentBias_binary64]
    rfl
  simp only [UnpackedFloat.pack]
  rw [hbiased, if_neg (by decide), if_neg hlog, BitVec.ofNat_toNat, BitVec.setWidth_eq]

/-- A normal number loses its leading bit. -/
theorem pack_normal (e : BitVec 11) (he : e ≠ -1#11) (f : BitVec 52)
    (hpos : 0 < (1#1 ++ f).toNat) :
    pack Format.binary64
        (.finite s (1#1 ++ f).toNat (e.toNat - (Format.binary64.exponentBias + 52)) hpos) =
      packComponents Format.binary64 s e f := by
  have hf : f.toNat < 2 ^ 52 := f.isLt
  have hvalue : (1#1 ++ f).toNat = 2 ^ 52 + f.toNat := by
    rw [BitVec.toNat_append, ← Nat.shiftLeft_add_eq_or_of_lt hf, Nat.shiftLeft_eq]
    rfl
  have hlog : (1#1 ++ f).toNat.log2 = 52 := by
    rw [hvalue, Nat.log2_eq_iff (by omega)]
    omega
  have hbiased : ((e.toNat : Int) - (Format.binary64.exponentBias + 52) +
      Format.binary64.exponentBias + (52 : Nat)).toNat = e.toNat := by
    omega
  have hfits : ¬ 2 ^ 11 ≤ e.toNat + 1 := by
    have hne : e.toNat ≠ 2 ^ 11 - 1 := fun heq => he (BitVec.eq_of_toNat_eq heq)
    have hlt : e.toNat < 2 ^ 11 := e.isLt
    omega
  have hmantissa : BitVec.ofNat 52 (1#1 ++ f).toNat = f := by
    apply BitVec.eq_of_toNat_eq
    rw [BitVec.toNat_ofNat, hvalue, Nat.add_mod_left, Nat.mod_eq_of_lt hf]
  simp only [UnpackedFloat.pack]
  rw [hbiased, if_neg hfits, hlog, if_pos (by decide), hmantissa, BitVec.ofNat_toNat,
    BitVec.setWidth_eq]

theorem pack_withSign (h : unpack Format.binary64 b ≠ .notANumber) :
    pack Format.binary64 (withSign s (unpack Format.binary64 b)) =
      packComponents Format.binary64 s (unpackExponent b) (unpackMantissa b) := by
  unfold UnpackedFloat.unpack at h ⊢
  dsimp only at h ⊢
  split
  · next hinfinite =>
      rw [if_pos hinfinite] at h
      split
      · next hzero =>
          rw [hinfinite, hzero]
          rfl
      · next hnan =>
          rw [if_neg hnan] at h
          exact absurd rfl h
  · next hfinite =>
      split
      · next hsubnormal =>
          split
          · next hzero =>
              rw [hsubnormal, hzero]
              rfl
          · rw [hsubnormal]
            exact pack_subnormal _ _
      · exact pack_normal _ hfinite _ _

/-- A change of sign survives packing. -/
theorem unpack_pack_withSign (b : BitVec Format.binary64.numBits) (s : Sign) :
    unpack Format.binary64 (pack Format.binary64 (withSign s (unpack Format.binary64 b))) =
      withSign s (unpack Format.binary64 b) := by
  by_cases h : unpack Format.binary64 b = .notANumber
  · rw [h]
    simp [withSign, UnpackedFloat.pack, UnpackedFloat.unpack, packedNaN]
  · rw [pack_withSign h, unpack_packComponents]

/-! ## Numbers by sign, mantissa and exponent -/

/-- Sign, mantissa and exponent of a number, or what it is instead of a number. -/
def value (x : Float) : UnpackedFloat := x.toModel.unpack

theorem value_abs (x : Float) : value x.abs = withSign .positive (value x) := by
  have hpacked : value x.abs = unpack Format.binary64 (pack Format.binary64 (value x).abs) := rfl
  rw [hpacked, abs_eq_withSign]
  exact unpack_pack_withSign _ _

theorem exists_neg_eq_withSign (u : UnpackedFloat) : ∃ s, u.neg = withSign s u := by
  cases u with
  | notANumber => exact ⟨.positive, rfl⟩
  | infinity s => exact ⟨-s, rfl⟩
  | zero s => exact ⟨-s, rfl⟩
  | finite s m e hm => exact ⟨-s, rfl⟩

theorem value_neg (x : Float) : value (-x) = (value x).neg := by
  have hpacked : value (-x) = unpack Format.binary64 (pack Format.binary64 (value x).neg) := rfl
  obtain ⟨s, hs⟩ := exists_neg_eq_withSign (value x)
  rw [hpacked, hs]
  exact unpack_pack_withSign _ _

theorem le_iff {x y : Float} : x ≤ y ↔ (value x).le (value y) = true := by
  show decide ((x.toModel.unpack).le y.toModel.unpack = true) = true ↔ _
  rw [decide_eq_true_iff]
  rfl

theorem lt_iff {x y : Float} : x < y ↔ (value x).lt (value y) = true := by
  show decide ((x.toModel.unpack).lt y.toModel.unpack = true) = true ↔ _
  rw [decide_eq_true_iff]
  rfl

/-! ## The zero tests -/

theorem swap_compare_finite (e e' : Int) (m m' : Nat) :
    ((compare e e').then (compare m m')).swap = (compare e' e).then (compare m' m) := by
  rw [Ordering.swap_then, ← Std.OrientedCmp.eq_swap, ← Std.OrientedCmp.eq_swap]

theorem compare_swap (t u : UnpackedFloat) : u.compare t = (t.compare u).map Ordering.swap := by
  rcases t with (_ | _) | _ | (_ | _) | ⟨_ | _, m, e, hm⟩ <;>
    rcases u with (_ | _) | _ | (_ | _) | ⟨_ | _, m', e', hm'⟩ <;>
    first
    | rfl
    | simp [UnpackedFloat.compare, swap_compare_finite]

theorem compare_neg_neg (t u : UnpackedFloat) :
    t.neg.compare u.neg = (t.compare u).map Ordering.swap := by
  rcases t with (_ | _) | _ | (_ | _) | ⟨_ | _, m, e, hm⟩ <;>
    rcases u with (_ | _) | _ | (_ | _) | ⟨_ | _, m', e', hm'⟩ <;>
    first
    | rfl
    | exact congrArg some Ordering.swap_swap.symm

/-- A number that does not lie below `t` does not lie above it with its sign changed. -/
theorem lt_eq_false_of_le {t v : UnpackedFloat} (h : t.le v = true) :
    v.lt t = false ∧ t.neg.lt v.neg = false := by
  have hcompare : ((t.compare v).map Ordering.swap == some .lt) = false := by
    rw [UnpackedFloat.le] at h
    generalize t.compare v = order at h ⊢
    revert h
    rcases order with _ | _ | _ | _ <;> decide
  constructor
  · rw [UnpackedFloat.lt, compare_swap t v]
    exact hcompare
  · rw [UnpackedFloat.lt, compare_neg_neg]
    exact hcompare

/-- A number has the sign of its magnitude or the other one. -/
theorem eq_or_eq_neg_withSign (u : UnpackedFloat) :
    u = withSign .positive u ∨ u = (withSign .positive u).neg := by
  rcases u with (_ | _) | _ | (_ | _) | ⟨_ | _, m, e, hm⟩
  all_goals first | exact Or.inl rfl | exact Or.inr rfl

theorem lt_neg_neg (t u : UnpackedFloat) : t.neg.lt u.neg = u.lt t := by
  rw [UnpackedFloat.lt, UnpackedFloat.lt, compare_neg_neg, compare_swap t u]

theorem unpacked_neg_neg (u : UnpackedFloat) : u.neg.neg = u := by
  rcases u with (_ | _) | _ | (_ | _) | ⟨_ | _, m, e, hm⟩ <;> rfl

/-- Where a magnitude lies below a number, so does its negative. -/
theorem neg_withSign_lt {t u : UnpackedFloat} (h : (withSign .positive u).lt t = true) :
    (withSign .positive u).neg.lt t = true := by
  rcases u with (_ | _) | _ | (_ | _) | ⟨_ | _, m, e, hm⟩ <;>
    rcases t with (_ | _) | _ | (_ | _) | ⟨_ | _, m', e', hm'⟩ <;>
    first
    | rfl
    | cases h

/-- The magnitude stays below a tolerance when the number lies between its two signs, whatever the
tolerance and the number. -/
theorem isSmall_iff {τ x : Float} : Scalar.isSmall τ x = true ↔ -τ < x ∧ x < τ := by
  rw [Scalar.isSmall, decide_eq_true_iff]
  change x.abs < τ ↔ _
  rw [lt_iff, lt_iff, lt_iff, value_abs, value_neg]
  rcases eq_or_eq_neg_withSign (value x) with hx | hx
  · have hlower (h : (withSign .positive (value x)).lt (value τ) = true) :
        (value τ).neg.lt (withSign .positive (value x)) = true := by
      rw [← unpacked_neg_neg (withSign .positive (value x)), lt_neg_neg]
      exact neg_withSign_lt h
    rw [← hx] at hlower ⊢
    exact ⟨fun h => ⟨hlower h, h⟩, And.right⟩
  · have hupper := neg_withSign_lt (t := value τ) (u := value x)
    have hlower := lt_neg_neg (value τ) (withSign .positive (value x))
    rw [← hx] at hupper hlower
    rw [hlower]
    exact ⟨fun h => ⟨h, hupper h⟩, And.left⟩

theorem isSmall_eq_isZero (τ x : Float) : Scalar.isSmall τ x = Scalar.isZero x τ := by
  rw [Bool.eq_iff_iff, isSmall_iff, Scalar.isZero, Bool.and_eq_true, decide_eq_true_iff,
    decide_eq_true_iff]

theorem isZero_of_isSignificant {τ x : Float} (h : Scalar.isSignificant τ x = true) :
    Scalar.isZero x τ = false := by
  have hle : (value τ).le (withSign .positive (value x)) = true := by
    rw [← value_abs]
    exact le_iff.1 (of_decide_eq_true h)
  obtain ⟨hupper, hlower⟩ := lt_eq_false_of_le hle
  rw [Scalar.isZero, Bool.and_eq_false_iff, decide_eq_false_iff_not, decide_eq_false_iff_not]
  rcases eq_or_eq_neg_withSign (value x) with hx | hx
  · right
    intro hlt
    rw [lt_iff, hx, hupper] at hlt
    cases hlt
  · left
    intro hlt
    rw [lt_iff, value_neg, hx, hlower] at hlt
    cases hlt

/-! ## Products -/

theorem sign_mul_comm (s t : Sign) : s * t = t * s := by
  cases s <;> cases t <;> rfl

/-- Rounding does not see which factor comes first. -/
theorem mul_swap (x y : Float) : x * y = y * x := by
  have hvalues (u v : UnpackedFloat) : u.mul Format.binary64 v = v.mul Format.binary64 u := by
    cases u <;> cases v <;>
      simp only [UnpackedFloat.mul, sign_mul_comm, Nat.mul_comm, Int.add_comm]
  exact congrArg (fun u => Float.ofModel (.pack u)) (hvalues (value x) (value y))

/-! ## Vanishing numbers -/

/-- Zero of either sign, or undefined. -/
def IsVoid (u : UnpackedFloat) : Prop := u = .notANumber ∨ ∃ s, u = .zero s

theorem vanishes_iff {x : Float} : Scalar.vanishes x = true ↔ IsVoid (value x) := by
  have htests : Scalar.vanishes x = ((value x).beq (value 0) || (value x).isNaN) := rfl
  have hzero : value 0 = .zero .positive := rfl
  rw [htests, hzero, IsVoid]
  generalize value x = u
  rcases u with (_ | _) | _ | (_ | _) | ⟨_ | _, m, e, hm⟩ <;>
    simp [UnpackedFloat.beq, UnpackedFloat.compare, UnpackedFloat.isNaN]

/-- A void number packs to a void number. -/
theorem IsVoid.unpack_pack {u : UnpackedFloat} (h : IsVoid u) :
    IsVoid (unpack Format.binary64 (pack Format.binary64 u)) := by
  rcases h with rfl | ⟨s, rfl⟩
  · left
    simp [UnpackedFloat.pack, UnpackedFloat.unpack, packedNaN]
  · right
    refine ⟨s, ?_⟩
    cases s <;> rfl

theorem IsVoid.add {u v : UnpackedFloat} (hu : IsVoid u) (hv : IsVoid v) :
    IsVoid (u.add Format.binary64 v) := by
  rcases hu with rfl | ⟨s, rfl⟩
  · exact Or.inl rfl
  · rcases hv with rfl | ⟨s', rfl⟩
    · exact Or.inl rfl
    · right
      cases s <;> cases s' <;> exact ⟨_, rfl⟩

/-- A factor that is void makes the product void, on either side. -/
theorem IsVoid.mul {u : UnpackedFloat} (hu : IsVoid u) (c : UnpackedFloat) :
    IsVoid (c.mul Format.binary64 u) ∧ IsVoid (u.mul Format.binary64 c) := by
  rcases hu with rfl | ⟨s, rfl⟩
  · have hleft : c.mul Format.binary64 .notANumber = .notANumber := by
      cases c <;> rfl
    exact ⟨Or.inl hleft, Or.inl rfl⟩
  · cases c with
    | notANumber => exact ⟨Or.inl rfl, Or.inl rfl⟩
    | infinity s' => exact ⟨Or.inl rfl, Or.inl rfl⟩
    | zero s' => exact ⟨Or.inr ⟨_, rfl⟩, Or.inr ⟨_, rfl⟩⟩
    | finite s' m e hm => exact ⟨Or.inr ⟨_, rfl⟩, Or.inr ⟨_, rfl⟩⟩

theorem vanishes_add {x y : Float} (hx : Scalar.vanishes x = true)
    (hy : Scalar.vanishes y = true) : Scalar.vanishes (x + y) = true := by
  rw [vanishes_iff] at hx hy ⊢
  exact (hx.add hy).unpack_pack

theorem vanishes_mul_left {x : Float} (c : Float) (hx : Scalar.vanishes x = true) :
    Scalar.vanishes (c * x) = true := by
  rw [vanishes_iff] at hx ⊢
  exact (hx.mul (value c)).1.unpack_pack

theorem vanishes_mul_right {x : Float} (c : Float) (hx : Scalar.vanishes x = true) :
    Scalar.vanishes (x * c) = true := by
  rw [vanishes_iff] at hx ⊢
  exact (hx.mul (value c)).2.unpack_pack

theorem vanishes_zero : Scalar.vanishes (0 : Float) = true :=
  vanishes_iff.2 (Or.inr ⟨.positive, rfl⟩)

theorem isSignificant_of_vanishes {τ x : Float} (hτ : 0 < τ) (hx : Scalar.vanishes x = true) :
    Scalar.isSignificant τ x = false := by
  rw [Scalar.isSignificant, decide_eq_false_iff_not]
  intro hle
  change τ ≤ x.abs at hle
  rw [le_iff, value_abs] at hle
  rcases vanishes_iff.1 hx with hnan | ⟨s, hzero⟩
  · have hnone : (value τ).compare .notANumber = none := by
      cases value τ <;> rfl
    rw [hnan, withSign, UnpackedFloat.le, hnone] at hle
    cases hle
  · rw [hzero] at hle
    have hnot := (lt_eq_false_of_le hle).1
    have hpos : (UnpackedFloat.zero .positive).lt (value τ) = true := lt_iff.1 hτ
    rw [withSign, hpos] at hnot
    cases hnot

theorem value_of_beq_zero {x : Float} (hx : (x == 0) = true) : ∃ s, value x = .zero s := by
  have htest : (value x).beq (.zero .positive) = true := hx
  have hvanishes : Scalar.vanishes x = true := Bool.or_eq_true_iff.2 (Or.inl hx)
  rcases vanishes_iff.1 hvanishes with hnan | hzero
  · rw [hnan] at htest
    cases htest
  · exact hzero

theorem isSmall_of_beq_zero {τ x : Float} (hτ : 0 < τ) (hx : (x == 0) = true) :
    Scalar.isSmall τ x = true := by
  obtain ⟨s, hzero⟩ := value_of_beq_zero hx
  rw [Scalar.isSmall, decide_eq_true_iff]
  change x.abs < τ
  rw [lt_iff, value_abs, hzero]
  exact lt_iff.1 hτ

end FloatingPoint

/-- The zero tests of binary floating point are lawful, undefined values included. -/
instance : LawfulCleaning Float where
  isZero_of_isSignificant := FloatingPoint.isZero_of_isSignificant
  isSignificant_zero hτ :=
    FloatingPoint.isSignificant_of_vanishes hτ FloatingPoint.vanishes_zero
  vanishes_zero := FloatingPoint.vanishes_zero
  isSignificant_of_vanishes := FloatingPoint.isSignificant_of_vanishes
  vanishes_add_mul c hx hy :=
    FloatingPoint.vanishes_add hx (FloatingPoint.vanishes_mul_left c hy)
  vanishes_mul c hx := FloatingPoint.vanishes_mul_right c hx
  isSmall_of_beq_zero := FloatingPoint.isSmall_of_beq_zero

end LinearSystems
