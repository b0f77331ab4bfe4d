/-!
# Positions counted from either end

A place in a sequence of known size is named by an integer.  From zero on it counts from the front;
below zero it counts from the end, so that `-1` is the last place.  `position?` finds the place, and
`startPlace` the first place of the part that begins there, for which no integer is out of range.
-/

namespace LinearSystems

/-- The first integer beyond the signed machine words of 64 bits. -/
def wordBound : Int := 9223372036854775808

/-- A signed machine word holds the integer. -/
def fitsWord (n : Int) : Bool := decide (-wordBound ≤ n ∧ n < wordBound)

theorem fitsWord_eq_true_iff {n : Int} :
    fitsWord n = true ↔ -9223372036854775808 ≤ n ∧ n < 9223372036854775808 := by
  unfold fitsWord wordBound
  exact decide_eq_true_iff

/-- The place that an integer names, if there is one. -/
def position? (size : Nat) (index : Int) : Option (Fin size) :=
  if front : 0 ≤ index ∧ index < size then some ⟨index.toNat, by omega⟩
  else if back : index < 0 ∧ 0 ≤ index + size then some ⟨(index + size).toNat, by omega⟩
  else none

/-- The integers that name a place. -/
theorem position?_isSome_iff {size : Nat} {index : Int} :
    (position? size index).isSome = true ↔ -(size : Int) ≤ index ∧ index < size := by
  unfold position?
  split
  · simp
    omega
  · split
    · simp
      omega
    · simp
      omega

/-- A place counted from the front names itself. -/
@[simp] theorem position?_val {size : Nat} (i : Fin size) :
    position? size (i.val : Int) = some i := by
  have := i.isLt
  simp [position?]

/-- A place counted from the end names itself. -/
theorem position?_sub_size {size : Nat} (i : Fin size) :
    position? size ((i.val : Int) - size) = some i := by
  have := i.isLt
  unfold position?
  rw [dif_neg (by omega), dif_pos (by omega)]
  congr 1
  apply Fin.ext
  simp

/-- The first place of the part that begins at an integer; what lies out of range is moved to the
nearer end. -/
def startPlace (size : Nat) (index : Int) : Nat :=
  if index < 0 then (index + size).toNat else min index.toNat size

theorem startPlace_le (size : Nat) (index : Int) : startPlace size index ≤ size := by
  unfold startPlace
  split <;> omega

/-- A place is where the part that begins there starts. -/
theorem startPlace_of_position? {size : Nat} {index : Int} {i : Fin size}
    (h : position? size index = some i) : startPlace size index = i := by
  unfold position? at h
  unfold startPlace
  split at h
  · obtain rfl := Option.some.inj h
    split
    · simp
      omega
    · simp
      omega
  · split at h
    · obtain rfl := Option.some.inj h
      split
      · simp
      · simp
        omega
    · cases h

/-- A place counted from the front starts its part. -/
theorem startPlace_natCast {size n : Nat} (h : n ≤ size) : startPlace size n = n := by
  unfold startPlace
  split <;> omega

end LinearSystems
