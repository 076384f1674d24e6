import Mathlib.Order.Defs.LinearOrder
import Treasury.Time.Instant

namespace Treasury.Instant

theorem lt_iff {a b : Instant} :
    a < b ↔ a.seconds < b.seconds ∨ a.seconds = b.seconds ∧ a.nanos < b.nanos := Iff.rfl

theorem le_iff {a b : Instant} :
    a ≤ b ↔ a.seconds < b.seconds ∨ a.seconds = b.seconds ∧ a.nanos ≤ b.nanos := Iff.rfl

instance : LinearOrder Instant where
  le_refl a := by
    rw [le_iff]
    omega
  le_trans a b c first second := by
    rw [le_iff] at *
    omega
  lt_iff_le_not_ge a b := by
    rw [le_iff, le_iff, lt_iff]
    omega
  le_antisymm a b one other := by
    rw [le_iff] at one other
    have seconds : a.seconds = b.seconds := by omega
    have nanos : a.nanos = b.nanos := by omega
    cases a
    cases b
    simp_all
  le_total a b := by
    rw [le_iff, le_iff]
    omega
  toDecidableLE := inferInstance
  toDecidableEq := inferInstance
  toDecidableLT := inferInstance

theorem lt_next (t : Instant) : t < t.next := by
  rw [lt_iff, next]
  split <;> dsimp only <;> omega

-- A moment outside of a leap second.
def Regular (t : Instant) : Prop := t.nanos < 1000000000

instance (t : Instant) : Decidable t.Regular := inferInstanceAs (Decidable (_ < _))

def total (t : Instant) : Int := t.seconds * 1000000000 + t.nanos

def minusMillis (t : Instant) (ms : Int) : Instant :=
  let left := t.total - ms * 1000000
  ⟨left.fdiv 1000000000, (left.fmod 1000000000).toNat⟩

theorem minusMillis?_eq {t t' : Instant} (there : t.minusMillis? ms = some t') :
    t' = t.minusMillis ms := by
  unfold minusMillis? checked? at there
  dsimp only at there
  split at there
  · exact (Option.some.inj there).symm
  · cases there

theorem minusMillis_lt_iff {t : Instant} {more less : Int} :
    t.minusMillis more < t.minusMillis less ↔ less < more := by
  have billion : (0 : Int) ≤ 1000000000 := by decide
  simp only [lt_iff, minusMillis, Int.fdiv_eq_ediv_of_nonneg _ billion,
    Int.fmod_eq_emod_of_nonneg _ billion]
  omega

theorem minusMillis_le {t : Instant} {ms : Int} (regular : t.Regular) (back : 0 ≤ ms) :
    t.minusMillis ms ≤ t := by
  have billion : (0 : Int) ≤ 1000000000 := by decide
  unfold Regular at regular
  simp only [le_iff, minusMillis, total, Int.fdiv_eq_ediv_of_nonneg _ billion,
    Int.fmod_eq_emod_of_nonneg _ billion]
  omega

end Treasury.Instant
