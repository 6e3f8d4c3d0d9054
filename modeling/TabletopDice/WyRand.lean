import TabletopDice.Roller

/-! # A seeded generator

A generator of 64-bit words whose state goes around by a fixed odd stride, and
whose words mix the two halves of a product of the state.  Equal seeds give
equal rolls.

The state passes through every word, zero included, and zero gives the word 0,
which is accepted for every die.  So a die comes up in the end, and `toZero`
counts the words until then.
-/
namespace TabletopDice

/-- The first of `n + 1` states, each one step after the one before, at which there is an answer,
with that answer; the last of them answers in any case. -/
def seek {σ α : Type} (step : σ → σ) (answer? : σ → Option α) (last : σ → α) : Nat → σ → α × σ
  | 0, s => (last s, s)
  | n + 1, s =>
    match answer? s with
    | some a => (a, s)
    | none => seek step answer? last n (step s)

theorem seek_of_eq_some {σ α : Type} {step : σ → σ} {answer? : σ → Option α} {last : σ → α}
    {n : Nat} {s : σ} {a : α} (h : answer? s = some a) (hlast : n = 0 → last s = a) :
    seek step answer? last n s = (a, s) := by
  cases n with
  | zero => rw [seek, hlast rfl]
  | succ n => rw [seek, h]

theorem seek_of_eq_none {σ α : Type} {step : σ → σ} {answer? : σ → Option α} {last : σ → α}
    {n : Nat} {s : σ} (h : answer? s = none) :
    seek step answer? last (n + 1) s = seek step answer? last n (step s) := by
  rw [seek, h]

/-- A generator in a certain state, at first the seed. -/
structure WyRand where
  state : UInt64
  deriving DecidableEq, Repr

namespace WyRand

/-- What the state grows by for each word. -/
def stride : UInt64 := 0x2d358dccaa6c78a5

/-- The inverse of the stride modulo `2 ^ 64`. -/
def strideInverse : UInt64 := 3666594518771085101

/-- The bits by which the second factor differs from the state. -/
def mask : UInt64 := 0x8bb84b93962eacc9

/-- The generator one word further on. -/
def next (g : WyRand) : WyRand := ⟨g.state + stride⟩

/-- The word that belongs to a state: the two halves of a product of 128 bits, one laid over the
other. -/
def word (g : WyRand) : UInt64 :=
  let product := g.state.toNat * (g.state ^^^ mask).toNat
  UInt64.ofNat product ^^^ UInt64.ofNat (product / UInt64.size)

/-- How many words it takes from here to the state zero. -/
def toZero (g : WyRand) : UInt64 := (0 - g.state) * strideInverse

theorem word_of_state_eq_zero {g : WyRand} (h : g.state = 0) : g.word = 0 := by
  simp [word, h]

theorem toZero_next (g : WyRand) : g.next.toZero = g.toZero - 1 := by
  have h : stride * strideInverse = 1 := by decide
  simp only [toZero, next]
  grind

theorem state_eq_zero_of_toZero_eq_zero {g : WyRand} (h : g.toZero = 0) : g.state = 0 := by
  have hs : stride * strideInverse = 1 := by decide
  simp only [toZero] at h
  grind

/-- A state other than zero comes one word closer to zero. -/
theorem toZero_next_toNat {g : WyRand} (h : g.state ≠ 0) :
    g.toZero.toNat = g.next.toZero.toNat + 1 := by
  have hz : g.toZero ≠ 0 := fun hz => h (state_eq_zero_of_toZero_eq_zero hz)
  have hpos : g.toZero.toNat ≠ 0 := fun hn => hz (UInt64.toNat_inj.mp hn)
  rw [toZero_next, UInt64.toNat_sub_of_le]
  · simp
    omega
  · rw [UInt64.le_iff_toNat_le]
    simp
    omega

/-- Where a word is rejected, the state is not zero. -/
theorem state_ne_zero_of_face?_eq_none {sides : UInt16} {g : WyRand}
    (h : face? sides g.word = none) : g.state ≠ 0 := by
  intro hz
  rw [word_of_state_eq_zero hz, face?_zero] at h
  contradiction

/-- The face for the first of the coming words that is accepted, and the generator in that state.
There is one no later than the state zero, whose word is accepted. -/
def face (sides : UInt16) (g : WyRand) : UInt16 × WyRand :=
  seek next (fun g => face? sides g.word) (fun g => faceOf sides g.word) g.next.toZero.toNat g.next

/-- A word that is accepted gives the face. -/
theorem face_of_accepted {sides face : UInt16} {g : WyRand}
    (h : face? sides g.next.word = some face) : g.face sides = (face, g.next) := by
  refine seek_of_eq_some h fun hn => ?_
  have hz : g.next.state = 0 := state_eq_zero_of_toZero_eq_zero (UInt64.toNat_inj.mp hn)
  rw [word_of_state_eq_zero hz, face?_zero] at h
  rw [word_of_state_eq_zero hz, Option.some.inj h]

/-- After a word that is rejected, the next one decides. -/
theorem face_of_rejected {sides : UInt16} {g : WyRand} (h : face? sides g.next.word = none) :
    g.face sides = g.next.face sides := by
  have hn := toZero_next_toNat (state_ne_zero_of_face?_eq_none h)
  unfold WyRand.face
  rw [hn]
  exact seek_of_eq_none h

instance : Roller WyRand where
  rollDie sides g :=
    if sides ≤ 1 then (some sides, g)
    else
      let (face, g) := g.face sides
      (some face, g)

end WyRand
end TabletopDice
