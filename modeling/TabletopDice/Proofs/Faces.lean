import Mathlib.Data.Set.Card
import Mathlib.Order.Interval.Set.Nat
import TabletopDice.Roller

/-! # The words for a face

A word is accepted for a die if it lies below the largest multiple of the number
of sides, and the accepted words are shared out evenly: each face has as many of
them as the number of sides goes into `2 ^ 64` (`ncard_wordsFor`).

A die takes words until it meets one of these, the first unbiased one, and shows
the face for it.  Those before it are passed over, and the die does not look at
those behind it (`firstFace_append_cons`).  So a die comes up unless every word is
rejected, and then it has taken all of them (`firstFace_of_forall`).
-/
namespace TabletopDice

/-- How often the number of sides goes into `2 ^ 64`. -/
def share (sides : UInt16) : Nat := 2 ^ 64 / sides.toNat

/-- The words that come up as a face. -/
def wordsFor (sides face : UInt16) : Set UInt64 := {word | face? sides word = some face}

variable {sides : UInt16}

/-! ## The face for a word -/

theorem toNat_lastAccepted (hsides : 1 ≤ sides.toNat) :
    (lastAccepted sides).toNat + 1 = share sides * sides.toNat := by
  have hlt : sides.toNat < 65536 := sides.toNat_lt
  have hmod : 18446744073709551615 % sides.toNat < sides.toNat := Nat.mod_lt _ hsides
  have hrest : ((0xFFFFFFFFFFFFFFFF % sides.toUInt64 + 1) % sides.toUInt64).toNat =
      2 ^ 64 % sides.toNat := by
    rw [UInt64.toNat_mod, UInt64.toNat_add, UInt64.toNat_mod, UInt16.toNat_toUInt64]
    -- a remainder is too small for the sum to leave 64 bits
    show (18446744073709551615 % sides.toNat + 1) % 2 ^ 64 % sides.toNat = 2 ^ 64 % sides.toNat
    rw [Nat.mod_eq_of_lt (by omega : 18446744073709551615 % sides.toNat + 1 < 2 ^ 64),
      Nat.mod_add_mod]
    rfl
  have hrest_lt : 2 ^ 64 % sides.toNat < sides.toNat := Nat.mod_lt _ hsides
  have hle : (0xFFFFFFFFFFFFFFFF % sides.toUInt64 + 1) % sides.toUInt64 ≤ 0xFFFFFFFFFFFFFFFF := by
    rw [UInt64.le_iff_toNat_le, hrest]
    show _ ≤ 18446744073709551615
    omega
  have hdiv : share sides * sides.toNat + 2 ^ 64 % sides.toNat = 2 ^ 64 :=
    Nat.div_add_mod' (2 ^ 64) sides.toNat
  show (0xFFFFFFFFFFFFFFFF - (0xFFFFFFFFFFFFFFFF % sides.toUInt64 + 1) % sides.toUInt64).toNat + 1 =
    share sides * sides.toNat
  rw [UInt64.toNat_sub_of_le _ _ hle, hrest]
  show 18446744073709551615 - 2 ^ 64 % sides.toNat + 1 = share sides * sides.toNat
  omega

theorem toNat_remainder (word : UInt64) :
    (word % sides.toUInt64).toNat = word.toNat % sides.toNat := by
  rw [UInt64.toNat_mod, UInt16.toNat_toUInt64]

/-- A remainder fits into 16 bits. -/
theorem remainder_le (hsides : 1 ≤ sides.toNat) (word : UInt64) :
    word % sides.toUInt64 ≤ 0xFFFF := by
  have hlt : sides.toNat < 65536 := sides.toNat_lt
  have hmod : word.toNat % sides.toNat < sides.toNat := Nat.mod_lt _ hsides
  rw [UInt64.le_iff_toNat_le, toNat_remainder]
  show _ ≤ 65535
  omega

/-- There is room for one more in the 16 bits of a remainder. -/
theorem toNat_remainder_add_one_lt (hsides : 1 ≤ sides.toNat) (word : UInt64) :
    (word % sides.toUInt64).toUInt16.toNat + 1 < UInt16.size := by
  have hlt : sides.toNat < 65536 := sides.toNat_lt
  have hmod : word.toNat % sides.toNat < sides.toNat := Nat.mod_lt _ hsides
  rw [UInt64.toNat_toUInt16, toNat_remainder]
  show word.toNat % sides.toNat % 65536 + 1 < 65536
  omega

theorem toNat_faceOf (hsides : 1 ≤ sides.toNat) (word : UInt64) :
    (faceOf sides word).toNat = word.toNat % sides.toNat + 1 := by
  have hlt : sides.toNat < 65536 := sides.toNat_lt
  have hmod : word.toNat % sides.toNat < sides.toNat := Nat.mod_lt _ hsides
  simp only [faceOf]
  rw [if_pos (remainder_le hsides word), UInt16.toNat_add, UInt64.toNat_toUInt16, toNat_remainder]
  show (word.toNat % sides.toNat % 65536 + 1) % 65536 = word.toNat % sides.toNat + 1
  omega

theorem le_lastAccepted_iff (hsides : 1 ≤ sides.toNat) {word : UInt64} :
    word ≤ lastAccepted sides ↔ word.toNat < share sides * sides.toNat := by
  rw [UInt64.le_iff_toNat_le, ← toNat_lastAccepted hsides, Nat.lt_succ_iff]

/-- A word gives the face that its remainder stands for, provided it is accepted. -/
theorem face?_eq_some_iff (hsides : 1 ≤ sides.toNat) {word : UInt64} {face : UInt16} :
    face? sides word = some face ↔
      word.toNat < share sides * sides.toNat ∧ word.toNat % sides.toNat + 1 = face.toNat := by
  rw [face?, ← le_lastAccepted_iff hsides, ← toNat_faceOf hsides, UInt16.toNat_inj]
  by_cases h : word ≤ lastAccepted sides
  · rw [if_pos h, Option.some.injEq]
    exact ⟨fun hface => ⟨h, hface⟩, fun hface => hface.2⟩
  · rw [if_neg h]
    exact ⟨nofun, fun hface => absurd hface.1 h⟩

theorem face?_eq_none_iff (hsides : 1 ≤ sides.toNat) {word : UInt64} :
    face? sides word = none ↔ share sides * sides.toNat ≤ word.toNat := by
  rw [face?, ← Nat.not_lt, ← le_lastAccepted_iff hsides]
  by_cases h : word ≤ lastAccepted sides
  · rw [if_pos h]
    exact ⟨nofun, fun hnot => absurd h hnot⟩
  · rw [if_neg h]
    exact ⟨fun _ => h, fun _ => rfl⟩

/-- The face for a word is one of the die. -/
theorem face_range (hsides : 1 ≤ sides.toNat) {word : UInt64} {face : UInt16}
    (h : face? sides word = some face) : 1 ≤ face.toNat ∧ face.toNat ≤ sides.toNat := by
  obtain ⟨-, hface⟩ := (face?_eq_some_iff hsides).mp h
  have hmod : word.toNat % sides.toNat < sides.toNat := Nat.mod_lt _ hsides
  omega

theorem two_le_toNat_iff : 2 ≤ sides.toNat ↔ ¬sides ≤ 1 := by
  rw [UInt16.le_iff_toNat_le]
  exact Nat.not_le.symm

theorem uniform_of_two_le (hsides : 2 ≤ sides.toNat) (words : List UInt64) :
    uniform sides words = firstFace sides words :=
  if_neg (two_le_toNat_iff.mp hsides)

/-- Whatever the words are, a die shows one of its faces, if it comes up at all. -/
theorem uniform_range (hsides : 1 ≤ sides.toNat) {words : List UInt64} {face : UInt16}
    (h : (uniform sides words).1 = some face) : 1 ≤ face.toNat ∧ face.toNat ≤ sides.toNat := by
  rw [uniform] at h
  split at h
  · cases h
    exact ⟨hsides, Nat.le_refl _⟩
  · induction words with
    | nil => contradiction
    | cons word words ih =>
      rw [firstFace] at h
      split at h
      · rename_i hface
        cases h
        exact face_range hsides hface
      · exact ih h

/-- A power of two goes into `2 ^ 64`, so that no word is left to be rejected. -/
theorem exists_face_of_pow_two {m : Nat} (hm : sides.toNat = 2 ^ m) (word : UInt64) :
    ∃ face, face? sides word = some face ∧ 1 ≤ face.toNat ∧ face.toNat ≤ sides.toNat := by
  have hsides : 1 ≤ sides.toNat := hm ▸ Nat.one_le_two_pow
  have hsmall : m < 16 := by
    refine (Nat.pow_lt_pow_iff_right (by decide : 1 < 2)).mp ?_
    rw [← hm]
    exact sides.toNat_lt
  have hall : share sides * sides.toNat = 2 ^ 64 := by
    rw [share, hm]
    exact Nat.div_mul_cancel (Nat.pow_dvd_pow 2 (by omega))
  cases hface : face? sides word with
  | none =>
    rw [face?_eq_none_iff hsides, hall] at hface
    exact absurd word.toNat_lt (Nat.not_lt.mpr hface)
  | some face => exact ⟨face, rfl, face_range hsides hface⟩

/-! ## The words for a face -/

/-- The accepted words come in blocks of as many words as the die has sides. -/
theorem block_lt {q offset : Nat} (hq : q < share sides) (hoffset : offset < sides.toNat) :
    q * sides.toNat + offset < share sides * sides.toNat := by
  have hnext : (q + 1) * sides.toNat ≤ share sides * sides.toNat := Nat.mul_le_mul_right _ hq
  rw [Nat.succ_mul] at hnext
  omega

theorem toNat_block {q offset : Nat} (hq : q < share sides) (hoffset : offset < sides.toNat) :
    (UInt64.ofNat (q * sides.toNat + offset)).toNat = q * sides.toNat + offset :=
  UInt64.toNat_ofNat_of_lt' (Nat.lt_of_lt_of_le (block_lt hq hoffset) (Nat.div_mul_le_self _ _))

/-- The words for a face are one of each block, always in the same place. -/
theorem wordsFor_eq_image (hsides : 1 ≤ sides.toNat) {face : UInt16}
    (hface : 1 ≤ face.toNat ∧ face.toNat ≤ sides.toNat) :
    wordsFor sides face =
      (fun q => UInt64.ofNat (q * sides.toNat + (face.toNat - 1))) '' Set.Iio (share sides) := by
  have hoffset : face.toNat - 1 < sides.toNat := by omega
  ext word
  rw [wordsFor, Set.mem_ofPred_eq, face?_eq_some_iff hsides, Set.mem_image]
  constructor
  · rintro ⟨hlt, hmod⟩
    refine ⟨word.toNat / sides.toNat, Nat.div_lt_of_lt_mul (by rwa [Nat.mul_comm]), ?_⟩
    have hword : word.toNat / sides.toNat * sides.toNat + (face.toNat - 1) = word.toNat := by
      rw [← hmod, Nat.add_sub_cancel]
      exact Nat.div_add_mod' _ _
    show UInt64.ofNat (word.toNat / sides.toNat * sides.toNat + (face.toNat - 1)) = word
    rw [hword, UInt64.ofNat_toNat]
  · rintro ⟨q, hq, rfl⟩
    rw [toNat_block hq hoffset]
    refine ⟨block_lt hq hoffset, ?_⟩
    rw [Nat.mul_comm, Nat.mul_add_mod, Nat.mod_eq_of_lt hoffset]
    omega

/-- **A die is fair.**  Each of its faces comes up for equally many words. -/
theorem ncard_wordsFor (hsides : 1 ≤ sides.toNat) {face : UInt16}
    (hface : 1 ≤ face.toNat ∧ face.toNat ≤ sides.toNat) :
    (wordsFor sides face).ncard = share sides := by
  have hoffset : face.toNat - 1 < sides.toNat := by omega
  rw [wordsFor_eq_image hsides hface, Set.InjOn.ncard_image, Set.ncard_Iio_nat]
  intro q hq q' hq' h
  have hnat := congrArg UInt64.toNat h
  rw [toNat_block hq hoffset, toNat_block hq' hoffset] at hnat
  exact Nat.eq_of_mul_eq_mul_right hsides (Nat.add_right_cancel hnat)

/-! ## The first unbiased word -/

variable {words before rest : List UInt64} {word : UInt64}

/-- The word lies below the largest multiple of the number of sides. -/
def Unbiased (sides : UInt16) (word : UInt64) : Prop :=
  word.toNat < 2 ^ 64 / sides.toNat * sides.toNat

instance (sides : UInt16) (word : UInt64) : Decidable (Unbiased sides word) := Nat.decLt _ _

/-- A list of words, taken apart at the first unbiased one. -/
structure FirstUnbiased (sides : UInt16) (words before : List UInt64) (word : UInt64)
    (rest : List UInt64) : Prop where
  eq_append : words = before ++ word :: rest
  biased : ∀ w ∈ before, ¬Unbiased sides w
  unbiased : Unbiased sides word

theorem face?_of_unbiased (hsides : 1 ≤ sides.toNat) (h : Unbiased sides word) :
    face? sides word = some (faceOf sides word) :=
  if_pos ((le_lastAccepted_iff hsides).mpr h)

theorem face?_of_not_unbiased (hsides : 1 ≤ sides.toNat) (h : ¬Unbiased sides word) :
    face? sides word = none :=
  (face?_eq_none_iff hsides).mpr (Nat.le_of_not_lt h)

/-- A list of words has a first unbiased one, if it has any. -/
theorem FirstUnbiased.of_mem {w : UInt64} (hw : w ∈ words) (h : Unbiased sides w) :
    ∃ before word rest, FirstUnbiased sides words before word rest := by
  induction words with
  | nil => cases hw
  | cons first words ih =>
    by_cases hfirst : Unbiased sides first
    · exact ⟨[], first, words, rfl, nofun, hfirst⟩
    · have hw : w ∈ words := by
        rcases List.mem_cons.mp hw with rfl | hw
        · exact absurd h hfirst
        · exact hw
      obtain ⟨before, word, rest, rfl, hbiased, hunbiased⟩ := ih hw
      exact ⟨first :: before, word, rest, rfl, List.forall_mem_cons.mpr ⟨hfirst, hbiased⟩,
        hunbiased⟩

/-! ## Words in a row -/

/-- The first word that is accepted gives the face, whatever words come behind it. -/
theorem firstFace_append_cons {face : UInt16} (hbefore : ∀ w ∈ before, face? sides w = none)
    (hword : face? sides word = some face) (rest : List UInt64) :
    firstFace sides (before ++ word :: rest) = (some face, rest) := by
  induction before with
  | nil => rw [List.nil_append, firstFace, hword]
  | cons w before ih =>
    obtain ⟨hw, hbefore⟩ := List.forall_mem_cons.mp hbefore
    rw [List.cons_append, firstFace, hw]
    exact ih hbefore

/-- Where every word is rejected, all of them are taken for nothing. -/
theorem firstFace_of_forall (h : ∀ w ∈ words, face? sides w = none) :
    firstFace sides words = (none, []) := by
  induction words with
  | nil => rfl
  | cons w words ih =>
    obtain ⟨hw, hwords⟩ := List.forall_mem_cons.mp h
    rw [firstFace, hw]
    exact ih hwords

/-- A die shows the face for the first unbiased word, and leaves the words behind it. -/
theorem FirstUnbiased.uniform_eq (hsides : 2 ≤ sides.toNat)
    (h : FirstUnbiased sides words before word rest) :
    uniform sides words = (some (faceOf sides word), rest) := by
  have hone : 1 ≤ sides.toNat := Nat.le_of_succ_le hsides
  rw [uniform_of_two_le hsides, h.eq_append]
  exact firstFace_append_cons (fun w hw => face?_of_not_unbiased hone (h.biased w hw))
    (face?_of_unbiased hone h.unbiased) rest

theorem uniform_eq_none_iff (hsides : 2 ≤ sides.toNat) :
    uniform sides words = (none, []) ↔ ∀ w ∈ words, ¬Unbiased sides w := by
  constructor
  · intro hnone w hw hunbiased
    obtain ⟨before, word, rest, hfirst⟩ := FirstUnbiased.of_mem hw hunbiased
    rw [hfirst.uniform_eq hsides] at hnone
    cases hnone
  · intro hbiased
    rw [uniform_of_two_le hsides]
    exact firstFace_of_forall fun w hw =>
      face?_of_not_unbiased (Nat.le_of_succ_le hsides) (hbiased w hw)

/-- **A die takes the first unbiased word and nothing else.**  The words that it accepts are the
unbiased ones, and a remainder always leaves room for the face in 16 bits.  If there is an unbiased
word among the words, the die shows the remainder of the first one, counted from 1, and takes the
words up to it, whatever comes behind.  It runs out of words just in case none is unbiased.  A die
with fewer than two sides shows their number and takes no word. -/
theorem uniform_takes_first_unbiased (sides : UInt16) (words : List UInt64) :
    (2 ≤ sides.toNat →
      (∀ word, word ≤ lastAccepted sides ↔ Unbiased sides word) ∧
      (∀ word, word % sides.toUInt64 ≤ 0xFFFF ∧
        (word % sides.toUInt64).toUInt16.toNat + 1 < UInt16.size) ∧
      ((∃ word ∈ words, Unbiased sides word) →
        ∃ before word rest, FirstUnbiased sides words before word rest) ∧
      (∀ before word rest, FirstUnbiased sides words before word rest →
        ∃ face, face.toNat = word.toNat % sides.toNat + 1 ∧
          1 ≤ face.toNat ∧ face.toNat ≤ sides.toNat ∧
          uniform sides words = (some face, rest) ∧
          ∀ more, uniform sides (before ++ word :: more) = (some face, more)) ∧
      (uniform sides words = (none, []) ↔ ∀ word ∈ words, ¬Unbiased sides word)) ∧
    (sides.toNat ≤ 1 → uniform sides words = (some sides, words)) := by
  refine ⟨fun hsides => ?_, fun hfew => if_pos (UInt16.le_iff_toNat_le.mpr hfew)⟩
  have hone : 1 ≤ sides.toNat := Nat.le_of_succ_le hsides
  refine ⟨fun word => le_lastAccepted_iff hone,
    fun word => ⟨remainder_le hone word, toNat_remainder_add_one_lt hone word⟩, ?_, ?_,
    uniform_eq_none_iff hsides⟩
  · rintro ⟨word, hword, hunbiased⟩
    exact FirstUnbiased.of_mem hword hunbiased
  · intro before word rest hfirst
    have hrange := face_range hone (face?_of_unbiased hone hfirst.unbiased)
    refine ⟨faceOf sides word, toNat_faceOf hone word, hrange.1, hrange.2,
      hfirst.uniform_eq hsides, fun more => ?_⟩
    exact FirstUnbiased.uniform_eq hsides ⟨rfl, hfirst.biased, hfirst.unbiased⟩

/-- Of all words only the largest is rejected for a die with `65535` sides, and the largest
remainder is its last face. -/
theorem uniform_takes_first_unbiased_of_largest_die :
    FirstUnbiased 65535 [0xFFFFFFFFFFFFFFFF, 65534, 7] [0xFFFFFFFFFFFFFFFF] 65534 [7] ∧
      ∃ face : UInt16, face.toNat = 65535 ∧
        uniform 65535 [0xFFFFFFFFFFFFFFFF, 65534, 7] = (some face, [7]) := by
  have hlargest : ¬Unbiased 65535 0xFFFFFFFFFFFFFFFF := by decide
  have hfirst : FirstUnbiased 65535 [0xFFFFFFFFFFFFFFFF, 65534, 7] [0xFFFFFFFFFFFFFFFF] 65534 [7] :=
    ⟨rfl, List.forall_mem_singleton.mpr hlargest, by decide⟩
  obtain ⟨-, -, -, htakes, -⟩ :=
    (uniform_takes_first_unbiased 65535 [0xFFFFFFFFFFFFFFFF, 65534, 7]).1 (by decide)
  obtain ⟨face, hface, -, -, huniform, -⟩ := htakes _ _ _ hfirst
  exact ⟨hfirst, face, hface, huniform⟩

end TabletopDice
