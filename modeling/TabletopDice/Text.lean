/-! # Numbers and places in a text

A text is a list of characters.  A run of decimal digits in it stands for a
natural number, and its parts are located by UTF-8 bytes.
-/
namespace TabletopDice

/-! ## Runs

A run of characters of one kind ends where one of another kind, or none, comes next. -/

theorem takeWhile_run {α : Type} {p : α → Bool} {run rest : List α} (hrun : ∀ c ∈ run, p c = true)
    (hrest : ∀ c ∈ rest.head?, p c = false) : (run ++ rest).takeWhile p = run := by
  rw [List.takeWhile_append_of_pos hrun]
  cases rest with
  | nil => simp
  | cons c rest => simp [hrest c rfl]

theorem dropWhile_run {α : Type} {p : α → Bool} {run rest : List α} (hrun : ∀ c ∈ run, p c = true)
    (hrest : ∀ c ∈ rest.head?, p c = false) : (run ++ rest).dropWhile p = rest := by
  rw [List.dropWhile_append_of_pos hrun]
  cases rest with
  | nil => simp
  | cons c rest => simp [hrest c rfl]

/-! ## Decimal numbers

A run of decimal digits stands for a natural number, however long it is and
however many zeros lead it; `decimal` writes the shortest run.  `value_decimal`
says that reading takes back what was written.
-/

/-- The number that a run of decimal digits stands for. -/
def value (run : List Char) : Nat := Nat.ofDigitChars 10 run 0

/-- The digits of a number, without leading zeros. -/
def decimal (n : Nat) : List Char := Nat.toDigits 10 n

/-- The digits of an integer, behind a minus sign if it is negative. -/
def integer (z : Int) : List Char :=
  if z < 0 then '-' :: decimal z.natAbs else decimal z.natAbs

/-- A run of digits is a number once it holds a digit. -/
def IsNumber (run : List Char) : Prop := run ≠ [] ∧ ∀ c ∈ run, c.isDigit = true

instance (run : List Char) : Decidable (IsNumber run) :=
  decidable_of_iff ((!run.isEmpty && run.all Char.isDigit) = true) (by simp [IsNumber])

theorem value_decimal (n : Nat) : value (decimal n) = n := Nat.ofDigitChars_ten_toDigits

/-- A number other than zero has no zero in front. -/
theorem head?_decimal_ne_zero {n : Nat} (h : n ≠ 0) : (decimal n).head? ≠ some '0' := by
  induction n using Nat.strongRecOn with
  | ind n ih =>
    rcases Nat.lt_or_ge n 10 with hlt | hge
    · have hdigit : ∀ n < 10, n ≠ 0 → some n.digitChar ≠ some '0' := by decide
      rw [decimal, Nat.toDigits_of_lt_base hlt]
      exact hdigit n hlt h
    · -- the first digit is that of the number without its last digit
      have hfront := ih (n / 10) (by omega) (by omega)
      rw [decimal] at hfront
      rw [decimal, Nat.toDigits_of_base_le (by decide) hge, List.head?_append]
      cases hhead : (Nat.toDigits 10 (n / 10)).head? with
      | none => exact absurd (List.head?_eq_none_iff.mp hhead) Nat.toDigits_ne_nil
      | some c =>
        rw [hhead] at hfront
        exact hfront

theorem isNumber_decimal (n : Nat) : IsNumber (decimal n) :=
  ⟨Nat.toDigits_ne_nil, fun _ => Nat.isDigit_of_mem_toDigits (by decide) (by decide)⟩

/-! ## Byte ranges

A character is one to four bytes wide.  `width` measures a text and `Span` is a
half-open range of bytes.  `Span.Locates` says that a range holds exactly a
given part of a text, which also puts both of its ends on character boundaries.
-/

/-- The number of UTF-8 bytes of a text. -/
def width : List Char → Nat
  | [] => 0
  | c :: rest => c.utf8Size + width rest

@[simp] theorem width_nil : width [] = 0 := rfl

@[simp] theorem width_cons (c : Char) (text : List Char) :
    width (c :: text) = c.utf8Size + width text := rfl

@[simp] theorem width_append (front back : List Char) :
    width (front ++ back) = width front + width back := by
  induction front with
  | nil => simp
  | cons c front ih =>
    rw [List.cons_append, width_cons, width_cons, ih]
    omega

/-- The bytes from `start` up to, but not including, `stop`. -/
structure Span where
  start : Nat
  stop : Nat
  deriving DecidableEq, Repr

namespace Span

/-- The same range in a text that has `bytes` more bytes in front. -/
def shift (s : Span) (bytes : Nat) : Span := ⟨s.start + bytes, s.stop + bytes⟩

/-- The range of `part` behind `front`. -/
def behind (front part : List Char) : Span := ⟨width front, width front + width part⟩

/-- The range holds exactly `part`, one of the places where it occurs in `text`. -/
def Locates (s : Span) (text part : List Char) : Prop :=
  ∃ front back, text = front ++ part ++ back ∧ s = behind front part

theorem shift_behind (front part ahead : List Char) :
    (behind front part).shift (width ahead) = behind (ahead ++ front) part := by
  simp [shift, behind, Nat.add_comm, Nat.add_left_comm, Nat.add_assoc]

theorem shift_shift (s : Span) (bytes more : Nat) :
    (s.shift bytes).shift more = s.shift (bytes + more) := by
  simp only [shift, Nat.add_assoc]

theorem shift_inj {s s' : Span} {bytes : Nat} : s.shift bytes = s'.shift bytes ↔ s = s' := by
  cases s
  cases s'
  simp only [shift, mk.injEq, Nat.add_left_inj]

/-- Text in front and at the back moves a located part by the bytes in front. -/
theorem Locates.shift {s : Span} {text part : List Char} (h : s.Locates text part)
    (ahead after : List Char) :
    (s.shift (width ahead)).Locates (ahead ++ text ++ after) part := by
  obtain ⟨front, back, rfl, rfl⟩ := h
  refine ⟨ahead ++ front, back ++ after, ?_, shift_behind front part ahead⟩
  simp only [List.append_assoc]

end Span
end TabletopDice
