import EventSourcing.Instant
import Mathlib.Algebra.Ring.Nat

/-!
# The texts of instants

Each part of the text of an instant is read back by its reader, which leaves the parts behind it, and
so each instant is read back from its text.
-/

namespace EventSourcing

/-! ## Digits -/

namespace Text

theorem isDigit_iff {c : Char} : isDigit c ↔ 48 ≤ c.toNat ∧ c.toNat ≤ 57 := by
  simp [isDigit, digitValue?, Char.le_def, UInt32.le_iff_toNat_le]

theorem isBlank_of_isDigit {c : Char} (h : isDigit c) : isBlank c = false := by
  rw [isDigit_iff] at h
  simp [isBlank, inRanges, blankRanges]
  omega

theorem isDigit_digitChar : ∀ n < 10, isDigit (Nat.digitChar n) = true := by decide

theorem decimalNumber_concat (cs : List Char) (c : Char) :
    decimalNumber (cs ++ [c]) = 10 * decimalNumber cs + (c.toNat - '0'.toNat) := by
  simp [decimalNumber]

theorem decimalNumber_replicate_append (count : Nat) (cs : List Char) :
    decimalNumber (List.replicate count '0' ++ cs) = decimalNumber cs := by
  induction count with
  | zero => rfl
  | succ count ih => simpa [List.replicate_succ, decimalNumber] using ih

theorem decimalNumber_append_replicate (cs : List Char) (count : Nat) :
    decimalNumber (cs ++ List.replicate count '0') = decimalNumber cs * 10 ^ count := by
  induction count with
  | zero => simp
  | succ count ih =>
      rw [List.replicate_succ', ← List.append_assoc, decimalNumber_concat, ih, Nat.sub_self,
        Nat.add_zero, Nat.mul_comm 10, Nat.mul_assoc, Nat.pow_succ]

/-- A number is read up to the end of its digits. -/
theorem number_append {width : Nat} {cs rest : List Char} (hd : ∀ c ∈ cs, isDigit c = true)
    (hne : cs ≠ []) (hw : cs.length ≤ width)
    (hrest : (rest.take (width - cs.length)).takeWhile isDigit = []) :
    number width (cs ++ rest) = some (decimalNumber cs, rest) := by
  have htaken : ((cs ++ rest).take width).takeWhile isDigit = cs := by
    rw [List.take_append, List.take_of_length_le hw, List.takeWhile_append_of_pos hd, hrest,
      List.append_nil]
  simp only [number, htaken, List.isEmpty_iff, hne, if_false, List.drop_left]

theorem takeWhile_take_cons {c : Char} (hc : isDigit c = false) (count : Nat) (rest : List Char) :
    ((c :: rest).take count).takeWhile isDigit = [] := by
  cases count <;> simp [hc]

/-- A reader is done with the front of a text, and what follows goes on with the rest. -/
theorem bind_of_eq_some {α β : Type} {p : Reader α} {f : α → Reader β} {cs rest : List Char} {a : α}
    (h : p cs = some (a, rest)) : (p >>= f) cs = f a rest := by
  simp [bind, StateT.bind, h]

theorem liftM_of_eq_some {α : Type} {o : Option α} {a : α} (h : o = some a) (cs : List Char) :
    (liftM o : Reader α) cs = some (a, cs) := by
  rw [h]
  rfl

end Text

namespace Instant

open Text

theorem length_decimalDigits (count n : Nat) : (decimalDigits count n).length = count := by
  induction count generalizing n with
  | zero => rfl
  | succ count ih => simp [decimalDigits, ih]

theorem isDigit_of_mem_decimalDigits {count n : Nat} {c : Char} (h : c ∈ decimalDigits count n) :
    isDigit c = true := by
  induction count generalizing n with
  | zero => cases h
  | succ count ih =>
      rcases List.mem_append.1 h with h | h
      · exact ih h
      · rw [List.mem_singleton.1 h]
        exact isDigit_digitChar _ (Nat.mod_lt _ (by decide))

theorem decimalNumber_decimalDigits {count n : Nat} (h : n < 10 ^ count) :
    decimalNumber (decimalDigits count n) = n := by
  induction count generalizing n with
  | zero =>
      obtain rfl : n = 0 := by omega
      rfl
  | succ count ih =>
      have hdiv : n / 10 < 10 ^ count := by rw [Nat.pow_succ] at h; omega
      rw [decimalDigits, decimalNumber_concat, ih hdiv,
        Nat.toNat_digitChar_of_lt_ten (Nat.mod_lt _ (by decide))]
      simp
      omega

/-! ## Parts of a text -/

/-- Where a part begins that is not blank there is nothing to pass over. -/
theorem blanks_cons {c : Char} (hc : isBlank c = false) (rest : List Char) :
    blanks (c :: rest) = some ((), c :: rest) := by
  simp [blanks, trimFront, hc]

theorem blanks_of_isDigit {cs : List Char} (hne : cs ≠ []) (hd : ∀ c ∈ cs, isDigit c = true)
    (rest : List Char) : blanks (cs ++ rest) = some ((), cs ++ rest) := by
  cases cs with
  | nil => exact absurd rfl hne
  | cons c cs => exact blanks_cons (isBlank_of_isDigit (hd c List.mem_cons_self)) (cs ++ rest)

theorem separator_cons {α : Type} {c : Char} (hc : isBlank c = false) (f : Unit → Reader α)
    (rest : List Char) : (do blanks; let a ← char c; f a) (c :: rest) = f () rest := by
  rw [bind_of_eq_some (blanks_cons hc rest)]
  exact bind_of_eq_some (by simp [char])

theorem twoDigits_append {n : Nat} (h : n < 100) (rest : List Char) :
    twoDigits (decimalDigits 2 n ++ rest) = some (n, rest) := by
  have hd : ∀ c ∈ decimalDigits 2 n, isDigit c = true := fun c => isDigit_of_mem_decimalDigits
  have hl := length_decimalDigits 2 n
  have hne : decimalDigits 2 n ≠ [] := by simp [decimalDigits]
  rw [twoDigits, bind_of_eq_some (blanks_of_isDigit hne hd rest),
    number_append hd hne (by omega) (by simp [hl]), decimalNumber_decimalDigits h]

theorem year_of_isDigit {c : Char} {cs rest : List Char} {n : Nat} (hc : isDigit c = true)
    (h : number 4 (c :: cs) = some (n, rest)) : year (c :: cs) = some ((n : Int), rest) := by
  have hget : (get : Reader (List Char)) (c :: cs) = some (c :: cs, c :: cs) := rfl
  have hminus : c ≠ '-' := by
    rintro rfl
    cases hc
  have hplus : c ≠ '+' := by
    rintro rfl
    cases hc
  rw [year, bind_of_eq_some (blanks_cons (isBlank_of_isDigit hc) cs), bind_of_eq_some hget]
  simp only [List.cons.injEq, hminus, hplus, false_and, imp_false, not_false_eq_true, implies_true]
  exact bind_of_eq_some h

theorem year_minus {cs rest : List Char} {n : Nat} (h : number cs.length cs = some (n, rest)) :
    year ('-' :: cs) = some (-(n : Int), rest) := by
  change (number cs.length >>= fun n => pure (-Int.ofNat n)) cs = _
  rw [bind_of_eq_some h]
  rfl

theorem year_plus {cs rest : List Char} {n : Nat} (h : number cs.length cs = some (n, rest)) :
    year ('+' :: cs) = some ((n : Int), rest) := by
  change (number cs.length >>= fun n => pure (Int.ofNat n)) cs = _
  rw [bind_of_eq_some h]
  rfl

/-- The part of a year behind its sign. -/
theorem number_padded (padding n : Nat) (rest : List Char) :
    let cs := List.replicate padding '0' ++ Nat.toDigits 10 n ++ '-' :: rest
    number cs.length cs = some (n, '-' :: rest) := by
  intro cs
  have hd : ∀ c ∈ List.replicate padding '0' ++ Nat.toDigits 10 n, isDigit c = true := by
    intro c hc
    rcases List.mem_append.1 hc with hc | hc
    · rw [List.eq_of_mem_replicate hc]
      rfl
    · have := Nat.isDigit_of_mem_toDigits (by decide) (by decide) hc
      simpa [isDigit_iff, Char.isDigit, UInt32.le_iff_toNat_le] using this
  have hvalue : decimalNumber (Nat.toDigits 10 n) = n :=
    Nat.ofDigitChars_toDigits (by decide) (by decide)
  rw [number_append hd (by simp [Nat.toDigits_ne_nil]) (by simp [cs])
    (takeWhile_take_cons rfl _ rest), decimalNumber_replicate_append, hvalue]

theorem year_append (y : Int) (rest : List Char) :
    year (yearText y ++ '-' :: rest) = some (y, '-' :: rest) := by
  unfold yearText
  split
  · rename_i hy
    have hn : y.toNat < 10 ^ 4 := by omega
    have hd : ∀ c ∈ decimalDigits 4 y.toNat, isDigit c = true :=
      fun c => isDigit_of_mem_decimalDigits
    have hl := length_decimalDigits 4 y.toNat
    have hne : decimalDigits 4 y.toNat ≠ [] := by simp [decimalDigits]
    have hnumber : number 4 (decimalDigits 4 y.toNat ++ '-' :: rest) =
        some (y.toNat, '-' :: rest) := by
      rw [number_append hd hne (by omega) (by simp [hl]), decimalNumber_decimalDigits hn]
    cases hcs : decimalDigits 4 y.toNat with
    | nil => simp [hcs] at hl
    | cons c cs =>
        rw [hcs] at hd hnumber
        rw [List.cons_append] at hnumber ⊢
        rw [year_of_isDigit (hd c List.mem_cons_self) hnumber, Int.toNat_of_nonneg hy.1]
  · rename_i hy
    dsimp only
    split
    · refine (year_minus (number_padded _ _ _)).trans ?_
      congr
      omega
    · refine (year_plus (number_padded _ _ _)).trans ?_
      congr
      omega

/-- The digits of a fraction, to the nanosecond. -/
theorem fraction_digits {count n : Nat} (hc : 0 < count) (hc' : count ≤ 9) (h : n < 10 ^ count)
    (rest : List Char) :
    fraction ('.' :: (decimalDigits count n ++ 'Z' :: rest)) =
      some (n * 10 ^ (9 - count), 'Z' :: rest) := by
  have hd : ∀ c ∈ decimalDigits count n, isDigit c = true := fun c => isDigit_of_mem_decimalDigits
  have hl := length_decimalDigits count n
  have htaken : (decimalDigits count n ++ 'Z' :: rest).takeWhile isDigit = decimalDigits count n := by
    rw [List.takeWhile_append_of_pos hd]
    simp [isDigit, digitValue?]
  have hne : decimalDigits count n ≠ [] := List.ne_nil_of_length_pos (by omega)
  have hkept : (decimalDigits count n).take 9 = decimalDigits count n :=
    List.take_of_length_le (by omega)
  simp only [fraction, htaken, List.isEmpty_iff, hne, if_false, hkept,
    decimalNumber_append_replicate, decimalNumber_decimalDigits h, List.drop_left' hl, hl]

theorem fraction_append {nano : Nat} (h : nano < 1000000000) (rest : List Char) :
    fraction (fractionText nano ++ 'Z' :: rest) = some (nano, 'Z' :: rest) := by
  unfold fractionText
  split
  · rename_i hzero
    rw [hzero]
    rfl
  -- With 3, 6 or 9 digits the number that is written is the one that fits into them.
  repeat' split
  all_goals
    rw [List.cons_append, fraction_digits (by decide) (by decide) (by omega)]
    congr
    omega

/-! ## Whole texts -/

theorem daysInMonth_le (year : Int) (month : Nat) : daysInMonth year month ≤ 31 := by
  unfold daysInMonth
  repeat' split
  all_goals decide

theorem date_ofFields? (d : Date) : Date.ofFields? d.year d.month d.day = some d := by
  simp [Date.ofFields?, d.year_range, d.month_range, d.day_range]

/-- The second and the nanosecond that are written; the leap second is second 60. -/
def writtenSecond (t : Instant) : Nat × Nat :=
  if 1000000000 ≤ t.nano then (60, t.nano - 1000000000) else (t.second, t.nano)

theorem writtenSecond_bounds (t : Instant) :
    t.writtenSecond.1 < 100 ∧ t.writtenSecond.2 < 1000000000 := by
  have hsecond := t.second_lt
  have hnano := t.nano_lt
  unfold writtenSecond
  split
  · dsimp only
    omega
  · dsimp only
    omega

theorem ofFields?_written (t : Instant) :
    ofFields? t.date t.hour t.minute t.writtenSecond.1 t.writtenSecond.2 0 = some t := by
  have hhour := t.hour_lt
  have hminute := t.minute_lt
  have hread : (if t.writtenSecond.1 = 60 then (59, t.writtenSecond.2 + 1000000000)
      else (t.writtenSecond.1, t.writtenSecond.2)) = (t.second, t.nano) := by
    have hsecond := t.second_lt
    unfold writtenSecond
    split
    · rename_i hleap
      simp [t.leap hleap, hleap]
    · rw [if_neg (by dsimp only; omega)]
  have hh : (((60 * t.hour + t.minute : Nat) - 0 : Int) % (24 * 60)).toNat / 60 = t.hour := by omega
  have hm : (((60 * t.hour + t.minute : Nat) - 0 : Int) % (24 * 60)).toNat % 60 = t.minute := by
    omega
  simp only [ofFields?, hread]
  rw [if_neg (by omega), if_neg (by omega), if_neg (by omega)]
  simp only [hh, hm, Option.bind_eq_bind, Option.bind_some]
  exact dif_pos ⟨t.hour_lt, t.minute_lt, t.second_lt, t.nano_lt, t.leap⟩

theorem text_eq (t : Instant) :
    t.text = String.ofList (yearText t.date.year ++ '-' :: (decimalDigits 2 t.date.month ++
      '-' :: (decimalDigits 2 t.date.day ++ 'T' :: (decimalDigits 2 t.hour ++
      ':' :: (decimalDigits 2 t.minute ++ ':' :: (decimalDigits 2 t.writtenSecond.1 ++
      (fractionText t.writtenSecond.2 ++ ['Z']))))))) := by
  simp [text, writtenSecond]

theorem reader_text (t : Instant) : reader t.text.toList = some (t, []) := by
  have hmonth := t.date.month_range.2
  have hday := Nat.le_trans t.date.day_range.2 (daysInMonth_le _ _)
  have hhour := t.hour_lt
  have hminute := t.minute_lt
  obtain ⟨hsecond, hnano⟩ := t.writtenSecond_bounds
  have hget (cs : List Char) : (get : Reader (List Char)) cs = some (cs, cs) := rfl
  have hset (cs cs' : List Char) : (set cs : Reader PUnit) cs' = some (⟨⟩, cs) := rfl
  have hoffset : offset ['Z'] = some (0, []) := rfl
  rw [text_eq, String.toList_ofList, reader, bind_of_eq_some (year_append _ _),
    separator_cons (by decide), bind_of_eq_some (twoDigits_append (by omega) _),
    separator_cons (by decide), bind_of_eq_some (twoDigits_append (by omega) _),
    bind_of_eq_some (hget _)]
  simp only [true_or, if_true]
  rw [bind_of_eq_some (hset _ _), bind_of_eq_some (twoDigits_append (by omega) _),
    separator_cons (by decide), bind_of_eq_some (twoDigits_append (by omega) _),
    separator_cons (by decide), bind_of_eq_some (twoDigits_append hsecond _),
    bind_of_eq_some (fraction_append hnano []), bind_of_eq_some (blanks_cons (by decide) []),
    bind_of_eq_some hoffset, bind_of_eq_some (liftM_of_eq_some (date_ofFields? _) _)]
  exact liftM_of_eq_some (ofFields?_written t) _

theorem parse?_text (t : Instant) : parse? t.text = some t := by
  simp [parse?, reader_text]

end Instant

end EventSourcing
