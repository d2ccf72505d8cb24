import EventSourcing.Uuid
import Mathlib.Algebra.Ring.Nat

/-!
# The texts of identifiers

The digits of a number stand for it, and the groups of a text are put together as they were before
they were set apart. So each identifier is read back from its text.
-/

namespace EventSourcing

/-! ## Hexadecimal digits -/

theorem Text.hexValue?_digitChar : ∀ n < 16, hexValue? (Nat.digitChar n) = some n := by decide

theorem Text.hexNumber?_concat (cs : List Char) (c : Char) :
    hexNumber? (cs ++ [c]) = (hexNumber? cs).bind fun n => (hexValue? c).map (16 * n + ·) := by
  simp [hexNumber?, List.foldlM_append]

namespace Uuid

theorem length_hexDigits (count n : Nat) : (hexDigits count n).length = count := by
  induction count generalizing n with
  | zero => rfl
  | succ count ih => simp [hexDigits, ih]

theorem hexNumber?_hexDigits {count n : Nat} (h : n < 16 ^ count) :
    Text.hexNumber? (hexDigits count n) = some n := by
  induction count generalizing n with
  | zero =>
      obtain rfl : n = 0 := by omega
      rfl
  | succ count ih =>
      have hdiv : n / 16 < 16 ^ count := by rw [Nat.pow_succ] at h; omega
      rw [hexDigits, Text.hexNumber?_concat, ih hdiv,
        Text.hexValue?_digitChar _ (Nat.mod_lt _ (by decide))]
      simp only [Option.bind_some, Option.map_some, Option.some.injEq]
      omega

theorem ofDigits?_hexDigits (id : Uuid) : ofDigits? (hexDigits 32 id.value.toNat) = some id := by
  have hlt : id.value.toNat < 16 ^ 32 := by
    have := id.value.isLt
    omega
  simp [ofDigits?, length_hexDigits, hexNumber?_hexDigits hlt]

/-! ## Groups -/

theorem splitAt_append {a : List Char} {n : Nat} (h : a.length = n) (rest : List Char) :
    (a ++ rest).splitAt n = (a, rest) := by
  rw [List.splitAt_eq, List.take_left' h, List.drop_left' h]

theorem ungroup?_append {a b c d : List Char} (ha : a.length = 8) (hb : b.length = 4)
    (hc : c.length = 4) (hd : d.length = 4) (e : List Char) :
    ungroup? (a ++ '-' :: (b ++ '-' :: (c ++ '-' :: (d ++ '-' :: e)))) =
      some (a ++ b ++ c ++ d ++ e) := by
  simp only [ungroup?, splitAt_append ha, splitAt_append hb, splitAt_append hc, splitAt_append hd]

/-- A text in five groups. -/
def grouped (cs : List Char) : List Char :=
  cs.take 8 ++ '-' :: ((cs.drop 8).take 4 ++ '-' :: ((cs.drop 12).take 4 ++
    '-' :: ((cs.drop 16).take 4 ++ '-' :: cs.drop 20)))

theorem ofGrouped?_grouped {cs : List Char} (h : cs.length = 32) :
    ofGrouped? (grouped cs) = ofDigits? cs := by
  rw [ofGrouped?, grouped, ungroup?_append (by simp [h]) (by simp [h]) (by simp [h]) (by simp [h])]
  have hjoin (start count : Nat) :
      (cs.drop start).take count ++ cs.drop (start + count) = cs.drop start := by
    rw [← List.drop_drop, List.take_append_drop]
  simp only [Option.bind_some, List.append_assoc, hjoin 16 4, hjoin 12 4, hjoin 8 4,
    List.take_append_drop]

theorem text_eq (id : Uuid) : id.text = String.ofList (grouped (hexDigits 32 id.value.toNat)) := by
  simp [text, grouped]

theorem parse?_text (id : Uuid) : parse? id.text = some id := by
  have hl := length_hexDigits 32 id.value.toNat
  have hg : (grouped (hexDigits 32 id.value.toNat)).length = 36 := by simp [grouped, hl]
  rw [text_eq]
  simp only [parse?, String.toList_ofList, hg]
  simp [ofGrouped?_grouped hl, ofDigits?_hexDigits]

end Uuid

end EventSourcing
