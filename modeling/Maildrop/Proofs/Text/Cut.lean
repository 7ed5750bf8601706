import Maildrop.Proofs.Text.Utf8
import Maildrop.Text.Cut

/-!
# Truncated texts

The offset at which a text is cut (`Maildrop.Text.cutOffset?`) never falls inside a character
(`Maildrop.Text.offset?_eq`), so the octets before it are those of the characters that are kept
(`Maildrop.Text.take_octets`).

`Maildrop.Text.truncation` says what a truncated text is, by characters and by offsets, and what
comes of truncating twice.
-/

namespace Maildrop.Text

/-! ### Offsets -/

/-- **The offset of a character is the size of what stands before it.** -/
theorem offset?_eq (t : Text) (k : Nat) :
    offset? t k = if k < t.length then some (Utf8.size (t.take k)) else none := by
  induction t generalizing k with
  | nil => rfl
  | cons c s ih =>
    rcases k with _ | k
    · rfl
    · rw [offset?, ih, List.length_cons, List.take_succ_cons, Utf8.size_cons]
      simp only [Nat.add_lt_add_iff_right]
      split <;> rfl

/-- How many characters of a text are kept if it is cut. -/
def keptCount (limit : Nat) (dots : Bool) : Nat := if dots then limit - ellipsis.length else limit

/-- **A text is cut where a character starts**, behind as many as are kept. -/
theorem cutOffset?_eq (t : Text) (limit : Nat) (dots : Bool) :
    cutOffset? t limit dots =
      if t.length ≤ limit then none else some (Utf8.size (t.take (keptCount limit dots))) := by
  rw [cutOffset?, offset?_eq t limit]
  rcases Nat.lt_or_ge limit t.length with hlimit | hlimit
  · have hkept : limit - ellipsis.length < t.length :=
      Nat.lt_of_le_of_lt (Nat.sub_le ..) hlimit
    rw [if_pos hlimit, if_neg (Nat.not_le.mpr hlimit), Option.map_some, offset?_eq, if_pos hkept,
      keptCount]
    split <;> rfl
  · rw [if_neg (Nat.not_lt.mpr hlimit), if_pos hlimit]
    rfl

/-- The octets before a character are those of the characters before it. -/
theorem take_octets (t : Text) (k : Nat) :
    (Utf8.encode t).take (Utf8.size (t.take k)) = Utf8.encode (t.take k) := by
  have happend : Utf8.encode t = Utf8.encode (t.take k) ++ Utf8.encode (t.drop k) := by
    rw [Utf8.encode, Utf8.encode, Utf8.encode, ← List.flatMap_append, List.take_append_drop]
  rw [happend]
  exact List.take_left

/-! ### Truncated texts -/

/-- A limit is too small for one character, or for one and the dots. -/
theorem isLimit_eq_false_iff {limit : Nat} {dots : Bool} :
    isLimit limit dots = false ↔ limit = 0 ∨ dots = true ∧ limit < 4 := by
  rcases dots with _ | _
  · simp [isLimit]
  · simp only [isLimit, Bool.not_true, Bool.false_or, Bool.and_eq_false_imp, decide_eq_true_eq,
      decide_eq_false_iff_not, true_and]
    omega

theorem truncate_of_length_le {t : Text} {limit : Nat} (h : t.length ≤ limit) (dots : Bool) :
    t.truncate limit dots = t := if_pos h

/-- A text that does not fit is cut, and the dots stand in for what is missing. -/
theorem truncate_of_lt {t : Text} {limit : Nat} (h : limit < t.length) (dots : Bool) :
    t.truncate limit dots = t.take (keptCount limit dots) ++ if dots then ellipsis else [] := by
  rw [truncate, if_neg (Nat.not_le.mpr h), keptCount]
  rcases dots with _ | _
  · exact (List.append_nil _).symm
  · rfl

/-- Without dots, the first characters are kept, whether or not the text fits. -/
theorem truncate_false (t : Text) (limit : Nat) : t.truncate limit false = t.take limit := by
  rw [truncate]
  split
  · next h => exact (List.take_of_length_le h).symm
  · rfl

theorem truncate?_false (t : Option Text) (limit : Nat) :
    truncate? t limit false = if limit = 0 then .error ⟨0⟩ else .ok ((t.getD []).take limit) := by
  rw [truncate?, truncate_false]
  rcases limit with _ | limit
  · rfl
  · rw [if_pos (by simp [isLimit]), if_neg (Nat.succ_ne_zero limit)]

/-- A truncated text is not longer than its limit. -/
theorem length_truncate_le (t : Text) {limit : Nat} {dots : Bool} (h : isLimit limit dots) :
    (t.truncate limit dots).length ≤ limit := by
  rcases Nat.lt_or_ge limit t.length with hlimit | hlimit
  · rw [truncate_of_lt hlimit, List.length_append, List.length_take, keptCount]
    rcases dots with _ | _
    · exact Nat.min_le_left ..
    · have hroom : 4 ≤ limit := by simpa [isLimit] using (Bool.and_eq_true_iff.mp h).2
      simp only [reduceIte, ellipsis, List.length_cons, List.length_nil]
      omega
  · rw [truncate_of_length_le hlimit]
    exact hlimit

/-- What is refused, and what becomes of the other texts. -/
theorem truncate?_eq (t : Option Text) (limit : Nat) (dots : Bool) :
    truncate? t limit dots =
      if limit = 0 ∨ dots = true ∧ limit < 4 then .error ⟨limit⟩
      else .ok (match t with
        | none => []
        | some t =>
          if t.length ≤ limit then t
          else if dots then t.take (limit - 3) ++ ['.', '.', '.']
          else t.take limit) := by
  rw [truncate?]
  rcases hlimit : isLimit limit dots with _ | _
  · rw [if_neg Bool.false_ne_true, if_pos (isLimit_eq_false_iff.mp hlimit)]
  · have hroom : ¬(limit = 0 ∨ dots = true ∧ limit < 4) := fun h =>
      Bool.false_ne_true ((isLimit_eq_false_iff.mpr h).symm.trans hlimit)
    rw [if_pos rfl, if_neg hroom]
    rcases t with _ | u
    · exact congrArg Except.ok (truncate_of_length_le (Nat.zero_le limit) dots)
    · rfl

/-- A truncated text fits, so it stays if it is truncated again. -/
theorem length_le_of_truncate? {t : Option Text} {limit : Nat} {dots : Bool} {r : Text}
    (h : truncate? t limit dots = .ok r) :
    r.length ≤ limit ∧ truncate? (some r) limit dots = .ok r := by
  rw [truncate?] at h
  split at h
  · next hlimit =>
    obtain rfl := Except.ok.inj h
    have hlength := length_truncate_le (t.getD []) hlimit
    refine ⟨hlength, ?_⟩
    rw [truncate?, if_pos hlimit, Option.getD_some, truncate_of_length_le hlength]
  · exact absurd h (by simp)

/-- Without dots, the smaller of two limits counts. -/
theorem truncate?_false_bind (t : Option Text) (limit limit' : Nat) :
    (truncate? t limit false).bind (fun r => truncate? (some r) limit' false) =
      truncate? t (min limit limit') false := by
  rw [truncate?_false, truncate?_false]
  rcases Nat.eq_zero_or_pos limit with rfl | hlimit
  · rw [Nat.zero_min]
    rfl
  · rw [if_neg (Nat.ne_of_gt hlimit)]
    change truncate? (some ((t.getD []).take limit)) limit' false = _
    rw [truncate?_false]
    rcases Nat.eq_zero_or_pos limit' with rfl | hlimit'
    · rw [Nat.min_zero]
      rfl
    · rw [if_neg (Nat.ne_of_gt hlimit'), if_neg (Nat.ne_of_gt (Nat.lt_min.mpr ⟨hlimit, hlimit'⟩)),
        Option.getD_some, List.take_take, Nat.min_comm]

/-- **What a truncated text is.** A limit of no character, or with dots of less than four, is
refused, whether there is a text or not; otherwise a missing text is empty, a text that fits is
kept, and of a longer one the first characters are kept, followed by the dots if they are wanted.

The offset at which the octets of a text are cut is one at which a character starts, so what
stands before it is the octets of some characters, and these are the ones that are kept.

The result is not longer than the limit, and stays if it is truncated again; without dots,
truncating twice is truncating to the smaller limit. -/
theorem truncation (t : Option Text) (limit : Nat) (dots : Bool) :
    (truncate? t limit dots =
      if limit = 0 ∨ dots = true ∧ limit < 4 then .error ⟨limit⟩
      else .ok (match t with
        | none => []
        | some t =>
          if t.length ≤ limit then t
          else if dots then t.take (limit - 3) ++ ['.', '.', '.']
          else t.take limit)) ∧
    (∀ u, t = some u →
      match cutOffset? u limit dots with
      | none => u.length ≤ limit
      | some i => limit < u.length ∧ ∃ front rest, u = front ++ rest ∧ Utf8.size front = i ∧
          (Utf8.encode u).take i = Utf8.encode front ∧
          u.truncate limit dots = front ++ if dots then ['.', '.', '.'] else []) ∧
    (∀ r, truncate? t limit dots = .ok r →
      r.length ≤ limit ∧ truncate? (some r) limit dots = .ok r) ∧
    ∀ limit', (truncate? t limit false).bind (fun r => truncate? (some r) limit' false) =
      truncate? t (min limit limit') false := by
  refine ⟨truncate?_eq t limit dots, fun u _ => ?_, fun r => length_le_of_truncate?,
    truncate?_false_bind t limit⟩
  rw [cutOffset?_eq]
  rcases Nat.lt_or_ge limit u.length with h | h
  · rw [if_neg (Nat.not_le.mpr h)]
    exact ⟨h, _, _, (List.take_append_drop _ u).symm, rfl, take_octets u _, truncate_of_lt h dots⟩
  · rw [if_pos h]
    exact h

end Maildrop.Text
