import Admission.Text.Utf8
/-!
Bytes that end in ASCII. Such a byte continues no character, so it is read as one of its own,
whatever stands in front of it.
-/

namespace Admission.Text.Utf8

variable {b : UInt8}

theorem continueWith_snoc (ascii : b.toNat < 0x80) (n count : Nat) (bs : List UInt8) :
    ∃ rest, (continueWith n count (bs ++ [b])).2 = rest ++ [b] ∧ rest.length ≤ bs.length := by
  induction count generalizing n bs with
  | zero => exact ⟨bs, rfl, Nat.le_refl _⟩
  | succ count ih =>
    cases bs with
    | nil =>
      have ends : isContinuation b = false := by simp [isContinuation]; omega
      exact ⟨[], by simp [continueWith, ends], Nat.le_refl _⟩
    | cons d bs =>
      simp only [List.cons_append, continueWith]
      split
      · obtain ⟨rest, same, short⟩ := ih (n * 64 + d.toNat % 64) bs
        exact ⟨rest, same, Nat.le_succ_of_le short⟩
      · exact ⟨d :: bs, rfl, Nat.le_refl _⟩

theorem secondRange_low (lead : Nat) : 0x80 ≤ (secondRange lead).1 := by
  unfold secondRange
  repeat' split
  all_goals decide

theorem first_snoc (ascii : b.toNat < 0x80) (d : UInt8) (bs : List UInt8) :
    ∃ rest, (first d (bs ++ [b])).2 = rest ++ [b] ∧ rest.length ≤ bs.length := by
  unfold first
  split
  · exact ⟨bs, rfl, Nat.le_refl _⟩
  split
  · exact ⟨bs, rfl, Nat.le_refl _⟩
  cases bs with
  | nil =>
    have low := secondRange_low d.toNat
    have outside : ¬ ((secondRange d.toNat).1 ≤ b.toNat ∧ b.toNat ≤ (secondRange d.toNat).2) := by
      omega
    exact ⟨[], by simp [afterLead, outside], Nat.le_refl _⟩
  | cons c bs =>
    simp only [List.cons_append, afterLead]
    split
    · obtain ⟨rest, same, short⟩ := continueWith_snoc ascii
        (leadBits d.toNat (following d.toNat) * 64 + c.toNat % 64) (following d.toNat - 1) bs
      exact ⟨rest, same, Nat.le_succ_of_le short⟩
    · exact ⟨c :: bs, rfl, Nat.le_refl _⟩

theorem mem_pieces_snoc (ascii : b.toNat < 0x80) (fuel : Nat) (bs : List UInt8)
    (enough : bs.length < fuel) : some (Char.ofNat b.toNat) ∈ pieces fuel (bs ++ [b]) := by
  induction fuel generalizing bs with
  | zero => cases enough
  | succ fuel ih =>
    cases bs with
    | nil =>
      simp [pieces, first, ascii]
    | cons d bs =>
      obtain ⟨rest, same, short⟩ := first_snoc ascii d bs
      simp only [List.cons_append, pieces]
      rw [same]
      exact List.mem_cons_of_mem _ (ih rest (by simp only [List.length_cons] at enough; omega))

theorem mem_of_mapM_id {α : Type} {ps : List (Option α)} {xs : List α} {x : α}
    (whole : ps.mapM id = some xs) (member : some x ∈ ps) : x ∈ xs := by
  induction ps generalizing xs with
  | nil => cases member
  | cons p ps ih =>
    rw [List.mapM_cons] at whole
    obtain ⟨y, same, whole⟩ := Option.bind_eq_some_iff.mp whole
    obtain ⟨ys, tail, whole⟩ := Option.bind_eq_some_iff.mp whole
    cases whole
    rcases List.mem_cons.mp member with head | later
    · rw [← head] at same
      exact Option.some.inj same ▸ List.mem_cons_self
    · exact List.mem_cons_of_mem _ (ih tail later)

theorem mem_of_decode_snoc {bs : List UInt8} {cs : List Char} (ascii : b.toNat < 0x80)
    (decoded : decode? (bs ++ [b]) = some cs) : Char.ofNat b.toNat ∈ cs :=
  mem_of_mapM_id decoded (mem_pieces_snoc ascii (bs ++ [b]).length bs (by simp))

end Admission.Text.Utf8
