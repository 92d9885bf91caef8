import Admission.Table
/-!
Tables keep their keys ascending. A key above all others is put at the end, so a table that is
filled again entry by entry comes out as it was.
-/

namespace Admission

namespace Text

theorem compareChars_eq_compareLex (as bs : List Char) :
    compareChars as bs = List.compareLex (compareOn Char.toNat) as bs := by
  induction as generalizing bs with
  | nil => cases bs <;> rfl
  | cons a as ih =>
    cases bs with
    | nil => rfl
    | cons b bs =>
      rw [compareChars, List.compareLex_cons_cons, ih]
      unfold compareOn
      rcases Nat.lt_trichotomy a.toNat b.toNat with below | same | above
      · rw [if_pos below, Nat.compare_eq_lt.mpr below]
        rfl
      · rw [if_neg (by omega), if_neg (by omega), Nat.compare_eq_eq.mpr same]
        rfl
      · rw [if_neg (by omega), if_pos above, Nat.compare_eq_gt.mpr above]
        rfl

theorem compareChars_lt_iff (as bs : List Char) : compareChars as bs = .lt ↔ as < bs := by
  induction as generalizing bs with
  | nil => cases bs <;> simp [compareChars]
  | cons a as ih =>
    cases bs with
    | nil => simp [compareChars]
    | cons b bs =>
      rw [compareChars, List.cons_lt_cons_iff, Char.lt_def, UInt32.lt_iff_toNat_lt]
      change _ ↔ a.toNat < b.toNat ∨ _
      rcases Nat.lt_trichotomy a.toNat b.toNat with below | same | above
      · simp [below]
      · simp [Char.toNat_inj.mp same, ih]
      · have other : a ≠ b := fun same => Nat.ne_of_gt above (congrArg Char.toNat same)
        simp [above, other, Nat.lt_asymm above]

/-- The order of texts is the one that texts have. -/
theorem order_lt_iff (a b : String) : order a b = .lt ↔ a < b := by
  rw [order, compareChars_lt_iff, String.lt_iff]

instance : Std.TransCmp order where
  eq_swap {a b} := by
    unfold order
    rw [compareChars_eq_compareLex, compareChars_eq_compareLex]
    exact Std.OrientedCmp.eq_swap
  isLE_trans {a b c} := by
    unfold order
    rw [compareChars_eq_compareLex, compareChars_eq_compareLex, compareChars_eq_compareLex]
    exact Std.TransCmp.isLE_trans

instance : Std.LawfulEqCmp order where
  compare_self := Std.ReflCmp.compare_self
  eq_of_compare {a b} same := by
    have lawful : Std.LawfulEqCmp (compareOn Char.toNat) :=
      { compare_self := Std.ReflCmp.compare_self
        eq_of_compare := fun {c d} same => Char.toNat_inj.mp (Nat.compare_eq_eq.mp same) }
    rw [order, compareChars_eq_compareLex] at same
    exact String.toList_inj.mp (Std.LawfulEqCmp.eq_of_compare same)

end Text

namespace Table

variable {key value : Type} (order : key → key → Ordering)

def Ascending (t : Table key value) : Prop := t.Pairwise fun a b => order a.1 b.1 = .lt

variable {order} {k : key} {v : value} {t : Table key value}

theorem insert_above [Std.OrientedCmp order] (above : ∀ e ∈ t, order e.1 k = .lt) :
    t.insert order k v = t ++ [(k, v)] := by
  induction t with
  | nil => rfl
  | cons head rest ih =>
    obtain ⟨k', v'⟩ := head
    have greater : order k k' = .gt := Std.OrientedCmp.gt_of_lt (above (k', v') (by simp))
    have later := ih fun e member => above e (List.mem_cons_of_mem _ member)
    simp only [insert, alter, greater] at later ⊢
    rw [later]
    rfl

/-! Changes of single entries. -/

section Alter

variable {start : value} {f : value → value}

theorem mem_alter {e : key × value} (member : e ∈ t.alter order k start f) :
    e ∈ t ∨ (e.1 = k ∨ e.1 ∈ t.keys) ∧ ∃ v, (v = start ∨ ∃ k', (k', v) ∈ t) ∧ e.2 = f v := by
  induction t with
  | nil =>
    cases List.mem_singleton.mp member
    exact .inr ⟨.inl rfl, start, .inl rfl, rfl⟩
  | cons head rest ih =>
    obtain ⟨k', v⟩ := head
    simp only [alter] at member
    split at member
    · rcases List.mem_cons.mp member with rfl | later
      · exact .inr ⟨.inl rfl, start, .inl rfl, rfl⟩
      · exact .inl later
    · rcases List.mem_cons.mp member with rfl | later
      · exact .inr ⟨.inr (by simp [keys]), v, .inr ⟨k', by simp⟩, rfl⟩
      · exact .inl (List.mem_cons_of_mem _ later)
    · rcases List.mem_cons.mp member with rfl | later
      · exact .inl (by simp)
      · rcases ih later with here | ⟨name, v, before, content⟩
        · exact .inl (List.mem_cons_of_mem _ here)
        · exact .inr ⟨name.imp_right (List.mem_cons_of_mem _), v,
            before.imp_right fun ⟨k', old⟩ => ⟨k', List.mem_cons_of_mem _ old⟩, content⟩

theorem mem_insert {e : key × value} (member : e ∈ t.insert order k v) :
    (e.1 = k ∨ e.1 ∈ t.keys) ∧ (e.2 = v ∨ e ∈ t) := by
  rcases mem_alter member with old | ⟨name, _, _, content⟩
  · exact ⟨.inr (List.mem_map_of_mem old), .inr old⟩
  · exact ⟨name, .inl content⟩

theorem alter_ascending [Std.TransCmp order] (ascending : t.Ascending order) :
    (t.alter order k start f).Ascending order := by
  induction t with
  | nil => exact List.pairwise_singleton _ _
  | cons head rest ih =>
    obtain ⟨k', v'⟩ := head
    obtain ⟨front, later⟩ := List.pairwise_cons.mp ascending
    simp only [alter]
    split
    · rename_i below
      refine List.pairwise_cons.mpr ⟨fun e member => ?_, ascending⟩
      rcases List.mem_cons.mp member with same | member
      · subst same
        exact below
      · exact Std.TransCmp.lt_trans below (front e member)
    · exact List.pairwise_cons.mpr ⟨fun e member => front e member, later⟩
    · rename_i above
      refine List.pairwise_cons.mpr ⟨fun e member => ?_, ih later⟩
      rcases mem_alter member with old | ⟨rfl | listed, _⟩
      · exact front e old
      · exact Std.OrientedCmp.lt_of_gt above
      · obtain ⟨other, member, same⟩ := List.mem_map.mp listed
        rw [← same]
        exact front other member

theorem insert_ascending [Std.TransCmp order] (ascending : t.Ascending order) :
    (t.insert order k v).Ascending order := alter_ascending ascending

theorem Ascending.nodup_keys [Std.ReflCmp order] (ascending : t.Ascending order) :
    t.keys.Nodup := by
  refine List.pairwise_map.mpr (ascending.imp ?_)
  intro a b below same
  have self : order b.1 b.1 = .eq := Std.ReflCmp.compare_self
  rw [same, self] at below
  cases below

theorem find?_alter_self [Std.ReflCmp order] :
    (t.alter order k start f).find? order k = some (f ((t.find? order k).getD start)) := by
  induction t with
  | nil => simp [alter, find?, Std.ReflCmp.compare_self]
  | cons head rest ih =>
    obtain ⟨k', v⟩ := head
    simp only [alter, find?]
    split <;> rename_i place
    · simp [find?, Std.ReflCmp.compare_self]
    · simp [find?, place]
    · simp only [find?, place]
      exact ih

theorem find?_alter_of_ne [Std.TransCmp order] {k' : key} (other : order k' k ≠ .eq) :
    (t.alter order k start f).find? order k' = t.find? order k' := by
  induction t with
  | nil =>
    simp only [alter, find?]
    split <;> simp_all
  | cons head rest ih =>
    obtain ⟨k'', v⟩ := head
    simp only [alter]
    split <;> rename_i place
    · -- The new entry stands in front: keys below it are below the old head as well.
      rw [find?]
      split <;> rename_i below
      · rw [find?, Std.TransCmp.lt_trans below place]
      · exact absurd below other
      · rfl
    · rw [Std.TransCmp.congr_right place] at other
      simp only [find?]
      split <;> trivial
    · simp only [find?, ih]

theorem find?_insert [Std.TransCmp order] [Std.LawfulEqCmp order] [DecidableEq key] {k' : key} :
    (t.insert order k v).find? order k' = if k' = k then some v else t.find? order k' := by
  by_cases same : k' = k
  · subst same
    rw [if_pos rfl]
    exact find?_alter_self
  · rw [if_neg same]
    exact find?_alter_of_ne fun equal => same (Std.LawfulEqCmp.eq_of_compare equal)

theorem mem_keys_alter [Std.LawfulEqCmp order] {k' : key} :
    k' ∈ (t.alter order k start f).keys ↔ k' = k ∨ k' ∈ t.keys := by
  induction t with
  | nil => simp [alter, keys]
  | cons head rest ih =>
    obtain ⟨k'', v⟩ := head
    simp only [keys, alter] at ih ⊢
    split <;> rename_i place
    · simp
    · simp [Std.LawfulEqCmp.eq_of_compare place]
    · simp [ih, or_left_comm]

/-- Changes that commute can be made in either order, at one key or at two. -/
theorem alter_comm [Std.TransCmp order] [Std.LawfulEqCmp order] {l : key} {g : value → value}
    (comm : ∀ v, f (g v) = g (f v)) :
    (t.alter order l start g).alter order k start f =
      (t.alter order k start f).alter order l start g := by
  induction t with
  | nil =>
    simp only [alter]
    cases between : order k l with
    | lt => simp [Std.OrientedCmp.gt_of_lt between]
    | eq =>
      cases Std.LawfulEqCmp.eq_of_compare between
      simp [Std.ReflCmp.compare_self, comm]
    | gt => simp [Std.OrientedCmp.lt_of_gt between]
  | cons head rest ih =>
    obtain ⟨h, v⟩ := head
    cases front : order k h with
    | lt =>
      cases back : order l h with
      | lt =>
        cases between : order k l with
        | lt => simp [alter, front, back, between, Std.OrientedCmp.gt_of_lt between]
        | eq =>
          cases Std.LawfulEqCmp.eq_of_compare between
          simp [alter, front, Std.ReflCmp.compare_self, comm]
        | gt => simp [alter, front, back, between, Std.OrientedCmp.lt_of_gt between]
      | eq =>
        cases Std.LawfulEqCmp.eq_of_compare back
        simp [alter, front, Std.OrientedCmp.gt_of_lt front, Std.ReflCmp.compare_self]
      | gt =>
        have above := Std.OrientedCmp.gt_of_lt
          (Std.TransCmp.lt_trans front (Std.OrientedCmp.lt_of_gt back))
        simp [alter, front, back, above]
    | eq =>
      cases Std.LawfulEqCmp.eq_of_compare front
      cases back : order l k with
      | lt => simp [alter, back, Std.OrientedCmp.gt_of_lt back, Std.ReflCmp.compare_self]
      | eq =>
        cases Std.LawfulEqCmp.eq_of_compare back
        simp [alter, Std.ReflCmp.compare_self, comm]
      | gt => simp [alter, back, Std.ReflCmp.compare_self]
    | gt =>
      cases back : order l h with
      | lt =>
        have above := Std.OrientedCmp.gt_of_lt
          (Std.TransCmp.lt_trans back (Std.OrientedCmp.lt_of_gt front))
        simp [alter, front, back, above]
      | eq =>
        cases Std.LawfulEqCmp.eq_of_compare back
        simp [alter, front, Std.ReflCmp.compare_self]
      | gt => simp [alter, front, back, ih]

end Alter

end Table

end Admission
