import Admission.Proofs.Filter.Words
import Mathlib.Data.List.Perm.Subperm
import Mathlib.Data.List.Sort
/-!
The form of lengths in words. The amounts are reduced: their units go down, and no number makes up
one of the next larger unit. There is one reduced list for each number of seconds, so the words of a
length are the only text in this form that says its whole seconds.
-/

namespace Admission.LengthLimit

open Time (Span)

/-- The number makes up none of the next larger unit. -/
structure Amount.Proper (a : Amount) : Prop where
  hours : a.unit = "hour" → a.number < 24
  minutes : a.unit = "minute" → a.number < 60
  seconds : a.unit = "second" → a.number < 60

/-- Amounts from the largest unit down, of which none is zero but for a lone zero of seconds. -/
structure Reduced (as : List Amount) : Prop where
  some : as ≠ []
  listed : ∀ a ∈ as, a.kind ∈ units
  descending : as.Pairwise fun a b => b.size < a.size
  counted : (∀ a ∈ as, 1 ≤ a.number) ∨ as = [⟨0, 1, "second"⟩]
  proper : ∀ a ∈ as, a.Proper

theorem units_descending : units.Pairwise fun u v => v.1 < u.1 := by decide

theorem proper_zero {a : Amount} (zero : a.number = 0) : a.Proper := by
  constructor <;> intro _ <;> omega

theorem proper_of_mem_shares {n : Nat} {a : Amount} (member : a ∈ shares n units) : a.Proper := by
  simp only [shares, units, List.mem_cons, List.not_mem_nil, or_false] at member
  rcases member with rfl | rfl | rfl | rfl
  all_goals constructor <;> simp <;> omega

theorem reduced_amounts (n : Nat) : Reduced (amounts n) := by
  have listed := listed_amounts n
  rcases amounts_cases n with ⟨_, same⟩ | ⟨some, same⟩
  · rw [same] at listed ⊢
    exact ⟨by decide, listed, by simp, .inr rfl, by simp [proper_zero]⟩
  · rw [same] at listed ⊢
    have order : ((shares n units).map Amount.kind).Pairwise fun u v => v.1 < u.1 := by
      rw [kinds_shares]
      exact units_descending
    refine ⟨some, listed, ?descending, .inl ?counted, ?proper⟩
    case descending => exact (List.pairwise_map.mp order).sublist List.filter_sublist
    case counted =>
      intro a member
      exact Nat.pos_of_ne_zero (mem_nonzero.mp member).2
    case proper =>
      intro a member
      exact proper_of_mem_shares (mem_nonzero.mp member).1

/-- The amounts behind each one make up less than one of its unit. -/
def Carried : List Amount → Prop
  | [] => True
  | a :: as => total as < a.size ∧ Carried as

/-- Amounts that are carried are what their units take of the total. -/
theorem shares_total {as : List Amount} (carried : Carried as) :
    shares (total as) (as.map Amount.kind) = as := by
  induction as with
  | nil => rfl
  | cons a as ih =>
    obtain ⟨small, carried⟩ := carried
    have size : 0 < a.size := Nat.zero_lt_of_lt small
    have number : total (a :: as) / a.size = a.number := by
      rw [total, Amount.seconds, Nat.mul_comm, Nat.mul_add_div size, Nat.div_eq_of_lt small,
        Nat.add_zero]
    have rest : total (a :: as) % a.size = total as := by
      rw [total, Amount.seconds, Nat.mul_add_mod', Nat.mod_eq_of_lt small]
    rw [List.map_cons, Amount.kind, shares, number, rest, ih carried]

/-- With every unit present, proper amounts are carried. -/
theorem carried_of_proper {as : List Amount} (kinds : as.map Amount.kind = units)
    (proper : ∀ a ∈ as, a.Proper) : Carried as := by
  obtain ⟨day, _, rfl, isDay, kinds⟩ := List.map_eq_cons_iff.mp kinds
  obtain ⟨hour, _, rfl, isHour, kinds⟩ := List.map_eq_cons_iff.mp kinds
  obtain ⟨minute, _, rfl, isMinute, kinds⟩ := List.map_eq_cons_iff.mp kinds
  obtain ⟨second, _, rfl, isSecond, kinds⟩ := List.map_eq_cons_iff.mp kinds
  cases List.map_eq_nil_iff.mp kinds
  have hours := (proper hour (by simp)).hours (congrArg Prod.snd isHour)
  have minutes := (proper minute (by simp)).minutes (congrArg Prod.snd isMinute)
  have seconds := (proper second (by simp)).seconds (congrArg Prod.snd isSecond)
  have daySize : day.size = 86400 := congrArg Prod.fst isDay
  have hourSize : hour.size = 3600 := congrArg Prod.fst isHour
  have minuteSize : minute.size = 60 := congrArg Prod.fst isMinute
  have secondSize : second.size = 1 := congrArg Prod.fst isSecond
  simp only [Carried, total, Amount.seconds, daySize, hourSize, minuteSize, secondSize]
  exact ⟨by omega, by omega, by omega, by omega, trivial⟩

/-- The units that are left out can be put back with a zero. -/
theorem exists_nonzero {us : List (Nat × String)} {as : List Amount}
    (sub : (as.map Amount.kind).Sublist us) (counted : ∀ a ∈ as, 1 ≤ a.number) :
    ∃ bs : List Amount, bs.map Amount.kind = us ∧ nonzero bs = as := by
  induction us generalizing as with
  | nil =>
    cases List.map_eq_nil_iff.mp (List.sublist_nil.mp sub)
    exact ⟨[], rfl, rfl⟩
  | cons u us ih =>
    rcases List.sublist_cons_iff.mp sub with later | ⟨kinds, same, later⟩
    · obtain ⟨bs, rfl, told⟩ := ih later counted
      exact ⟨⟨0, u.1, u.2⟩ :: bs, rfl, (nonzero_cons_zero rfl bs).trans told⟩
    · obtain ⟨a, as, rfl, rfl, rfl⟩ := List.map_eq_cons_iff.mp same
      obtain ⟨first, rest⟩ := List.forall_mem_cons.mp counted
      obtain ⟨bs, rfl, told⟩ := ih later rest
      refine ⟨a :: bs, rfl, ?_⟩
      rw [nonzero_cons (Nat.ne_of_gt first), told]

section Reduced

variable {as : List Amount} {text : String}

theorem Reduced.sublist (reduced : Reduced as) : (as.map Amount.kind).Sublist units := by
  have descending : (as.map Amount.kind).Pairwise fun u v => v.1 < u.1 :=
    List.pairwise_map.mpr reduced.descending
  have distinct : (as.map Amount.kind).Nodup := by
    apply descending.imp
    rintro u v below rfl
    exact Nat.lt_irrefl _ below
  have known : as.map Amount.kind ⊆ units := by
    intro u member
    obtain ⟨a, listed, rfl⟩ := List.mem_map.mp member
    exact reduced.listed a listed
  have : Std.Antisymm fun u v : Nat × String => v.1 < u.1 :=
    ⟨fun _ _ below above => absurd below (Nat.lt_asymm above)⟩
  exact List.sublist_of_subperm_of_pairwise (distinct.subperm known) descending units_descending

/-- What is reduced is told by its total. -/
theorem Reduced.eq_amounts (reduced : Reduced as) : as = amounts (total as) := by
  rcases reduced.counted with counted | rfl
  · obtain ⟨bs, kinds, rfl⟩ := exists_nonzero reduced.sublist counted
    have proper : ∀ b ∈ bs, b.Proper := by
      intro b member
      by_cases zero : b.number = 0
      · exact proper_zero zero
      · exact reduced.proper b (mem_nonzero.mpr ⟨member, zero⟩)
    have same : shares (total bs) units = bs := by
      rw [← kinds]
      exact shares_total (carried_of_proper kinds proper)
    rw [total_nonzero, amounts, same, if_neg reduced.some]
  · decide

theorem InWords.eq_human {s : Span} (words : InWords text (amounts s.wholeSeconds.toNat)) :
    text = human s :=
  String.toList_injective (Text.splitOn_injective ' ' (words.trans (inWords_human s).symm))

end Reduced

/-- The words of a length are the one text of reduced amounts that make up its whole seconds, or
zero for a negative one. They are read back as that number of seconds, so two lengths are worded
alike only if they have the same. -/
theorem human_exact (s : Span) :
    (∀ text, text = human s ↔
      ∃ as, InWords text as ∧ Reduced as ∧ (total as : Int) = max 0 s.wholeSeconds) ∧
    seconds? (human s) = some (max 0 s.wholeSeconds).toNat ∧
    ∀ t : Span, human s = human t ↔ max 0 s.wholeSeconds = max 0 t.wholeSeconds := by
  have whole : ∀ t : Span, (t.wholeSeconds.toNat : Int) = max 0 t.wholeSeconds := by
    intro t
    omega
  refine ⟨?form, ?back, ?alike⟩
  case form =>
    intro text
    constructor
    · rintro rfl
      refine ⟨_, inWords_human s, reduced_amounts _, ?_⟩
      rw [total_amounts, whole]
    · rintro ⟨as, words, reduced, same⟩
      rw [← whole] at same
      rw [reduced.eq_amounts, Int.ofNat_inj.mp same] at words
      exact words.eq_human
  case back => rw [seconds?_human, ← whole, Int.toNat_natCast]
  case alike =>
    intro t
    constructor
    · intro same
      have read := congrArg seconds? same
      rw [seconds?_human, seconds?_human] at read
      rw [← whole, ← whole, Option.some.inj read]
    · intro same
      rw [← whole, ← whole] at same
      apply InWords.eq_human
      rw [← Int.ofNat_inj.mp same]
      exact inWords_human s

example : human (Span.ofSeconds 93784) = "1 day 2 hours 3 minutes 4 seconds" := by decide

end Admission.LengthLimit
