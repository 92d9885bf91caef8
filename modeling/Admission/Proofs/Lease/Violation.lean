import Admission.Lease.Violation
import Mathlib.Data.List.Induction
import Mathlib.Data.List.Nodup
/-!
Sound leases and the first violation of the others. The scan keeps the ids it has read, so where it
stands they are the ids of everything before, and what it reports is the first reservation or
allocation that breaks a rule. The last statement says which ids it can report as shared.
-/

namespace Admission

def Reservation.ids (r : Reservation) : List String := r.allocations.map (·.id)

namespace Lease

def ids (rs : List Reservation) : List String := rs.flatMap Reservation.ids

/-- Reservations without a violation. -/
structure Clear (rs : List Reservation) : Prop where
  counts : ∀ r ∈ rs, r.min ≤ r.max
  distinct : (ids rs).Nodup

structure Sound (l : Lease) : Prop where
  window : l.startDate < l.endDate
  reservations : Clear l.reservations

/-- The violation of some reservations that has none before it. Of one reservation the counts come
before the allocations. -/
inductive First (rs : List Reservation) : Violation → Prop where
  | counts {before after : List Reservation} {r : Reservation} (split : rs = before ++ r :: after)
      (clear : Clear before) (broken : r.max < r.min) :
      First rs (.counts before.length r.resourceType r.min r.max)
  | allocation {before after : List Reservation} {r : Reservation}
      {earlier later : List Allocation} {a : Allocation} (split : rs = before ++ r :: after)
      (clear : Clear before) (counts : r.min ≤ r.max) (own : r.allocations = earlier ++ a :: later)
      (distinct : (ids before ++ earlier.map (·.id)).Nodup)
      (repeated : a.id ∈ ids before ++ earlier.map (·.id)) : First rs (.allocation a.id)

/-- The window comes before the reservations. -/
inductive Breaks (l : Lease) : Violation → Prop where
  | window (empty : l.endDate ≤ l.startDate) : Breaks l (.window l.endDate l.startDate)
  | reservations {v : Violation} (ordered : l.startDate < l.endDate)
      (first : First l.reservations v) : Breaks l v

/-! Something breaks a rule first, or nothing does. -/

theorem exists_repeated {read : List String} (distinct : read.Nodup) (as : List Allocation) :
    (read ++ as.map (·.id)).Nodup ∨
      ∃ earlier a later, as = earlier ++ a :: later ∧ (read ++ earlier.map (·.id)).Nodup ∧
        a.id ∈ read ++ earlier.map (·.id) := by
  induction as using List.reverseRecOn with
  | nil => exact .inl (by simpa using distinct)
  | append_singleton as a ih =>
    rcases ih with clear | ⟨earlier, b, later, rfl, clear, repeated⟩
    · by_cases repeated : a.id ∈ read ++ as.map (·.id)
      · exact .inr ⟨as, a, [], rfl, clear, repeated⟩
      · rw [List.map_append, List.map_singleton, ← List.append_assoc]
        exact .inl (clear.append (List.nodup_singleton _) (by simpa using repeated))
    · exact .inr ⟨earlier, b, later ++ [a], by simp, clear, repeated⟩

theorem ids_append (rs rs' : List Reservation) : ids (rs ++ rs') = ids rs ++ ids rs' :=
  List.flatMap_append

theorem ids_singleton (r : Reservation) : ids [r] = r.ids := List.flatMap_singleton ..

theorem First.append {rs : List Reservation} {v : Violation} (first : First rs v)
    (more : List Reservation) : First (rs ++ more) v := by
  cases first with
  | @counts before after r split clear broken =>
    have split' : rs ++ more = before ++ r :: (after ++ more) := by simp [split]
    exact .counts split' clear broken
  | @allocation before after r earlier later a split clear counts own distinct repeated =>
    have split' : rs ++ more = before ++ r :: (after ++ more) := by simp [split]
    exact .allocation split' clear counts own distinct repeated

theorem clear_or_first (rs : List Reservation) : Clear rs ∨ ∃ v, First rs v := by
  induction rs using List.reverseRecOn with
  | nil => exact .inl ⟨by simp, by simp [ids]⟩
  | append_singleton rs r ih =>
    rcases ih with clear | ⟨v, first⟩
    · by_cases counts : r.min ≤ r.max
      · rcases exists_repeated clear.distinct r.allocations with
          distinct | ⟨earlier, a, later, own, distinct, repeated⟩
        · refine .inl ⟨?_, ?_⟩
          · simpa [or_imp, forall_and] using ⟨clear.counts, counts⟩
          · rw [ids_append, ids_singleton]
            exact distinct
        · exact .inr ⟨_, .allocation rfl clear counts own distinct repeated⟩
      · exact .inr ⟨_, .counts rfl clear (Nat.not_le.mp counts)⟩
    · exact .inr ⟨v, first.append [r]⟩

/-! What the scan reads without a report, and where it stops. -/

theorem scanAllocations_append {read : List String} {earlier : List Allocation}
    (distinct : (read ++ earlier.map (·.id)).Nodup) (rest : List Allocation) :
    scanAllocations read.reverse (earlier ++ rest) =
      scanAllocations (read ++ earlier.map (·.id)).reverse rest := by
  induction earlier generalizing read with
  | nil => simp
  | cons a earlier ih =>
    have moved : read ++ (a :: earlier).map (·.id) = read ++ [a.id] ++ earlier.map (·.id) := by
      simp
    have fresh : a.id ∉ read.reverse := by
      have apart := List.disjoint_of_nodup_append distinct
      exact fun read => apart (List.mem_reverse.mp read) (by simp)
    rw [moved] at distinct ⊢
    rw [← ih distinct, List.cons_append, scanAllocations, if_neg fresh, List.reverse_append]
    rfl

theorem scanAllocations_ok {read : List String} {as : List Allocation}
    (distinct : (read ++ as.map (·.id)).Nodup) :
    scanAllocations read.reverse as = .ok (read ++ as.map (·.id)).reverse := by
  have passed := scanAllocations_append distinct []
  rwa [List.append_nil] at passed

theorem scanReservations_append (index : Nat) (read : List String) {before : List Reservation}
    (counts : ∀ r ∈ before, r.min ≤ r.max) (distinct : (read ++ ids before).Nodup)
    (rest : List Reservation) :
    scanReservations index read.reverse (before ++ rest) =
      scanReservations (index + before.length) (read ++ ids before).reverse rest := by
  induction before generalizing index read with
  | nil => simp [ids]
  | cons r before ih =>
    obtain ⟨own, others⟩ := List.forall_mem_cons.mp counts
    have moved : read ++ ids (r :: before) = read ++ r.ids ++ ids before := by simp [ids]
    rw [moved] at distinct ⊢
    have passed := scanAllocations_ok (List.nodup_append.mp distinct).1
    rw [List.cons_append, scanReservations, if_neg (Nat.not_lt.mpr own), passed]
    simp only
    rw [← Reservation.ids, ih (index + 1) (read ++ r.ids) others distinct, List.length_cons,
      Nat.add_right_comm, Nat.add_assoc]

/-- Where the scan of a lease stands behind reservations without a violation. -/
theorem scan_append {before : List Reservation} (clear : Clear before) (rest : List Reservation) :
    scanReservations 0 [] (before ++ rest) =
      scanReservations before.length (ids before).reverse rest := by
  have reached := scanReservations_append 0 [] clear.counts clear.distinct rest
  rwa [Nat.zero_add] at reached

theorem scan_of_clear {rs : List Reservation} (clear : Clear rs) :
    scanReservations 0 [] rs = none := by
  have passed := scan_append clear []
  rwa [List.append_nil] at passed

theorem scan_of_first {rs : List Reservation} {v : Violation} (first : First rs v) :
    scanReservations 0 [] rs = some v := by
  cases first with
  | counts split clear broken => rw [split, scan_append clear, scanReservations, if_pos broken]
  | @allocation before _ r earlier _ a split clear counts own distinct repeated =>
    have stopped : scanAllocations (ids before).reverse r.allocations = .error a.id := by
      rw [own, scanAllocations_append distinct, scanAllocations,
        if_pos (List.mem_reverse.mpr repeated)]
    rw [split, scan_append clear, scanReservations, if_neg (Nat.not_lt.mpr counts), stopped]

theorem scan_eq_none_iff {rs : List Reservation} : scanReservations 0 [] rs = none ↔ Clear rs := by
  constructor
  · intro silent
    rcases clear_or_first rs with clear | ⟨v, first⟩
    · exact clear
    · cases silent.symm.trans (scan_of_first first)
  · exact scan_of_clear

theorem scan_eq_some_iff {rs : List Reservation} {v : Violation} :
    scanReservations 0 [] rs = some v ↔ First rs v := by
  constructor
  · intro found
    rcases clear_or_first rs with clear | ⟨v', first⟩
    · cases (scan_of_clear clear).symm.trans found
    · cases (scan_of_first first).symm.trans found
      exact first
  · exact scan_of_first

theorem violation?_eq_none_iff {l : Lease} : l.violation? = none ↔ l.Sound := by
  unfold violation?
  by_cases empty : l.endDate ≤ l.startDate
  · rw [if_pos empty]
    exact iff_of_false nofun fun sound => empty sound.window
  · rw [if_neg empty, scan_eq_none_iff]
    exact ⟨fun clear => ⟨Decidable.not_not.mp empty, clear⟩, Sound.reservations⟩

theorem violation?_eq_some_iff {l : Lease} {v : Violation} :
    l.violation? = some v ↔ l.Breaks v := by
  unfold violation?
  by_cases empty : l.endDate ≤ l.startDate
  · rw [if_pos empty, Option.some.injEq]
    constructor
    · rintro rfl
      exact .window empty
    · rintro (_ | ⟨ordered, _⟩)
      · rfl
      · exact absurd ordered empty
  · rw [if_neg empty, scan_eq_some_iff]
    constructor
    · exact .reservations (Decidable.not_not.mp empty)
    · rintro (empty' | ⟨_, first⟩)
      · exact absurd empty' empty
      · exact first

/-! Validation. -/

theorem validate_ok_iff_sound (l : Lease) : l.validate = .ok () ↔ l.Sound := by
  rw [← violation?_eq_none_iff, validate]
  cases l.violation? <;> simp

theorem validate_error_iff (l : Lease) (error : Error) :
    l.validate = .error error ↔ ∃ v, l.Breaks v ∧ error = .invalidRequest v.message := by
  simp only [← violation?_eq_some_iff, validate]
  cases l.violation? <;> simp [eq_comm]

theorem Breaks.unique {l : Lease} {v v' : Violation} (breaks : l.Breaks v) (breaks' : l.Breaks v') :
    v = v' := by
  have found := violation?_eq_some_iff.mpr breaks
  have found' := violation?_eq_some_iff.mpr breaks'
  exact Option.some.inj (found.symm.trans found')

/-- The same reservations in some order, each with the same allocations in some order. -/
def Rearranged (rs rs' : List Reservation) : Prop :=
  ∃ middle, rs.Perm middle ∧
    List.Forall₂ (fun r r' => ∃ as, r.allocations.Perm as ∧ r' = { r with allocations := as })
      middle rs'

theorem Rearranged.ids {rs rs' : List Reservation} (rearranged : Rearranged rs rs') :
    (ids rs).Perm (ids rs') := by
  obtain ⟨middle, shuffled, each⟩ := rearranged
  refine (shuffled.flatMap_right _).trans ?_
  clear shuffled
  induction each with
  | nil => exact .nil
  | cons same _ ih =>
    obtain ⟨as, own, rfl⟩ := same
    exact (own.map _).append ih

theorem Rearranged.counts {rs rs' : List Reservation} (rearranged : Rearranged rs rs') :
    (∀ r ∈ rs', r.min ≤ r.max) ↔ ∀ r ∈ rs, r.min ≤ r.max := by
  obtain ⟨middle, shuffled, each⟩ := rearranged
  simp only [shuffled.mem_iff]
  clear shuffled
  induction each with
  | nil => rfl
  | cons same _ ih =>
    obtain ⟨as, _, rfl⟩ := same
    simp only [List.forall_mem_cons, ih]

theorem Rearranged.clear_iff {rs rs' : List Reservation} (rearranged : Rearranged rs rs') :
    Clear rs' ↔ Clear rs := by
  constructor
  · rintro ⟨counts, distinct⟩
    exact ⟨rearranged.counts.mp counts, rearranged.ids.nodup_iff.mpr distinct⟩
  · rintro ⟨counts, distinct⟩
    exact ⟨rearranged.counts.mpr counts, rearranged.ids.nodup_iff.mp distinct⟩

/-- A lease is accepted exactly if it is sound, in whatever order its reservations stand and each of
them has its allocations. Of any other lease the first violation is reported, and there is one. The
report tells the two dates of the window, the reservation with its counts, or the id. -/
theorem validate_exact (l : Lease) :
    (l.validate = .ok () ↔ l.Sound) ∧
    (∀ error, l.validate = .error error ↔ ∃ v, l.Breaks v ∧ error = .invalidRequest (match v with
      | .window endDate startDate =>
          "lease end_date " ++ endDate.display ++ " must be after start_date " ++
            startDate.display
      | .counts index resourceType min max =>
          "reservation " ++ toString index ++ " (" ++ resourceType ++ "): min " ++ toString min ++
            " exceeds max " ++ toString max
      | .allocation id => "allocation " ++ id ++ " appears in more than one reservation")) ∧
    (¬ l.Sound → ∃! v, l.Breaks v) ∧
    ∀ rs, Rearranged l.reservations rs →
      ({ l with reservations := rs }.validate = .ok () ↔ l.validate = .ok ()) := by
  refine ⟨l.validate_ok_iff_sound, ?told, ?unique, ?order⟩
  case told =>
    intro error
    rw [validate_error_iff]
    refine exists_congr fun v => and_congr_right fun _ => ?_
    cases v <;> rfl
  case unique =>
    intro unsound
    cases found : l.violation? with
    | none => exact absurd (violation?_eq_none_iff.mp found) unsound
    | some v =>
      have breaks := violation?_eq_some_iff.mp found
      exact ⟨v, breaks, fun _ breaks' => breaks'.unique breaks⟩
  case order =>
    intro rs rearranged
    rw [validate_ok_iff_sound, validate_ok_iff_sound]
    constructor
    · rintro ⟨window, clear⟩
      exact ⟨window, rearranged.clear_iff.mp clear⟩
    · rintro ⟨window, clear⟩
      exact ⟨window, rearranged.clear_iff.mpr clear⟩

/-! Ids that are reported as shared. -/

/-- Reservations at two positions have an allocation with this id. -/
def Shares (l : Lease) (id : String) : Prop :=
  ∃ (i j : Nat) (r r' : Reservation), i < j ∧ l.reservations[i]? = some r ∧
    l.reservations[j]? = some r' ∧ id ∈ r.ids ∧ id ∈ r'.ids

/-- One reservation has the id twice. -/
def Doubles (l : Lease) (id : String) : Prop := ∃ r ∈ l.reservations, 2 ≤ r.ids.count id

def sharedError (id : String) : Error :=
  .invalidRequest ("allocation " ++ id ++ " appears in more than one reservation")

theorem head?_append {a b : String} {c : Char} (front : a.toList.head? = some c) :
    (a ++ b).toList.head? = some c := by
  rw [String.toList_append, List.head?_append, front]
  rfl

theorem sharedError_inj (id id' : String) (same : sharedError id = sharedError id') : id = id' := by
  rw [sharedError, sharedError, Error.invalidRequest.injEq] at same
  have texts := congrArg String.toList same
  rw [String.toList_append, String.toList_append, String.toList_append, String.toList_append,
    List.append_left_inj, List.append_right_inj] at texts
  exact String.toList_injective texts

/-- Texts about windows, counts and allocations begin differently. -/
theorem message_eq_shared_iff (v : Violation) (id : String) :
    Error.invalidRequest v.message = sharedError id ↔ v = .allocation id := by
  have shared : ("allocation " ++ id ++ " appears in more than one reservation").toList.head? =
      some 'a' := head?_append (head?_append rfl)
  cases v with
  | window endDate startDate =>
    have front : (Violation.window endDate startDate).message.toList.head? = some 'l' := by
      iterate 3 apply head?_append
      rfl
    refine iff_of_false (fun same => ?_) nofun
    rw [Error.invalidRequest.inj same, shared] at front
    cases front
  | counts index resourceType min max =>
    have front : (Violation.counts index resourceType min max).message.toList.head? = some 'r' := by
      iterate 7 apply head?_append
      rfl
    refine iff_of_false (fun same => ?_) nofun
    rw [Error.invalidRequest.inj same, shared] at front
    cases front
  | allocation other =>
    constructor
    · intro same
      rw [sharedError_inj other id same]
    · rintro ⟨⟩
      rfl

theorem validate_eq_sharedError_iff (l : Lease) (id : String) :
    l.validate = .error (sharedError id) ↔ l.Breaks (.allocation id) := by
  rw [validate_error_iff]
  constructor
  · rintro ⟨v, breaks, same⟩
    rwa [← (message_eq_shared_iff v id).mp same.symm]
  · intro breaks
    exact ⟨_, breaks, ((message_eq_shared_iff _ id).mpr rfl).symm⟩

theorem shares_or_doubles {l : Lease} {id : String} (breaks : l.Breaks (.allocation id)) :
    l.Shares id ∨ l.Doubles id := by
  cases breaks with | reservations _ first =>
  cases first with | @allocation before _ r earlier _ a split _ _ own _ repeated =>
  have here : a.id ∈ r.ids := by simp [Reservation.ids, own]
  rcases List.mem_append.mp repeated with elsewhere | within
  · -- An id of an earlier reservation is shared with this one.
    obtain ⟨q, member, there⟩ := List.mem_flatMap.mp elsewhere
    obtain ⟨i, below, found⟩ := List.getElem_of_mem member
    refine .inl ⟨i, before.length, q, r, below, ?_, by simp [split], there, here⟩
    rw [split, List.getElem?_append_left below, List.getElem?_eq_getElem below, found]
  · refine .inr ⟨r, by simp [split], ?_⟩
    have once : 0 < (earlier.map (·.id)).count a.id := List.count_pos_iff.mpr within
    rw [Reservation.ids, own, List.map_append, List.map_cons, List.count_append,
      List.count_cons_self]
    omega

theorem not_clear_of_doubles {l : Lease} {id : String} (doubles : l.Doubles id) :
    ¬ Clear l.reservations := by
  rintro ⟨_, distinct⟩
  obtain ⟨r, member, twice⟩ := doubles
  have own : r.ids.Nodup := (List.nodup_flatMap.mp distinct).1 r member
  have once := List.nodup_iff_count_le_one.mp own id
  omega

/-- What is reported as shared is the id that is in the way first. It is shared, or one reservation
has it twice. Where a lease is in order otherwise and nothing is shared, something is reported all
the same exactly if some reservation has an id twice. -/
theorem sharedError_exact (l : Lease) :
    (∀ id, l.validate = .error (sharedError id) ↔ l.Breaks (.allocation id)) ∧
    (∀ id, l.validate = .error (sharedError id) → l.Shares id ∨ l.Doubles id) ∧
    (l.startDate < l.endDate → (∀ r ∈ l.reservations, r.min ≤ r.max) → (∀ id, ¬ l.Shares id) →
      ((∃ id, l.validate = .error (sharedError id)) ↔ ∃ id, l.Doubles id)) := by
  refine ⟨l.validate_eq_sharedError_iff, ?_⟩
  simp only [validate_eq_sharedError_iff]
  refine ⟨fun id => shares_or_doubles, ?_⟩
  intro ordered counts unshared
  constructor
  · rintro ⟨id, breaks⟩
    exact ⟨id, (shares_or_doubles breaks).resolve_left (unshared id)⟩
  · rintro ⟨id, doubles⟩
    obtain ⟨v, first⟩ := (clear_or_first l.reservations).resolve_left (not_clear_of_doubles doubles)
    have breaks : l.Breaks v := .reservations ordered first
    cases first with
    | counts split _ broken =>
      have fits := counts _ (split ▸ List.mem_append_cons_self)
      exact absurd broken (Nat.not_lt.mpr fits)
    | allocation => exact ⟨_, breaks⟩

-- The only reservation has the same allocation twice.
theorem sharedError_exact_single :
    let host : Allocation := { id := "x", hostname := "compute-01" }
    let l : Lease :=
      { startDate := ⟨21915, 0, 0⟩
        endDate := ⟨21916, 0, 0⟩
        reservations := [⟨"physical:host", 1, 1, "", "", [host, host]⟩] }
    l.validate = .error (sharedError "x") ∧ ¬ ∃ id, l.Shares id := by
  intro host l
  have ordered : l.startDate < l.endDate := by decide
  have counts : ∀ r ∈ l.reservations, r.min ≤ r.max := by decide
  have unshared (id : String) : ¬ l.Shares id := by
    rintro ⟨i, j, r, r', below, _, second, _⟩
    have last : j < l.reservations.length := (List.getElem?_eq_some_iff.mp second).1
    have only : l.reservations.length = 1 := rfl
    omega
  obtain ⟨_, told, reported⟩ := sharedError_exact l
  obtain ⟨id, failed⟩ := (reported ordered counts unshared).mpr ⟨"x", _, .head _, by decide⟩
  obtain ⟨r, member, twice⟩ := (told id failed).resolve_left (unshared id)
  have same : id = "x" := by
    cases List.mem_singleton.mp member
    have positive : id ∈ ["x", "x"] := List.count_pos_iff.mp (Nat.lt_of_lt_of_le Nat.two_pos twice)
    simpa using positive
  rw [same] at failed
  exact ⟨failed, fun ⟨id, shares⟩ => unshared id shares⟩

end Lease

end Admission
