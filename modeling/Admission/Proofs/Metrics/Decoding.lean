import Admission.Proofs.Metrics.Rendering
/-!
Metrics read back from their text. Calls leave tables in which a series stands once, with labels
that a collector takes; such metrics lose nothing when they are written.
-/

namespace Admission

namespace Metrics

/-! What calls leave behind. -/

/-- Each series once, with labels that a collector takes. -/
structure Tidy {value : Type} (t : Table Labels value) : Prop where
  ascending : t.Ascending Labels.order
  named : ∀ labels ∈ t.keys, Named labels

theorem tidy_nil {value : Type} : Tidy ([] : Table Labels value) :=
  ⟨.nil, by simp [Table.keys]⟩

theorem named_ofList {l : List Label} (named : Named l) : Named (Labels.ofList l) :=
  fun a member => named a (Labels.mem_ofList.mp member)

theorem Tidy.alter {value : Type} {t : Table Labels value} {l : List Label} {start : value}
    {f : value → value} (tidy : Tidy t) (named : Named l) :
    Tidy (t.alter Labels.order (Labels.ofList l) start f) where
  ascending := Table.alter_ascending tidy.ascending
  named labels member := by
    rcases Table.mem_keys_alter.mp member with rfl | old
    · exact named_ofList named
    · exact tidy.named labels old

structure Kept (m : Metrics) : Prop where
  counters : ∀ k : Meter, Tidy (k.of m)
  durations : Tidy m.remoteCallDuration
  whole : ∀ s ∈ m.remoteCallDuration, s.2.buckets.length = bounds.length

theorem kept_empty : Kept {} where
  counters k := by cases k <;> exact tidy_nil
  durations := tidy_nil
  whole := by simp

theorem Kept.apply {m : Metrics} {u : Update} (kept : Kept m) (named : Named u.labels) :
    Kept (u.apply m) := by
  cases u with
  | inc k l =>
    have durations : ((Update.inc k l).apply m).remoteCallDuration = m.remoteCallDuration :=
      Meter.remoteCallDuration_inc
    refine ⟨?_, durations ▸ kept.durations, durations ▸ kept.whole⟩
    intro k'
    rw [Update.apply, Meter.of_inc]
    split
    · exact (kept.counters k').alter named
    · exact kept.counters k'
  | observe l d =>
    refine ⟨fun k => Update.of_observe.symm ▸ kept.counters k, kept.durations.alter named, ?_⟩
    intro s member
    rcases Table.mem_alter member with old | ⟨_, v, before, observed⟩
    · exact kept.whole s old
    · have buckets : v.buckets.length = bounds.length := by
        rcases before with rfl | ⟨labels, old⟩
        · rfl
        · exact kept.whole _ old
      rw [observed]
      simp [Distribution.observe, buckets]

theorem kept_replay {m : Metrics} (kept : Kept m) {us : List Update}
    (named : ∀ u ∈ us, Named u.labels) : Kept (replay us m) := by
  induction us generalizing m with
  | nil => exact kept
  | cons u us ih =>
    obtain ⟨head, tail⟩ := List.forall_mem_cons.mp named
    exact ih (kept.apply head) tail

theorem mem_entries {m : Metrics} {e : Entry} :
    e ∈ m.entries ↔ (∃ k : Meter, ∃ s ∈ k.of m, e = .counter k s.1 s.2) ∨
      ∃ s ∈ m.remoteCallDuration, e = .histogram s.1 s.2 := by
  have all (k : Meter) : k ∈ Meter.all := by cases k <;> decide
  simp [entries, groups, Meter.entries, List.flatMap_map, List.mem_flatMap, all, @eq_comm _ e]

section Kept

variable {m : Metrics} (kept : Kept m)

include kept

theorem Kept.whole_entry {e : Entry} (member : e ∈ m.entries) : e.Whole := by
  rcases mem_entries.mp member with ⟨k, s, _, rfl⟩ | ⟨s, stored, rfl⟩
  · trivial
  · exact kept.whole s stored

theorem Kept.named_entry {e : Entry} (member : e ∈ m.entries) : Named e.labels := by
  rcases mem_entries.mp member with ⟨k, s, stored, rfl⟩ | ⟨s, stored, rfl⟩
  · exact (kept.counters k).named _ (List.mem_map_of_mem stored)
  · exact kept.durations.named _ (List.mem_map_of_mem stored)

theorem Kept.apart : (m.entries.map Entry.series).Nodup := by
  have series : m.entries.map Entry.series =
      Meter.all.flatMap (fun k => (k.of m).keys.map (Series.counter k)) ++
        m.remoteCallDuration.keys.map .histogram := by
    simp [entries, groups, Meter.entries, Table.keys, List.flatMap_map, List.map_flatMap,
      Function.comp_def, Entry.series]
  rw [series]
  refine List.nodup_append.mpr ⟨?counters, ?histograms, ?between⟩
  case counters =>
    refine List.nodup_flatMap.mpr ⟨fun k _ => ?_, ?_⟩
    · exact (kept.counters k).ascending.nodup_keys.map fun _ _ same => (Series.counter.inj same).2
    · have meters : Meter.all.Nodup := by decide
      refine meters.imp fun {k k'} other s here there => ?_
      obtain ⟨labels, _, rfl⟩ := List.mem_map.mp here
      obtain ⟨labels', _, same⟩ := List.mem_map.mp there
      exact other (Series.counter.inj same).1.symm
  case histograms =>
    exact kept.durations.ascending.nodup_keys.map fun _ _ same => Series.histogram.inj same
  case between =>
    intro s here s' there same
    obtain ⟨k, _, counter⟩ := List.mem_flatMap.mp here
    obtain ⟨labels, _, rfl⟩ := List.mem_map.mp counter
    obtain ⟨labels', _, rfl⟩ := List.mem_map.mp there
    cases same

end Kept

/-! Lines that can be read. -/

theorem named_withLe {labels : Labels} (named : Named labels) (bound : List Char) :
    Named (withLe labels bound) := by
  intro a member
  rcases List.mem_append.mp member with old | last
  · exact named a old
  · have legal : identifier "le".toList := by decide
    cases List.mem_singleton.mp last
    exact legal

theorem Entry.legible {e : Entry} (named : Named e.labels) {l : Line} (member : l ∈ e.lines) :
    l.Legible := by
  cases e with
  | counter k labels value =>
    cases List.mem_singleton.mp member
    exact ⟨by cases k <;> rfl, named⟩
  | histogram labels d =>
    rcases mem_lines_histogram.mp member with ⟨bound, n, _, rfl⟩ | rfl | rfl | rfl
    · exact ⟨rfl, named_withLe named _⟩
    · exact ⟨rfl, named_withLe named _⟩
    · exact ⟨rfl, named⟩
    · exact ⟨rfl, named⟩

theorem legible_header {m : Metrics} {l : Line} (member : l ∈ headers m) : l.Legible := by
  simp only [headers, groups, Meter.all, List.map_append, List.map_cons, List.map_nil,
    List.mem_append, List.mem_cons, List.not_mem_nil, or_false] at member
  rcases member with (rfl | rfl | rfl) | rfl <;> exact ⟨rfl, rfl⟩

/-! Lines that say one thing. -/

theorem withLe_inj {labels : Labels} {bound bound' : List Char}
    (same : withLe labels bound = withLe labels bound') : bound = bound' := by
  have last := List.append_cancel_left same
  exact String.ofList_injective (by simpa using last)

theorem natChars_inj {n n' : Nat} (same : natChars n = natChars n') : n = n' := by
  have read := Text.number?_toDigits n
  rw [← natChars, same, natChars, Text.number?_toDigits] at read
  exact (Option.some.inj read).symm

theorem natChars_ne_all (n : Nat) : natChars n ≠ "+Inf".toList := by
  intro same
  have digit : '+' ∈ natChars n := same ▸ by decide
  cases Text.digits_toDigits n _ digit

/-- What a line says, without the value. -/
def Line.key : Line → List Char × Option Labels
  | .type name _ => (name, none)
  | .sample name labels _ => (name, some labels)

theorem unambiguous_of_nodup {ls : List Line} (once : (ls.map Line.key).Nodup) :
    Unambiguous ls := by
  intro name labels v v' here there
  cases List.inj_on_of_nodup_map once here there rfl
  rfl

theorem Entry.nodup_keys {e : Entry} (whole : e.Whole) : (e.lines.map Line.key).Nodup := by
  cases e with
  | counter k labels value => exact List.nodup_singleton _
  | histogram labels d =>
    have keys : (Entry.histogram labels d).lines.map Line.key =
        bounds.map (fun bound => (bucketName, some (withLe labels (natChars bound)))) ++
          [(bucketName, some (withLe labels "+Inf".toList)), (sumName, some labels),
            (countName, some labels)] := by
      have first : (bounds.zip d.buckets).map Prod.fst = bounds :=
        List.map_fst_zip (Nat.le_of_eq whole.symm)
      conv_rhs => rw [← first]
      simp [Entry.lines, Line.key, Function.comp_def]
    rw [keys]
    refine List.nodup_append.mpr ⟨?buckets, ?others, ?between⟩
    case buckets =>
      have once : bounds.Nodup := by decide
      refine once.map fun bound bound' same => ?_
      exact natChars_inj (withLe_inj (Option.some.inj (Prod.mk.inj same).2))
    case others =>
      have names : [bucketName, sumName, countName].Nodup := by decide
      exact List.Nodup.of_map Prod.fst names
    case between =>
      intro key bucket other last same
      obtain ⟨bound, _, rfl⟩ := List.mem_map.mp bucket
      subst same
      simp only [List.mem_cons, Prod.mk.injEq, List.not_mem_nil, or_false] at last
      rcases last with ⟨_, all⟩ | ⟨sum, _⟩ | ⟨count, _⟩
      · exact natChars_ne_all bound (withLe_inj (Option.some.inj all))
      · exact absurd sum (by decide)
      · exact absurd count (by decide)

theorem headers_types {m : Metrics} {l : Line} (member : l ∈ headers m) : l.series? = none := by
  obtain ⟨g, listed, rfl⟩ := List.mem_map.mp member
  exact series?_header listed

theorem Kept.unambiguous {m : Metrics} (kept : Kept m) : Unambiguous m.lines := by
  intro name labels v v' here there
  have stored {v : UInt64} (member : .sample name labels v ∈ m.lines) :
      ∃ e ∈ m.entries, .sample name labels v ∈ e.lines := by
    rcases mem_lines.mp member with header | stored
    · simp [headers, groups, Meter.all] at header
    · exact stored
  obtain ⟨e, listed, inside⟩ := stored here
  obtain ⟨e', listed', inside'⟩ := stored there
  have about : (Line.sample name labels v).series? = (Line.sample name labels v').series? := rfl
  rw [series?_of_mem inside, series?_of_mem inside'] at about
  cases List.inj_on_of_nodup_map kept.apart listed listed' (Option.some.inj about)
  exact unambiguous_of_nodup (e.nodup_keys (kept.whole_entry listed)) _ _ _ _ inside inside'

theorem Kept.mem_recovered {m : Metrics} (kept : Kept m) {ls : List Line}
    (same : ∀ l, l ∈ ls ↔ l ∈ m.lines) {e : Entry} : e ∈ recovered ls ↔ e ∈ m.entries := by
  have unambiguous : Unambiguous ls := fun name labels v v' here there =>
    kept.unambiguous name labels v v' ((same _).mp here) ((same _).mp there)
  have whole {e : Entry} (stored : e ∈ m.entries) : recovered? ls e.series = some e :=
    recovered?_eq unambiguous (kept.whole_entry stored) fun l inside =>
      (same l).mpr (mem_lines.mpr (.inr ⟨e, stored, inside⟩))
  constructor
  · intro member
    obtain ⟨l, listed, found⟩ := List.mem_filterMap.mp member
    rcases mem_lines.mp ((same l).mp listed) with header | ⟨e', stored, inside⟩
    · rw [headers_types header] at found
      cases found
    · rw [series?_of_mem inside, Option.bind_some, whole stored] at found
      cases found
      exact stored
  · intro stored
    obtain ⟨l, inside⟩ : ∃ l, l ∈ e.lines := by
      cases e with
      | counter k labels value => exact ⟨_, List.mem_singleton_self _⟩
      | histogram labels d => exact ⟨_, mem_lines_histogram.mpr (.inr (.inl rfl))⟩
    refine List.mem_filterMap.mpr ⟨l, (same l).mpr (mem_lines.mpr (.inr ⟨e, stored, inside⟩)), ?_⟩
    rw [series?_of_mem inside, Option.bind_some, whole stored]

/-! Calls in another order. -/

/-- The same call, with its labels in another order. -/
inductive Update.Relabelled : Update → Update → Prop where
  | inc (k : Meter) {l l' : List Label} (perm : l.Perm l') : Relabelled (.inc k l) (.inc k l')
  | observe (d : Time.Delay) {l l' : List Label} (perm : l.Perm l') :
      Relabelled (.observe l d) (.observe l' d)

/-- The same calls in another order, with the labels of each in another order. -/
def Rearranged (us us' : List Update) : Prop :=
  ∃ vs, us.Perm vs ∧ List.Forall₂ Update.Relabelled vs us'

theorem Update.Relabelled.apply_eq {u u' : Update} (same : u.Relabelled u') (m : Metrics) :
    u.apply m = u'.apply m := by
  cases same with
  | inc k perm =>
    have series := Labels.ofList_eq_iff.mpr perm
    cases k <;> simp only [apply, Meter.inc, Counter.inc, series]
  | observe d perm =>
    simp only [apply, Histogram.observe, Labels.ofList_eq_iff.mpr perm]

theorem replay_rearranged {us us' : List Update} (same : Rearranged us us') (m : Metrics) :
    replay us m = replay us' m := by
  obtain ⟨vs, perm, relabelled⟩ := same
  rw [replay_perm m perm]
  clear perm
  induction relabelled generalizing m with
  | nil => rfl
  | cons head _ ih =>
    rw [replay, List.foldl_cons, head.apply_eq m]
    exact ih _

/-- The lines of a histogram that has all its buckets: one for each of nine bounds, from one
millisecond to five seconds, one without a bound, the sum and the count. -/
theorem lines_of_whole {labels : Labels} {d : Distribution}
    (whole : (Entry.histogram labels d).Whole) :
    d.buckets.length = 9 ∧ (Entry.histogram labels d).lines =
      (["1000", "5000", "10000", "50000", "100000", "250000", "500000", "1000000", "5000000",
        "+Inf"].zip (d.buckets ++ [d.count])).map (fun b =>
          .sample "leasegate_remote_call_duration_micros_bucket".toList
            (labels ++ [("le", b.1)]) b.2) ++
        [.sample "leasegate_remote_call_duration_micros_sum".toList labels d.sum,
          .sample "leasegate_remote_call_duration_micros_count".toList labels d.count] := by
  refine ⟨whole, ?_⟩
  have texts :
      ["1000", "5000", "10000", "50000", "100000", "250000", "500000", "1000000", "5000000",
        "+Inf"] = bounds.map (fun bound => String.ofList (natChars bound)) ++ ["+Inf"] := by
    decide
  have bucket : bucketName = "leasegate_remote_call_duration_micros_bucket".toList := by decide
  have sum : sumName = "leasegate_remote_call_duration_micros_sum".toList := by decide
  have count : countName = "leasegate_remote_call_duration_micros_count".toList := by decide
  have same : (bounds.map fun bound => String.ofList (natChars bound)).length =
      d.buckets.length := by
    rw [List.length_map]
    exact whole.symm
  rw [texts, List.zip_append same, List.map_append, List.zip_map_left, List.map_map,
    List.append_assoc, ← bucket, ← sum, ← count]
  rfl

/-- The text of metrics after calls with legal label names. It is read as its lines: the headers,
and for each series, which is stored once, the lines of its own, twelve for a histogram. What is
stored is recovered from the lines in any order. Lines of two series differ, and calls in another
order, with their labels in another order, make the same text. -/
theorem render_decodable (us : List Update) (named : ∀ u ∈ us, Named u.labels) :
    let m := replay us {}
    (lines? m.render.toList = some m.lines ∧ m.lines.flatMap Line.chars = m.render.toList) ∧
    (∀ l, l ∈ m.lines ↔ l ∈ headers m ∨ ∃ e ∈ m.entries, l ∈ e.lines) ∧
    (m.entries.map Entry.series).Nodup ∧
    (∀ e ∈ m.entries, e.Whole ∧ m.lines.filter (·.series? = some e.series) = e.lines) ∧
    (∀ labels d, .histogram labels d ∈ m.entries →
      d.buckets.length = 9 ∧ m.lines.filter (·.series? = some (.histogram labels)) =
        (["1000", "5000", "10000", "50000", "100000", "250000", "500000", "1000000", "5000000",
          "+Inf"].zip (d.buckets ++ [d.count])).map (fun b =>
            .sample "leasegate_remote_call_duration_micros_bucket".toList
              (labels ++ [("le", b.1)]) b.2) ++
          [.sample "leasegate_remote_call_duration_micros_sum".toList labels d.sum,
            .sample "leasegate_remote_call_duration_micros_count".toList labels d.count]) ∧
    (∀ ls : List Line, (∀ l, l ∈ ls ↔ l ∈ m.lines) →
      lines? (ls.flatMap Line.chars) = some ls ∧ ∀ e, e ∈ recovered ls ↔ e ∈ m.entries) ∧
    (∀ e e' : Entry, Named e.labels → Named e'.labels → ∀ l ∈ e.lines, ∀ l' ∈ e'.lines,
      l.chars = l'.chars → e.series = e'.series) ∧
    ∀ us', Rearranged us us' → (replay us' {}).render = m.render := by
  intro m
  have kept : Kept m := kept_replay kept_empty named
  have text : m.render.toList = m.lines.flatMap Line.chars := by
    rw [render, String.toList_ofList, chars_lines]
  have legible : ∀ l ∈ m.lines, l.Legible := by
    intro l member
    rcases mem_lines.mp member with header | ⟨e, stored, inside⟩
    · exact legible_header header
    · exact e.legible (kept.named_entry stored) inside
  have own : ∀ e ∈ m.entries, m.lines.filter (·.series? = some e.series) = e.lines :=
    fun e stored => filter_lines kept.apart stored
  refine ⟨⟨?read, text.symm⟩, fun _ => mem_lines, kept.apart, ?own, ?nine, ?recovered, ?apart,
    ?order⟩
  case read =>
    rw [text]
    exact lines?_chars legible
  case own =>
    intro e stored
    exact ⟨kept.whole_entry stored, own e stored⟩
  case nine =>
    intro labels d stored
    obtain ⟨nine, written⟩ := lines_of_whole (kept.whole_entry stored)
    exact ⟨nine, (own _ stored).trans written⟩
  case recovered =>
    intro ls same
    have all : ∀ l ∈ ls, l.Legible := fun l member => legible l ((same l).mp member)
    exact ⟨lines?_chars all, fun e => kept.mem_recovered same⟩
  case apart =>
    intro e e' legal legal' l inside l' inside' same
    have equal := Line.chars_inj (e.legible legal inside) (e'.legible legal' inside') same
    rw [← equal] at inside'
    exact Option.some.inj ((series?_of_mem inside).symm.trans (series?_of_mem inside'))
  case order =>
    intro us' rearranged
    rw [← replay_rearranged rearranged]

/-- A filter whose name has every mark that lines are made with. -/
theorem render_decodable_marks :
    let us : List Update :=
      [.inc .decisions [("hook", "h"), ("filter", "a\"b\\c\nd,e=\x7bf\x7d")],
        .observe [("hook", "h")] (.ofMillis 2)]
    (∀ u ∈ us, Named u.labels) ∧
    lines? (replay us {}).render.toList = some (replay us {}).lines ∧
    ∀ e, e ∈ recovered (replay us {}).lines ↔ e ∈ (replay us {}).entries := by
  intro us
  have named : ∀ u ∈ us, Named u.labels := by
    unfold Named
    decide
  obtain ⟨⟨read, _⟩, _, _, _, _, recovered, _⟩ := render_decodable us named
  exact ⟨named, read, (recovered _ fun _ => Iff.rfl).2⟩

end Metrics

end Admission
