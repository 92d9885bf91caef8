import Admission.Proofs.Metrics.Line
import Admission.Proofs.Metrics.Recording
/-!
The text of metrics is a list of lines from which every series is recovered. A line names its series
and a series has lines of its own, so neither the order of the lines nor how often one is read
matters.
-/

namespace Admission

namespace Metrics

/-! Series and what is stored of them. -/

inductive Series where
  | counter (meter : Meter) (labels : Labels)
  | histogram (labels : Labels)
  deriving DecidableEq

inductive Entry where
  | counter (meter : Meter) (labels : Labels) (value : UInt64)
  | histogram (labels : Labels) (d : Distribution)

def Meter.name : Meter → String
  | .decisions => "leasegate_decisions_total"
  | .exempt => "leasegate_exempt_total"
  | .remoteCalls => "leasegate_remote_calls_total"

def Meter.all : List Meter := [.decisions, .exempt, .remoteCalls]

def durationName : String := "leasegate_remote_call_duration_micros"

/-- A label that comes after the others. -/
def withLe (labels : Labels) (bound : List Char) : Labels := labels ++ [("le", .ofList bound)]

def bucketName : List Char := Histogram.named durationName "_bucket"

def sumName : List Char := Histogram.named durationName "_sum"

def countName : List Char := Histogram.named durationName "_count"

namespace Entry

def series : Entry → Series
  | counter k labels _ => .counter k labels
  | histogram labels _ => .histogram labels

def labels : Entry → Labels
  | counter _ labels _ => labels
  | histogram labels _ => labels

/-- A counter has one line, a histogram one for each bucket, one for all, the sum and the count. -/
def lines : Entry → List Line
  | counter k labels value => [.sample k.name.toList labels value]
  | histogram labels d =>
      (bounds.zip d.buckets).map (fun b => .sample bucketName (withLe labels (natChars b.1)) b.2) ++
        [.sample bucketName (withLe labels "+Inf".toList) d.count, .sample sumName labels d.sum,
          .sample countName labels d.count]

/-- A histogram has all its buckets. -/
def Whole : Entry → Prop
  | counter _ _ _ => True
  | histogram _ d => d.buckets.length = bounds.length

end Entry

def Meter.entries (m : Metrics) (k : Meter) : List Entry :=
  (k.of m).map fun s => .counter k s.1 s.2

/-- What is stored under each header. -/
def groups (m : Metrics) : List (Line × List Entry) :=
  Meter.all.map (fun k => (.type k.name.toList "counter".toList, k.entries m)) ++
    [(.type durationName.toList "histogram".toList,
      m.remoteCallDuration.map fun s => .histogram s.1 s.2)]

def entries (m : Metrics) : List Entry := (groups m).flatMap (·.2)

def headers (m : Metrics) : List Line := (groups m).map (·.1)

def lines (m : Metrics) : List Line :=
  (groups m).flatMap fun g => g.1 :: g.2.flatMap Entry.lines

/-! The lines make up the text. -/

theorem escape_digits {ds : List Char} (digits : Text.Digits ds) : ds.flatMap escapeChar = ds := by
  induction ds with
  | nil => rfl
  | cons c ds ih =>
    obtain ⟨head, tail⟩ := List.forall_mem_cons.mp digits
    have same : escapeChar c = [c] := by
      unfold escapeChar
      repeat' split
      · subst c
        cases head
      · subst c
        cases head
      · subst c
        cases head
      · rfl
    rw [List.flatMap_cons, same, ih tail, List.singleton_append]

theorem withBound_eq (labels : Labels) {bound : List Char}
    (plain : bound.flatMap escapeChar = bound) :
    Histogram.withBound labels bound = (withLe labels bound).chars := by
  have last : labelChars ("le", .ofList bound) = Histogram.bucketLabel bound := by
    simp [labelChars, plain, Histogram.bucketLabel]
  unfold withLe Labels.chars
  rw [List.map_append, List.map_singleton, last]
  cases labels with
  | nil => rfl
  | cons a labels => exact (joined_snoc _ (by simp)).symm

theorem lines_histogram (labels : Labels) (d : Distribution) :
    (Entry.histogram labels d).lines.flatMap Line.chars =
      Histogram.seriesChars durationName labels d := by
  have digits (n : Nat) : Histogram.withBound labels (natChars n) =
      (withLe labels (natChars n)).chars :=
    withBound_eq labels (escape_digits (Text.digits_toDigits n))
  have all : Histogram.withBound labels "+Inf".toList = (withLe labels "+Inf".toList).chars :=
    withBound_eq labels rfl
  simp only [Entry.lines, Histogram.seriesChars, digits, all, ← List.map_uncurry_zip_eq_zipWith,
    Function.uncurry_def, List.flatMap_def]
  simp [Line.chars, bucketName, sumName, countName, Function.comp_def]

theorem chars_lines (m : Metrics) : m.lines.flatMap Line.chars = m.chars := by
  have counter (k : Meter) : (k.entries m).flatMap (fun e => e.lines.flatMap Line.chars) =
      (k.of m).flatMap fun s => Metrics.sample k.name.toList s.1.chars s.2 := by
    simp [Meter.entries, List.flatMap_map, Entry.lines, Line.chars]
  have all : m.lines.flatMap Line.chars =
      (groups m).flatMap fun g => g.1.chars ++ g.2.flatMap fun e => e.lines.flatMap Line.chars := by
    simp [lines, List.flatMap_assoc]
  rw [all]
  simp [groups, Meter.all, counter, List.flatMap_map, lines_histogram, chars, Counter.chars,
    Histogram.chars, Line.chars, Meter.name, Meter.of, durationName]

/-! The lines of one series. -/

/-- The series that a line is about. The bound of a bucket is its last label. -/
def Line.series? : Line → Option Series
  | .type _ _ => none
  | .sample name labels _ =>
      match Meter.all.find? (·.name.toList = name) with
      | some k => some (.counter k labels)
      | none =>
          if name = bucketName then some (.histogram labels.dropLast)
          else if name = sumName ∨ name = countName then some (.histogram labels)
          else none

theorem mem_lines_histogram {labels : Labels} {d : Distribution} {l : Line} :
    l ∈ (Entry.histogram labels d).lines ↔
      (∃ bound n, (bound, n) ∈ bounds.zip d.buckets ∧
        l = .sample bucketName (withLe labels (natChars bound)) n) ∨
      l = .sample bucketName (withLe labels "+Inf".toList) d.count ∨
      l = .sample sumName labels d.sum ∨ l = .sample countName labels d.count := by
  simp [Entry.lines, @eq_comm _ l]

theorem series?_of_mem {e : Entry} {l : Line} (member : l ∈ e.lines) :
    l.series? = some e.series := by
  cases e with
  | counter k labels value =>
    cases List.mem_singleton.mp member
    cases k <;> rfl
  | histogram labels d =>
    have bucket (bound : List Char) (n : UInt64) :
        (Line.sample bucketName (withLe labels bound) n).series? = some (.histogram labels) := by
      have last : (withLe labels bound).dropLast = labels := List.dropLast_concat
      have own : (Line.sample bucketName (withLe labels bound) n).series? =
          some (.histogram (withLe labels bound).dropLast) := rfl
      rw [own, last]
    rcases mem_lines_histogram.mp member with ⟨bound, n, _, rfl⟩ | rfl | rfl | rfl
    · exact bucket _ n
    · exact bucket _ d.count
    · rfl
    · rfl

theorem series?_header {m : Metrics} {g : Line × List Entry} (member : g ∈ groups m) :
    g.1.series? = none := by
  rcases List.mem_append.mp member with counter | histogram
  · obtain ⟨k, _, rfl⟩ := List.mem_map.mp counter
    rfl
  · cases List.mem_singleton.mp histogram
    rfl

theorem mem_lines {m : Metrics} {l : Line} :
    l ∈ m.lines ↔ l ∈ headers m ∨ ∃ e ∈ m.entries, l ∈ e.lines := by
  unfold lines headers entries
  simp only [List.mem_flatMap, List.mem_map, List.mem_cons]
  constructor
  · rintro ⟨g, member, rfl | ⟨e, stored, inside⟩⟩
    · exact .inl ⟨g, member, rfl⟩
    · exact .inr ⟨e, ⟨g, member, stored⟩, inside⟩
  · rintro (⟨g, member, rfl⟩ | ⟨e, ⟨g, member, stored⟩, inside⟩)
    · exact ⟨g, member, .inl rfl⟩
    · exact ⟨g, member, .inr ⟨e, stored, inside⟩⟩

/-- What has marks of its own is all that is marked so. -/
theorem filter_flatMap_own {α β κ : Type} [DecidableEq κ] {es : List α} {f : α → List β}
    {key : α → κ} {mark : β → Option κ} (marked : ∀ e ∈ es, ∀ x ∈ f e, mark x = some (key e))
    (apart : (es.map key).Nodup) {e : α} (member : e ∈ es) :
    (es.flatMap f).filter (mark · = some (key e)) = f e := by
  induction es with
  | nil => cases member
  | cons e' es ih =>
    obtain ⟨head, tail⟩ := List.forall_mem_cons.mp marked
    obtain ⟨front, later⟩ := List.nodup_cons.mp apart
    rw [List.flatMap_cons, List.filter_append]
    rcases List.mem_cons.mp member with rfl | member
    · have all : (f e).filter (mark · = some (key e)) = f e :=
        List.filter_eq_self.mpr fun x inside => by simp [head x inside]
      have none : (es.flatMap f).filter (mark · = some (key e)) = [] := by
        refine List.filter_eq_nil_iff.mpr fun x inside => ?_
        obtain ⟨other, listed, inside⟩ := List.mem_flatMap.mp inside
        have differs : key other ≠ key e := fun same =>
          front (same ▸ List.mem_map_of_mem listed)
        simp [tail other listed x inside, differs]
      rw [all, none, List.append_nil]
    · have none : (f e').filter (mark · = some (key e)) = [] := by
        refine List.filter_eq_nil_iff.mpr fun x inside => ?_
        have differs : key e' ≠ key e := fun same =>
          front (same ▸ List.mem_map_of_mem member)
        simp [head x inside, differs]
      rw [none, List.nil_append, ih tail later member]

theorem filter_lines {m : Metrics} (apart : (m.entries.map Entry.series).Nodup) {e : Entry}
    (member : e ∈ m.entries) : m.lines.filter (·.series? = some e.series) = e.lines := by
  have own := filter_flatMap_own (fun e _ l inside => series?_of_mem (e := e) (l := l) inside)
    apart member
  rw [← own]
  unfold lines entries
  rw [List.flatMap_assoc, List.filter_flatMap, List.filter_flatMap]
  refine List.flatMap_congr ?_
  intro g listed
  rw [List.filter_cons_of_neg (by simp [series?_header listed])]

/-! Series recovered from lines. -/

/-- One name with one list of labels has one value. -/
def Unambiguous (ls : List Line) : Prop :=
  ∀ name labels v v', .sample name labels v ∈ ls → .sample name labels v' ∈ ls → v = v'

def valueAt? (ls : List Line) (name : List Char) (labels : Labels) : Option UInt64 :=
  ls.findSome? fun
    | .type _ _ => none
    | .sample name' labels' value => if name' = name ∧ labels' = labels then some value else none

/-- A series as lines in any order tell of it. -/
def recovered? (ls : List Line) : Series → Option Entry
  | .counter k labels => (valueAt? ls k.name.toList labels).map (.counter k labels)
  | .histogram labels =>
      (bounds.mapM fun bound => valueAt? ls bucketName (withLe labels (natChars bound))).bind
        fun buckets => (valueAt? ls sumName labels).bind
          fun sum => (valueAt? ls countName labels).map
            fun count => .histogram labels { count, sum, buckets }

/-- All the series that lines tell of. -/
def recovered (ls : List Line) : List Entry := ls.filterMap fun l => l.series?.bind (recovered? ls)

section Recovered

variable {ls : List Line} (unambiguous : Unambiguous ls)

include unambiguous

theorem valueAt?_of_mem {name : List Char} {labels : Labels} {v : UInt64}
    (member : .sample name labels v ∈ ls) : valueAt? ls name labels = some v := by
  cases found : valueAt? ls name labels with
  | none =>
    have absent := List.findSome?_eq_none_iff.mp found _ member
    simp at absent
  | some v' =>
    obtain ⟨l, listed, taken⟩ := List.exists_of_findSome?_eq_some found
    cases l with
    | type _ _ => cases taken
    | sample name' labels' value =>
      obtain ⟨⟨rfl, rfl⟩, same⟩ := Option.ite_none_right_eq_some.mp taken
      rw [← same, unambiguous _ _ _ _ listed member]

theorem recovered?_eq {e : Entry} (whole : e.Whole) (all : ∀ l ∈ e.lines, l ∈ ls) :
    recovered? ls e.series = some e := by
  cases e with
  | counter k labels value =>
    have here := valueAt?_of_mem unambiguous (all _ (List.mem_singleton_self _))
    rw [Entry.series, recovered?, here]
    rfl
  | histogram labels d =>
    have sum := valueAt?_of_mem unambiguous
      (all (.sample sumName labels d.sum) (by simp [mem_lines_histogram]))
    have count := valueAt?_of_mem unambiguous
      (all (.sample countName labels d.count) (by simp [mem_lines_histogram]))
    have buckets : (bounds.mapM fun bound =>
        valueAt? ls bucketName (withLe labels (natChars bound))) = some d.buckets := by
      refine mapM_eq_some_iff.mpr (List.forall₂_iff_zip.mpr ⟨whole.symm, ?_⟩)
      intro bound n zipped
      exact valueAt?_of_mem unambiguous
        (all _ (mem_lines_histogram.mpr (.inl ⟨bound, n, zipped, rfl⟩)))
    rw [Entry.series, recovered?, buckets, sum, count]
    rfl

end Recovered

end Metrics

end Admission
