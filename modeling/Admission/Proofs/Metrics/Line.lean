import Admission.Metrics.Histogram
import Admission.Proofs.Except
import Admission.Proofs.Text.Digits
import Admission.Proofs.Text.Run
/-!
The lines of the text that a collector reads, and a reader of them. A value may hold any characters:
what is escaped in it are exactly those that would end it, or the line, too early. So a line is read
as what was written, and two lines are alike only if they say the same.
-/

namespace Admission

namespace Metrics

open Text (splitOn number?)

/-- One line, without the end of the line. -/
inductive Line where
  | type (name kind : List Char)
  | sample (name : List Char) (labels : Labels) (value : UInt64)
  deriving DecidableEq

namespace Line

/-- The line as it is written, with its end. -/
def chars : Line → List Char
  | type name kind => typeLine name kind
  | sample name labels value => Metrics.sample name labels.chars value

end Line

/-! Values. -/

section Values

/-- Puts a code in the place of a character. -/
def replaced (mark : Char) (code value : List Char) : List Char :=
  value.flatMap fun c => if c = mark then code else [c]

theorem replaced_append (mark : Char) (code front back : List Char) :
    replaced mark code (front ++ back) = replaced mark code front ++ replaced mark code back :=
  List.flatMap_append

/-- Backslashes are escaped before the others, which bring new ones. -/
theorem replaced_eq_escape (value : List Char) :
    replaced '\n' ['\\', 'n'] (replaced '"' ['\\', '"'] (replaced '\\' ['\\', '\\'] value)) =
      value.flatMap escapeChar := by
  induction value with
  | nil => rfl
  | cons c value ih =>
    have one : replaced '\n' ['\\', 'n'] (replaced '"' ['\\', '"']
        (replaced '\\' ['\\', '\\'] [c])) = escapeChar c := by
      unfold escapeChar
      split
      · subst c
        rfl
      split
      · subst c
        rfl
      split
      · subst c
        rfl
      · simp [replaced, *]
    have parts : c :: value = [c] ++ value := rfl
    rw [parts, replaced_append, replaced_append, replaced_append, one, ih]
    rfl

/-- What a character stands for after a backslash. -/
def unescaped? (mark : Char) : Option Char :=
  if mark = 'n' then some '\n'
  else if mark = '"' ∨ mark = '\\' then some mark
  else none

/-- A value up to its closing quote, and what comes after it. -/
def unquoted? : List Char → Option (List Char × List Char)
  | [] => none
  | c :: rest =>
      if c = '"' then some ([], rest)
      else if c = '\\' then
        match rest with
        | [] => none
        | mark :: rest =>
            (unescaped? mark).bind fun d => (unquoted? rest).map fun r => (d :: r.1, r.2)
      else (unquoted? rest).map fun r => (c :: r.1, r.2)

theorem unquoted?_escapeChar (c : Char) (cs : List Char) :
    unquoted? (escapeChar c ++ cs) = (unquoted? cs).map fun r => (c :: r.1, r.2) := by
  unfold escapeChar
  split
  · subst c
    simp [unquoted?, unescaped?]
  split
  · subst c
    simp [unquoted?, unescaped?]
  split
  · subst c
    simp [unquoted?, unescaped?]
  · rw [List.singleton_append, unquoted?.eq_def]
    simp [*]

theorem unquoted?_escape (value rest : List Char) :
    unquoted? (value.flatMap escapeChar ++ '"' :: rest) = some (value, rest) := by
  induction value with
  | nil =>
    rw [List.flatMap_nil, List.nil_append, unquoted?.eq_def]
    rfl
  | cons c value ih =>
    rw [List.flatMap_cons, List.append_assoc, unquoted?_escapeChar, ih]
    rfl

end Values

/-! Names. -/

/-- A letter or an underscore, and then digits as well. -/
def identifier : List Char → Bool
  | [] => false
  | c :: cs => (c.isAlpha || c == '_') && cs.all fun d => d.isAlphanum || d == '_'

section Names

variable {name : List Char} (legal : identifier name)

include legal

theorem cons_of_identifier :
    ∃ c cs, name = c :: cs ∧ ∀ d ∈ name, (d.isAlphanum || d == '_') = true := by
  cases name with
  | nil => cases legal
  | cons c cs =>
    obtain ⟨first, later⟩ := Bool.and_eq_true_iff.mp legal
    refine ⟨c, cs, rfl, List.forall_mem_cons.mpr ⟨?_, List.all_eq_true.mp later⟩⟩
    simp only [Char.isAlphanum, Bool.or_eq_true] at first ⊢
    exact first.imp .inl id

theorem not_mem_of_identifier {c : Char} (mark : (c.isAlphanum || c == '_') = false) :
    c ∉ name := by
  intro member
  obtain ⟨_, _, _, letters⟩ := cons_of_identifier legal
  rw [letters c member] at mark
  cases mark

end Names

/-! Labels. -/

/-- Reads labels up to the closing brace, as many as there is fuel for. -/
def labels? : Nat → List Char → Option (Labels × List Char)
  | 0, _ => none
  | fuel + 1, cs =>
      match cs.dropWhile (· != '=') with
      | _ :: '"' :: quoted =>
          (unquoted? quoted).bind fun r =>
            let label : Label := (.ofList (cs.takeWhile (· != '=')), .ofList r.1)
            match r.2 with
            | ',' :: more => (labels? fuel more).map fun s => (label :: s.1, s.2)
            | '\x7d' :: rest => some ([label], rest)
            | _ => none
      | _ => none

/-- Labels with names that a collector takes. -/
def Named (labels : List Label) : Prop := ∀ a ∈ labels, identifier a.1.toList

theorem joined_cons (x : List Char) {xs : List (List Char)} (more : xs ≠ []) :
    joined (x :: xs) = x ++ ',' :: joined xs := by
  cases xs with
  | nil => exact absurd rfl more
  | cons y xs => rfl

theorem joined_snoc (x : List Char) {xs : List (List Char)} (more : xs ≠ []) :
    joined (xs ++ [x]) = joined xs ++ ',' :: x := by
  induction xs with
  | nil => exact absurd rfl more
  | cons y xs ih =>
    cases xs with
    | nil => rfl
    | cons z xs =>
      rw [List.cons_append, joined_cons y (by simp), ih (by simp), joined_cons y (by simp),
        List.append_assoc]
      rfl

theorem mem_joined {c : Char} {xs : List (List Char)} (member : c ∈ joined xs) :
    c = ',' ∨ ∃ x ∈ xs, c ∈ x := by
  induction xs with
  | nil => cases member
  | cons x xs ih =>
    by_cases last : xs = []
    · subst last
      exact .inr ⟨x, by simp, member⟩
    · rw [joined_cons x last, List.mem_append, List.mem_cons] at member
      rcases member with here | comma | later
      · exact .inr ⟨x, by simp, here⟩
      · exact .inl comma
      · exact (ih later).imp_right fun ⟨y, listed, inside⟩ =>
          ⟨y, List.mem_cons_of_mem _ listed, inside⟩

theorem newline_not_mem_escapeChar (c : Char) : '\n' ∉ escapeChar c := by
  unfold escapeChar
  repeat' split
  all_goals simp_all [eq_comm]

theorem newline_not_mem_chars {labels : Labels} (named : Named labels) : '\n' ∉ labels.chars := by
  intro member
  rcases mem_joined member with comma | ⟨x, listed, inside⟩
  · cases comma
  · obtain ⟨a, present, rfl⟩ := List.mem_map.mp listed
    have name : '\n' ∉ a.1.toList := not_mem_of_identifier (named a present) rfl
    simp [labelChars, name, newline_not_mem_escapeChar] at inside

theorem length_le_chars (labels : Labels) : labels.length ≤ labels.chars.length := by
  unfold Labels.chars
  induction labels with
  | nil => simp
  | cons a labels ih =>
    rw [List.map_cons]
    by_cases last : labels = []
    · subst last
      simp only [List.map_nil, joined, labelChars, List.length_append, List.length_cons]
      omega
    · rw [joined_cons _ (by simpa using last)]
      simp only [List.length_cons, List.length_append]
      omega

/-- Labels do not begin like none at all. -/
theorem chars_eq_cons {labels : Labels} (named : Named labels) (some : labels ≠ []) :
    ∃ c cs, labels.chars = c :: cs ∧ c ≠ '\x7d' := by
  obtain ⟨a, more, rfl⟩ := List.exists_cons_of_ne_nil some
  obtain ⟨c, cs, same, letters⟩ := cons_of_identifier (named a (by simp))
  have other : c ≠ '\x7d' := by
    rintro rfl
    cases letters _ (same ▸ List.mem_cons_self)
  unfold Labels.chars
  rw [List.map_cons]
  by_cases last : more = []
  · subst last
    rw [List.map_nil, joined, labelChars, same]
    exact ⟨c, _, rfl, other⟩
  · rw [joined_cons _ (by simpa using last), labelChars, same]
    exact ⟨c, _, rfl, other⟩

theorem labels?_chars {labels : Labels} (named : Named labels) (some : labels ≠ [])
    (rest : List Char) {fuel : Nat} (enough : labels.length ≤ fuel) :
    labels? fuel (labels.chars ++ '\x7d' :: rest) = .some (labels, rest) := by
  induction labels generalizing fuel with
  | nil => exact absurd rfl some
  | cons a labels ih =>
    obtain ⟨fuel, rfl⟩ := Nat.exists_eq_succ_of_ne_zero
      (Nat.ne_of_gt (Nat.lt_of_lt_of_le (Nat.succ_pos _) enough))
    obtain ⟨head, tail⟩ := List.forall_mem_cons.mp named
    have outside : '=' ∉ a.1.toList := not_mem_of_identifier head rfl
    have written (back : List Char) : labelChars a ++ back =
        a.1.toList ++ '=' :: '"' :: (a.2.toList.flatMap escapeChar ++ '"' :: back) := by
      simp [labelChars]
    unfold Labels.chars at ih ⊢
    rw [List.map_cons]
    by_cases last : labels = []
    · subst last
      rw [List.map_nil, joined, written, labels?, Text.takeWhile_mark outside,
        Text.dropWhile_mark outside]
      simp [unquoted?_escape]
    · have later := ih tail last (Nat.le_of_succ_le_succ enough)
      rw [joined_cons _ (by simpa using last), List.append_assoc, List.cons_append, written,
        labels?, Text.takeWhile_mark outside, Text.dropWhile_mark outside]
      simp [unquoted?_escape, later]

/-! Lines. -/

def word? (digits : List Char) : Option UInt64 :=
  (number? 10 digits).bind fun n => if n < UInt64.size then some (.ofNat n) else none

theorem word?_natChars (n : UInt64) : word? (natChars n.toNat) = some n := by
  have small : n.toNat < UInt64.size := n.toNat_lt
  simp [word?, natChars, Text.number?_toDigits, small]

namespace Line

def type? (cs : List Char) : Option Line :=
  match splitOn ' ' cs with
  | [name, kind] => some (type name kind)
  | _ => none

def sample? (cs : List Char) : Option Line :=
  let labels := match cs.dropWhile (· != '\x7b') with
    | _ :: '\x7d' :: rest => some ([], rest)
    | _ :: rest => labels? cs.length rest
    | [] => none
  labels.bind fun r =>
    match r.2 with
    | ' ' :: digits => (word? digits).map (sample (cs.takeWhile (· != '\x7b')) r.1)
    | _ => none

def read? (cs : List Char) : Option Line :=
  match cs with
  | '#' :: ' ' :: 'T' :: 'Y' :: 'P' :: 'E' :: ' ' :: rest => type? rest
  | _ => sample? cs

/-- A line that a collector can read. -/
def Legible : Line → Prop
  | type name kind => identifier name ∧ identifier kind
  | sample name labels _ => identifier name ∧ Named labels

theorem type?_spec {name kind : List Char} (legal : identifier name) (short : identifier kind) :
    type? (name ++ ' ' :: kind) = some (type name kind) := by
  have left : ' ' ∉ name := not_mem_of_identifier legal rfl
  have right : ' ' ∉ kind := not_mem_of_identifier short rfl
  rw [type?, Text.splitOn_mark left, Text.splitOn_of_not_mem right]

theorem sample?_spec {name : List Char} {labels : Labels} (legal : identifier name)
    (named : Named labels) (value : UInt64) :
    sample? (name ++ '\x7b' :: (labels.chars ++ '\x7d' :: ' ' :: natChars value.toNat)) =
      some (sample name labels value) := by
  have outside : '\x7b' ∉ name := not_mem_of_identifier legal rfl
  rw [sample?, Text.takeWhile_mark outside, Text.dropWhile_mark outside]
  by_cases none : labels = []
  · subst none
    simp [Labels.chars, joined, word?_natChars]
  · obtain ⟨c, cs, same, other⟩ := chars_eq_cons named none
    have enough : labels.length ≤ (name ++ '\x7b' :: (labels.chars ++
        '\x7d' :: ' ' :: natChars value.toNat)).length := by
      have short := length_le_chars labels
      simp only [List.length_append, List.length_cons]
      omega
    have all := labels?_chars named none (' ' :: natChars value.toNat) enough
    revert all
    generalize (name ++ _).length = fuel
    rw [same, List.cons_append]
    intro all
    simp [other, all, word?_natChars]

theorem read?_sample {c : Char} (cs : List Char) (other : c ≠ '#') :
    read? (c :: cs) = sample? (c :: cs) := by
  unfold read?
  split
  · simp_all
  · rfl

/-- A legible line ends once, at its end, and is read as what it says. -/
theorem chars_spec {l : Line} (legible : l.Legible) :
    ∃ cs, l.chars = cs ++ ['\n'] ∧ '\n' ∉ cs ∧ read? cs = some l := by
  cases l with
  | type name kind =>
    obtain ⟨legal, short⟩ := legible
    refine ⟨'#' :: ' ' :: 'T' :: 'Y' :: 'P' :: 'E' :: ' ' :: (name ++ ' ' :: kind), ?_, ?_,
      type?_spec legal short⟩
    · simp [chars, typeLine]
    · have left : '\n' ∉ name := not_mem_of_identifier legal rfl
      have right : '\n' ∉ kind := not_mem_of_identifier short rfl
      simp [left, right]
  | sample name labels value =>
    obtain ⟨legal, named⟩ := legible
    refine ⟨name ++ '\x7b' :: (labels.chars ++ '\x7d' :: ' ' :: natChars value.toNat), ?_, ?_, ?_⟩
    · simp [chars, Metrics.sample]
    · have first : '\n' ∉ name := not_mem_of_identifier legal rfl
      have last : '\n' ∉ natChars value.toNat := by
        intro member
        cases Text.digits_toDigits value.toNat _ member
      simp [first, newline_not_mem_chars named, last]
    · rw [← sample?_spec legal named value]
      obtain ⟨c, cs, same, letters⟩ := cons_of_identifier legal
      rw [same, List.cons_append]
      apply read?_sample
      rintro rfl
      cases letters _ (same ▸ List.mem_cons_self)

theorem chars_inj {l l' : Line} (legible : l.Legible) (legible' : l'.Legible)
    (same : l.chars = l'.chars) : l = l' := by
  obtain ⟨cs, written, _, read⟩ := chars_spec legible
  obtain ⟨cs', written', _, read'⟩ := chars_spec legible'
  rw [written, written', List.append_cancel_right_eq] at same
  rw [same] at read
  exact Option.some.inj (read.symm.trans read')

end Line

/-- Reads a text line by line, when all its lines are ended. -/
def lines? (cs : List Char) : Option (List Line) :=
  let parts := splitOn '\n' cs
  if parts.getLast? = some [] then parts.dropLast.mapM Line.read? else none

theorem splitOn_chars {ls : List Line} (legible : ∀ l ∈ ls, l.Legible) :
    ∃ parts, splitOn '\n' (ls.flatMap Line.chars) = parts ++ [[]] ∧
      parts.mapM Line.read? = some ls := by
  induction ls with
  | nil => exact ⟨[], rfl, rfl⟩
  | cons l ls ih =>
    obtain ⟨head, tail⟩ := List.forall_mem_cons.mp legible
    obtain ⟨cs, written, outside, read⟩ := Line.chars_spec head
    obtain ⟨parts, split, all⟩ := ih tail
    refine ⟨cs :: parts, ?_, ?_⟩
    · rw [List.flatMap_cons, written, List.append_assoc, List.singleton_append,
        Text.splitOn_mark outside, split, List.cons_append]
    · rw [mapM_eq_some_iff] at all ⊢
      exact .cons read all

theorem lines?_chars {ls : List Line} (legible : ∀ l ∈ ls, l.Legible) :
    lines? (ls.flatMap Line.chars) = some ls := by
  obtain ⟨parts, split, all⟩ := splitOn_chars legible
  simp [lines?, split, all]

end Metrics

end Admission
