import Admission.Proofs.Json.Lexeme
/-!
All the ways in which JSON writes a text. A character stands as it is, behind a backslash with a
mark of its own, or as one or two units of sixteen bits. Whichever way is taken for each character,
the text is read back; where nobody asks for the value, the units need not make up characters.
-/

namespace Admission.Json

/-- The marks behind a backslash and what they stand for. -/
def marks : List (Char × Char) :=
  [('"', '"'), ('\\', '\\'), ('/', '/'), ('b', '\x08'), ('f', '\x0c'), ('n', '\n'), ('r', '\r'),
    ('t', '\t')]

/-- The digits to the base of sixteen, in either case. -/
def hexDigits : List (Char × Nat) :=
  "0123456789abcdef".toList.zipIdx ++ "ABCDEF".toList.zipIdx 10

/-- A unit of sixteen bits as four digits. -/
inductive Quad : Nat → List Char → Prop where
  | mk {a b c d : Char} {i j k l : Nat} (first : (a, i) ∈ hexDigits)
      (second : (b, j) ∈ hexDigits) (third : (c, k) ∈ hexDigits) (fourth : (d, l) ∈ hexDigits) :
      Quad (((i * 16 + j) * 16 + k) * 16 + l) [a, b, c, d]

def Plain (c : Char) : Prop := 0x20 ≤ c.toNat ∧ c ≠ '"' ∧ c ≠ '\\'

/-- What a character is written as in a string. -/
inductive Spelling (c : Char) : List Char → Prop where
  | plain (plain : Plain c) : Spelling c [c]
  | mark {mark : Char} (listed : (mark, c) ∈ marks) : Spelling c ['\\', mark]
  | unit {digits : List Char} (quad : Quad c.toNat digits) : Spelling c ('\\' :: 'u' :: digits)
  | pair {high low : Nat} {lead trail : List Char} (above : high < 0x400) (below : low < 0x400)
      (value : c.toNat = 0x10000 + high * 0x400 + low) (first : Quad (0xD800 + high) lead)
      (second : Quad (0xDC00 + low) trail) :
      Spelling c ('\\' :: 'u' :: (lead ++ '\\' :: 'u' :: trail))

inductive Spells : List Char → List Char → Prop where
  | nil : Spells [] []
  | cons {c : Char} {s front back : List Char} (head : Spelling c front) (tail : Spells s back) :
      Spells (c :: s) (front ++ back)

/-- What can stand in a string, if its value does not matter. -/
inductive Inside : List Char → Prop where
  | nil : Inside []
  | plain {c : Char} {cs : List Char} (plain : Plain c) (tail : Inside cs) : Inside (c :: cs)
  | mark {mark c : Char} {cs : List Char} (listed : (mark, c) ∈ marks) (tail : Inside cs) :
      Inside ('\\' :: mark :: cs)
  | unit {n : Nat} {digits cs : List Char} (quad : Quad n digits) (tail : Inside cs) :
      Inside ('\\' :: 'u' :: (digits ++ cs))

theorem Spells.inside {s written : List Char} (spells : Spells s written) : Inside written := by
  induction spells with
  | nil => exact .nil
  | cons head _ ih =>
    cases head with
    | plain plain => exact .plain plain ih
    | mark listed => exact .mark listed ih
    | unit quad => exact .unit quad ih
    | pair _ _ _ first second =>
      rw [List.cons_append, List.cons_append, List.append_assoc]
      exact .unit first (.unit second ih)

/-! Marks and units. -/

theorem simpleEscape_of_mem {mark c : Char} (listed : (mark, c) ∈ marks) :
    simpleEscape mark = some c := by
  have each : ∀ e ∈ marks, simpleEscape e.1 = some e.2 := by decide
  exact each (mark, c) listed

theorem hexDigit_of_mem {c : Char} {n : Nat} (listed : (c, n) ∈ hexDigits) :
    Text.hexDigit c = some n := by
  have each : ∀ e ∈ hexDigits, Text.hexDigit e.1 = some e.2 := by decide
  exact each (c, n) listed

theorem Quad.value {n : Nat} {digits : List Char} (quad : Quad n digits) :
    ∃ a b c d, digits = [a, b, c, d] ∧ hexQuad a b c d = some n := by
  obtain ⟨first, second, third, fourth⟩ := quad
  refine ⟨_, _, _, _, rfl, ?_⟩
  simp [hexQuad, hexDigit_of_mem first, hexDigit_of_mem second, hexDigit_of_mem third,
    hexDigit_of_mem fourth]

/-- No character is half of a pair. -/
theorem not_surrogate (c : Char) : isLeading c.toNat = false ∧ isTrailing c.toNat = false := by
  have valid : c.toNat < 0xD800 ∨ 0xDFFF < c.toNat ∧ c.toNat < 0x110000 := c.valid
  simp only [isLeading, isTrailing, Bool.and_eq_false_iff, decide_eq_false_iff_not]
  omega

/-! Strings that are read. -/

theorem stringBody_plain {c : Char} (plain : Plain c) (cs : List Char) :
    stringBody (c :: cs) = (stringBody cs).map fun r => (c :: r.1, r.2) := by
  obtain ⟨printable, quote, backslash⟩ := plain
  have visible : ¬ c.toNat < 0x20 := Nat.not_lt.mpr printable
  simp [stringBody, backslash, visible]

theorem stringBody_unit {c : Char} {digits : List Char} (quad : Quad c.toNat digits)
    (cs : List Char) :
    stringBody ('\\' :: 'u' :: (digits ++ cs)) =
      (stringBody cs).map fun r => (c :: r.1, r.2) := by
  obtain ⟨i, j, k, l, rfl, value⟩ := quad.value
  obtain ⟨noLead, noTrail⟩ := not_surrogate c
  simp [stringBody, value, noLead, noTrail]

theorem stringBody_pair {c : Char} {high low : Nat} {lead trail : List Char}
    (above : high < 0x400) (below : low < 0x400)
    (value : c.toNat = 0x10000 + high * 0x400 + low) (first : Quad (0xD800 + high) lead)
    (second : Quad (0xDC00 + low) trail) (cs : List Char) :
    stringBody ('\\' :: 'u' :: (lead ++ '\\' :: 'u' :: (trail ++ cs))) =
      (stringBody cs).map fun r => (c :: r.1, r.2) := by
  obtain ⟨i, j, k, l, rfl, leading⟩ := first.value
  obtain ⟨i', j', k', l', rfl, trailing⟩ := second.value
  have noTrail : isTrailing (0xD800 + high) = false := by
    simp only [isTrailing, Bool.and_eq_false_iff, decide_eq_false_iff_not]
    omega
  have isLead : isLeading (0xD800 + high) = true := by
    simp only [isLeading, Bool.and_eq_true, decide_eq_true_eq]
    omega
  have isTrail : isTrailing (0xDC00 + low) = true := by
    simp only [isTrailing, Bool.and_eq_true, decide_eq_true_eq]
    omega
  have character : fromPair (0xD800 + high) (0xDC00 + low) = c := by
    have sum : (0xD800 + high - 0xD800) * 0x400 + (0xDC00 + low - 0xDC00) + 0x10000 = c.toNat := by
      omega
    rw [fromPair, sum, Char.ofNat_toNat]
  simp [stringBody, leading, trailing, noTrail, isLead, isTrail, character]

theorem Spelling.stringBody {c : Char} {written : List Char} (spelling : Spelling c written)
    (cs : List Char) :
    Json.stringBody (written ++ cs) = (Json.stringBody cs).map fun r => (c :: r.1, r.2) := by
  cases spelling with
  | plain plain => exact stringBody_plain plain cs
  | mark listed => exact stringBody_simple (simpleEscape_of_mem listed) cs
  | unit quad => exact stringBody_unit quad cs
  | pair above below value first second =>
    rw [List.cons_append, List.cons_append, List.append_assoc]
    exact stringBody_pair above below value first second cs

/-- A text is read from whatever it is written as, up to the closing quote. -/
theorem Spells.stringBody {s written : List Char} (spells : Spells s written)
    (rest : List Char) : Json.stringBody (written ++ '"' :: rest) = .ok (s, rest) := by
  induction spells with
  | nil => simp [Json.stringBody]
  | cons head _ ih =>
    rw [List.append_assoc, head.stringBody, ih]
    rfl

/-! Strings that are passed over. -/

theorem Inside.skipString {written : List Char} (inside : Inside written) (rest : List Char) :
    Json.skipString (written ++ '"' :: rest) = .ok rest := by
  induction inside with
  | nil => simp [Json.skipString]
  | plain plain _ ih =>
    obtain ⟨printable, quote, backslash⟩ := plain
    simp [Json.skipString, backslash, Nat.not_lt.mpr printable, ih]
  | @mark mark c cs listed _ ih =>
    have simple := simpleEscape_of_mem listed
    have other : mark ≠ 'u' := by
      rintro rfl
      simp [simpleEscape] at simple
    simp [Json.skipString, other, simple, ih]
  | unit quad _ ih =>
    obtain ⟨i, j, k, l, rfl, value⟩ := quad.value
    simp [Json.skipString, value, ih]

end Admission.Json
