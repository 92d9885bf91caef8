import Admission.Proofs.Json.Pretty
import Admission.Proofs.Json.Spelling
/-!
Any JSON value is passed over. The grammar is that of the standard, with white space around all
tokens; numbers may be of any size, containers of any depth, and strings need only be closed.
-/

namespace Admission.Json

open Text (Digits NoDigit)

/-! The grammar. -/

/-- No zero stands in front of other digits. -/
inductive Whole : List Char → Prop where
  | zero : Whole ['0']
  | digits {d : Char} {ds : List Char} (decimal : Digits (d :: ds)) (nonzero : d ≠ '0') :
      Whole (d :: ds)

inductive Places : List Char → Prop where
  | none : Places []
  | some {d : Char} {ds : List Char} (decimal : Digits (d :: ds)) : Places ('.' :: d :: ds)

inductive Exponent : List Char → Prop where
  | none : Exponent []
  | some {mark d : Char} {sign ds : List Char} (marked : mark = 'e' ∨ mark = 'E')
      (signed : sign = [] ∨ sign = ['+'] ∨ sign = ['-']) (decimal : Digits (d :: ds)) :
      Exponent (mark :: (sign ++ d :: ds))

/-- A number without its sign. -/
inductive Unsigned : List Char → Prop where
  | mk {whole places exponent : List Char} (first : Whole whole) (second : Places places)
      (third : Exponent exponent) : Unsigned (whole ++ (places ++ exponent))

def Bracket.opening : Bracket → Char
  | .list => '['
  | .object => '\x7b'

/-- A value, an element of a container, or what comes after an element up to the end of the
container. -/
inductive Part where
  | value
  | element (b : Bracket)
  | later (b : Bracket)

inductive Written : Part → List Char → Prop where
  | word {w : String} (listed : w ∈ ["null", "true", "false"]) : Written .value w.toList
  | number {cs : List Char} (unsigned : Unsigned cs) : Written .value cs
  | negative {cs : List Char} (unsigned : Unsigned cs) : Written .value ('-' :: cs)
  | text {cs : List Char} (inside : Inside cs) : Written .value ('"' :: (cs ++ ['"']))
  | empty (b : Bracket) {blanks : List Char} (blank : Blanks blanks) :
      Written .value (b.opening :: (blanks ++ [b.close]))
  | container {b : Bracket} {first more : List Char} (head : Written (.element b) first)
      (tail : Written (.later b) more) : Written .value (b.opening :: (first ++ more))
  | item {before value after : List Char} (front : Blanks before) (back : Blanks after)
      (content : Written .value value) : Written (.element .list) (before ++ (value ++ after))
  | member {lead key middle before value after : List Char} (first : Blanks lead)
      (name : Inside key) (second : Blanks middle) (front : Blanks before) (back : Blanks after)
      (content : Written .value value) :
      Written (.element .object)
        (lead ++ '"' :: (key ++ '"' :: (middle ++ ':' :: (before ++ (value ++ after)))))
  | close (b : Bracket) : Written (.later b) [b.close]
  | next {b : Bracket} {first more : List Char} (head : Written (.element b) first)
      (tail : Written (.later b) more) : Written (.later b) (',' :: (first ++ more))

/-! Numbers. -/

/-- A text that no number goes on with. -/
def Ends (rest : List Char) : Prop :=
  ∀ c tail, rest = c :: tail → c.isDigit = false ∧ c ≠ '.' ∧ isMark c = false

theorem Ends.noDigit {rest : List Char} (ends : Ends rest) : NoDigit rest :=
  fun c tail same => (ends c tail same).1

theorem skipDigits_digits {ds rest : List Char} (decimal : Digits ds) (ends : NoDigit rest) :
    skipDigits (ds ++ rest) = rest := Text.dropWhile_isDigit decimal ends

section Number

variable {rest : List Char} (ends : Ends rest)

include ends

theorem skipExponent_digits {sign ds : List Char} {d : Char}
    (signed : sign = [] ∨ sign = ['+'] ∨ sign = ['-']) (decimal : Digits (d :: ds)) :
    skipExponent (sign ++ (d :: ds ++ rest)) = .ok rest := by
  obtain ⟨head, tail⟩ := List.forall_mem_cons.mp decimal
  have first := Text.isDigit_iff.mpr head
  have others := skipDigits_digits tail ends.noDigit
  rcases signed with rfl | rfl | rfl
  · have notPlus : d ≠ '+' := ne_of_isDigit head (by decide)
    have notMinus : d ≠ '-' := ne_of_isDigit head (by decide)
    simp [skipExponent, notPlus, notMinus, first, others]
  · simp [skipExponent, first, others]
  · simp [skipExponent, first, others]

theorem skipAfterPlaces_exponent {exponent : List Char} (written : Exponent exponent) :
    skipAfterPlaces (exponent ++ rest) = .ok rest := by
  cases written with
  | none =>
    cases rest with
    | nil => rfl
    | cons c tail => simp [skipAfterPlaces, (ends c tail rfl).2.2]
  | some marked signed decimal =>
    have mark := skipExponent_digits ends signed decimal
    rcases marked with rfl | rfl <;> simpa [skipAfterPlaces, isMark] using mark

theorem noDigit_exponent {exponent : List Char} (written : Exponent exponent) :
    NoDigit (exponent ++ rest) := by
  cases written with
  | none => exact ends.noDigit
  | some marked _ _ =>
    apply Text.noDigit_cons
    rcases marked with rfl | rfl <;> decide

theorem noDigit_places {places exponent : List Char} (first : Places places)
    (second : Exponent exponent) : NoDigit (places ++ (exponent ++ rest)) := by
  cases first with
  | none => exact noDigit_exponent ends second
  | some _ => exact Text.noDigit_cons (by decide)

theorem skipAfterWhole_places {places exponent : List Char} (first : Places places)
    (second : Exponent exponent) : skipAfterWhole (places ++ (exponent ++ rest)) = .ok rest := by
  cases first with
  | some decimal =>
    obtain ⟨head, tail⟩ := List.forall_mem_cons.mp decimal
    have others := skipDigits_digits tail (noDigit_exponent ends second)
    simp [skipAfterWhole, Text.isDigit_iff.mpr head, others, skipAfterPlaces_exponent ends second]
  | none =>
    -- Without a point, the exponent is met as it is behind one.
    have same : skipAfterWhole (exponent ++ rest) = skipAfterPlaces (exponent ++ rest) := by
      cases written : exponent ++ rest with
      | nil => rfl
      | cons c tail =>
        have noPoint : c ≠ '.' := by
          cases second with
          | none => exact (ends c tail written).2.1
          | some marked _ _ =>
            cases written
            rcases marked with rfl | rfl <;> decide
        simp [skipAfterWhole, skipAfterPlaces, noPoint]
    exact same.trans (skipAfterPlaces_exponent ends second)

theorem skipNumber_unsigned {cs : List Char} (written : Unsigned cs) :
    skipNumber (cs ++ rest) = .ok rest := by
  obtain ⟨first, second, third⟩ := written
  have noDigit := noDigit_places ends second third
  have after := skipAfterWhole_places ends second third
  rw [List.append_assoc, List.append_assoc]
  cases first with
  | zero =>
    have zero : Text.digit '0' = some 0 := by decide
    rw [List.singleton_append, skipNumber.eq_def]
    simp only [zero]
    split
    · rename_i d tail same
      rw [same] at noDigit after
      rw [if_neg (by simp [Text.isDigit_eq_false (noDigit d tail rfl)]), same]
      exact after
    · rename_i same
      rw [same] at after
      exact after
  | @digits d ds decimal nonzero =>
    obtain ⟨head, tail⟩ := List.forall_mem_cons.mp decimal
    have bounds := Char.isDigit_iff_toNat.mp head
    have positive : d.toNat - '0'.toNat ≠ 0 := by
      intro same
      have least : '0'.toNat = 48 := rfl
      exact nonzero (Char.toNat_inj.mp (by omega))
    obtain ⟨n, value⟩ := Nat.exists_eq_succ_of_ne_zero positive
    rw [List.cons_append, skipNumber.eq_def]
    simp only [Text.digit_of_isDigit head, value, skipDigits_digits tail noDigit]
    exact after

end Number

/-! Leaves, and the openings of containers. -/

theorem skipSpace_skipSpace (cs : List Char) : skipSpace (skipSpace cs) = skipSpace cs := by
  induction cs with
  | nil => rfl
  | cons c cs ih =>
    rw [skipSpace]
    split
    · exact ih
    · rw [skipSpace, if_neg ‹_›]

theorem Unsigned.front {cs : List Char} (written : Unsigned cs) :
    ∃ c tail, cs = c :: tail ∧ c.isDigit = true := by
  obtain ⟨first, second, third⟩ := written
  cases first with
  | zero => exact ⟨'0', _, rfl, by decide⟩
  | @digits d ds decimal _ => exact ⟨d, _, rfl, decimal d List.mem_cons_self⟩

theorem opens_of_front {c : Char} {tail : List Char} (decimal : c.isDigit = true) :
    Opens (c :: tail) := ⟨c, tail, rfl, ne_of_isDigit decimal (by decide),
  ne_of_isDigit decimal (by decide), ne_of_isDigit decimal (by decide),
  ne_of_isDigit decimal (by decide), ne_of_isDigit decimal (by decide)⟩

theorem Written.opens {cs : List Char} (written : Written .value cs) : Opens cs := by
  cases written with
  | word listed =>
    have each : ∀ w ∈ ["null", "true", "false"], Opens w.toList := by
      simp [Opens]
    exact each _ listed
  | number unsigned =>
    obtain ⟨c, tail, rfl, decimal⟩ := unsigned.front
    exact opens_of_front decimal
  | negative _ => exact ⟨'-', _, rfl, by decide⟩
  | text _ => exact ⟨'"', _, rfl, by decide⟩
  | empty b _ => exact ⟨b.opening, _, rfl, by cases b <;> decide⟩
  | @container b _ _ _ _ => exact ⟨b.opening, _, rfl, by cases b <;> decide⟩

theorem skipOpening_word {w : String} (listed : w ∈ ["null", "true", "false"])
    (rest : List Char) : skipOpening (w.toList ++ rest) = .ok (.value rest) := by
  simp only [List.mem_cons, List.not_mem_nil, or_false] at listed
  rcases listed with rfl | rfl | rfl <;>
    simp [skipOpening, skipSpace, keyword, Functor.map, Except.map]

theorem skipOpening_number {cs rest : List Char} (unsigned : Unsigned cs) (ends : Ends rest) :
    skipOpening (cs ++ rest) = .ok (.value rest) := by
  have number := skipNumber_unsigned ends unsigned
  obtain ⟨c, tail, rfl, decimal⟩ := unsigned.front
  have other (d : Char) (mark : d.isDigit = false) : c ≠ d := ne_of_isDigit decimal mark
  rw [skipOpening, (opens_of_front decimal).skipSpace]
  rw [List.cons_append] at number ⊢
  simp [other 'n' (by decide), other 't' (by decide), other 'f' (by decide),
    other '-' (by decide), Text.isDigit_iff.mpr decimal, number, Functor.map, Except.map]

theorem skipOpening_negative {cs rest : List Char} (unsigned : Unsigned cs) (ends : Ends rest) :
    skipOpening ('-' :: (cs ++ rest)) = .ok (.value rest) := by
  simp [skipOpening, skipSpace, skipNumber_unsigned ends unsigned, Functor.map, Except.map]

theorem skipOpening_text {cs : List Char} (inside : Inside cs) (rest : List Char) :
    skipOpening ('"' :: (cs ++ '"' :: rest)) = .ok (.value rest) := by
  simp [skipOpening, skipSpace, Text.isDigit_eq_false, inside.skipString, Functor.map, Except.map]

theorem skipOpening_container (b : Bracket) (rest : List Char) :
    skipOpening (b.opening :: rest) = .ok (.container b rest) := by
  cases b <;> simp [skipOpening, skipSpace, Bracket.opening, Text.isDigit_eq_false]

theorem skipOpening_skipSpace (cs : List Char) : skipOpening (skipSpace cs) = skipOpening cs := by
  unfold skipOpening
  rw [skipSpace_skipSpace]

theorem skipOpening_blanks {blanks : List Char} (blank : Blanks blanks) (cs : List Char) :
    skipOpening (blanks ++ cs) = skipOpening cs := by
  unfold skipOpening
  rw [skipSpace_blanks blank]

theorem skipToValue_skipSpace (b : Bracket) (cs : List Char) :
    (skipToValue b (skipSpace cs) >>= skipOpening) = (skipToValue b cs >>= skipOpening) := by
  cases b with
  | list => exact skipOpening_skipSpace cs
  | object =>
    have same : skipKey (skipSpace cs) = skipKey cs := by
      unfold skipKey
      rw [skipSpace_skipSpace]
    rw [skipToValue, skipToValue, same]

theorem skipKey_written {lead key middle : List Char} (first : Blanks lead) (name : Inside key)
    (second : Blanks middle) (rest : List Char) :
    skipKey (lead ++ '"' :: (key ++ '"' :: (middle ++ ':' :: rest))) = .ok rest := by
  unfold skipKey
  rw [skipSpace_blanks first]
  simp [skipSpace_cons, name.skipString, skipSpace_blanks second, bind, Except.bind]

/-! The whole value. -/

def resume (fuel : Nat) : After → Except Fault (List Char)
  | .done rest => .ok rest
  | .element stack rest => skipWith fuel stack rest

/-- From the opening of a value to the next element, and from there on. -/
def openAt (fuel : Nat) (stack : List Bracket) (cs : List Char) : Except Fault (List Char) := do
  let after ← match ← skipOpening cs with
    | .value rest => skipAfter false stack rest
    | .container b rest => skipAfter true (b :: stack) rest
  resume fuel after

theorem resume_element (fuel : Nat) (stack : List Bracket) (rest : List Char) :
    ((.ok (.element stack rest) : Except Fault After) >>= resume fuel) =
      skipWith fuel stack rest := rfl

theorem openAt_value {fuel : Nat} {stack : List Bracket} {cs rest : List Char}
    (opening : skipOpening cs = .ok (.value rest)) :
    openAt fuel stack cs = (skipAfter false stack rest >>= resume fuel) := by
  rw [openAt, opening]
  rfl

theorem openAt_container {fuel : Nat} {stack : List Bracket} {cs rest : List Char} {b : Bracket}
    (opening : skipOpening cs = .ok (.container b rest)) :
    openAt fuel stack cs = (skipAfter true (b :: stack) rest >>= resume fuel) := by
  rw [openAt, opening]
  rfl

theorem openAt_blanks {blanks : List Char} (blank : Blanks blanks) (fuel : Nat)
    (stack : List Bracket) (cs : List Char) :
    openAt fuel stack (blanks ++ cs) = openAt fuel stack cs := by
  unfold openAt
  rw [skipOpening_blanks blank]

theorem skipWith_nil (fuel : Nat) (cs : List Char) :
    skipWith (fuel + 1) [] cs = openAt fuel [] cs := rfl

theorem skipWith_cons (fuel : Nat) (b : Bracket) (stack : List Bracket) (cs : List Char) :
    skipWith (fuel + 1) (b :: stack) cs = (skipToValue b cs >>= openAt fuel (b :: stack)) := rfl

theorem skipWith_skipSpace (fuel : Nat) (b : Bracket) (stack : List Bracket) (cs : List Char) :
    skipWith fuel (b :: stack) (skipSpace cs) = skipWith fuel (b :: stack) cs := by
  cases fuel with
  | zero => rfl
  | succ fuel =>
    have same := skipToValue_skipSpace b cs
    rw [skipWith_cons, skipWith_cons]
    unfold openAt
    rw [← bind_assoc, ← bind_assoc, same]

theorem skipAfter_blanks {blanks : List Char} (blank : Blanks blanks) (b : Bracket)
    (stack : List Bracket) (cs : List Char) (first : Bool) :
    skipAfter first (b :: stack) (blanks ++ cs) = skipAfter first (b :: stack) cs := by
  rw [skipAfter, skipAfter, skipSpace_blanks blank]

theorem skipAfter_close (first : Bool) (b : Bracket) (stack : List Bracket) (cs : List Char) :
    skipAfter first (b :: stack) (b.close :: cs) = skipAfter false stack cs := by
  cases b <;> simp [skipAfter, skipSpace, Bracket.close]

theorem skipAfter_comma (b : Bracket) (stack : List Bracket) (cs : List Char) :
    skipAfter false (b :: stack) (',' :: cs) = .ok (.element (b :: stack) cs) := by
  cases b <;> simp [skipAfter, skipSpace, Bracket.close]

/-- An element begins in another way than its container ends. -/
theorem Written.skipAfter_first {b : Bracket} {cs : List Char}
    (written : Written (.element b) cs) (stack : List Bracket) (rest : List Char) :
    skipAfter true (b :: stack) (cs ++ rest) =
      .ok (.element (b :: stack) (skipSpace (cs ++ rest))) := by
  rw [skipAfter]
  cases written with
  | item front _ content =>
    have opens := content.opens
    rw [List.append_assoc, List.append_assoc, skipSpace_blanks front, opens.skipSpace]
    obtain ⟨c, tail, rfl, _, _, _, _, last⟩ := opens
    simp [Bracket.close, last]
  | member lead _ _ _ _ _ =>
    simp [skipSpace_blanks lead, skipSpace_cons, Bracket.close]

/-- How a part is passed over in so many rounds, and that it has at least as many characters. -/
def Passes (rounds : Nat) (cs : List Char) : Part → Prop
  | .value => rounds < cs.length ∧ ∀ fuel stack rest, Ends rest →
      openAt (fuel + rounds) stack (cs ++ rest) = (skipAfter false stack rest >>= resume fuel)
  | .element b => rounds < cs.length ∧ ∀ fuel stack rest, Ends rest →
      skipWith (fuel + rounds + 1) (b :: stack) (cs ++ rest) =
        (skipAfter false (b :: stack) rest >>= resume fuel)
  | .later b => rounds < cs.length ∧ ∀ fuel stack rest,
      (skipAfter false (b :: stack) (cs ++ rest) >>= resume (fuel + rounds)) =
        (skipAfter false stack rest >>= resume fuel)

theorem passes_of_opening {cs : List Char} (some : 0 < cs.length)
    (opening : ∀ rest, Ends rest → skipOpening (cs ++ rest) = .ok (.value rest)) :
    Passes 0 cs .value :=
  ⟨some, fun _ _ rest ends => openAt_value (opening rest ends)⟩

theorem ends_blanks {blanks rest : List Char} (blank : Blanks blanks) (ends : Ends rest) :
    Ends (blanks ++ rest) := by
  cases blanks with
  | nil => exact ends
  | cons d blanks =>
    intro c tail same
    cases same
    rcases blank d List.mem_cons_self with rfl | rfl | rfl | rfl <;> decide

theorem Written.ends {b : Bracket} {cs : List Char} (written : Written (.later b) cs)
    (rest : List Char) : Ends (cs ++ rest) := by
  intro c tail same
  cases written with
  | close b => cases same; cases b <;> decide
  | next _ _ => cases same; decide

theorem Written.passes {p : Part} {cs : List Char} (written : Written p cs) :
    ∃ rounds, Passes rounds cs p := by
  induction written with
  | word listed =>
    refine ⟨0, passes_of_opening ?_ fun rest _ => skipOpening_word listed rest⟩
    have each : ∀ w ∈ ["null", "true", "false"], 0 < w.toList.length := by decide
    exact each _ listed
  | number unsigned =>
    refine ⟨0, passes_of_opening ?_ fun rest ends => skipOpening_number unsigned ends⟩
    obtain ⟨c, tail, rfl, _⟩ := unsigned.front
    simp
  | negative unsigned =>
    exact ⟨0, passes_of_opening (by simp) fun rest ends => skipOpening_negative unsigned ends⟩
  | @text cs inside =>
    refine ⟨0, passes_of_opening (by simp) fun rest _ => ?_⟩
    rw [List.cons_append, List.append_assoc]
    exact skipOpening_text inside rest
  | empty b blank =>
    refine ⟨0, by simp, fun fuel stack rest _ => ?_⟩
    rw [List.cons_append, List.append_assoc, openAt_container (skipOpening_container b _),
      skipAfter_blanks blank, List.singleton_append, skipAfter_close, Nat.add_zero]
  | @container b first more head tail headIh tailIh =>
    obtain ⟨m, shortHead, passHead⟩ := headIh
    obtain ⟨n, shortTail, passTail⟩ := tailIh
    refine ⟨n + m + 1, by simp; omega, fun fuel stack rest _ => ?_⟩
    have element := passHead (fuel + n) stack (more ++ rest) (tail.ends rest)
    have sum : fuel + (n + m + 1) = fuel + n + m + 1 := by omega
    rw [List.cons_append, List.append_assoc, openAt_container (skipOpening_container b _),
      head.skipAfter_first, resume_element, skipWith_skipSpace, sum, element, passTail]
  | @item before value after front back content ih =>
    obtain ⟨n, short, pass⟩ := ih
    refine ⟨n, by simp; omega, fun fuel stack rest ends => ?_⟩
    have start : skipToValue .list (before ++ (value ++ after) ++ rest) =
        .ok (before ++ (value ++ (after ++ rest))) := by simp [skipToValue]
    rw [skipWith_cons, start, ← skipAfter_blanks back,
      ← pass fuel (.list :: stack) (after ++ rest) (ends_blanks back ends)]
    exact openAt_blanks front _ _ _
  | @member lead key middle before value after first name second front back content ih =>
    obtain ⟨n, short, pass⟩ := ih
    refine ⟨n, by simp; omega, fun fuel stack rest ends => ?_⟩
    have start : skipToValue .object (lead ++ '"' :: (key ++ '"' :: (middle ++ ':' ::
        (before ++ (value ++ after)))) ++ rest) = .ok (before ++ (value ++ (after ++ rest))) := by
      simpa [skipToValue] using
        skipKey_written first name second (before ++ (value ++ (after ++ rest)))
    rw [skipWith_cons, start, ← skipAfter_blanks back,
      ← pass fuel (.object :: stack) (after ++ rest) (ends_blanks back ends)]
    exact openAt_blanks front _ _ _
  | close b =>
    refine ⟨0, by simp, fun fuel stack rest => ?_⟩
    rw [List.singleton_append, skipAfter_close, Nat.add_zero]
  | @next b first more head tail headIh tailIh =>
    obtain ⟨m, shortHead, passHead⟩ := headIh
    obtain ⟨n, shortTail, passTail⟩ := tailIh
    refine ⟨n + m + 1, by simp; omega, fun fuel stack rest => ?_⟩
    have element := passHead (fuel + n) stack (more ++ rest) (tail.ends rest)
    have sum : fuel + (n + m + 1) = fuel + n + m + 1 := by omega
    rw [List.cons_append, List.append_assoc, skipAfter_comma, resume_element, sum, element,
      passTail]

/-- A value that nobody asks for is passed over, up to what follows it. -/
theorem Written.skipValue {cs : List Char} (written : Written .value cs) {blanks rest : List Char}
    (blank : Blanks blanks) (ends : Ends rest) :
    Json.skipValue (blanks ++ (cs ++ rest)) = .ok rest := by
  obtain ⟨n, short, pass⟩ := written.passes
  have enough : (blanks ++ (cs ++ rest)).length = (blanks ++ (cs ++ rest)).length - n + n := by
    simp only [List.length_append]
    omega
  rw [Json.skipValue, skipWith_nil, openAt_blanks blank, enough, pass _ [] rest ends]
  rfl

end Admission.Json
