import Admission.Proofs.Url.Path
/-!
Texts that start as one URL does: they have its scheme and its server, and differ in what comes
below.
-/

namespace Admission.Url

namespace Reader

/-! The ends of a text. -/

theorem isOuter_of_isLineBreak {c : Char} (ends : isLineBreak c = true) : isOuter c = true := by
  simp only [isLineBreak, Bool.or_eq_true, beq_iff_eq] at ends
  rcases ends with (same | same) | same <;> subst same <;> decide

/-- A text whose end is still open. -/
def opened (cs : List Char) : List Char := (cs.dropWhile isOuter).filter fun c => !isLineBreak c

theorem filter_visible {cs : List Char} (visible : ∀ c ∈ cs, isOuter c = false) :
    (cs.filter fun c => !isLineBreak c) = cs := by
  refine List.filter_eq_self.mpr ?_
  intro c member
  cases ends : isLineBreak c with
  | false => rfl
  | true =>
    have outer := isOuter_of_isLineBreak ends
    rw [visible c member] at outer
    cases outer

theorem cleaned_append (front : List Char) {back : List Char} (given : back ≠ [])
    (visible : ∀ c ∈ back, isOuter c = false) : cleaned (front ++ back) = opened front ++ back := by
  have start : (front ++ back).dropWhile isOuter = front.dropWhile isOuter ++ back :=
    Text.dropWhile_append_of_stop front fun c rest same => visible c (by simp [same])
  obtain ⟨more, c, split⟩ := (List.eq_nil_or_concat back).resolve_left given
  have ends : isOuter c = false := visible c (by simp [split])
  have last : (front.dropWhile isOuter ++ back).reverse.dropWhile isOuter =
      (front.dropWhile isOuter ++ back).reverse := by
    rw [split]
    simp [ends]
  rw [cleaned, start, last, List.reverse_reverse, List.filter_append, filter_visible visible]
  rfl

/-- The blanks and controls that a text ends with, in reverse. -/
def trailing (cs : List Char) : List Char := cs.reverse.takeWhile isOuter

theorem opened_eq_cleaned_append (cs : List Char) :
    opened cs = cleaned cs ++
      (trailing (cs.dropWhile isOuter)).reverse.filter fun c => !isLineBreak c := by
  have parts : cs.dropWhile isOuter =
      ((cs.dropWhile isOuter).reverse.dropWhile isOuter).reverse ++
        (trailing (cs.dropWhile isOuter)).reverse := by
    rw [trailing, ← List.reverse_append, List.takeWhile_append_dropWhile, List.reverse_reverse]
  rw [cleaned, ← List.filter_append, ← parts]
  rfl

theorem trailing_dropWhile {cs : List Char} (given : cleaned cs ≠ []) :
    trailing (cs.dropWhile isOuter) = trailing cs := by
  have visible : ∃ c ∈ cs.dropWhile isOuter, isOuter c = false := by
    cases front : cs.dropWhile isOuter with
    | nil => exact absurd (by simp [cleaned, front]) given
    | cons c rest =>
      have stop := List.head_dropWhile_not isOuter (l := cs) (by simp [front])
      simp only [front, List.head_cons] at stop
      exact ⟨c, by simp, by simpa using stop⟩
  obtain ⟨c, member, visible⟩ := visible
  have parts : cs.reverse = (cs.dropWhile isOuter).reverse ++ (cs.takeWhile isOuter).reverse := by
    rw [← List.reverse_append, List.takeWhile_append_dropWhile]
  rw [trailing, trailing, parts,
    Text.takeWhile_append_of_mem (List.mem_reverse.mpr member) visible]

theorem mem_cleaned {cs : List Char} {c : Char} (visible : isOuter c = false) :
    c ∈ cleaned cs ↔ c ∈ cs := by
  have kept : isLineBreak c = false := by
    cases ends : isLineBreak c with
    | false => rfl
    | true => rw [isOuter_of_isLineBreak ends] at visible; cases visible
  rw [cleaned, List.mem_filter, List.mem_reverse, Text.mem_dropWhile visible, List.mem_reverse,
    Text.mem_dropWhile visible]
  simp [kept]

/-! The scheme. -/

theorem inScheme_of_isLetter {c : Char} (letter : isLetter c = true) : inScheme c = true := by
  simp [inScheme, letter]

theorem inScheme_of_blank {c : Char} (low : c.toNat ≤ 0x20) : inScheme c = false := by
  have letter : isLetter c = false := by
    simp only [isLetter, Bool.or_eq_false_iff, Bool.and_eq_false_iff, decide_eq_false_iff_not]
    omega
  have digit : Text.isDigit c = false := by
    simp only [Text.isDigit, Text.digit]
    rw [if_neg (by omega)]
    rfl
  simp [inScheme, letter, digit, ne_of_blank low (d := '+') (by decide),
    ne_of_blank low (d := '-') (by decide), ne_of_blank low (d := '.') (by decide)]

/-- A text that neither goes on with a scheme nor ends one. -/
def Apart (cs : List Char) : Prop := ∀ c rest, cs = c :: rest → inScheme c = false ∧ c ≠ ':'

theorem apart_slash (cs : List Char) : Apart ('/' :: cs) := by
  rintro c rest ⟨⟩
  decide

theorem apart_slashes (k : Nat) : Apart (List.replicate k '/') := by
  cases k with
  | zero => exact fun c rest same => by cases same
  | succ k => exact apart_slash _

theorem Apart.of_blank {front back : List Char} (low : ∀ c ∈ front, c.toNat ≤ 0x20)
    (apart : Apart back) : Apart (front ++ back) := by
  intro c rest same
  cases front with
  | nil => exact apart c rest same
  | cons d front =>
    cases same
    exact ⟨inScheme_of_blank (low c (by simp)), ne_of_blank (low c (by simp)) (by decide)⟩

/-- What stands behind the colon is not looked at. -/
theorem scheme_append {front back : List Char} (stop : Apart back) :
    scheme (front ++ back) = (scheme front).map fun r => (r.1, r.2 ++ back) := by
  have out : ∀ c rest, back = c :: rest → inScheme c = false :=
    fun c rest same => (stop c rest same).1
  cases front with
  | nil =>
    cases back with
    | nil => rfl
    | cons c back =>
      have other : isLetter c = false := by
        cases letter : isLetter c with
        | false => rfl
        | true => exact (out c back rfl) ▸ (inScheme_of_isLetter letter).symm
      simp [scheme, other]
  | cons c front =>
    have taken := Text.takeWhile_append_of_stop (c :: front) out
    have left := Text.dropWhile_append_of_stop (c :: front) out
    simp only [List.cons_append] at taken left
    simp only [scheme, List.cons_append, taken, left]
    split
    · rfl
    · cases rest : (c :: front).dropWhile inScheme with
      | cons d rest =>
        by_cases colon : d = ':'
        · subst colon
          rfl
        · simp [colon]
      | nil =>
        cases back with
        | nil => rfl
        | cons d back => simp [(stop d back rfl).2]

theorem scheme_parts {cs name rest : List Char} (found : scheme cs = some (name, rest)) :
    ∃ front, cs = front ++ ':' :: rest ∧ ∀ c ∈ front, inScheme c = true := by
  cases cs with
  | nil => cases found
  | cons c cs =>
    simp only [scheme] at found
    split at found
    · cases found
    · split at found
      · rename_i more same
        cases found
        refine ⟨(c :: cs).takeWhile inScheme, ?_, fun d member => List.mem_takeWhile_imp member⟩
        rw [← same, List.takeWhile_append_dropWhile]
      · cases found

/-! The server. -/

/-- A URL below a server, given what follows its authority. -/
def served (scheme : List Char) (a : Authority) (cs : List Char) : Url :=
  finish { scheme := scheme, username := a.username, password := a.password, host := some a.host,
           port := a.port, path := .segments (pathAfterServer scheme cs).1 }
    (pathAfterServer scheme cs).2

theorem withServer_append {name front back : List Char} (special : isSpecial name = true)
    (inside : Inside front) (stops : Stops back) :
    withServer name (front ++ back) =
      (authority name front).map fun r => served name r.1 back := by
  rw [withServer, authority_append special inside stops]
  cases authority name front with
  | error fault => rfl
  | ok r => rfl

theorem withServer_nil {name : List Char} (special : isSpecial name = true) :
    withServer name [] = .error .emptyHost := by
  simp [withServer, authority, special, userinfo, splitUserinfo, splitHost, bind, Except.bind]

theorem path_served (name : List Char) (a : Authority) (cs : List Char) :
    (served name a cs).path = .segments (pathAfterServer name cs).1 := rfl

/-- Without a query and a fragment behind it, a path is the end. -/
theorem served_of_path {name : List Char} {a : Authority} {cs : List Char}
    {parts : List (List Char)} (path : pathAfterServer name cs = (parts, [])) :
    served name a cs = { scheme := name, username := a.username, password := a.password,
                         host := some a.host, port := a.port, path := .segments parts } := by
  simp [served, path, finish, tail]

end Reader

/-! Texts with one beginning. -/

open Reader

theorem endsPath_iff {c : Char} : endsPath c = true ↔ c = '?' ∨ c = '#' := by
  simp [endsPath]

theorem endsPath_none_iff (cs : List Char) :
    (∀ c ∈ cs, endsPath c = false) ↔ '?' ∉ cs ∧ '#' ∉ cs := by
  constructor
  · intro none
    exact ⟨fun query => absurd (none _ query) (by decide),
      fun hash => absurd (none _ hash) (by decide)⟩
  · rintro ⟨query, hash⟩ c member
    cases ends : endsPath c with
    | false => rfl
    | true => rcases endsPath_iff.mp ends with same | same <;> subst same <;> contradiction

theorem visible_of_endsPath {c : Char} (ends : endsPath c = true) : isOuter c = false := by
  rcases endsPath_iff.mp ends with same | same <;> subst same <;> decide

theorem endsAuthority_of_endsPath {c : Char} (ends : endsPath c = true) :
    endsAuthority true c = true := by
  rcases endsPath_iff.mp ends with same | same <;> subst same <;> decide

theorem scheme_of_withServer {name cs : List Char} {u : Url}
    (read : withServer name cs = .ok u) : u.scheme = name := by
  obtain ⟨_, _, read⟩ := of_bind_ok read
  cases read
  rfl

theorem scheme_of_plain {name cs : List Char} {u : Url} (read : plain name cs = .ok u) :
    u.scheme = name := by
  unfold plain at read
  split at read
  · exact scheme_of_withServer read
  · cases read
    rfl
  · cases read
    rfl

theorem scheme_of_file {name cs : List Char} {u : Url} (read : file name cs = .ok u) :
    u.scheme = name := by
  simp only [file] at read
  split at read
  · cases read
    rfl
  split at read
  · cases read
    rfl
  split at read
  · cases read
    rfl
  split at read
  · cases read
    rfl
  split at read
  · cases read
    rfl
  split at read
  · cases read
    rfl
  obtain ⟨_, _, read⟩ := of_bind_ok read
  cases read
  rfl

theorem scheme_of_parseChars {cs : List Char} {u : Url} (read : parseChars cs = .ok u) :
    ∃ rest, Reader.scheme (cleaned cs) = some (u.scheme, rest) := by
  unfold parseChars at read
  split at read
  · cases read
  · rename_i name rest found
    have same : u.scheme = name := by
      split at read
      · exact scheme_of_file read
      split at read
      · exact scheme_of_withServer read
      · exact scheme_of_plain read
    exact ⟨rest, same ▸ found⟩

/-- What a text names behind its scheme and slashes: a server and all that is below it. -/
def named (cs : List Char) : List Char :=
  (((Reader.scheme cs).map (·.2)).getD []).dropWhile (isSlash true)

/-- Texts that begin with `x` and go on below its server name that server, whatever they go on
with. -/
structure Begins (name x server rest : List Char) : Prop where
  text : ∃ lead, x = lead ++ (server ++ rest) ∧ ∀ c ∈ lead, endsPath c = false
  below : named x = server ++ rest
  inside : Inside server
  stops : Stops rest
  parse : ∀ cs back, Apart back → cleaned cs = x ++ back →
    parseChars cs = withServer name (server ++ (rest ++ back))

/-- Question marks and hashes stand behind the server. -/
theorem Begins.mem_iff {name x server rest : List Char} (begins : Begins name x server rest)
    {d : Char} (ends : endsPath d = true) : d ∈ x ↔ d ∈ rest := by
  obtain ⟨lead, parts, leadEnds⟩ := begins.text
  have notLead : d ∉ lead := fun member => by
    rw [leadEnds d member] at ends
    cases ends
  have notServer : d ∉ server := fun member => by
    have inside := begins.inside d member
    rw [endsAuthority_of_endsPath ends] at inside
    cases inside
  simp [parts, notLead, notServer]

-- A scheme, its colon and slashes.
theorem endsPath_lead {front slashes : List Char} (letters : ∀ c ∈ front, inScheme c = true)
    (only : ∀ c ∈ slashes, isSlash true c = true) :
    ∀ d ∈ front ++ ':' :: slashes, endsPath d = false := by
  intro d member
  cases ends : endsPath d with
  | false => rfl
  | true =>
    have mark : inScheme d = false ∧ d ≠ ':' ∧ isSlash true d = false := by
      rcases endsPath_iff.mp ends with same | same <;> subst same <;> decide
    rcases List.mem_append.mp member with early | late
    · exact mark.1 ▸ (letters d early).symm
    · rcases List.mem_cons.mp late with colon | slash
      · exact absurd colon mark.2.1
      · exact mark.2.2 ▸ (only d slash).symm

/-- Nothing is below a server that the text ends with. -/
theorem Begins.rest_nil_iff {name x server rest : List Char} (begins : Begins name x server rest) :
    rest = [] ↔ ∀ c ∈ named x, endsAuthority true c = false := by
  rw [begins.below]
  constructor
  · rintro rfl c member
    exact begins.inside c (by simpa using member)
  · intro inside
    cases rest with
    | nil => rfl
    | cons c rest =>
      have stop := begins.stops c rest rfl
      rw [inside c (by simp)] at stop
      cases stop

theorem exists_begins {cs x back : List Char} {u : Url} (read : parseChars cs = .ok u)
    (special : isSpecial u.scheme = true) (web : isFile u.scheme = false) (apart : Apart back)
    (slashes : ∀ c ∈ back, isSlash true c = true) (text : cleaned cs = x ++ back) :
    ∃ server rest, Begins u.scheme x server rest := by
  obtain ⟨tail, found⟩ := scheme_of_parseChars read
  rw [text, scheme_append apart] at found
  obtain ⟨⟨name, more⟩, alone, same⟩ := Option.map_eq_some_iff.mp found
  cases same
  obtain ⟨front, parts, letters⟩ := scheme_parts alone
  have below (cs back : List Char) (apart : Apart back) (text : cleaned cs = x ++ back) :
      parseChars cs = withServer u.scheme ((more ++ back).dropWhile (isSlash true)) := by
    simp only [parseChars, text, scheme_append apart, alone, Option.map_some, web, special]
    rfl
  have given : more.dropWhile (isSlash true) ≠ [] := by
    intro empty
    have none : back.dropWhile (isSlash true) = [] := List.dropWhile_eq_nil_iff.mpr slashes
    rw [below cs back apart text, List.dropWhile_append, empty, List.isEmpty_nil, if_pos rfl, none,
      withServer_nil special] at read
    cases read
  obtain ⟨c, start, kept⟩ := List.exists_cons_of_ne_nil given
  refine ⟨(c :: start).takeWhile fun c => !endsAuthority true c,
    (c :: start).dropWhile fun c => !endsAuthority true c, ?_, ?_, ?_, ?_, ?_⟩
  · refine ⟨front ++ ':' :: more.takeWhile (isSlash true), ?_, ?_⟩
    · rw [List.takeWhile_append_dropWhile, ← kept, List.append_assoc, List.cons_append,
        List.takeWhile_append_dropWhile, parts]
    · exact endsPath_lead letters fun d member => List.mem_takeWhile_imp member
  · rw [named, alone, Option.map_some, Option.getD_some, kept, List.takeWhile_append_dropWhile]
  · intro d member
    simpa using List.mem_takeWhile_imp member
  · intro d rest same
    have stop := List.head_dropWhile_not (fun c => !endsAuthority true c) (l := c :: start)
      (by simp [same])
    simpa [same] using stop
  · intro cs back apart text
    have longer : (more ++ back).dropWhile (isSlash true) = (c :: start) ++ back := by
      rw [List.dropWhile_append, kept]
      rfl
    rw [below cs back apart text, longer, ← List.append_assoc, List.takeWhile_append_dropWhile]

end Admission.Url
