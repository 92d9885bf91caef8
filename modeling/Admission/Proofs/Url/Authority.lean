import Admission.Proofs.Except
import Admission.Proofs.Text.Run
import Admission.Proofs.Text.Utf8
import Admission.Url.Reader
/-!
The server of a URL is read from the text in front of the first slash, question mark or hash, and
from nothing behind it. A blank or a control at the end of that text makes it no server.
-/

namespace Admission.Url

/-! Blanks in host names. -/

theorem ne_of_blank {c d : Char} (low : c.toNat ≤ 0x20) (visible : 0x20 < d.toNat) : c ≠ d := by
  rintro rfl
  omega

theorem hexDigit_blank {d : Char} (low : d.toNat ≤ 0x20) : Text.hexDigit d = none := by
  simp only [Text.hexDigit]
  rw [if_neg (by omega), if_neg (by omega), if_neg (by omega)]

theorem utf8EncodeChar_blank {d : Char} (low : d.toNat ≤ 0x20) :
    String.utf8EncodeChar d = [UInt8.ofNat d.toNat] := by
  have small : d.val.toNat ≤ 127 := Nat.le_trans low (by decide)
  simp only [String.utf8EncodeChar, small, if_true]
  rfl

theorem decodeBytes_cons {c : Char} (other : c ≠ '%') (cs : List Char) :
    decodeBytes (c :: cs) = String.utf8EncodeChar c ++ decodeBytes cs := by
  rw [decodeBytes.eq_def]
  split
  · rename_i same
    cases same
    exact absurd rfl other
  · rename_i same
    cases same
    rfl
  · rename_i same
    cases same

theorem decodeBytes_snoc (cs : List Char) {d : Char} (low : d.toNat ≤ 0x20) :
    decodeBytes (cs ++ [d]) = decodeBytes cs ++ [UInt8.ofNat d.toNat] := by
  have other := hexDigit_blank low
  have byte := utf8EncodeChar_blank low
  fun_induction decodeBytes cs with
  | case1 a b rest m n first second ih => simp [decodeBytes, first, second, ih]
  | case2 a b rest missing ih =>
    rw [List.cons_append, List.cons_append, List.cons_append, decodeBytes]
    split
    · rename_i m n first second
      exact absurd second (missing m n first)
    · rw [← List.cons_append, ← List.cons_append, ih, List.append_assoc]
  | case3 c rest single ih =>
    by_cases percent : c = '%'
    · subst percent
      -- Too little follows the percent sign, and the blank is no digit.
      match rest, single, ih with
      | [], _, _ => simp [decodeBytes, byte]
      | [a], _, ih =>
        rw [List.cons_append, List.cons_append, List.nil_append, decodeBytes]
        simp only [other]
        simp only [List.singleton_append] at ih
        simp [ih]
      | a :: b :: rest, single, _ => exact absurd rfl (single a b rest rfl)
    · rw [List.cons_append, decodeBytes_cons percent, ih, List.append_assoc]
  | case4 => simp [decodeBytes, byte]

theorem ascii?_blank {name : List Char} {d : Char} (low : d.toNat ≤ 0x20) (member : d ∈ name) :
    Domain.ascii? name = none := by
  have found : name.any (·.toNat ≤ 0x20) = true := List.any_eq_true.mpr ⟨d, member, by simpa⟩
  simp [Domain.ascii?, found]

namespace Reader

theorem domain_blank (cs : List Char) {d : Char} (low : d.toNat ≤ 0x20) :
    domain (cs ++ [d]) = .error .invalidDomain := by
  have small : (UInt8.ofNat d.toNat).toNat = d.toNat := by
    rw [UInt8.toNat_ofNat']
    omega
  have refused : (Text.Utf8.decode? (decodeBytes (cs ++ [d]))).bind Domain.ascii? = none := by
    rw [decodeBytes_snoc cs low]
    cases decoded : Text.Utf8.decode? (decodeBytes cs ++ [UInt8.ofNat d.toNat]) with
    | none => rfl
    | some name =>
      have member := Text.Utf8.mem_of_decode_snoc (by omega) decoded
      rw [small, Char.ofNat_toNat] at member
      exact ascii?_blank low member
  rw [domain, refused]

/-- A text that ends in a blank or a control. -/
def Trails (cs : List Char) : Prop := ∃ front d, cs = front ++ [d] ∧ d.toNat ≤ 0x20

theorem Trails.of_append {front back : List Char} {c : Char} (visible : 0x20 < c.toNat)
    (trails : Trails (front ++ c :: back)) : Trails back := by
  obtain ⟨start, d, same, low⟩ := trails
  rcases List.eq_nil_or_concat back with empty | ⟨more, e, split⟩
  · subst empty
    have last : c = d := by simpa using congrArg List.getLast? same
    subst last
    omega
  · subst split
    have last : e = d := by
      have heads := congrArg List.reverse same
      simp only [List.reverse_append, List.reverse_cons, List.concat_eq_append] at heads
      exact (List.cons.inj heads).1
    exact ⟨more, e, by simp, last ▸ low⟩

theorem trails_append_blank (cs : List Char) {back : List Char} (given : back ≠ [])
    (low : ∀ c ∈ back, c.toNat ≤ 0x20) : Trails (cs ++ back) := by
  obtain ⟨front, d, split⟩ := (List.eq_nil_or_concat back).resolve_left given
  exact ⟨cs ++ front, d, by simp [split], low d (by simp [split])⟩

theorem host_blank {cs : List Char} (trails : Trails cs) :
    ∃ fault, host true cs = .error fault := by
  unfold host
  split
  · rename_i rest
    obtain ⟨more, e, same, low⟩ : Trails rest :=
      Trails.of_append (by decide) (show Trails ([] ++ '[' :: rest) from trails)
    have close : e ≠ ']' := ne_of_blank low (by decide)
    exact ⟨.invalidIpv6, by simp [literal, same, close]⟩
  · obtain ⟨front, d, same, low⟩ := trails
    rw [same]
    exact ⟨_, domain_blank front low⟩

/-! What stands in front of the path. -/

/-- A text in which the authority does not end. -/
def Inside (cs : List Char) : Prop := ∀ c ∈ cs, endsAuthority true c = false

/-- A text at which the authority ends. -/
def Stops (cs : List Char) : Prop := ∀ c rest, cs = c :: rest → endsAuthority true c = true

theorem Stops.append {front back : List Char} (stops : Stops front) (more : Stops back) :
    Stops (front ++ back) := by
  intro c rest same
  cases front with
  | nil => exact more c rest same
  | cons d front => exact stops c front (by cases same; rfl)

theorem stops_slash (cs : List Char) : Stops ('/' :: cs) := by
  rintro c rest ⟨⟩
  rfl

theorem stops_slashes (k : Nat) : Stops (List.replicate k '/') := by
  cases k with
  | zero => exact fun c rest same => by cases same
  | succ k => exact stops_slash _

theorem endsAuthority_of_blank {c : Char} (low : c.toNat ≤ 0x20) :
    endsAuthority true c = false := by
  simp [endsAuthority, isSlash, ne_of_blank low (d := '/') (by decide),
    ne_of_blank low (d := '\\') (by decide), ne_of_blank low (d := '?') (by decide),
    ne_of_blank low (d := '#') (by decide)]

theorem Inside.append_blank {cs back : List Char} (inside : Inside cs)
    (low : ∀ c ∈ back, c.toNat ≤ 0x20) : Inside (cs ++ back) := by
  intro c member
  rcases List.mem_append.mp member with front | later
  · exact inside c front
  · exact endsAuthority_of_blank (low c later)

variable {cs tail : List Char}

theorem splitUserinfo_append (inside : Inside cs) (stops : Stops tail) :
    splitUserinfo true (cs ++ tail) = (splitUserinfo true cs).map fun r => (r.1, r.2 ++ tail) := by
  induction cs with
  | nil =>
    cases tail with
    | nil => rfl
    | cons c rest => simp [splitUserinfo, stops c rest rfl]
  | cons c cs ih =>
    have here := inside c (by simp)
    have later := ih fun d member => inside d (by simp [member])
    simp only [List.cons_append, splitUserinfo, here, later]
    cases splitUserinfo true cs with
    | some r => rfl
    | none =>
      simp only [Option.map_none, Bool.false_eq_true, if_false]
      split <;> rfl

theorem splitUserinfo_inside {front back : List Char} (inside : Inside cs)
    (found : splitUserinfo true cs = some (front, back)) : Inside back := by
  induction cs generalizing front with
  | nil => cases found
  | cons c cs ih =>
    have later : Inside cs := fun d member => inside d (by simp [member])
    simp only [splitUserinfo, inside c (by simp), Bool.false_eq_true, if_false] at found
    split at found
    · rename_i same
      cases found
      exact ih later same
    · split at found
      · cases found
        exact later
      · cases found

theorem splitHost_append (bracket : Bool) (inside : Inside cs) (stops : Stops tail) :
    splitHost true bracket (cs ++ tail) =
      ((splitHost true bracket cs).1, (splitHost true bracket cs).2 ++ tail) := by
  induction cs generalizing bracket with
  | nil =>
    cases tail with
    | nil => rfl
    | cons c rest => simp [splitHost, stops c rest rfl]
  | cons c cs ih =>
    have later := fun bracket => ih bracket fun d member => inside d (by simp [member])
    simp only [List.cons_append, splitHost, later]
    split <;> rfl

/-- The host ends with the text or at the colon of a port. -/
theorem splitHost_back (bracket : Bool) (inside : Inside cs) :
    (splitHost true bracket cs).2 = [] ∨
      ∃ rest, (splitHost true bracket cs).2 = ':' :: rest ∧ Inside rest := by
  induction cs generalizing bracket with
  | nil => exact .inl rfl
  | cons c cs ih =>
    have later : Inside cs := fun d member => inside d (by simp [member])
    simp only [splitHost]
    split
    · rename_i ends
      rcases ends with ends | colon
      · rw [inside c (by simp)] at ends
        cases ends
      · exact .inr ⟨cs, by rw [colon.1], later⟩
    · exact ih _ later

theorem endsPort_eq (c : Char) : endsPort c = endsAuthority true c := by
  simp [endsPort, endsAuthority, isSlash]

theorem not_digit_of_ends {c : Char} (ends : endsAuthority true c = true) :
    Text.isDigit c = false := by
  rw [← endsPort_eq] at ends
  simp only [endsPort, Bool.or_eq_true, beq_iff_eq] at ends
  rcases ends with ((same | same) | same) | same <;> subst same <;> decide

theorem port_append (inside : Inside cs) (stops : Stops tail) :
    port (cs ++ tail) = (port cs).map fun r => (r.1, tail) := by
  have ends : ∀ c rest, tail = c :: rest → Text.isDigit c = false :=
    fun c rest same => not_digit_of_ends (stops c rest same)
  have digits := Text.takeWhile_append_of_stop cs ends
  have rest := Text.dropWhile_append_of_stop cs ends
  simp only [port, digits, rest]
  split
  · rfl
  · cases left : cs.dropWhile Text.isDigit with
    | nil =>
      cases tail with
      | nil => rfl
      | cons c tail => simp [endsPort_eq, stops c tail rfl, Except.map]
    | cons c more =>
      have member : c ∈ cs := List.dropWhile_sublist _ |>.subset (left ▸ List.mem_cons_self)
      simp [endsPort_eq, inside c member, Except.map]

theorem userinfo_append (inside : Inside cs) (stops : Stops tail) :
    (userinfo true (cs ++ tail) = .error .emptyHost ∧ ∃ user, userinfo true cs = .ok (user, [])) ∨
      ∃ user rest, userinfo true cs = .ok (user, rest) ∧ Inside rest ∧
        userinfo true (cs ++ tail) = .ok (user, rest ++ tail) := by
  simp only [userinfo, splitUserinfo_append inside stops]
  cases found : splitUserinfo true cs with
  | none => exact .inr ⟨_, cs, rfl, inside, rfl⟩
  | some parts =>
    obtain ⟨front, back⟩ := parts
    have later := splitUserinfo_inside inside found
    cases front with
    | cons c front => exact .inr ⟨_, back, rfl, later, rfl⟩
    | nil =>
      cases back with
      | nil =>
        cases tail with
        | nil => exact .inr ⟨_, [], rfl, later, rfl⟩
        | cons c tail => exact .inl ⟨by simp [stops c tail rfl], _, rfl⟩
      | cons c back =>
        exact .inr ⟨([], []), c :: back, by simp [later c (by simp)], later,
          by simp [later c (by simp)]⟩

theorem portAfter_append (server : Host) {back : List Char}
    (shape : back = [] ∨ ∃ rest, back = ':' :: rest ∧ Inside rest) (stops : Stops tail) :
    portAfter server (back ++ tail) = (portAfter server back).map fun r => (r.1, tail) := by
  rcases shape with empty | ⟨rest, same, inside⟩
  · subst empty
    cases tail with
    | nil => rfl
    | cons c tail =>
      have other : c ≠ ':' := by
        rintro rfl
        exact absurd (stops ':' tail rfl) (by decide)
      simp [portAfter, other, Except.map]
  · subst same
    simp only [portAfter, List.cons_append, port_append inside stops]
    split <;> rfl

/-- The server is read from the text in front of the path alone. -/
theorem authority_append {scheme : List Char} (special : isSpecial scheme = true)
    (inside : Inside cs) (stops : Stops tail) :
    authority scheme (cs ++ tail) = (authority scheme cs).map fun r => (r.1, tail) := by
  simp only [authority, special]
  rcases userinfo_append inside stops with
    ⟨refused, user, alone⟩ | ⟨user, rest, alone, inside, same⟩
  · rw [refused, alone]
    rfl
  · rw [same, alone]
    have back := splitHost_back false inside
    simp only [bind, Except.bind, splitHost_append false inside stops]
    split
    · rfl
    · cases host true (splitHost true false rest).1 with
      | error fault => rfl
      | ok server =>
        simp only [portAfter_append server back stops]
        cases portAfter server (splitHost true false rest).2 with
        | error fault => rfl
        | ok number =>
          simp only [Except.map]
          split <;> rfl

/-! No server ends in a blank. -/

theorem splitUserinfo_parts {front back : List Char}
    (found : splitUserinfo true cs = some (front, back)) : cs = front ++ '@' :: back := by
  induction cs generalizing front with
  | nil => cases found
  | cons c cs ih =>
    simp only [splitUserinfo] at found
    split at found
    · cases found
    split at found
    · rename_i same
      cases found
      rw [ih same]
      rfl
    · split at found
      · rename_i at'
        cases found
        rw [at']
        rfl
      · cases found

theorem splitHost_parts (bracket : Bool) (cs : List Char) :
    (splitHost true bracket cs).1 ++ (splitHost true bracket cs).2 = cs := by
  induction cs generalizing bracket with
  | nil => rfl
  | cons c cs ih =>
    simp only [splitHost]
    split
    · rfl
    · rw [List.cons_append, ih]

theorem port_blank (inside : Inside cs) (trails : Trails cs) : port cs = .error .invalidPort := by
  obtain ⟨front, d, same, low⟩ := trails
  have blank : Text.isDigit d = false := by
    simp only [Text.isDigit, Text.digit]
    rw [if_neg (by omega)]
    rfl
  simp only [port]
  split
  · rfl
  · cases left : cs.dropWhile Text.isDigit with
    | nil =>
      have all := List.dropWhile_eq_nil_iff.mp left d (by simp [same])
      rw [blank] at all
      cases all
    | cons c more =>
      have member : c ∈ cs := (List.dropWhile_sublist _).subset (left ▸ List.mem_cons_self)
      simp [endsPort_eq, inside c member]

theorem authority_blank {scheme : List Char} (special : isSpecial scheme = true)
    (inside : Inside cs) (trails : Trails cs) : ∃ fault, authority scheme cs = .error fault := by
  have server {user : List Char × List Char} {rest : List Char}
      (found : userinfo true cs = .ok (user, rest)) (inside : Inside rest) (trails : Trails rest) :
      ∃ fault, authority scheme cs = .error fault := by
    simp only [authority, special, found, bind, Except.bind]
    split
    · exact ⟨_, rfl⟩
    · have parts := splitHost_parts false rest
      rcases splitHost_back false inside with whole | ⟨back, colon, inside⟩
      · rw [whole, List.append_nil] at parts
        obtain ⟨fault, refused⟩ := host_blank trails
        rw [parts, refused]
        exact ⟨_, rfl⟩
      · rw [colon] at parts
        rw [← parts] at trails
        have refused := port_blank inside (trails.of_append (by decide))
        cases host true (splitHost true false rest).1 with
        | error fault => exact ⟨_, rfl⟩
        | ok server =>
          obtain ⟨fault, refused⟩ : ∃ fault, portAfter server (':' :: back) = .error fault := by
            simp only [portAfter, refused]
            split <;> exact ⟨_, rfl⟩
          simp only [colon, refused]
          exact ⟨_, rfl⟩
  cases found : splitUserinfo true cs with
  | none => exact server (by rw [userinfo, found]) inside trails
  | some parts =>
    obtain ⟨front, back⟩ := parts
    have later := splitUserinfo_inside inside found
    have ends := (splitUserinfo_parts found ▸ trails).of_append (by decide)
    cases front with
    | nil =>
      have going : ((back.head?.map (endsAuthority true)).getD false) = false := by
        cases back with
        | nil => rfl
        | cons c back => exact later c (by simp)
      have user : userinfo true cs = .ok (([], []), back) := by simp [userinfo, found, going]
      exact server user later ends
    | cons c front => exact server (by rw [userinfo, found]) later ends

end Reader

end Admission.Url
