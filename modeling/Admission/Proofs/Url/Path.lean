import Admission.Proofs.Url.Authority
/-!
The path of a URL with a server, segment by segment: what stands in front of a slash makes the
folder that the rest of the path is below.
-/

namespace Admission.Url.Reader

/-! Slashes. -/

theorem splitSlashes_ne_nil (special : Bool) (cs : List Char) : splitSlashes special cs ≠ [] := by
  cases cs with
  | nil => simp [splitSlashes]
  | cons c cs =>
    simp only [splitSlashes]
    split
    · simp
    · split <;> simp

theorem splitSlashes_slash (special : Bool) (front back : List Char) :
    splitSlashes special (front ++ '/' :: back) =
      splitSlashes special front ++ splitSlashes special back := by
  induction front with
  | nil => simp [splitSlashes, isSlash]
  | cons c front ih =>
    simp only [List.cons_append, splitSlashes, ih]
    split
    · rfl
    · obtain ⟨part, parts, split⟩ := List.exists_cons_of_ne_nil (splitSlashes_ne_nil special front)
      simp [split]

/-- A text without slashes goes on with the last segment. -/
theorem splitSlashes_inside (special : Bool) (front : List Char) {back : List Char}
    (inside : ∀ c ∈ back, isSlash special c = false) :
    ∃ parts last, splitSlashes special front = parts ++ [last] ∧
      splitSlashes special (front ++ back) = parts ++ [last ++ back] := by
  induction front with
  | nil =>
    refine ⟨[], [], rfl, ?_⟩
    induction back with
    | nil => rfl
    | cons c back ih =>
      have later := ih fun d member => inside d (by simp [member])
      simp only [List.nil_append] at later
      simp [splitSlashes, inside c (by simp), later]
  | cons c front ih =>
    obtain ⟨parts, last, alone, longer⟩ := ih
    simp only [List.cons_append, splitSlashes, alone, longer]
    split
    · exact ⟨[] :: parts, last, rfl, rfl⟩
    · cases parts with
      | nil => exact ⟨[], c :: last, rfl, rfl⟩
      | cons part parts => exact ⟨(c :: part) :: parts, last, rfl, rfl⟩

theorem splitSlashes_replicate (special : Bool) (k : Nat) :
    splitSlashes special (List.replicate k '/') = List.replicate (k + 1) [] := by
  induction k with
  | zero => rfl
  | succ k ih =>
    rw [List.replicate_succ, List.replicate_succ, ← ih]
    simp [splitSlashes, isSlash]

/-! Segments. -/

theorem addSegments_append (file : Bool) (parts front back : List (List Char))
    (more : back ≠ []) :
    addSegments file parts (front ++ back) =
      addSegments file (front.foldl (addSegment file false) parts) back := by
  induction front generalizing parts with
  | nil => rfl
  | cons raw front ih =>
    obtain ⟨next, rest, same⟩ := List.exists_cons_of_ne_nil
      (List.append_ne_nil_of_right_ne_nil front more)
    have step : addSegments file parts (raw :: (front ++ back)) =
        addSegments file (addSegment file false parts raw) (front ++ back) := by
      rw [same, addSegments]
      simp
    rw [List.cons_append, step, ih, List.foldl_cons]

/-- The last segment differs from one with more behind it by a final slash at most. -/
theorem addSegment_last (parts : List (List Char)) (raw : List Char) :
    ∃ k ≤ 1, addSegment false true parts raw =
      addSegment false false parts raw ++ List.replicate k [] := by
  simp only [addSegment]
  split
  · exact ⟨1, Nat.le_refl 1, by simp⟩
  split
  · exact ⟨1, Nat.le_refl 1, by simp⟩
  · exact ⟨0, Nat.zero_le 1, by simp⟩

/-- A segment that stands for itself. -/
def Literal (part : List Char) : Prop :=
  encodeWith inPath part = part ∧ isDoubleDot part = false ∧ isSingleDot part = false

instance (part : List Char) : Decidable (Literal part) := by
  unfold Literal; infer_instance

theorem addSegment_literal (last : Bool) (parts : List (List Char)) {raw : List Char}
    (literal : Literal raw) : addSegment false last parts raw = parts ++ [raw] := by
  obtain ⟨same, noParent, noSelf⟩ := literal
  simp [addSegment, same, noParent, noSelf]

theorem addSegments_literal (parts raws : List (List Char)) (literal : ∀ raw ∈ raws, Literal raw) :
    addSegments false parts raws = parts ++ raws := by
  induction raws generalizing parts with
  | nil => simp [addSegments]
  | cons raw raws ih =>
    have here := literal raw (by simp)
    have later := fun parts => ih parts fun next member => literal next (by simp [member])
    cases raws with
    | nil => exact addSegment_literal true parts here
    | cons next raws =>
      rw [addSegments, addSegment_literal false parts here, later, List.append_assoc]
      · rfl
      · simp

/-! Folders. -/

/-- The segments that the beginning of a path, slash first, leaves for what is below it. -/
def folder : List Char → List (List Char)
  | [] => []
  | _ :: cs => (splitSlashes true cs).foldl (addSegment false false) []

/-- A path or nothing, with neither query nor fragment behind it. -/
structure PathOnly (cs : List Char) : Prop where
  slash : ∀ c rest, cs = c :: rest → isSlash true c = true
  ends : ∀ c ∈ cs, endsPath c = false

theorem endsPath_all {cs : List Char} (ends : ∀ c ∈ cs, endsPath c = false) :
    (cs.takeWhile fun c => !endsPath c) = cs ∧ (cs.dropWhile fun c => !endsPath c) = [] := by
  have all : ∀ c ∈ cs, (!endsPath c) = true := fun c member => by simp [ends c member]
  exact ⟨List.takeWhile_eq_self_iff.mpr all, List.dropWhile_eq_nil_iff.mpr all⟩

variable {scheme : List Char}

theorem segments_eq (special : isSpecial scheme = true) (web : isFile scheme = false)
    {cs : List Char} (ends : ∀ c ∈ cs, endsPath c = false) :
    segments scheme cs = (addSegments false [] (splitSlashes true cs), []) := by
  obtain ⟨taken, left⟩ := endsPath_all ends
  simp only [segments, special, web, taken, left]

theorem pathAfterServer_eq (special : isSpecial scheme = true) (cs : List Char) :
    pathAfterServer scheme cs = segments scheme (dropSlash true cs) := by
  simp [pathAfterServer, special]

theorem dropSlash_cons {c : Char} (cs : List Char) (slash : isSlash true c = true) :
    dropSlash true (c :: cs) = cs := by
  simp [dropSlash, slash]

/-- What comes after a slash is put below the folder in front of it. -/
theorem pathAfterServer_below (special : isSpecial scheme = true) (web : isFile scheme = false)
    {front back : List Char} (path : PathOnly front) (ends : ∀ c ∈ back, endsPath c = false) :
    pathAfterServer scheme (front ++ '/' :: back) =
      (addSegments false (folder front) (splitSlashes true back), []) := by
  rw [pathAfterServer_eq special]
  cases front with
  | nil =>
    rw [List.nil_append, dropSlash_cons _ (by decide), segments_eq special web ends]
    rfl
  | cons c front =>
    have whole : ∀ d ∈ front ++ '/' :: back, endsPath d = false := by
      intro d member
      rcases List.mem_append.mp member with left | right
      · exact path.ends d (by simp [left])
      · rcases List.mem_cons.mp right with same | later
        · subst same
          decide
        · exact ends d later
    rw [List.cons_append, dropSlash_cons _ (path.slash c front rfl), segments_eq special web whole,
      splitSlashes_slash, addSegments_append _ _ _ _ (splitSlashes_ne_nil true back)]
    rfl

/-- A path with slashes at its end is its folder and empty segments. -/
theorem pathAfterServer_slashes (special : isSpecial scheme = true) (web : isFile scheme = false)
    {front : List Char} (path : PathOnly front) (k : Nat) :
    ∃ n, pathAfterServer scheme (front ++ List.replicate k '/') =
      (folder front ++ List.replicate n [], []) := by
  cases k with
  | succ k =>
    have ends : ∀ c ∈ List.replicate k '/', endsPath c = false := by
      intro c member
      rw [List.eq_of_mem_replicate member]
      rfl
    have literal : ∀ raw ∈ List.replicate (k + 1) ([] : List Char), Literal raw := by
      intro raw member
      rw [List.eq_of_mem_replicate member]
      decide
    refine ⟨k + 1, ?_⟩
    rw [List.replicate_succ, pathAfterServer_below special web path ends, splitSlashes_replicate,
      addSegments_literal _ _ literal]
  | zero =>
    rw [List.replicate_zero, List.append_nil, pathAfterServer_eq special]
    cases front with
    | nil =>
      refine ⟨1, ?_⟩
      rw [dropSlash, segments_eq special web (by simp)]
      rfl
    | cons c front =>
      have ends : ∀ d ∈ front, endsPath d = false := fun d member => path.ends d (by simp [member])
      rw [dropSlash_cons _ (path.slash c front rfl), segments_eq special web ends]
      obtain ⟨parts, last, split⟩ := List.eq_nil_or_concat (splitSlashes true front) |>.resolve_left
        (splitSlashes_ne_nil true front)
      obtain ⟨n, _, same⟩ := addSegment_last (parts.foldl (addSegment false false) []) last
      refine ⟨n, ?_⟩
      rw [split, List.concat_eq_append, addSegments_append _ _ _ _ (by simp), addSegments, same,
        folder, split, List.concat_eq_append, List.foldl_append]
      rfl

/-! Blanks at the end of a path. -/

theorem slash_of_blank {c : Char} (low : c.toNat ≤ 0x20) : isSlash true c = false := by
  simp [isSlash, ne_of_blank low (d := '/') (by decide), ne_of_blank low (d := '\\') (by decide)]

theorem endsPath_of_blank {c : Char} (low : c.toNat ≤ 0x20) : endsPath c = false := by
  simp [endsPath, ne_of_blank low (d := '?') (by decide), ne_of_blank low (d := '#') (by decide)]

theorem PathOnly.append_blank {c : Char} {front back : List Char} (path : PathOnly (c :: front))
    (low : ∀ d ∈ back, d.toNat ≤ 0x20) : PathOnly (c :: (front ++ back)) where
  slash := by
    rintro d rest ⟨⟩
    exact path.slash c front rfl
  ends d member := by
    rw [← List.cons_append] at member
    rcases List.mem_append.mp member with early | late
    · exact path.ends d early
    · exact endsPath_of_blank (low d late)

theorem encodeWith_append (set : Char → Bool) (front back : List Char) :
    encodeWith set (front ++ back) = encodeWith set front ++ encodeWith set back := by
  simp [encodeWith]

theorem encodeWith_blank {d : Char} (low : d.toNat ≤ 0x20) :
    encodeWith inPath [d] = ['%', upperHex (d.toNat / 16), upperHex (d.toNat % 16)] := by
  have encoded : inPath d = true := by
    by_cases blank : d = ' '
    · subst blank
      rfl
    · have control : d.toNat < 0x20 := by
        have other : d.toNat ≠ ' '.toNat := fun same => blank (Char.toNat_inj.mp same)
        have code : ' '.toNat = 0x20 := rfl
        omega
      simp [inPath, inFragment, isControl, control]
  have small : (UInt8.ofNat d.toNat).toNat = d.toNat := by
    rw [UInt8.toNat_ofNat']
    omega
  simp [encodeWith, encoded, utf8EncodeChar_blank low, percentByte, small]

/-- A blank is encoded, but a dot is none of the characters that are. -/
theorem upperHex_blank : ∀ n ≤ 0x20, Domain.lower (upperHex (n % 16)) ≠ '.' ∧
    ¬ (Domain.lower (upperHex (n / 16)) = '2' ∧ Domain.lower (upperHex (n % 16)) = 'e') := by
  decide

theorem not_dots_blank (front : List Char) {d : Char} (low : d.toNat ≤ 0x20) :
    isDoubleDot (encodeWith inPath (front ++ [d])) = false ∧
      isSingleDot (encodeWith inPath (front ++ [d])) = false := by
  obtain ⟨noDot, noCode⟩ := upperHex_blank d.toNat low
  have last : ((encodeWith inPath (front ++ [d])).map Domain.lower).reverse =
      Domain.lower (upperHex (d.toNat % 16)) :: Domain.lower (upperHex (d.toNat / 16)) ::
        '%' :: ((encodeWith inPath front).map Domain.lower).reverse := by
    rw [encodeWith_append, encodeWith_blank low]
    simp [Domain.lower]
  have dot (part : List Char) : (encodeWith inPath (front ++ [d])).map Domain.lower ≠
      part ++ ['.'] := by
    intro same
    rw [same, List.reverse_append] at last
    exact noDot (List.cons.inj last).1.symm
  have code (part : List Char) : (encodeWith inPath (front ++ [d])).map Domain.lower ≠
      part ++ ['2', 'e'] := by
    intro same
    rw [same, List.reverse_append] at last
    have heads := List.cons.inj last
    exact noCode ⟨(List.cons.inj heads.2).1.symm, heads.1.symm⟩
  constructor
  · simp only [isDoubleDot, Bool.or_eq_false_iff, beq_eq_false_iff_ne]
    exact ⟨⟨⟨dot ['.'], code ['.', '%']⟩, dot ['%', '2', 'e']⟩, code ['%', '2', 'e', '%']⟩
  · simp only [isSingleDot, Bool.or_eq_false_iff, beq_eq_false_iff_ne]
    exact ⟨dot [], code ['%']⟩

theorem chars_segments_append (front back : List (List Char)) :
    (Path.segments (front ++ back)).chars =
      (Path.segments front).chars ++ (Path.segments back).chars := by
  simp [Path.chars]

theorem length_chars_le {front back : List (List Char)} (part : front <+: back) :
    (Path.segments front).chars.length ≤ (Path.segments back).chars.length := by
  obtain ⟨rest, same⟩ := part
  rw [← same, chars_segments_append, List.length_append]
  omega

theorem prefix_shorten (parts : List (List Char)) : shorten false parts <+: parts := by
  unfold shorten
  split
  · exact List.prefix_refl _
  · simp
  · exact List.dropLast_prefix _

theorem length_chars_snoc (parts : List (List Char)) (part : List Char) :
    (Path.segments (parts ++ [part])).chars.length =
      (Path.segments parts).chars.length + 1 + part.length := by
  have one : (Path.segments [part]).chars = '/' :: part := by simp [Path.chars]
  rw [chars_segments_append, one, List.length_append, List.length_cons]
  omega

theorem length_addSegment_le (parts : List (List Char)) (raw : List Char) :
    (Path.segments (addSegment false true parts raw)).chars.length ≤
      (Path.segments parts).chars.length + 1 + (encodeWith inPath raw).length := by
  have shorter := length_chars_le (prefix_shorten parts)
  simp only [addSegment]
  split
  · rw [if_pos trivial, length_chars_snoc, List.length_nil]
    omega
  split
  · rw [if_pos trivial, length_chars_snoc, List.length_nil]
    omega
  · simp [length_chars_snoc]

/-- Blanks and controls at the end of a path are kept, so the folder that is made of them is longer
than the path without them. -/
theorem length_path_blank (special : isSpecial scheme = true) (web : isFile scheme = false)
    {c d : Char} {front back : List Char} (path : PathOnly (c :: front))
    (low : ∀ e ∈ back ++ [d], e.toNat ≤ 0x20) :
    (Path.segments (pathAfterServer scheme (c :: front)).1).chars.length <
      (Path.segments (folder (c :: (front ++ (back ++ [d]))))).chars.length := by
  have ends : ∀ e ∈ front, endsPath e = false := fun e member => path.ends e (by simp [member])
  obtain ⟨parts, last, alone, longer⟩ := splitSlashes_inside true front
    fun e member => slash_of_blank (low e member)
  have noDots := not_dots_blank (last ++ back) (low d (by simp))
  rw [List.append_assoc] at noDots
  have grows : (encodeWith inPath last).length <
      (encodeWith inPath (last ++ (back ++ [d]))).length := by
    rw [← List.append_assoc, encodeWith_append inPath (last ++ back), encodeWith_append,
      encodeWith_blank (low d (by simp))]
    simp only [List.length_append, List.length_cons]
    omega
  have bound := length_addSegment_le (parts.foldl (addSegment false false) []) last
  rw [pathAfterServer_eq special, dropSlash_cons _ (path.slash c front rfl),
    segments_eq special web ends, alone, addSegments_append _ _ _ _ (by simp), addSegments]
  simp only [folder, longer, List.foldl_append, List.foldl_cons, List.foldl_nil]
  have kept (parts : List (List Char)) :
      addSegment false false parts (last ++ (back ++ [d])) =
        parts ++ [encodeWith inPath (last ++ (back ++ [d]))] := by
    simp [addSegment, noDots]
  rw [kept, length_chars_snoc]
  omega

/-! Queries and fragments. -/

/-- Behind a question mark or a hash nothing is part of the path. -/
theorem pathAfterServer_ended (special : isSpecial scheme = true) {front : List Char}
    (ended : ∃ c ∈ front, endsPath c = true) (back : List Char) :
    (pathAfterServer scheme (front ++ back)).1 = (pathAfterServer scheme front).1 := by
  have taken {cs : List Char} (ended : ∃ c ∈ cs, endsPath c = true) :
      ((cs ++ back).takeWhile fun c => !endsPath c) = cs.takeWhile fun c => !endsPath c := by
    obtain ⟨c, member, ends⟩ := ended
    exact Text.takeWhile_append_of_mem member (by simp [ends]) back
  simp only [pathAfterServer_eq special, segments]
  cases front with
  | nil => simp at ended
  | cons c front =>
    by_cases slash : isSlash true c = true
    · have later : ∃ d ∈ front, endsPath d = true := by
        obtain ⟨d, member, ends⟩ := ended
        rcases List.mem_cons.mp member with same | member
        · subst same
          simp only [isSlash, endsPath, Bool.or_eq_true, beq_iff_eq, Bool.true_and] at slash ends
          rcases slash with slash | slash <;> rcases ends with ends | ends <;>
            rw [slash] at ends <;> cases ends
        · exact ⟨d, member, ends⟩
      rw [List.cons_append, dropSlash_cons _ slash, dropSlash_cons _ slash, taken later]
    · have kept (cs : List Char) : dropSlash true (c :: cs) = c :: cs := by
        simp [dropSlash, slash]
      rw [List.cons_append, kept, kept, ← List.cons_append, taken ended]

end Admission.Url.Reader
