import Admission.Delegate.Target
import Admission.Proofs.Config.Validation
import Admission.Proofs.Url.Reader
/-!
Where hooks are posted. The path of a hook is put behind the text of the endpoint, which is right
for endpoints that end in a path; behind a query, a fragment or a blank it does not become part of
the path.
-/

namespace Admission.Delegate

open Url (Path isSpecial isFile parseChars exists_begins endsPath_none_iff visible_of_endsPath)
open Url.Reader

/-! Final slashes. -/

theorem exists_slashes (cs : List Char) :
    ∃ k, cs = withoutSlashes cs ++ List.replicate k '/' := by
  refine ⟨(cs.reverse.takeWhile (· = '/')).length, ?_⟩
  have all : cs.reverse.takeWhile (· = '/') =
      List.replicate (cs.reverse.takeWhile (· = '/')).length '/' :=
    List.eq_replicate_iff.mpr ⟨rfl, fun c member => by simpa using List.mem_takeWhile_imp member⟩
  rw [← List.reverse_replicate, ← all, withoutSlashes, ← List.reverse_append,
    List.takeWhile_append_dropWhile, List.reverse_reverse]

theorem withoutSlashes_slashes (cs : List Char) (k : Nat) :
    withoutSlashes (cs ++ List.replicate k '/') = withoutSlashes cs := by
  induction k with
  | zero => simp
  | succ k ih =>
    rw [List.replicate_succ', ← List.append_assoc, ← ih]
    simp [withoutSlashes]

theorem not_slash_suffix (cs : List Char) : ¬ ['/'] <:+ withoutSlashes cs := by
  rintro ⟨front, same⟩
  have shape : cs.reverse.dropWhile (· = '/') = '/' :: front.reverse := by
    rw [← List.reverse_reverse (cs.reverse.dropWhile _), ← withoutSlashes, ← same]
    simp
  have stop := List.head_dropWhile_not (fun c : Char => decide (c = '/')) (l := cs.reverse)
    (by simp [shape])
  simp [shape] at stop

theorem withoutSlashes_eq_iff (cs : List Char) : withoutSlashes cs = cs ↔ ¬ ['/'] <:+ cs := by
  constructor
  · intro same
    exact same ▸ not_slash_suffix cs
  · intro other
    obtain ⟨k, parts⟩ := exists_slashes cs
    cases k with
    | zero => simpa using parts.symm
    | succ k =>
      rw [List.replicate_succ', ← List.append_assoc] at parts
      exact absurd ⟨_, parts.symm⟩ other

/-! The end of an endpoint. -/

theorem isOuter_iff {c : Char} : isOuter c = true ↔ c.toNat ≤ 0x20 := by simp [isOuter]

/-- An endpoint is read as `x` and slashes; what is put behind it stands behind `x` and the blanks
and controls `w`. -/
structure Ending (cs x w : List Char) (k : Nat) : Prop where
  alone : cleaned cs = x ++ List.replicate k '/'
  longer : ∀ back ≠ [], (∀ c ∈ back, isOuter c = false) →
    cleaned (withoutSlashes cs ++ back) = x ++ (w ++ back)
  blank : ∀ c ∈ w, c.toNat ≤ 0x20
  either : w = [] ∨ k = 0
  nothing : w = [] ↔ ∀ c ∈ trailing cs, isLineBreak c = true

theorem exists_ending {cs : List Char} (given : cleaned cs ≠ []) :
    ∃ x w k, Ending cs x w k := by
  obtain ⟨k, parts⟩ := exists_slashes cs
  cases k with
  | succ k =>
    have visible : ∀ c ∈ List.replicate (k + 1) '/', isOuter c = false := by
      intro c member
      rw [List.eq_of_mem_replicate member]
      rfl
    refine ⟨opened (withoutSlashes cs), [], k + 1, ?_, ?_, by simp, .inl rfl, ?_⟩
    · exact (congrArg cleaned parts).trans (cleaned_append _ (by simp) visible)
    · intro back given visible
      exact cleaned_append _ given visible
    · have none : trailing cs = [] := by
        rw [parts, trailing, List.reverse_append, List.reverse_replicate, List.replicate_succ,
          List.cons_append, List.takeWhile_cons_of_neg (by decide)]
      simp [none]
  | zero =>
    have same : withoutSlashes cs = cs := by simpa using parts.symm
    refine ⟨cleaned cs, (trailing cs).reverse.filter fun c => !isLineBreak c, 0, by simp, ?_, ?_,
      .inr rfl, ?_⟩
    · intro back given' visible
      rw [same, cleaned_append _ given' visible, opened_eq_cleaned_append,
        trailing_dropWhile given, List.append_assoc]
    · intro c member
      have kept := List.mem_reverse.mp (List.mem_filter.mp member).1
      exact isOuter_iff.mp (List.mem_takeWhile_imp kept)
    · simp [List.filter_eq_nil_iff]

/-! Paths below an endpoint. -/

/-- A path that is put behind endpoints: its segments stand for themselves. -/
structure Hangs (p : List Char) (parts : List (List Char)) : Prop where
  slash : ∃ back, p = '/' :: back ∧ splitSlashes true back = parts
  literal : ∀ raw ∈ parts, Literal raw
  visible : ∀ c ∈ p, isOuter c = false
  ends : ∀ c ∈ p, endsPath c = false
  chars : (Path.segments parts).chars = p

theorem hangs_hookPath (h : Hook) : ∃ parts, Hangs (hookPath h).toList parts := by
  have visible : ∀ c ∈ (hookPath h).toList, isOuter c = false :=
    Text.none_of_any (by cases h <;> decide)
  have ends : ∀ c ∈ (hookPath h).toList, endsPath c = false :=
    Text.none_of_any (by cases h <;> decide)
  cases h with
  | create =>
    exact ⟨["v1".toList, "check-create".toList], ⟨_, rfl, by decide⟩, by decide, visible, ends,
      by decide⟩
  | update =>
    exact ⟨["v1".toList, "check-update".toList], ⟨_, rfl, by decide⟩, by decide, visible, ends,
      by decide⟩
  | onEnd =>
    exact ⟨["v1".toList, "on-end".toList], ⟨_, rfl, by decide⟩, by decide, visible, ends,
      by decide⟩

theorem hangs_slash : Hangs ['/'] [[]] :=
  ⟨⟨[], rfl, rfl⟩, by decide, Text.none_of_any rfl, Text.none_of_any rfl, rfl⟩

/-- What is read of an endpoint and of the paths put behind it. -/
structure Placed (e : String) (u : Url) (a : Authority) (rest w : List Char) (k : Nat) : Prop where
  stops : Stops rest
  marks : (∀ c ∈ rest, endsPath c = false) ↔ '?' ∉ e.toList ∧ '#' ∉ e.toList
  blank : ∀ c ∈ w, c.toNat ≤ 0x20
  either : w = [] ∨ k = 0
  nothing : w = [] ↔ ∀ c ∈ trailing e.toList, isLineBreak c = true
  bare : w ≠ [] →
    (rest = [] ↔ ∀ c ∈ Url.named (cleaned e.toList), endsAuthority true c = false)
  alone : u = served u.scheme a (rest ++ List.replicate k '/')
  refused : ∀ path parts, Hangs path.toList parts → rest = [] → w ≠ [] →
    ∃ fault, Url.parse (below e path) = .error fault
  longer : ∀ path parts, Hangs path.toList parts → rest ≠ [] ∨ w = [] →
    Url.parse (below e path) = .ok (served u.scheme a (rest ++ (w ++ path.toList)))

theorem exists_placed {e : String} {u : Url} (read : Url.parse e = .ok u)
    (special : isSpecial u.scheme = true) (web : isFile u.scheme = false) :
    ∃ a rest w k, Placed e u a rest w k := by
  have given : cleaned e.toList ≠ [] := by
    intro empty
    rw [Url.parse, parseChars, empty] at read
    cases read
  obtain ⟨x, w, k, ending⟩ := exists_ending given
  have slash : ∀ c ∈ List.replicate k '/', c = '/' := fun c => List.eq_of_mem_replicate
  obtain ⟨server, rest, begins⟩ := exists_begins read special web (apart_slashes k)
    (fun c member => by rw [slash c member]; rfl) ending.alone
  have text : withServer u.scheme (server ++ (rest ++ List.replicate k '/')) = .ok u :=
    (begins.parse _ _ (apart_slashes k) ending.alone).symm.trans read
  rw [withServer_append special begins.inside (begins.stops.append (stops_slashes k))] at text
  obtain ⟨⟨a, left⟩, found, alone⟩ := of_map_ok text
  have longer (path : String) (parts) (hangs : Hangs path.toList parts) :
      Url.parse (below e path) = withServer u.scheme (server ++ (rest ++ (w ++ path.toList))) := by
    obtain ⟨back, starts, -⟩ := hangs.slash
    have text := ending.longer path.toList (by simp [starts]) hangs.visible
    rw [Url.parse, below, String.toList_ofList]
    exact begins.parse _ _ (.of_blank ending.blank (starts ▸ apart_slash back)) text
  refine ⟨a, rest, w, k, begins.stops, ?_, ending.blank, ending.either, ending.nothing, ?_,
    alone.symm, ?_, ?_⟩
  · have mark (d : Char) (ends : endsPath d = true) : d ∈ rest ↔ d ∈ e.toList := by
      have notSlash : d ∉ List.replicate k '/' := fun member => by
        rw [slash d member] at ends
        cases ends
      have kept : d ∈ cleaned e.toList ↔ d ∈ e.toList := mem_cleaned (visible_of_endsPath ends)
      rw [← begins.mem_iff ends, ← kept, ending.alone]
      simp [notSlash]
    rw [endsPath_none_iff, mark '?' rfl, mark '#' rfl]
  · intro given
    have none : k = 0 := ending.either.resolve_left given
    have same : cleaned e.toList = x := by simpa [none] using ending.alone
    rw [begins.rest_nil_iff, same]
  · intro path parts hangs none given
    obtain ⟨back, starts, -⟩ := hangs.slash
    have inside : Inside (server ++ w) := begins.inside.append_blank ending.blank
    have trails : Trails (server ++ w) := trails_append_blank server given ending.blank
    obtain ⟨fault, refused⟩ := authority_blank special inside trails
    rw [longer path parts hangs, none, List.nil_append, ← List.append_assoc,
      withServer_append special inside (starts ▸ stops_slash back), refused]
    exact ⟨fault, rfl⟩
  · intro path parts hangs goes
    obtain ⟨back, starts, -⟩ := hangs.slash
    have stops : Stops (rest ++ (w ++ path.toList)) := by
      intro c more same
      cases rest with
      | cons d rest => exact begins.stops c rest (by cases same; rfl)
      | nil =>
        have empty : w = [] := by simpa using goes
        exact stops_slash back c more (by simpa [empty, starts] using same)
    rw [longer path parts hangs, withServer_append special begins.inside stops, found]
    rfl

/-! Targets below an endpoint. -/

/-- The target of a hook is its fixed path below the endpoint. -/
structure Below (u : Url) (h : Hook) (t : Url) : Prop where
  scheme : t.scheme = u.scheme
  host : t.host = u.host
  port : t.port = u.port
  path : t.path.chars = withoutSlashes u.path.chars ++ (hookPath h).toList
  query : t.query = u.query
  fragment : t.fragment = u.fragment

/-- An endpoint that ends in a path, and in one that hooks can be put below: it has neither query
nor fragment, no blanks or controls follow it, and the folder that it names does not end in an
empty segment. -/
structure Plain (endpoint : String) : Prop where
  bare : '?' ∉ endpoint.toList ∧ '#' ∉ endpoint.toList
  ends : ∀ c ∈ trailing endpoint.toList, isLineBreak c = true
  full : ∀ v, Url.parse (below endpoint "/") = .ok v → ¬ ['/', '/'] <:+ v.path.chars

theorem plain_iff (endpoint : String) :
    (('?' ∉ endpoint.toList ∧ '#' ∉ endpoint.toList) ∧
      (trailing endpoint.toList).all isLineBreak = true ∧
      ((Url.parse (below endpoint "/")).toOption.all
        fun v => !(['/', '/'].isSuffixOf v.path.chars)) = true) ↔ Plain endpoint := by
  have full : ((Url.parse (below endpoint "/")).toOption.all
      fun v => !(['/', '/'].isSuffixOf v.path.chars)) = true ↔
        ∀ v, Url.parse (below endpoint "/") = .ok v → ¬ ['/', '/'] <:+ v.path.chars := by
    cases Url.parse (below endpoint "/") with
    | error fault => simp [Except.toOption]
    | ok v => simp [Except.toOption, ← List.isSuffixOf_iff_suffix]
  rw [full, List.all_eq_true]
  exact ⟨fun ⟨bare, ends, full⟩ => ⟨bare, ends, full⟩,
    fun plain => ⟨plain.bare, plain.ends, plain.full⟩⟩

instance (endpoint : String) : Decidable (Plain endpoint) :=
  decidable_of_iff _ (plain_iff endpoint)

theorem ne_append_hookPath (cs : List Char) (h : Hook) :
    cs ≠ withoutSlashes cs ++ (hookPath h).toList := by
  intro same
  obtain ⟨k, parts⟩ := exists_slashes cs
  have slashes : (hookPath h).toList = List.replicate k '/' :=
    List.append_cancel_left (same.symm.trans parts)
  have member : 'v' ∈ (hookPath h).toList := by cases h <;> decide
  rw [slashes] at member
  exact absurd (List.eq_of_mem_replicate member) (by decide)

theorem length_withoutSlashes_le (cs : List Char) : (withoutSlashes cs).length ≤ cs.length := by
  obtain ⟨k, parts⟩ := exists_slashes cs
  have lengths := congrArg List.length parts
  rw [List.length_append] at lengths
  omega

theorem chars_replicate_nil (n : Nat) :
    (Path.segments (List.replicate n [])).chars = List.replicate n '/' := by
  induction n with
  | zero => rfl
  | succ n ih => simpa [List.replicate_succ, Path.chars] using ih

theorem slash_suffix_iff (cs : List Char) : ['/', '/'] <:+ cs ++ ['/'] ↔ ['/'] <:+ cs := by
  constructor
  · rintro ⟨front, same⟩
    exact ⟨front, List.append_cancel_right ((List.append_assoc front ['/'] ['/']).trans same)⟩
  · rintro ⟨front, same⟩
    exact ⟨front, by simp [← same]⟩

theorem served_hung {name : List Char} (special : isSpecial name = true)
    (web : isFile name = false) (a : Authority) {front p : List Char} {parts : List (List Char)}
    (path : PathOnly front) (hangs : Hangs p parts) :
    served name a (front ++ p) =
      { scheme := name, username := a.username, password := a.password, host := some a.host,
        port := a.port, path := .segments (folder front ++ parts) } := by
  obtain ⟨back, starts, split⟩ := hangs.slash
  have ends : ∀ c ∈ back, endsPath c = false :=
    fun c member => hangs.ends c (by simp [starts, member])
  refine served_of_path ?_
  rw [starts, pathAfterServer_below special web path ends, split,
    addSegments_literal _ _ hangs.literal]

section Placed

variable {e : String} {u : Url} {a : Authority} {rest w : List Char} {k : Nat}
variable (placed : Placed e u a rest w k)
variable (special : isSpecial u.scheme = true) (web : isFile u.scheme = false)

include placed

theorem Placed.path_only (bare : ∀ c ∈ rest, endsPath c = false) : PathOnly rest where
  slash c more same := by
    have stops := placed.stops c more same
    have ends := bare c (by simp [same])
    simp only [endsAuthority, endsPath, Bool.or_eq_true, Bool.or_eq_false_iff] at stops ends
    simpa [ends] using stops
  ends := bare

include special

/-- Behind a query or a fragment, the path of a hook is no part of the path. -/
theorem Placed.path_of_mark (marked : ∃ c ∈ rest, endsPath c = true) (h : Hook) :
    ∃ t, Url.parse (below e (hookPath h)) = .ok t ∧ t.path = u.path := by
  obtain ⟨parts, hangs⟩ := hangs_hookPath h
  have goes : rest ≠ [] := by
    rintro rfl
    simp at marked
  refine ⟨_, placed.longer _ _ hangs (.inl goes), ?_⟩
  have alone := congrArg Url.path placed.alone
  rw [path_served, pathAfterServer_ended special marked] at alone
  rw [path_served, pathAfterServer_ended special marked, alone]

include web

theorem Placed.hung (bare : ∀ c ∈ rest, endsPath c = false) (goes : rest ≠ [] ∨ w = [])
    {path : String} {parts : List (List Char)} (hangs : Hangs path.toList parts) :
    Url.parse (below e path) =
      .ok { scheme := u.scheme, username := a.username, password := a.password, host := some a.host,
            port := a.port, path := .segments (folder (rest ++ w) ++ parts) } := by
  have front : PathOnly (rest ++ w) := by
    cases rest with
    | nil =>
      have empty : w = [] := by simpa using goes
      rw [empty]
      exact placed.path_only bare
    | cons c rest => exact (placed.path_only bare).append_blank placed.blank
  rw [placed.longer _ _ hangs goes, ← List.append_assoc, served_hung special web a front hangs]

/-- Blanks and controls behind an endpoint become part of the path, or make it no URL. -/
theorem Placed.not_below_of_blank (h : Hook) (bare : ∀ c ∈ rest, endsPath c = false)
    (given : w ≠ []) : ¬ ∃ t, Url.parse (below e (hookPath h)) = .ok t ∧ Below u h t := by
  rintro ⟨t, read, under⟩
  obtain ⟨parts, hangs⟩ := hangs_hookPath h
  have path := placed.path_only bare
  cases rest with
  | nil =>
    obtain ⟨fault, refused⟩ := placed.refused _ _ hangs rfl given
    rw [refused] at read
    cases read
  | cons c front =>
    have none : k = 0 := placed.either.resolve_left given
    obtain ⟨back, d, split⟩ := (List.eq_nil_or_concat w).resolve_left given
    have low : ∀ e ∈ back ++ [d], e.toNat ≤ 0x20 := by simpa [split] using placed.blank
    have longer := length_path_blank special web path low
    rw [← List.concat_eq_append, ← split] at longer
    rw [placed.hung special web bare (.inl (by simp)) hangs] at read
    cases read
    have lengths := congrArg List.length under.path
    have bound := length_withoutSlashes_le u.path.chars
    have alone := congrArg Url.path placed.alone
    rw [path_served, none, List.replicate_zero, List.append_nil] at alone
    rw [chars_segments_append, List.length_append, List.length_append, hangs.chars] at lengths
    rw [alone] at bound lengths
    rw [List.cons_append] at lengths
    omega

/-- Without blanks, a query and a fragment, the path of a hook is below the folder of the
endpoint. -/
theorem Placed.below_iff (h : Hook) (bare : ∀ c ∈ rest, endsPath c = false) (given : w = []) :
    (∃ t, Url.parse (below e (hookPath h)) = .ok t ∧ Below u h t) ↔
      ∀ v, Url.parse (below e "/") = .ok v → ¬ ['/', '/'] <:+ v.path.chars := by
  obtain ⟨parts, hangs⟩ := hangs_hookPath h
  obtain ⟨n, slashes⟩ := pathAfterServer_slashes special web (placed.path_only bare) k
  have alone := placed.alone
  rw [served_of_path slashes] at alone
  have target := placed.hung special web bare (.inr given) hangs
  have root := placed.hung special web bare (.inr given) (show Hangs "/".toList _ from hangs_slash)
  rw [given, List.append_nil] at target root
  have folded : withoutSlashes u.path.chars =
      withoutSlashes (Path.segments (folder rest)).chars := by
    rw [alone, chars_segments_append, chars_replicate_nil, withoutSlashes_slashes]
  have full : (∀ v, Url.parse (below e "/") = .ok v → ¬ ['/', '/'] <:+ v.path.chars) ↔
      withoutSlashes u.path.chars = (Path.segments (folder rest)).chars := by
    rw [root, folded, withoutSlashes_eq_iff, ← slash_suffix_iff]
    constructor
    · intro all
      have here := all _ rfl
      rwa [chars_segments_append, hangs_slash.chars] at here
    · rintro here v ⟨⟩
      rwa [chars_segments_append, hangs_slash.chars]
  rw [full, target]
  constructor
  · rintro ⟨t, ⟨⟩, under⟩
    have kept := under.path
    rw [chars_segments_append, hangs.chars] at kept
    exact (List.append_cancel_right kept).symm
  · intro same
    refine ⟨_, rfl, rfl, ?_, ?_, ?_, ?_, ?_⟩
    · rw [alone]
    · rw [alone]
    · rw [chars_segments_append, hangs.chars, same]
    · rw [alone]
    · rw [alone]

theorem Placed.path_ne (bare : ∀ c ∈ rest, endsPath c = false) {h h' : Hook} (other : h ≠ h')
    {t t' : Url} (read : Url.parse (below e (hookPath h)) = .ok t)
    (read' : Url.parse (below e (hookPath h')) = .ok t') : t.path ≠ t'.path := by
  obtain ⟨parts, hangs⟩ := hangs_hookPath h
  obtain ⟨parts', hangs'⟩ := hangs_hookPath h'
  have goes : rest ≠ [] ∨ w = [] := by
    by_contra stuck
    obtain ⟨none, given⟩ := not_or.mp stuck
    obtain ⟨fault, refused⟩ := placed.refused _ _ hangs (not_not.mp none) given
    rw [refused] at read
    cases read
  rw [placed.hung special web bare goes hangs] at read
  rw [placed.hung special web bare goes hangs'] at read'
  cases read
  cases read'
  intro same
  have parted : parts = parts' := List.append_cancel_left (Path.segments.inj same)
  have paths := hangs.chars.symm.trans (parted ▸ hangs'.chars)
  cases h <;> cases h' <;> first | exact other rfl | exact absurd paths (by decide)

/-- Hooks are below the plain endpoints only. -/
theorem Placed.below_iff_plain (h : Hook) :
    (∃ t, Url.parse (below e (hookPath h)) = .ok t ∧ Below u h t) ↔ Plain e := by
  by_cases bare : ∀ c ∈ rest, endsPath c = false
  · by_cases given : w = []
    · rw [placed.below_iff special web h bare given]
      exact ⟨fun full => ⟨placed.marks.mp bare, placed.nothing.mp given, full⟩, Plain.full⟩
    · exact iff_of_false (placed.not_below_of_blank special web h bare given)
        fun plain => given (placed.nothing.mpr plain.ends)
  · refine iff_of_false ?_ fun plain => bare (placed.marks.mpr plain.bare)
    rintro ⟨t, read, under⟩
    obtain ⟨t', read', same⟩ := placed.path_of_mark special (by simpa using bare) h
    cases read.symm.trans read'
    exact ne_append_hookPath _ h (same ▸ under.path)

end Placed

/-! Resolution. -/

variable {c : ServiceSection} {h : Hook}

theorem target_of_text {raw : String} {t : Url} (text : targetText c h = some raw)
    (read : Url.parse raw = .ok t) : target c h = .ok (some t) := by
  rw [target, text]
  simp only [parseTarget, read]
  rfl

theorem parse_of_target {raw : String} {t : Option Url} (text : targetText c h = some raw)
    (found : target c h = .ok t) : ∃ u, Url.parse raw = .ok u ∧ t = some u := by
  rw [target, text] at found
  obtain ⟨u, read, same⟩ := of_map_ok found
  exact ⟨u, of_mapError_ok read, same.symm⟩

theorem resolve_iff {ts : Targets} :
    Targets.resolve c = .ok ts ↔ ∀ h, target c h = .ok (ts.get h) := by
  constructor
  · intro done
    obtain ⟨create, first, done⟩ := of_bind_ok done
    obtain ⟨update, second, done⟩ := of_bind_ok done
    obtain ⟨onEnd, third, done⟩ := of_bind_ok done
    cases done
    rintro (_ | _ | _)
    · exact first
    · exact second
    · exact third
  · intro all
    have first := all .create
    have second := all .update
    have third := all .onEnd
    simp only [Targets.resolve, first, second, third]
    rfl

theorem exists_resolve (all : ∀ h, ∃ t, target c h = .ok t) :
    ∃ ts, Targets.resolve c = .ok ts := by
  obtain ⟨create, first⟩ := all .create
  obtain ⟨update, second⟩ := all .update
  obtain ⟨onEnd, third⟩ := all .onEnd
  refine ⟨⟨create, update, onEnd⟩, resolve_iff.mpr ?_⟩
  rintro (_ | _ | _)
  · exact first
  · exact second
  · exact third

theorem mem_urls_of_override {url : String} (given : overrideUrl c h = some url) :
    ∃ field, (field, some url) ∈ c.urls := by
  cases h with
  | create => exact ⟨"check_create_url", by simp [ServiceSection.urls, given.symm, overrideUrl]⟩
  | update => exact ⟨"check_update_url", by simp [ServiceSection.urls, given.symm, overrideUrl]⟩
  | onEnd => exact ⟨"on_end_url", by simp [ServiceSection.urls, given.symm, overrideUrl]⟩

theorem exists_target_of_override {url : String} (valid : c.validate = .ok ())
    (own : overrideUrl c h = some url) :
    ∃ t, Url.parse url = .ok t ∧ target c h = .ok (some t) := by
  obtain ⟨field, member⟩ := mem_urls_of_override own
  obtain ⟨t, read, -⟩ := ServiceSection.url_of_validate valid member
  exact ⟨t, read, target_of_text (by simp [targetText, own]) read⟩

section Endpoint

variable {e : String} (given : c.endpoint = some e)

include given

theorem targetText_below (free : overrideUrl c h = none) :
    targetText c h = some (below e (hookPath h)) := by
  simp [targetText, free, given]

theorem exists_get_of_resolve {ts : Targets} (done : Targets.resolve c = .ok ts)
    (free : overrideUrl c h = none) :
    ∃ t, Url.parse (below e (hookPath h)) = .ok t ∧ ts.get h = some t :=
  parse_of_target (targetText_below given free) (resolve_iff.mp done h)

theorem exists_resolve_below (valid : c.validate = .ok ())
    (all : ∀ h, ∃ t, Url.parse (below e (hookPath h)) = .ok t) :
    ∃ ts, Targets.resolve c = .ok ts := by
  refine exists_resolve ?_
  intro h
  cases own : overrideUrl c h with
  | some url =>
    obtain ⟨t, -, found⟩ := exists_target_of_override valid own
    exact ⟨_, found⟩
  | none =>
    obtain ⟨t, read⟩ := all h
    exact ⟨_, target_of_text (targetText_below given own) read⟩

end Endpoint

/-- How a section with an endpoint `e`, which is read as `u`, is resolved. -/
structure Resolution (c : ServiceSection) (e : String) (u : Url) : Prop where
  /-- Hooks are below the endpoint exactly if it is a plain one. -/
  below : ∀ h, overrideUrl c h = none →
    ((∃ ts t, Targets.resolve c = .ok ts ∧ ts.get h = some t ∧ Below u h t) ↔ Plain e)
  /-- Endpoints with a query or a fragment are resolved, but all hooks to one path. -/
  marked : '?' ∈ e.toList ∨ '#' ∈ e.toList → ∃ ts, Targets.resolve c = .ok ts ∧
    ∀ h, overrideUrl c h = none → ∃ t, ts.get h = some t ∧ t.path = u.path
  /-- Without them, paths differ. -/
  distinct : '?' ∉ e.toList ∧ '#' ∉ e.toList → ∀ ts, Targets.resolve c = .ok ts →
    ∀ h h', h ≠ h' → overrideUrl c h = none → overrideUrl c h' = none →
      (ts.get h).map (·.path) ≠ (ts.get h').map (·.path)
  /-- Overrides are used whatever the endpoint is. -/
  override : ∀ h url, overrideUrl c h = some url → ∃ t, Url.parse url = .ok t ∧
    target c h = .ok (some t) ∧ ∀ ts, Targets.resolve c = .ok ts → ts.get h = some t

theorem resolution_of_validate {e : String} (valid : c.validate = .ok ())
    (given : c.endpoint = some e) : ∃ u, Url.parse e = .ok u ∧ Resolution c e u := by
  have member : ("endpoint", some e) ∈ c.urls := by simp [ServiceSection.urls, given]
  obtain ⟨u, read, web⟩ := ServiceSection.url_of_validate valid member
  obtain ⟨a, rest, w, k, placed⟩ := exists_placed read web.special web.not_file
  have plain (h : Hook) := placed.below_iff_plain web.special web.not_file h
  refine ⟨u, read, ?below, ?marked, ?distinct, ?override⟩
  case below =>
    intro h free
    constructor
    · rintro ⟨ts, t, done, found, under⟩
      obtain ⟨t', read, same⟩ := exists_get_of_resolve given done free
      cases found.symm.trans same
      exact (plain h).mp ⟨t, read, under⟩
    · intro fit
      have paths := fun h => (plain h).mpr fit
      obtain ⟨ts, done⟩ := exists_resolve_below given valid fun h => (paths h).imp fun _ => And.left
      obtain ⟨t, read, found⟩ := exists_get_of_resolve given done free
      obtain ⟨t', read', under⟩ := paths h
      cases read.symm.trans read'
      exact ⟨ts, t, done, found, under⟩
  case marked =>
    intro marks
    have marked : ∃ c ∈ rest, endsPath c = true := by
      by_contra none
      have bare := placed.marks.mp (by simpa using none)
      exact marks.elim bare.1 bare.2
    have paths := placed.path_of_mark web.special marked
    obtain ⟨ts, done⟩ := exists_resolve_below given valid fun h => (paths h).imp fun _ => And.left
    refine ⟨ts, done, ?_⟩
    intro h free
    obtain ⟨t, read, found⟩ := exists_get_of_resolve given done free
    obtain ⟨t', read', same⟩ := paths h
    cases read.symm.trans read'
    exact ⟨t, found, same⟩
  case distinct =>
    intro bare ts done h h' other free free'
    obtain ⟨t, read, same⟩ := exists_get_of_resolve given done free
    obtain ⟨t', read', same'⟩ := exists_get_of_resolve given done free'
    have differ := placed.path_ne web.special web.not_file (placed.marks.mpr bare) other read read'
    simpa [same, same'] using differ
  case override =>
    intro h url own
    obtain ⟨t, read, found⟩ := exists_target_of_override valid own
    refine ⟨t, read, found, ?_⟩
    intro ts done
    exact Except.ok.inj ((resolve_iff.mp done h).symm.trans found)

theorem resolution_of_validate_query :
    ∃ u, Url.parse "http://h/a?b=c" = .ok u ∧
      Resolution { endpoint := some "http://h/a?b=c", token := some "t" } "http://h/a?b=c" u :=
  resolution_of_validate (by decide) rfl

example : Plain "http://h:8080/base//" := by decide

-- All hooks are posted to the path of the endpoint.
example : ((Targets.resolve { endpoint := some "http://h/a?b=c" }).toOption.bind
    (·.create)).map Url.write = some "http://h/a?b=c/v1/check-create" := by decide

end Admission.Delegate
