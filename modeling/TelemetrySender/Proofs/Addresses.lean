import Mathlib.Data.List.DropRight
import Mathlib.Tactic.Common
import TelemetrySender.Endpoint.Target
import TelemetrySender.Proofs.HostNames

/-!
Addresses with more text behind them.  Scheme, host and port stay what they are, and only what comes
behind them grows, provided that the text opens like a path, that nothing is ignored at the end, and that
something other than slashes stands behind the scheme already.
-/

set_option autoImplicit false
set_option relaxedAutoImplicit false

namespace TelemetrySender.Endpoint.Url

section Inside

def isKept (c : Char) : Bool := c ≠ '\t' ∧ c ≠ '\n' ∧ c ≠ '\r'

/-- An address without what is ignored in front of it and within. -/
def inside (s : List Char) : List Char := (s.dropWhile isOuter).filter isKept

/-- What is ignored because it stands at the end of an address, and only there. -/
def ending (s : List Char) : List Char := (s.rtakeWhile isOuter).filter isKept

theorem isOuter_of_mem_ending {s : List Char} {c : Char} (member : c ∈ ending s) :
    isOuter c = true := by
  have trailing := (List.mem_filter.mp member).1
  exact List.mem_rtakeWhile_imp trailing

theorem isKept_of_not_outer {c : Char} (ink : isOuter c = false) : isKept c = true := by
  have high : 0x20 < c.toNat := by simpa [isOuter] using ink
  rw [isKept, decide_eq_true_eq]
  refine ⟨?_, ?_, ?_⟩ <;> rintro rfl <;> exact absurd high (by decide)

theorem dropWhile_append_of_mem {p : Char → Bool} {s : List Char} {c : Char} (member : c ∈ s)
    (other : p c = false) (t : List Char) : (s ++ t).dropWhile p = s.dropWhile p ++ t := by
  have filled : s.dropWhile p ≠ [] := by
    intro empty
    have all := List.dropWhile_eq_nil_iff.mp empty c member
    rw [other] at all
    cases all
  rw [List.dropWhile_append, List.isEmpty_eq_false_iff.mpr filled]
  rfl

theorem takeWhile_append_of_mem {p : Char → Bool} {s : List Char} {c : Char} (member : c ∈ s)
    (other : p c = false) (t : List Char) : (s ++ t).takeWhile p = s.takeWhile p := by
  have whole := List.takeWhile_append_dropWhile (p := p) (l := s ++ t)
  rw [dropWhile_append_of_mem member other, ← List.append_assoc, List.append_left_inj] at whole
  rw [← List.append_left_inj (s.dropWhile p), whole, List.takeWhile_append_dropWhile]

theorem forall_ne_of_notMem {s : List Char} {c : Char} (absent : c ∉ s) :
    ∀ d ∈ s, decide (d ≠ c) = true := by
  intro d member
  exact decide_eq_true fun same => absent (same ▸ member)

variable {s : List Char} {c : Char}

theorem inside_append (member : c ∈ s) (ink : isOuter c = false) (t : List Char) :
    inside (s ++ t) = inside s ++ t.filter isKept := by
  rw [inside, dropWhile_append_of_mem member ink, List.filter_append, inside]

theorem mem_dropWhile (member : c ∈ s) (ink : isOuter c = false) : c ∈ s.dropWhile isOuter := by
  rw [← List.takeWhile_append_dropWhile (p := isOuter) (l := s), List.mem_append] at member
  rcases member with front | later
  · rw [List.mem_takeWhile_imp front] at ink
    cases ink
  · exact later

theorem mem_inside_iff (ink : isOuter c = false) : c ∈ inside s ↔ c ∈ s := by
  constructor
  · intro member
    exact (List.dropWhile_suffix isOuter).subset (List.mem_filter.mp member).1
  · intro member
    exact List.mem_filter.mpr ⟨mem_dropWhile member ink, isKept_of_not_outer ink⟩

theorem strip_subset (s : List Char) : strip s ⊆ s := by
  intro c member
  have trimmed : c ∈ (s.dropWhile isOuter).rdropWhile isOuter := (List.mem_filter.mp member).1
  exact (List.dropWhile_suffix isOuter).subset ((List.rdropWhile_prefix isOuter _).subset trimmed)

theorem inside_eq (member : c ∈ s) (ink : isOuter c = false) :
    inside s = strip s ++ ending s := by
  have front : s.takeWhile isOuter ++ s.dropWhile isOuter = s := List.takeWhile_append_dropWhile
  have here : c ∈ (s.dropWhile isOuter).reverse := List.mem_reverse.mpr (mem_dropWhile member ink)
  have same : (s.dropWhile isOuter).rtakeWhile isOuter = s.rtakeWhile isOuter := by
    conv_rhs => rw [← front]
    rw [List.rtakeWhile, List.rtakeWhile, List.reverse_append, takeWhile_append_of_mem here ink]
  rw [inside, ending, ← same]
  change _ = ((s.dropWhile isOuter).rdropWhile isOuter).filter isKept ++ _
  rw [← List.filter_append, List.rdropWhile_append_rtakeWhile]

theorem ending_append (s : List Char) {t : List Char} (filled : t ≠ [])
    (visible : ∀ c ∈ t, isOuter c = false) : ending (s ++ t) = [] := by
  obtain ⟨front, c, rfl⟩ := (List.eq_nil_or_concat t).resolve_left filled
  rw [List.concat_eq_append] at visible ⊢
  have last : ¬ isOuter c = true := by simp [visible c]
  rw [ending, ← List.append_assoc, List.rtakeWhile_concat_neg _ _ _ last, List.filter_nil]

theorem strip_append (member : c ∈ s) (ink : isOuter c = false) {t : List Char}
    (shown : ending (s ++ t) = []) : strip (s ++ t) = inside s ++ t.filter isKept := by
  rw [← inside_append member ink, inside_eq (List.mem_append_left t member) ink, shown,
    List.append_nil]

end Inside

section Scheme

variable {t scheme rest : List Char}

theorem exists_of_scheme? (read : scheme? t = some (scheme, rest)) :
    ∃ raw, t = raw ++ ':' :: rest ∧ ∀ c ∈ raw, isSchemeChar c = true := by
  refine ⟨t.takeWhile isSchemeChar, ?_, fun c member => List.mem_takeWhile_imp member⟩
  simp only [scheme?] at read
  split at read
  · rename_i c raw more front behind
    split at read
    · cases read
      rw [← behind, List.takeWhile_append_dropWhile]
    · cases read
  · cases read

theorem colon_mem_of_scheme? (read : scheme? t = some (scheme, rest)) : ':' ∈ t := by
  obtain ⟨raw, shape, -⟩ := exists_of_scheme? read
  rw [shape]
  exact List.mem_append_right raw List.mem_cons_self

theorem scheme?_append (colon : ':' ∈ t) (more : List Char) :
    scheme? (t ++ more) = (scheme? t).map fun parts => (parts.1, parts.2 ++ more) := by
  have other : isSchemeChar ':' = false := by decide
  have filled : t.dropWhile isSchemeChar ≠ [] := by
    intro empty
    rw [List.dropWhile_eq_nil_iff.mp empty ':' colon] at other
    cases other
  obtain ⟨d, rest, behind⟩ := List.exists_cons_of_ne_nil filled
  unfold scheme?
  rw [takeWhile_append_of_mem colon other, dropWhile_append_of_mem colon other, behind]
  generalize t.takeWhile isSchemeChar = front
  cases front with
  | nil => rfl
  | cons c raw =>
    by_cases same : d = ':'
    · subst same
      by_cases letter : c.isAlpha = true
      · simp [letter]
      · simp [letter]
    · simp [same]

end Scheme

section Site

/-- The part of an address that names a site, behind the scheme and any slashes. -/
def authority (rest : List Char) : List Char :=
  (rest.dropWhile isSlash).takeWhile fun c => !isAuthorityEnd c

def behind (rest : List Char) : List Char :=
  (rest.dropWhile isSlash).dropWhile fun c => !isAuthorityEnd c

/-- Host and port of a site, if there is such a site. -/
def site? (authority : List Char) : Option (List Char × Option Nat) :=
  let split := splitPort false (afterUser authority)
  if Host.isHost split.1 then (port? (split.2.getD [])).map (split.1, ·) else none

theorem parse?_eq (s : List Char) : parse? s = (scheme? (strip s)).bind fun parts =>
    (site? (authority parts.2)).map fun site => ⟨parts.1, site.1, site.2, behind parts.2⟩ := by
  unfold parse? site?
  cases scheme? (strip s) with
  | none => rfl
  | some parts =>
    rw [Option.bind_some]
    change (if Host.isHost (splitPort false (afterUser (authority parts.2))).1 then _ else _) = _
    by_cases host : Host.isHost (splitPort false (afterUser (authority parts.2))).1 = true
    · rw [if_pos host, if_pos host]
      split
      · rename_i port read
        rw [authority, read]
        rfl
      · rename_i read
        rw [authority, read]
        rfl
    · rw [if_neg host, if_neg host]
      rfl

theorem parse?_eq_some_iff {s : List Char} {u : Url} : parse? s = some u ↔
    ∃ rest, scheme? (strip s) = some (u.scheme, rest) ∧
      site? (authority rest) = some (u.host, u.port) ∧ u.rest = behind rest := by
  rw [parse?_eq, Option.bind_eq_some_iff]
  constructor
  · rintro ⟨⟨scheme, rest⟩, named, made⟩
    obtain ⟨⟨host, port⟩, sited, rfl⟩ := Option.map_eq_some_iff.mp made
    exact ⟨rest, named, sited, rfl⟩
  · rintro ⟨rest, named, sited, shape⟩
    refine ⟨(u.scheme, rest), named, Option.map_eq_some_iff.mpr ⟨(u.host, u.port), sited, ?_⟩⟩
    rw [← shape]

theorem authority_append {rest more : List Char} {c : Char} (member : c ∈ rest)
    (other : isSlash c = false)
    (stops : behind rest ≠ [] ∨ ∀ d ∈ more.head?, isAuthorityEnd d = true) :
    authority (rest ++ more) = authority rest ∧ behind (rest ++ more) = behind rest ++ more := by
  rw [authority, behind, authority, behind, dropWhile_append_of_mem member other]
  rw [behind] at stops
  by_cases whole : ∀ d ∈ rest.dropWhile isSlash, (!isAuthorityEnd d) = true
  · have empty := List.dropWhile_eq_nil_iff.mpr whole
    have next := stops.resolve_left (not_not_intro empty)
    rw [List.takeWhile_append_of_pos whole, List.dropWhile_append_of_pos whole, empty,
      List.takeWhile_eq_self_iff.mpr whole]
    cases more with
    | nil => exact ⟨List.append_nil _, rfl⟩
    | cons d more => simp [next d rfl]
  · push Not at whole
    obtain ⟨d, present, stop⟩ := whole
    have stops := Bool.eq_false_iff.mpr stop
    exact ⟨takeWhile_append_of_mem present stops more, dropWhile_append_of_mem present stops more⟩

theorem authority_append_of_whole {rest more : List Char} {c : Char} (member : c ∈ rest)
    (other : isSlash c = false) (whole : behind rest = [])
    (inner : ∀ d ∈ more, isAuthorityEnd d = false) :
    authority (rest ++ more) = authority rest ++ more := by
  have all : ∀ d ∈ more, (!isAuthorityEnd d) = true := by
    intro d present
    rw [inner d present]
    rfl
  have front := List.dropWhile_eq_nil_iff.mp whole
  rw [authority, dropWhile_append_of_mem member other, List.takeWhile_append_of_pos front,
    List.takeWhile_eq_self_iff.mpr all, authority, List.takeWhile_eq_self_iff.mpr front]

theorem afterUser_append (s : List Char) {t : List Char} (plain : '@' ∉ t) :
    afterUser (s ++ t) = afterUser s ++ t := by
  have all := forall_ne_of_notMem (mt List.mem_reverse.mp plain)
  rw [afterUser, afterUser, List.reverse_append, List.takeWhile_append_of_pos all,
    List.reverse_append, List.reverse_reverse]

theorem splitPort_plain {t : List Char} (plain : ∀ c ∈ t, c ≠ ':' ∧ c ≠ '[' ∧ c ≠ ']')
    (inside : Bool) : splitPort inside t = (t, none) := by
  induction t with
  | nil => rfl
  | cons c t ih =>
    obtain ⟨⟨colon, opens, closes⟩, rest⟩ := List.forall_mem_cons.mp plain
    rw [splitPort.eq_3 _ _ _ fun _ same => colon same, if_neg opens, if_neg closes, ih rest]

theorem splitPort_append {t : List Char} (plain : ∀ c ∈ t, c ≠ ':' ∧ c ≠ '[' ∧ c ≠ ']')
    (inside : Bool) (s : List Char) :
    splitPort inside (s ++ t) = match splitPort inside s with
      | (host, none) => (host ++ t, none)
      | (host, some port) => (host, some (port ++ t)) := by
  induction inside, s using splitPort.induct with
  | case1 inside => exact splitPort_plain plain inside
  | case2 rest => rfl
  | case3 inside c rest other ih =>
    rw [List.cons_append, splitPort.eq_3 _ _ _ other, splitPort.eq_3 _ _ _ other, ih]
    obtain ⟨host, port⟩ := splitPort (if c = '[' then true else if c = ']' then false else inside) rest
    cases port <;> rfl

theorem port?_eq_none {s : List Char} {c : Char} (member : c ∈ s) (low : c.toNat ≤ 0x20) :
    port? s = none := by
  have digit : c.isDigit = false := by
    have early : ¬ '0'.toNat ≤ c.toNat := fun later => absurd (Nat.le_trans later low) (by decide)
    rw [Char.isDigit, Bool.and_eq_false_iff]
    exact .inl (decide_eq_false early)
  have digits : s.all Char.isDigit = false := List.all_eq_false.mpr ⟨c, member, by simp [digit]⟩
  have filled : ¬ s.isEmpty = true := by
    rw [List.isEmpty_iff]
    exact List.ne_nil_of_mem member
  rw [port?, if_neg filled, digits]
  rfl

theorem site?_append_outer {ending : List Char} (outer : ∀ c ∈ ending, isOuter c = true)
    (filled : ending ≠ []) (authority : List Char) : site? (authority ++ ending) = none := by
  obtain ⟨front, c, rfl⟩ := (List.eq_nil_or_concat ending).resolve_left filled
  rw [List.concat_eq_append] at outer ⊢
  have low : c.toNat ≤ 0x20 :=
    of_decide_eq_true (outer c (List.mem_append_right front (List.mem_singleton_self c)))
  have plain : ∀ d ∈ front ++ [c], d ≠ ':' ∧ d ≠ '[' ∧ d ≠ ']' := by
    intro d member
    refine ⟨?_, ?_, ?_⟩ <;> rintro rfl <;> exact absurd (outer _ member) (by decide)
  have user : '@' ∉ front ++ [c] := fun member => absurd (outer '@' member) (by decide)
  rw [site?, afterUser_append _ user, splitPort_append plain]
  split
  · -- The host would end with it.
    rename_i host named
    have refused : ¬ Host.isHost (host ++ (front ++ [c])) = true := by
      intro accepted
      have last : (host ++ (front ++ [c])).getLast? = some c := by
        rw [← List.append_assoc, List.getLast?_concat]
      have high := Host.lt_of_isHost accepted last
      omega
    exact if_neg refused
  · -- The port would.
    rename_i host port named
    have member : c ∈ port ++ (front ++ [c]) := by simp
    rw [Option.getD_some, port?_eq_none member low]
    exact ite_self none

theorem site?_nil : site? [] = none := by
  have name : Host.name? [] = none := by
    rw [Host.name?_of_plain (by simp)]
    rfl
  have host : Host.isHost [] = false := by
    change (Host.name? []).isSome = false
    rw [name]
    rfl
  change (if Host.isHost [] then _ else none) = none
  rw [host]
  rfl

theorem exists_not_slash_of_site? {rest : List Char} (sited : (site? (authority rest)).isSome = true) :
    ∃ c ∈ rest, isSlash c = false := by
  by_contra none
  push Not at none
  have row : rest.dropWhile isSlash = [] := by
    apply List.dropWhile_eq_nil_iff.mpr
    intro c member
    exact eq_true_of_ne_false (none c member)
  rw [authority, row, List.takeWhile_nil, site?_nil] at sited
  cases sited

variable {s scheme rest more : List Char}

/-- An address with more text behind it. -/
theorem parse?_append (read : scheme? (inside s) = some (scheme, rest))
    (visible : ∀ c ∈ more, isOuter c = false) (shown : ending (s ++ more) = []) :
    parse? (s ++ more) = (site? (authority (rest ++ more))).map fun site =>
      ⟨scheme, site.1, site.2, behind (rest ++ more)⟩ := by
  have colon : ':' ∈ inside s := colon_mem_of_scheme? read
  have present : ':' ∈ s := (mem_inside_iff (by decide)).mp colon
  have kept : more.filter isKept = more := by
    apply List.filter_eq_self.mpr
    intro c member
    exact isKept_of_not_outer (visible c member)
  rw [parse?_eq, strip_append present (by decide) shown, kept, scheme?_append colon, read,
    Option.map_some, Option.bind_some]

theorem parse?_append_of_site (read : scheme? (inside s) = some (scheme, rest))
    (visible : ∀ c ∈ more, isOuter c = false) (shown : ending (s ++ more) = [])
    (stops : ∀ d ∈ more.head?, isAuthorityEnd d = true) {c : Char} (member : c ∈ rest)
    (other : isSlash c = false) :
    parse? (s ++ more) = (site? (authority rest)).map fun site =>
      ⟨scheme, site.1, site.2, behind rest ++ more⟩ := by
  obtain ⟨site, path⟩ := authority_append member other (.inr stops)
  rw [parse?_append read visible shown, site, path]

end Site

section Plain

/-- A text that opens neither a query nor a fragment. -/
def Plain (s : List Char) : Prop := '?' ∉ s ∧ '#' ∉ s

instance : DecidablePred Plain := fun s => inferInstanceAs (Decidable ('?' ∉ s ∧ '#' ∉ s))

theorem plain_append {s t : List Char} : Plain (s ++ t) ↔ Plain s ∧ Plain t := by
  rw [Plain, Plain, Plain, List.mem_append, List.mem_append]
  tauto

theorem plain_of_forall {p : Char → Bool} {s : List Char} (all : ∀ c ∈ s, p c = true)
    (query : p '?' = false) (fragment : p '#' = false) : Plain s := by
  constructor
  · intro member
    rw [all '?' member] at query
    cases query
  · intro member
    rw [all '#' member] at fragment
    cases fragment

theorem plain_inside {s : List Char} : Plain (inside s) ↔ Plain s := by
  rw [Plain, Plain, mem_inside_iff (by decide), mem_inside_iff (by decide)]

theorem plain_behind {s scheme rest : List Char}
    (read : scheme? (inside s) = some (scheme, rest)) : Plain (behind rest) ↔ Plain s := by
  obtain ⟨raw, shape, named⟩ := exists_of_scheme? read
  have front : Plain (raw ++ [':']) :=
    plain_append.mpr ⟨plain_of_forall named rfl rfl, by decide, by decide⟩
  have row : Plain (rest.takeWhile isSlash) :=
    plain_of_forall (fun _ => List.mem_takeWhile_imp) rfl rfl
  have site : Plain (authority rest) :=
    plain_of_forall (fun _ => List.mem_takeWhile_imp) (by decide) (by decide)
  have parts : inside s =
      raw ++ [':'] ++ (rest.takeWhile isSlash ++ (authority rest ++ behind rest)) := by
    rw [shape, authority, behind, List.takeWhile_append_dropWhile,
      List.takeWhile_append_dropWhile, List.append_assoc]
    rfl
  rw [← plain_inside (s := s), parts, plain_append, and_iff_right front, plain_append,
    and_iff_right row, plain_append, and_iff_right site]

theorem plain_iff {s : List Char} : Plain s ↔ ∀ c ∈ s, decide (c ≠ '?' ∧ c ≠ '#') = true := by
  constructor
  · intro plain c member
    rw [decide_eq_true_eq]
    constructor <;> rintro rfl
    · exact plain.1 member
    · exact plain.2 member
  · intro all
    exact plain_of_forall all (by decide) (by decide)

theorem takeWhile_of_plain {s : List Char} (plain : Plain s) (query : List Char) :
    ((s ++ '?' :: query).takeWhile fun c => c ≠ '?' ∧ c ≠ '#') = s := by
  rw [List.takeWhile_append_of_pos (plain_iff.mp plain)]
  exact List.append_nil s

theorem dropWhile_of_plain {s : List Char} (plain : Plain s) (query : List Char) :
    ((s ++ '?' :: query).dropWhile fun c => c ≠ '?' ∧ c ≠ '#') = '?' :: query := by
  rw [List.dropWhile_append_of_pos (plain_iff.mp plain)]
  rfl

theorem dropWhile_of_not_plain {s : List Char} (opened : ¬ Plain s) : ∃ c inner,
    (c = '?' ∨ c = '#') ∧ ∀ t : List Char,
      ((s ++ t).dropWhile fun c => c ≠ '?' ∧ c ≠ '#') = c :: inner ++ t := by
  have filled : (s.dropWhile fun c => c ≠ '?' ∧ c ≠ '#') ≠ [] := by
    intro empty
    exact opened (plain_iff.mpr (List.dropWhile_eq_nil_iff.mp empty))
  obtain ⟨c, inner, shape⟩ := List.exists_cons_of_ne_nil filled
  have first := List.head?_dropWhile_not (fun c => decide (c ≠ '?' ∧ c ≠ '#')) s
  rw [shape, List.head?_cons] at first
  refine ⟨c, inner, by simpa [or_iff_not_imp_left] using first, ?_⟩
  intro t
  rw [List.dropWhile_append, shape]
  rfl

end Plain

section Target

theorem resolveDots_concat {segment : List Char} (dot : isDot segment = false)
    (doubleDot : isDoubleDot segment = false) (segments done : List (List Char)) :
    ∃ kept, resolveDots done (segments ++ [segment]) = kept ++ [segment] := by
  induction segments generalizing done with
  | nil =>
    refine ⟨done.reverse, ?_⟩
    rw [List.nil_append, resolveDots, if_neg (by simp [doubleDot]), if_neg (by simp [dot]),
      resolveDots, List.reverse_cons]
  | cons first rest ih =>
    rw [List.cons_append, resolveDots]
    split
    · exact ih _
    · split
      · exact ih _
      · exact ih _

theorem path_suffix {u : Url} {front query segment : List Char}
    (shape : u.rest = front ++ '/' :: segment ++ '?' :: query)
    (plain : Plain (front ++ '/' :: segment)) (whole : ∀ c ∈ segment, isSlash c = false)
    (code : encodeIn pathSet segment = segment) (dot : isDot segment = false)
    (doubleDot : isDoubleDot segment = false) : '/' :: segment <:+ u.path := by
  have given : (u.rest.takeWhile fun c => c ≠ '?' ∧ c ≠ '#') = front ++ '/' :: segment := by
    rw [shape]
    exact takeWhile_of_plain plain query
  have split : ∃ segments, ((front ++ '/' :: segment).drop 1).splitOnP isSlash =
      segments ++ [segment] := by
    cases front with
    | nil => exact ⟨[], List.splitOnP_eq_singleton whole⟩
    | cons c front =>
      refine ⟨front.splitOnP isSlash, ?_⟩
      rw [List.cons_append, List.drop_one, List.tail_cons,
        List.splitOnP_append_cons front segment rfl, List.splitOnP_eq_singleton whole]
  obtain ⟨segments, pieces⟩ := split
  obtain ⟨kept, resolved⟩ :=
    resolveDots_concat dot doubleDot (segments.map (encodeIn pathSet)) []
  refine ⟨kept.flatMap ('/' :: ·), ?_⟩
  simp only [path]
  rw [given, pieces, List.map_append, List.map_singleton, code, resolved, List.flatMap_append,
    List.flatMap_singleton]

theorem query?_of_plain {u : Url} {front query : List Char}
    (shape : u.rest = front ++ '?' :: query) (plain : Plain front) (closed : '#' ∉ query) :
    u.query? = some (encodeIn querySet query) := by
  have kept : query.takeWhile (· ≠ '#') = query :=
    List.takeWhile_eq_self_iff.mpr (forall_ne_of_notMem closed)
  rw [query?, shape, dropWhile_of_plain plain]
  exact congrArg (fun q => some (encodeIn querySet q)) kept

theorem mem_encodeIn {set s : List Char} {c : Char} (low : 0x20 < c.toNat) (high : c.toNat < 0x7F)
    (free : c ∉ set) (member : c ∈ s) : c ∈ encodeIn set s := by
  refine List.mem_flatMap.mpr ⟨c, member, ?_⟩
  rw [if_neg]
  · exact List.mem_singleton_self c
  · simp [free]
    omega

theorem query?_of_not_plain {front : List Char} (opened : ¬ Plain front) :
    (∀ u v : Url, front <+: u.rest → front <+: v.rest → u.query? = v.query?) ∨
      ∀ (u : Url) (more q : List Char), u.rest = front ++ '/' :: more → u.query? = some q →
        '/' ∈ q := by
  obtain ⟨c, inner, stop, behind⟩ := dropWhile_of_not_plain opened
  rcases stop with rfl | rfl
  · by_cases closed : '#' ∈ inner
    · left
      rintro u v ⟨t, shapeU⟩ ⟨w, shapeV⟩
      rw [query?, query?, ← shapeU, ← shapeV, behind, behind]
      change some (encodeIn querySet ((inner ++ t).takeWhile _)) =
        some (encodeIn querySet ((inner ++ w).takeWhile _))
      rw [takeWhile_append_of_mem closed (by decide), takeWhile_append_of_mem closed (by decide)]
    · right
      intro u more q shape read
      rw [query?, shape, behind] at read
      cases read
      apply mem_encodeIn (by decide) (by decide) (by decide)
      change '/' ∈ (inner ++ '/' :: more).takeWhile (· ≠ '#')
      rw [List.takeWhile_append_of_pos (forall_ne_of_notMem closed)]
      exact List.mem_append_right inner List.mem_cons_self
  · left
    rintro u v ⟨t, shapeU⟩ ⟨w, shapeV⟩
    rw [query?, query?, ← shapeU, ← shapeV, behind, behind]
    rfl

end Target

end TelemetrySender.Endpoint.Url
