import TelemetrySender.Proofs.Addresses
import TelemetrySender.Proofs.ReportAddress
import TelemetrySender.Settings

/-!
Whether reports arrive.  An accepted server has a usable address for reports if it is plain, if a path
`/report` that it names is not its host, and if a blank that is ignored at its end does not stand right
behind the site.  These are the only conditions.
-/

set_option autoImplicit false
set_option relaxedAutoImplicit false

namespace TelemetrySender.Endpoint

open Url

def reportTail (k : Kind) : List Char := "/report?f=".toList ++ k.format.toList

/-- An address whose path ends in `/report`, with a format and nothing else behind it. -/
def Usable (url format : String) : Prop :=
  "/report".toList <:+ (url.toList.takeWhile fun c => c ≠ '?' ∧ c ≠ '#') ∧
    (url.toList.dropWhile fun c => c ≠ '?' ∧ c ≠ '#') = "?f=".toList ++ format.toList

instance (url format : String) : Decidable (Usable url format) :=
  inferInstanceAs (Decidable (_ ∧ _))

/-- An address at a site as a request needs it for reports of a format. -/
structure Receives (site : Url) (format : String) (r : Url) : Prop where
  scheme : r.scheme = site.scheme
  host : r.host = site.host
  port : r.port = site.port
  path : "/report".toList <:+ r.path
  query : r.query? = some ("f=".toList ++ format.toList)

/-- A server that has a usable address for reports of every kind: a `/report` that is taken off is
not the host, and what is ignored at the end does not come to stand behind the host. -/
structure Fit (server : List Char) (site : Url) : Prop where
  plain : Plain server
  named : "/report".toList <:+ server.rdropWhile (· = '/') → ∃ c ∈ site.rest, c ≠ '/'
  shown : site.rest = [] → ending server = []

section Tail

theorem toList_reportUrl_format (server : String) (k : Kind) :
    (reportUrl server k.format).toList = base server.toList ++ reportTail k :=
  (toList_reportUrl server k.format).trans (List.append_assoc _ _ _)

theorem reportTail_eq (k : Kind) :
    reportTail k = "/report".toList ++ '?' :: ("f=".toList ++ k.format.toList) := by
  cases k <;> decide

theorem visible_of_mem_report {c : Char} (member : c ∈ "/report".toList) : isOuter c = false := by
  have letters : ("/report".toList.all fun c => !isOuter c) = true := by decide
  simpa using List.all_eq_true.mp letters c member

theorem visible_reportTail (k : Kind) : ∀ c ∈ reportTail k, isOuter c = false := by
  have letters : ((reportTail k).all fun c => !isOuter c) = true := by cases k <;> decide
  simpa using letters

theorem ending_reportTail (s : List Char) (k : Kind) : ending (s ++ reportTail k) = [] := by
  apply ending_append s _ (visible_reportTail k)
  cases k <;> decide

theorem isAuthorityEnd_reportTail (k : Kind) :
    ∀ c ∈ (reportTail k).head?, isAuthorityEnd c = true := by
  intro c first
  cases first
  rfl

end Tail

section Text

theorem plain_base (s : List Char) : Plain (base s) ↔ Plain s := by
  obtain ⟨cut, text, cuts⟩ := exists_cut s
  have plain : Plain cut := by
    apply plain_of_forall (p := ("/report".toList.contains ·))
    · intro c member
      exact List.elem_eq_true_of_mem (cuts.mem_report member)
    · decide
    · decide
  conv_rhs => rw [text]
  rw [plain_append, and_iff_left plain]

theorem usable_iff_plain (server format : String) :
    Usable (reportUrl server format) format ↔ Plain server.toList := by
  have shape : (reportUrl server format).toList =
      base server.toList ++ "/report".toList ++ "?f=".toList ++ format.toList := by
    have words : "/report?f=".toList = "/report".toList ++ "?f=".toList := by decide
    rw [toList_reportUrl, words, ← List.append_assoc]
  rw [← plain_base]
  constructor
  · rintro ⟨-, behind⟩
    by_contra opened
    obtain ⟨c, inner, -, all⟩ := dropWhile_of_not_plain opened
    rw [shape, List.append_assoc, List.append_assoc, all] at behind
    have lengths := congrArg List.length behind
    simp only [List.length_append, List.length_cons] at lengths
    omega
  · intro plain
    have whole : Plain (base server.toList ++ "/report".toList) :=
      plain_append.mpr ⟨plain, by decide⟩
    have query : "?f=".toList ++ format.toList = '?' :: ("f=".toList ++ format.toList) := rfl
    rw [Usable, shape, List.append_assoc, query, takeWhile_of_plain whole, dropWhile_of_plain whole]
    exact ⟨List.suffix_append _ _, rfl⟩

end Text

section Slashes

theorem isSlash_of_mem_slashes {n : Nat} {c : Char} (member : c ∈ slashes n) :
    isSlash c = true := by
  rw [List.eq_of_mem_replicate member]
  rfl

theorem isAuthorityEnd_slashes (n : Nat) : ∀ c ∈ (slashes n).head?, isAuthorityEnd c = true := by
  intro c first
  rw [List.eq_of_mem_replicate (List.mem_of_head? first)]
  rfl

theorem authority_report {row : List Char} (slash : ∀ c ∈ row, isSlash c = true) {more : List Char}
    (stops : ∀ c ∈ more.head?, isAuthorityEnd c = true) :
    authority (row ++ "/report".toList ++ more) = "report".toList ∧
      behind (row ++ "/report".toList ++ more) = more := by
  have member : 'r' ∈ row ++ "/report".toList := List.mem_append_right row (by decide)
  obtain ⟨site, path⟩ := authority_append member (by decide) (.inr stops)
  rw [site, path, authority, behind, List.dropWhile_append_of_pos slash]
  exact ⟨rfl, rfl⟩

end Slashes

/-- How an accepted server is read: `cut` does not belong to its base, `whole` stands behind its scheme,
and `rest` behind the scheme of the base. -/
structure Parts (s : List Char) (u : Url) (cut whole rest : List Char) : Prop where
  text : s = base s ++ cut
  cuts : Cut s cut
  sited : site? (authority whole) = some (u.host, u.port)
  shape : u.rest = behind whole
  scheme : scheme? (inside (base s)) = some (u.scheme, rest)
  same : whole ++ ending s = rest ++ cut

section Parts

variable {s : List Char} {u : Url} {cut whole rest : List Char}

theorem exists_parts (read : parse? s = some u) : ∃ cut whole rest, Parts s u cut whole rest := by
  obtain ⟨whole, scheme, sited, shape⟩ := parse?_eq_some_iff.mp read
  obtain ⟨cut, text, cuts⟩ := exists_cut s
  have early : ':' ∈ strip s := colon_mem_of_scheme? scheme
  have colon : ':' ∈ s := strip_subset s early
  have front : ':' ∈ base s := by
    rw [text, List.mem_append] at colon
    refine colon.resolve_right fun member => ?_
    exact absurd (cuts.mem_report member) (by decide)
  have visible : cut.filter isKept = cut := by
    apply List.filter_eq_self.mpr
    intro c member
    exact isKept_of_not_outer (visible_of_mem_report (cuts.mem_report member))
  have total : scheme? (inside s) = some (u.scheme, whole ++ ending s) := by
    rw [inside_eq colon (by decide), scheme?_append early, scheme]
    rfl
  have inner : ':' ∈ inside (base s) := (mem_inside_iff (by decide)).mpr front
  rw [text, inside_append front (by decide), visible, scheme?_append inner, ← text,
    Option.map_eq_some_iff] at total
  obtain ⟨⟨scheme', rest⟩, named, pair⟩ := total
  obtain ⟨rfl, same⟩ := Prod.mk.inj pair
  exact ⟨cut, whole, rest, text, cuts, sited, shape, named, same.symm⟩

namespace Parts

variable (p : Parts s u cut whole rest)

include p

theorem isAuthorityEnd_head : ∀ c ∈ cut.head?, isAuthorityEnd c = true := by
  cases p.cuts with
  | padded n => exact isAuthorityEnd_slashes n
  | reported m n =>
    intro c first
    cases m with
    | zero =>
      cases first
      rfl
    | succ m =>
      cases first
      rfl

theorem visible_cut : ∀ c ∈ cut, isOuter c = false := by
  intro c member
  exact visible_of_mem_report (p.cuts.mem_report member)

theorem cut_eq_nil (hidden : ending s ≠ []) : cut = [] := by
  by_contra filled
  rw [p.text] at hidden
  exact hidden (ending_append _ filled p.visible_cut)

theorem whole_eq (shown : ending s = []) : whole = rest ++ cut := by
  have same := p.same
  rwa [shown, List.append_nil] at same

theorem rest_eq (hidden : ending s ≠ []) : rest = whole ++ ending s := by
  have same := p.same
  rw [p.cut_eq_nil hidden, List.append_nil] at same
  exact same.symm

theorem exists_inner_whole : ∃ c ∈ whole, isSlash c = false := by
  apply exists_not_slash_of_site?
  rw [p.sited]
  rfl

theorem plain_iff_rest : Plain (behind rest) ↔ Plain s := by
  rw [plain_behind p.scheme, plain_base]

theorem parse?_of_inner {c : Char} (member : c ∈ rest) (other : isSlash c = false) (k : Kind) :
    parse? (base s ++ reportTail k) = (site? (authority rest)).map fun site =>
      ⟨u.scheme, site.1, site.2, behind rest ++ reportTail k⟩ :=
  parse?_append_of_site p.scheme (visible_reportTail k) (ending_reportTail (base s) k)
    (isAuthorityEnd_reportTail k) member other

theorem parse?_of_row (row : ∀ c ∈ rest, isSlash c = true) (k : Kind) :
    parse? (base s ++ reportTail k) = (site? "report".toList).map fun site =>
      ⟨u.scheme, site.1, site.2, '?' :: ("f=".toList ++ k.format.toList)⟩ := by
  have stops : ∀ c ∈ ('?' :: ("f=".toList ++ k.format.toList)).head?, isAuthorityEnd c = true := by
    intro c first
    cases first
    rfl
  obtain ⟨site, path⟩ := authority_report row stops
  rw [parse?_append p.scheme (visible_reportTail k) (ending_reportTail (base s) k), reportTail_eq,
    ← List.append_assoc, site, path]

theorem exists_inner_rest (shown : ending s = [])
    (named : "/report".toList <:+ trimSlashes s → ∃ c ∈ u.rest, c ≠ '/') :
    ∃ c ∈ rest, isSlash c = false := by
  obtain ⟨c, member, other⟩ := p.exists_inner_whole
  have same := p.whole_eq shown
  by_contra none
  push Not at none
  have row : ∀ c ∈ rest, isSlash c = true := fun c member => eq_true_of_ne_false (none c member)
  cases p.cuts with
  | padded n =>
    rw [same, List.mem_append] at member
    have slash : isSlash c = true := member.elim (row c) isSlash_of_mem_slashes
    rw [slash] at other
    cases other
  | reported m n suffix =>
    obtain ⟨d, later, visible⟩ := named suffix
    have slash : ∀ c ∈ rest ++ slashes m, isSlash c = true :=
      List.forall_mem_append.mpr ⟨row, fun _ => isSlash_of_mem_slashes⟩
    rw [p.shape, same, ← List.append_assoc, ← List.append_assoc,
      (authority_report slash (isAuthorityEnd_slashes n)).2] at later
    exact visible (List.eq_of_mem_replicate later)

theorem parse?_of_fit (named : "/report".toList <:+ trimSlashes s → ∃ c ∈ u.rest, c ≠ '/')
    (shown : u.rest = [] → ending s = []) (k : Kind) :
    parse? (base s ++ reportTail k) = some { u with rest := behind rest ++ reportTail k } := by
  by_cases hidden : ending s = []
  · obtain ⟨c, member, other⟩ := p.exists_inner_rest hidden named
    have site := (authority_append member other (.inr p.isAuthorityEnd_head)).1
    rw [p.parse?_of_inner member other, ← site, ← p.whole_eq hidden, p.sited]
    rfl
  · obtain ⟨c, member, other⟩ := p.exists_inner_whole
    have filled : behind whole ≠ [] := fun none => hidden (shown (p.shape.trans none))
    have site : authority (whole ++ ending s) = authority whole :=
      (authority_append member other (.inl filled)).1
    have same := p.rest_eq hidden
    have present : c ∈ rest := same ▸ List.mem_append_left _ member
    rw [p.parse?_of_inner present other, same, site, p.sited]
    rfl

theorem path_of_not_named (suffix : "/report".toList <:+ trimSlashes s)
    (slash : ∀ c ∈ u.rest, c = '/') (k : Kind) {r : Url}
    (read : parse? (base s ++ reportTail k) = some r) : r.path = ['/'] := by
  have reported : 'r' ∈ cut := by
    cases p.cuts with
    | padded n other => exact absurd suffix other
    | reported m n =>
      exact List.mem_append_left _ (List.mem_append_right _ (by decide))
  have shown : ending s = [] := by
    by_contra hidden
    rw [p.cut_eq_nil hidden] at reported
    cases reported
  have row : ∀ c ∈ rest, isSlash c = true := by
    intro c member
    by_contra other
    have path :=
      (authority_append member (Bool.eq_false_iff.mpr other) (.inr p.isAuthorityEnd_head)).2
    rw [← p.whole_eq shown, ← p.shape] at path
    have inner : 'r' ∈ u.rest := by
      rw [path]
      exact List.mem_append_right _ reported
    exact absurd (slash 'r' inner) (by decide)
  rw [p.parse?_of_row row] at read
  obtain ⟨site, -, rfl⟩ := Option.map_eq_some_iff.mp read
  rw [path]
  rfl

theorem parse?_of_not_shown (site : u.rest = []) (hidden : ending s ≠ []) (k : Kind) :
    parse? (base s ++ reportTail k) = none := by
  obtain ⟨c, member, other⟩ := p.exists_inner_whole
  have inside : ∀ c ∈ ending s, isAuthorityEnd c = false := by
    intro d trailing
    have outer := isOuter_of_mem_ending trailing
    by_contra stop
    simp only [isAuthorityEnd, isSlash, Bool.not_eq_false, Bool.or_eq_true, decide_eq_true_eq] at stop
    rcases stop with ((rfl | rfl) | rfl) | rfl <;> cases outer
  have all := authority_append_of_whole member other (p.shape.symm.trans site) inside
  have same := p.rest_eq hidden
  have present : c ∈ rest := same ▸ List.mem_append_left _ member
  rw [p.parse?_of_inner present other, same, all,
    site?_append_outer (fun _ => isOuter_of_mem_ending) hidden]
  rfl

end Parts

end Parts

section Kinds

variable {u : Url} {front : List Char}

theorem receives_of_plain (plain : Plain front) (k : Kind) :
    Receives u k.format { u with rest := front ++ reportTail k } where
  scheme := rfl
  host := rfl
  port := rfl
  path := by
    have whole : Plain (front ++ '/' :: "report".toList) :=
      plain_append.mpr ⟨plain, by decide⟩
    have shape : front ++ reportTail k =
        front ++ '/' :: "report".toList ++ '?' :: ("f=".toList ++ k.format.toList) := by
      rw [reportTail_eq, ← List.append_assoc]
      rfl
    have letters : ("report".toList.all fun c => !isSlash c) = true := by decide
    have segment : "/report".toList = '/' :: "report".toList := by decide
    rw [segment]
    exact path_suffix shape whole (by simpa using letters) (by decide) (by decide) (by decide)
  query := by
    have whole : Plain (front ++ "/report".toList) := plain_append.mpr ⟨plain, by decide⟩
    have shape : front ++ reportTail k =
        front ++ "/report".toList ++ '?' :: ("f=".toList ++ k.format.toList) := by
      rw [reportTail_eq, ← List.append_assoc]
    rw [query?_of_plain shape whole (by cases k <;> decide)]
    cases k <;> rfl

theorem not_forall_receives (opened : ¬ Plain front) :
    ¬ ∀ k : Kind, Receives u k.format { u with rest := front ++ reportTail k } := by
  intro all
  have points := (all .points).query
  rcases query?_of_not_plain opened with same | slash
  · have histograms := (all .histograms).query
    rw [← same { u with rest := front ++ reportTail .points } _ (List.prefix_append front _)
      (List.prefix_append front _), points] at histograms
    exact absurd histograms (by decide)
  · have present := slash _ _ _ rfl points
    exact absurd present (by decide)

theorem forall_receives_iff :
    (∀ k : Kind, Receives u k.format { u with rest := front ++ reportTail k }) ↔ Plain front := by
  constructor
  · intro all
    by_contra opened
    exact not_forall_receives opened all
  · exact receives_of_plain

end Kinds

theorem exists_receives_iff_fit {server : String} {u : Url} (read : parse? server.toList = some u) :
    (∀ k : Kind, ∃ r, parse? (reportUrl server k.format).toList = some r ∧ Receives u k.format r) ↔
      Fit server.toList u := by
  obtain ⟨cut, whole, rest, p⟩ := exists_parts read
  simp only [toList_reportUrl_format]
  by_cases named : "/report".toList <:+ trimSlashes server.toList → ∃ c ∈ u.rest, c ≠ '/'
  · by_cases shown : u.rest = [] → ending server.toList = []
    · simp only [p.parse?_of_fit named shown, Option.some.injEq, exists_eq_left',
        forall_receives_iff, p.plain_iff_rest]
      exact ⟨fun plain => ⟨plain, named, shown⟩, fun fit => fit.plain⟩
    · push Not at shown
      obtain ⟨site, hidden⟩ := shown
      constructor
      · intro all
        obtain ⟨r, made, -⟩ := all .points
        rw [p.parse?_of_not_shown site hidden] at made
        cases made
      · intro fit
        exact absurd (fit.shown site) hidden
  · push Not at named
    obtain ⟨suffix, slash⟩ := named
    constructor
    · intro all
      obtain ⟨r, made, receives⟩ := all .points
      have path := receives.path
      rw [p.path_of_not_named suffix slash .points made] at path
      exact absurd path (by decide)
    · intro fit
      obtain ⟨c, member, other⟩ := fit.named suffix
      exact absurd (slash c member) other

example : reportUrl "http://report" "wavefront" = "http:/report?f=wavefront" := by decide

/-- What a sender can rely on with a server that was accepted. -/
structure Reachable (server : String) : Prop where
  text : ∀ format, Usable (reportUrl server format) format ↔ Plain server.toList
  request : ∃ site, parse? server.toList = some site ∧
    (site.scheme = "http".toList ∨ site.scheme = "https".toList) ∧
    ((∀ k : Kind, ∃ r, parse? (reportUrl server k.format).toList = some r ∧
      Receives site k.format r) ↔ Fit server.toList site)

end TelemetrySender.Endpoint

namespace TelemetrySender.Settings

open Endpoint

/-- Reports reach an accepted server at its site exactly if the server is fit for that. -/
theorem withDirect_reachable {s t : Settings} {server : String} {token : Option String}
    (accepted : s.withDirect server token = .ok t) : Reachable server := by
  rw [withDirect] at accepted
  split at accepted
  · rename_i http
    rw [Url.isHttp] at http
    split at http
    · rename_i site read
      rw [Bool.or_eq_true, decide_eq_true_eq, decide_eq_true_eq] at http
      exact ⟨usable_iff_plain server, site, read, http, exists_receives_iff_fit read⟩
    · cases http
  · cases accepted

private theorem exists_withDirect (server : String) (rest : List Char)
    (read : Url.scheme? (Url.strip server.toList) = some ("https".toList, rest))
    (site : Url.authority rest = "h".toList) :
    ∃ t, standard.withDirect server none = .ok t ∧
      Url.parse? server.toList = some ⟨"https".toList, "h".toList, none, Url.behind rest⟩ := by
  have plain : ∀ c ∈ "h".toList, c.toNat < 0x80 ∧ c ≠ '%' ∧ c.toLower = c := by
    intro c member
    rw [List.mem_singleton.mp member]
    decide
  have name : Host.name? "h".toList = some "h".toList := by
    have accepted : Host.isName "h".toList = true := by decide +kernel
    rw [Host.name?_of_plain plain, if_pos accepted]
  have host : Host.isHost "h".toList = true := by
    change (Host.name? "h".toList).isSome = true
    rw [name]
    rfl
  have sited : Url.site? "h".toList = some ("h".toList, none) := by
    change (if Host.isHost "h".toList then _ else none) = _
    rw [if_pos host]
    rfl
  have parsed : Url.parse? server.toList =
      some ⟨"https".toList, "h".toList, none, Url.behind rest⟩ :=
    Url.parse?_eq_some_iff.mpr ⟨rest, read, site ▸ sited, rfl⟩
  have http : Url.isHttp server.toList = true := by
    rw [Url.isHttp, parsed]
    rfl
  rw [withDirect, if_pos http]
  exact ⟨_, rfl, parsed⟩

theorem withDirect_reachable_path : ∃ t, standard.withDirect "https://h/prod/report/" none = .ok t ∧
    ∀ k : Kind, Usable (reportUrl "https://h/prod/report/" k.format) k.format ∧
      ∃ r, Url.parse? (reportUrl "https://h/prod/report/" k.format).toList = some r ∧
        "/report".toList <:+ r.path ∧ r.query? = some ("f=".toList ++ k.format.toList) := by
  obtain ⟨t, made, read⟩ := exists_withDirect "https://h/prod/report/" "//h/prod/report/".toList
    (by decide) (by decide)
  have reachable := withDirect_reachable made
  obtain ⟨site, same, -, arrives⟩ := reachable.request
  rw [read] at same
  cases same
  have fit : Fit "https://h/prod/report/".toList
      ⟨"https".toList, "h".toList, none, Url.behind "//h/prod/report/".toList⟩ :=
    ⟨by decide, fun _ => ⟨'p', by decide, by decide⟩, by decide⟩
  refine ⟨t, made, fun k => ⟨(reachable.text k.format).mpr fit.plain, ?_⟩⟩
  obtain ⟨r, shape, receives⟩ := arrives.mpr fit k
  exact ⟨r, shape, receives.path, receives.query⟩

/-- A query of the server is not cut off, and swallows the path. -/
theorem withDirect_query_unusable :
    (∃ t, standard.withDirect "https://h?q" none = .ok t) ∧
      reportUrl "https://h?q" "wavefront" = "https://h?q/report?f=wavefront" ∧
      ¬ Usable (reportUrl "https://h?q" "wavefront") "wavefront" := by
  refine ⟨?_, ?_, ?_⟩
  · obtain ⟨t, made, -⟩ := exists_withDirect "https://h?q" "//h?q".toList (by decide) (by decide)
    exact ⟨t, made⟩
  · decide
  · decide

end TelemetrySender.Settings
