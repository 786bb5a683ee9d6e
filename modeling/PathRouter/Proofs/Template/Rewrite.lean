/-
A prefix that is stripped leaves everything of a URI as it is but for the path. Each step of the rewriting succeeds for
a URI that has a path (`Uri.Rooted`): the loose match ends where a character ends (`Template.exec_loose`), and what is
left of the path is read back with the query, as it has no other characters than before (`Uri.pathAndQuery_joined`). So
the URI that is put together is the one with another path (`Template.rewrite?_eq`). The match ends at a slash or at the
end of the path, whatever the optional values of the prefix are, also where the prefix takes nothing of the path at
all.
-/
import PathRouter.Rewrite
import PathRouter.Service
import PathRouter.Proofs.Template.Dotted
import PathRouter.Proofs.Template.Modes

namespace PathRouter

open Regex Regex.Reader

/-! ## URIs that have a path -/

namespace Uri

/-- A URI in origin form or in absolute form. It has both a scheme and an authority or neither of them, its path begins
with a slash, and no character of its path or its query has to be encoded. -/
structure Rooted (u : Uri) : Prop where
  place : u.scheme.isSome = u.authority.isSome
  path : u.path.head? = some '/'
  inPath : ∀ c ∈ u.path, inPath c = true
  inQuery : ∀ q ∈ u.query, ∀ c ∈ q, inQuery c = true

/-- The characters of a path and a query that are read. The path is the part of the text up to a character that may not
stand in a path. -/
theorem of_pathAndQuery {t path : Text} {query : Option Text} (h : pathAndQuery t = .ok (path, query)) :
    path = t.takeWhile Uri.inPath ∧ ∀ q ∈ query, ∀ c ∈ q, Uri.inQuery c = true := by
  unfold pathAndQuery at h
  dsimp only at h
  split at h
  · cases h
    exact ⟨rfl, nofun⟩
  · cases h
    exact ⟨rfl, nofun⟩
  · split at h
    · cases h
      exact ⟨rfl, fun q hq c hc => (by cases hq; exact List.mem_takeWhile_imp hc)⟩
    · cases h
      exact ⟨rfl, fun q hq c hc => (by cases hq; exact List.mem_takeWhile_imp hc)⟩
    · cases h
  · cases h

/-- An authority is read up to a character that ends it. -/
theorem of_splitAuthority {t authority rest : Text} (h : splitAuthority t = .ok (authority, rest)) :
    ∀ c ∈ rest.head?, endsAuthority c = true := by
  unfold splitAuthority at h
  obtain ⟨host, -, h⟩ := bind_eq_ok.1 h
  split at h
  · cases h
    intro c hc
    have hdrop := List.head?_dropWhile_not (!endsAuthority ·) t
    rw [hc] at hdrop
    simpa using hdrop
  · cases h

theorem slash_of_endsAuthority {c : Char} (h : endsAuthority c = true) (hc : Uri.inPath c = true) : c = '/' := by
  simp only [endsAuthority, Bool.or_eq_true, beq_iff_eq] at h
  rcases h with (rfl | rfl) | rfl
  · rfl
  · revert hc
    decide
  · revert hc
    decide

theorem rooted_of_parseFull {t : Text} {u : Uri} (h : parseFull t = .ok u) (hscheme : u.scheme ≠ none) : u.Rooted := by
  unfold parseFull at h
  obtain ⟨⟨scheme, t⟩, -, h⟩ := bind_eq_ok.1 h
  dsimp only at h
  split at h
  · cases h
  obtain ⟨⟨authority, rest⟩, hrest, h⟩ := bind_eq_ok.1 h
  dsimp only at h
  cases scheme with
  | none =>
    dsimp only at h
    split at h
    · cases h
      exact absurd rfl hscheme
    · cases h
  | some scheme =>
    dsimp only at h
    split at h
    · cases h
    obtain ⟨⟨path, query⟩, hpath, h⟩ := bind_eq_ok.1 h
    cases h
    obtain ⟨rfl, hquery⟩ := of_pathAndQuery hpath
    -- The path is empty and stands for the root, or it begins with the slash that ends the authority.
    cases htake : rest.takeWhile Uri.inPath with
    | nil => exact ⟨rfl, rfl, List.forall_mem_singleton.2 (by decide), hquery⟩
    | cons c path =>
      have hin : ∀ d ∈ c :: path, Uri.inPath d = true := fun d hd => List.mem_takeWhile_imp (htake ▸ hd)
      have hhead : rest.head? = some c := by
        obtain ⟨u, hu⟩ := List.takeWhile_prefix Uri.inPath (l := rest)
        rw [← hu, htake]
        rfl
      obtain rfl := slash_of_endsAuthority (of_splitAuthority hrest c hhead) (hin c List.mem_cons_self)
      exact ⟨rfl, rfl, hin, hquery⟩

/-- What is read as a URI in one of the two forms has a path. -/
theorem rooted_of_parse {t : Text} {u : Uri} (h : parse t = .ok u) (hform : t.head? = some '/' ∨ u.scheme ≠ none) :
    u.Rooted := by
  rcases hform with hslash | hscheme
  · obtain ⟨rest, rfl⟩ := List.head?_eq_some_iff.1 hslash
    unfold parse at h
    split at h
    · cases h
    obtain ⟨⟨path, query⟩, hpath, h⟩ := bind_eq_ok.1 h
    cases h
    obtain ⟨rfl, hquery⟩ := of_pathAndQuery hpath
    exact ⟨rfl, rfl, fun c hc => List.mem_takeWhile_imp hc, hquery⟩
  · unfold parse at h
    split at h
    · cases h
    split at h
    · cases h
    · cases h
      exact absurd rfl hscheme
    · obtain ⟨⟨path, query⟩, -, h⟩ := bind_eq_ok.1 h
      cases h
      exact absurd rfl hscheme
    · obtain ⟨⟨authority, rest⟩, -, h⟩ := bind_eq_ok.1 h
      dsimp only at h
      split at h
      · cases h
        exact absurd rfl hscheme
      · cases h
    · exact rooted_of_parseFull h hscheme

/-- A path and a query are read back from the text that they are written as. -/
theorem pathAndQuery_joined {path : Text} {query : Option Text} (hpath : ∀ c ∈ path, inPath c = true)
    (hquery : ∀ q ∈ query, ∀ c ∈ q, inQuery c = true) : pathAndQuery (joined path query) = .ok (path, query) := by
  cases query with
  | none =>
    have htake : path.takeWhile inPath = path := List.takeWhile_eq_self_iff.2 hpath
    have hdrop : path.dropWhile inPath = [] := List.dropWhile_eq_nil_iff.2 hpath
    simp only [joined, pathAndQuery, htake, hdrop]
  | some q =>
    have hquery := hquery q rfl
    have htake : (path ++ '?' :: q).takeWhile inPath = path := by
      rw [List.takeWhile_append_of_pos hpath, List.takeWhile_cons_of_neg (by decide), List.append_nil]
    have hdrop : (path ++ '?' :: q).dropWhile inPath = '?' :: q := by
      rw [List.dropWhile_append_of_pos hpath, List.dropWhile_cons_of_neg (by decide)]
    have htake' : q.takeWhile inQuery = q := List.takeWhile_eq_self_iff.2 hquery
    have hdrop' : q.dropWhile inQuery = [] := List.dropWhile_eq_nil_iff.2 hquery
    simp only [joined, pathAndQuery, htake, hdrop, htake', hdrop']

namespace Rooted

variable {u : Uri}

/-- The URI with another path that begins with a slash and has no new characters. -/
theorem withPath (h : u.Rooted) {path : Text} (hslash : path.head? = some '/') (hpath : ∀ c ∈ path, c ∈ u.path) :
    Rooted { u with path } :=
  ⟨h.place, hslash, fun c hc => h.inPath c (hpath c hc), h.inQuery⟩

theorem withPath?_eq (h : u.Rooted) (path : Text) : u.withPath? path = some { u with path } := by
  obtain ⟨scheme, authority, path', query⟩ := u
  have hplace : scheme.isSome = authority.isSome := h.place
  cases scheme with
  | none =>
    cases authority with
    | none => rfl
    | some a => cases hplace
  | some s => rfl

/-- The URI that is put together from the parts with another path. -/
theorem ofParts?_eq (h : u.Rooted) {path : Text} (hslash : path.head? = some '/') :
    ofParts? { u.parts with pathAndQuery := some (path, u.query) } = some { u with path } := by
  obtain ⟨scheme, authority, path', query⟩ := u
  have hplace : scheme.isSome = authority.isSome := h.place
  obtain ⟨rest, rfl⟩ := List.head?_eq_some_iff.1 hslash
  cases scheme with
  | none =>
    cases authority with
    | none => rfl
    | some a => cases hplace
  | some s =>
    cases authority with
    | none => cases hplace
    | some a => rfl

end Rooted

end Uri

/-! ## Where a loose route ends -/

/-- A segment of a prefix: no wildcard, literal text that is no pattern, a matcher that stands on its own if there is
one, and an extension, if there is one, that stands for itself but for dots. -/
def Segment.Strippable : Segment → Prop
  | empty => True
  | literal text => PlainText text
  | param p =>
    (∀ m ∈ p.matcher, Reader.Steady (Template.uncounted m)) ∧ ∀ s ∈ p.suffix, ∃ ext, s = '.' :: ext ∧ DottedText ext
  | wildcard _ => False

/-- An extension is read as character sets, without groups. -/
theorem DottedText.renders {ext : Text} (h : DottedText ext) (n : Nat) :
    Renders ext n n ((ext.map standsFor).map .chars) := by
  refine ⟨?_, ?_, fun ps v _ => ⟨_, reads_standsFor h, ?_⟩⟩
  · simp [assertionFree]
  · rw [Template.groupCount_chars, Nat.max_zero]
  · simp [Piece.leaf]

theorem Segment.Strippable.exists_renders {s : Segment} (hs : s.Strippable) (n : Nat) :
    ∃ rs, Renders s.source n (n + s.keys.length) rs := by
  cases s with
  | empty => exact Segment.exists_renders (s := .empty) trivial n
  | literal text => exact Segment.exists_renders (s := .literal text) hs n
  | wildcard o => exact hs.elim
  | param p =>
    refine Segment.exists_renders_param hs.1 (fun s hsuffix => ?_) n
    obtain ⟨ext, rfl, hext⟩ := hs.2 s hsuffix
    rw [List.tail_cons, Template.uncounted_dotted hext]
    exact ⟨_, hext.renders⟩

namespace Template

variable {T : Text} {r : Route}

/-- What a loose route reports is the start of the path, up to its end or to a slash. -/
theorem exec_loose (hT : ∀ s ∈ segments T, s.Strippable) (hr : Route.compile T .loose = .ok r) {path : Text}
    {c : Captures}
    (hc : r.pattern.exec path = some c) :
    c.matched ++ c.rest = path ∧ c.offset = Text.byteLength c.matched ∧ (c.rest = [] ∨ c.rest.head? = some '/') := by
  obtain ⟨rs, -, hregexes⟩ := exists_regexes_of_renders fun s hs => (hT s hs).exists_renders
  obtain ⟨htail, hcount, hx⟩ := hregexes hr
  rw [exec_captures htail hx hcount] at hc
  obtain ⟨q, hq, rfl⟩ := Option.map_eq_some_iff.1 hc
  have hend := List.find?_some hq
  rw [Mode.ends, Bool.or_eq_true, beq_iff_eq, beq_iff_eq] at hend
  exact ⟨List.take_append_drop q.pos path, rfl, hend⟩

/-- Behind the prefix is left what the path has behind the cut if that begins with a slash, and the root if there is
nothing. -/
theorem remainder?_loose (hT : ∀ s ∈ segments T, s.Strippable) (hr : Route.compile T .loose = .ok r) {path : Text}
    {c : Captures}
    (hc : r.pattern.exec path = some c) :
    Text.from? path c.offset = some c.rest ∧ ∃ rest, r.pattern.remainder? path = some rest ∧
    r.pattern.cut? path = some rest ∧
      (c.rest.head? = some '/' ∧ rest = c.rest ∨ c.rest = [] ∧ rest = ['/']) := by
  obtain ⟨hsplit, hoffset, hend⟩ := exec_loose hT hr hc
  have hfrom : Text.from? path c.offset = some c.rest := by
    rw [← hsplit, hoffset]
    exact Text.from?_append _ _
  refine ⟨hfrom, if c.rest.head? = some '/' then c.rest else '/' :: c.rest, ?_, ?_, ?_⟩
  · rw [Pattern.remainder?, hc, Option.map_some]
  · simp [Pattern.cut?, hc, hfrom]
  · rcases hend with hnil | hslash
    · exact .inr ⟨hnil, by rw [hnil]; rfl⟩
    · exact .inl ⟨hslash, if_pos hslash⟩

/-- The steps put together the URI with another path. -/
theorem rewrite?_eq {p : Pattern} {u : Uri} (hu : u.Rooted) {rest : Text} (hcut : p.cut? u.path = some rest)
    (hslash : rest.head? = some '/') (hrest : ∀ c ∈ rest, c ∈ u.path) :
      p.rewrite? u = some { u with path := rest } := by
  -- What is left has no new characters, so it is read back with the query as it was written.
  have hread := Uri.pathAndQuery_joined (fun c hc => hu.inPath c (hrest c hc)) hu.inQuery
  rw [Pattern.rewrite?, hcut]
  show ((Uri.pathAndQuery (Uri.joined rest u.query)).toOption.bind fun pathAndQuery =>
    Uri.ofParts? { u.parts with pathAndQuery := some pathAndQuery }) = _
  rw [hread]
  exact hu.ofParts?_eq hslash

/-- Stripping touches the path of a URI only. Where the loose route of a prefix does not match, the request passes as
it is. Where it does, the steps of the rewriting succeed, and the layer passes the request on with the URI that they
put together. It has the scheme, the authority and the query of the URI before. Its path begins with a slash: it is the
part of the path from the byte on where the reported match ends, which is the end of the path or a slash, or the root
if nothing is left. So it is never longer than the path before. -/
theorem stripping_loose (hT : ∀ s ∈ segments T, s.Strippable) (hr : Route.compile T .loose = .ok r) {request : Request}
    (hu : request.uri.Rooted) (inner : Service) :
    (r.pattern.exec request.uri.path = none →
      r.pattern.rewrite? request.uri = none ∧ Layer.stripping r.pattern inner request = inner request) ∧
    ∀ c, r.pattern.exec request.uri.path = some c → ∃ u : Uri, r.pattern.rewrite? request.uri = some u ∧
      Layer.stripping r.pattern inner request = (inner { request with uri := u }).after
        [.stripped request.uri.text u.text] ∧
      (u.scheme = request.uri.scheme ∧ u.authority = request.uri.authority ∧ u.query = request.uri.query) ∧ u.Rooted ∧
      (Text.from? request.uri.path c.offset = some c.rest ∧
        (c.rest.head? = some '/' ∧ u.path = c.rest ∨ c.rest = [] ∧ u.path = ['/'])) ∧
      (c.matched ++ c.rest = request.uri.path ∧ c.offset = Text.byteLength c.matched) ∧
      Text.byteLength u.path ≤ Text.byteLength request.uri.path := by
  constructor
  · intro hnone
    have hcut : r.pattern.cut? request.uri.path = none := by simp [Pattern.cut?, hnone]
    refine ⟨by rw [Pattern.rewrite?, hcut]; rfl, ?_⟩
    rw [Layer.stripping, Pattern.strip?, Pattern.remainder?, hnone]
    rfl
  · intro c hc
    obtain ⟨hsplit, hoffset, -⟩ := exec_loose hT hr hc
    obtain ⟨hfrom, rest, hremainder, hcut, hrest⟩ := remainder?_loose hT hr hc
    obtain ⟨path, hpath⟩ := List.head?_eq_some_iff.1 hu.path
    obtain ⟨hslash, hmem, hlength⟩ : rest.head? = some '/' ∧ (∀ d ∈ rest, d ∈ request.uri.path) ∧
        Text.byteLength rest ≤ Text.byteLength request.uri.path := by
      rcases hrest with ⟨hhead, rfl⟩ | ⟨-, rfl⟩
      · rw [← hsplit, Text.byteLength_append]
        exact ⟨hhead, fun d hd => List.mem_append_right _ hd, Nat.le_add_left _ _⟩
      · rw [hpath, Text.byteLength_cons]
        exact ⟨rfl, List.forall_mem_singleton.2 List.mem_cons_self, Nat.le_add_right _ _⟩
    have hstrip : r.pattern.strip? request.uri = some { request.uri with path := rest } := by
      rw [Pattern.strip?, hremainder, Option.bind_some, hu.withPath?_eq]
    refine ⟨{ request.uri with path := rest }, rewrite?_eq hu hcut hslash hmem, ?_, ⟨rfl, rfl, rfl⟩,
      hu.withPath hslash hmem,
      ⟨hfrom, hrest⟩, ⟨hsplit, hoffset⟩, hlength⟩
    rw [Layer.stripping, hstrip]

/-- A prefix with an extension of two parts and an optional value. From an absolute URI with an empty query it is
stripped with the value, and of a path that it takes as a whole the root is left. -/
theorem stripping_loose_dotted : ∃ r u u' v v', Route.compile "/:f.a.b/:v?".toList .loose = .ok r ∧
    Uri.parse "http://h/x.a.b/y/z?".toList = .ok u ∧ r.pattern.rewrite? u = some v ∧ v.query = some [] ∧
    v.path = "/z".toList ∧
    Uri.parse "/x.A.b".toList = .ok u' ∧ r.pattern.rewrite? u' = some v' ∧ v'.query = none ∧ v'.path = "/".toList := by
  have hT : ∀ s ∈ segments "/:f.a.b/:v?".toList, s.Strippable := by
    rw [show segments "/:f.a.b/:v?".toList = [.param ⟨"f".toList, false, none, some ".a.b".toList⟩,
      .param ⟨"v".toList, true, none, none⟩] by decide]
    simp only [List.forall_mem_cons, List.not_mem_nil, false_imp_iff, implies_true, and_true]
    refine ⟨⟨nofun, fun s hs => ⟨"a.b".toList, (Option.some.inj hs).symm, ?_⟩⟩, nofun, nofun⟩
    unfold DottedText
    decide
  obtain ⟨r, c, c', hr, hc, hrest, hc', hrest'⟩ : ∃ r c c', Route.compile "/:f.a.b/:v?".toList .loose = .ok r ∧
      r.pattern.exec "/x.a.b/y/z".toList = some c ∧ c.rest = "/z".toList ∧
      r.pattern.exec "/x.A.b".toList = some c' ∧ c'.rest = [] := ⟨_, _, _, rfl, rfl, rfl, rfl, rfl⟩
  have strip := fun (u : Uri) (hu : u.Rooted) =>
    (@stripping_loose _ r hT hr (.new (.verb .get) u) hu (.constant ⟨200, none, [], []⟩)).2
  have hu : Uri.parse "http://h/x.a.b/y/z?".toList =
    .ok ⟨some "http".toList, some "h".toList, "/x.a.b/y/z".toList, some []⟩ := rfl
  have hu' : Uri.parse "/x.A.b".toList = .ok ⟨none, none, "/x.A.b".toList, none⟩ := rfl
  obtain ⟨v, hv, -, ⟨-, -, hquery⟩, -, ⟨-, hpath⟩, -⟩ := strip _ (Uri.rooted_of_parse hu (.inr nofun)) c hc
  obtain ⟨v', hv', -, ⟨-, -, hquery'⟩, -, ⟨-, hpath'⟩, -⟩ := strip _ (Uri.rooted_of_parse hu' (.inl rfl)) c' hc'
  rw [hrest] at hpath
  rw [hrest'] at hpath'
  exact ⟨r, _, _, v, v', hr, hu, hv, hquery, hpath.elim And.right nofun, hu', hv', hquery', hpath'.elim nofun And.right⟩

end Template

end PathRouter
