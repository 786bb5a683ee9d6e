/-
Extensions of letters and digits. Only the first dot of an extension is escaped in the pattern text, and a later
one stands for any character but a line feed (`Resembles`). So the route of a value with an extension matches the
paths that end in something that resembles the extension, and captures what is in front of that. An extension of one
part is resembled only by itself, up to case (`Resembles.alike`).
-/
import PathRouter.Proofs.Template.Dotted

namespace PathRouter

open Regex

namespace Template

/-- The parts of an extension are made of letters and digits. -/
structure Extension (parts : List Text) : Prop where
  nonempty : parts ≠ []
  solid : ∀ p ∈ parts, p ≠ [] ∧ ∀ c ∈ p, c.isAlphanum = true

/-- The text of an extension: its parts, each with a dot in front. -/
def dotted (parts : List Text) : Text :=
  parts.flatMap ('.' :: ·)

/-- The template of a value with an extension. -/
def ofExtension (e : Text) : Text :=
  "/:f".toList ++ e

/-- The text behind the first dot of an extension. -/
structure Extended (ext : Text) : Prop where
  chars : ∀ c ∈ ext, c = '.' ∨ c.isAlphanum = true
  last : ∃ c, ext.getLast? = some c ∧ c.isAlphanum = true

/-! ## The text of an extension -/

theorem not_mem_metaChars {c : Char} (h : c.isAlphanum = true) : c ∉ metaChars := by
  intro hc
  have hall : ∀ d ∈ metaChars, d.isAlphanum = false := by decide
  rw [hall c hc] at h
  cases h

theorem Extended.dottedText {ext : Text} (h : Extended ext) : DottedText ext :=
  fun c hc => (h.chars c hc).imp_right not_mem_metaChars

theorem Extended.slash_not_mem {ext : Text} (h : Extended ext) : '/' ∉ '.' :: ext := by
  intro hmem
  rcases h.chars '/' (List.mem_of_ne_of_mem (by decide) hmem) with h | h <;> cases h

namespace Extension

variable {parts : List Text}

theorem getLast?_dotted (h : Extension parts) : ∃ c, (dotted parts).getLast? = some c ∧ c.isAlphanum = true := by
  obtain rfl | ⟨init, p, rfl⟩ := List.eq_nil_or_concat parts
  · exact absurd rfl h.nonempty
  · obtain ⟨hne, hall⟩ := h.solid p (by simp)
    refine ⟨p.getLast hne, ?_, hall _ (List.getLast_mem hne)⟩
    have hdotted : dotted (init.concat p) = dotted init ++ ['.'] ++ p := by simp [dotted]
    rw [hdotted, List.getLast?_append_of_ne_nil _ hne, List.getLast?_eq_some_getLast hne]

/-- An extension begins with a dot. Letters, digits and dots are behind it, and no dot is last. -/
theorem exists_extended (h : Extension parts) : ∃ ext, dotted parts = '.' :: ext ∧ Extended ext := by
  obtain ⟨c, hc, halnum⟩ := h.getLast?_dotted
  have hmem : ∀ d ∈ dotted parts, d = '.' ∨ d.isAlphanum = true := by
    intro d hd
    obtain ⟨p, hp, hd⟩ := List.mem_flatMap.1 hd
    exact (List.mem_cons.1 hd).imp_right ((h.solid p hp).2 d)
  obtain ⟨p, ps, rfl⟩ := List.exists_cons_of_ne_nil h.nonempty
  refine ⟨p ++ dotted ps, rfl, fun d hd => hmem d (List.mem_cons_of_mem _ hd), c, ?_, halnum⟩
  have hlast : some ((p ++ dotted ps).getLast?.getD '.') = some c := List.getLast?_cons.symm.trans hc
  cases hp : (p ++ dotted ps).getLast? with
  | none =>
    rw [hp] at hlast
    cases hlast
    cases halnum
  | some d =>
    rw [hp] at hlast
    exact hlast

end Extension

end Template

/-! ## The route of a value with an extension -/

namespace Template

variable {ext : Text}

/-- The expression of a route whose only parameter has an extension. -/
def extensionRegex (ext : Text) : Regex :=
  concatAll (.assert .textStart :: (valueRegexes 0 ext ++ Mode.strict.regexes 1))

theorem segments_ofExtension (h : Extended ext) :
    segments (ofExtension ('.' :: ext)) = [.param ⟨['f'], false, none, some ('.' :: ext)⟩] := by
  have hsplit : Text.split '/' (":f".toList ++ '.' :: ext) = [":f".toList ++ '.' :: ext] := by
    refine Text.split_of_not_mem fun hmem => ?_
    rcases List.mem_append.1 hmem with hmem | hmem
    · exact absurd hmem (by decide)
    · exact h.slash_not_mem hmem
  have hpieces : pieces (ofExtension ('.' :: ext)) = Text.split '/' (":f".toList ++ '.' :: ext) := by
    rw [pieces, ofExtension, show "/:f".toList = '/' :: ":f".toList from rfl, List.cons_append, Text.split, if_pos rfl]
  rw [segments, hpieces, hsplit]
  rfl

/-- The only group of the route is the value. -/
theorem groupCount_extensionRegex (ext : Text) : (extensionRegex ext).groupCount = 1 := by
  rw [extensionRegex, valueRegexes, concatAll, Regex.groupCount, groupCount_concatAll_append,
    groupCount_concatAll_append,
    groupCount_chars]
  simp [Mode.regexes, behindSlash, letters, value, captured, Regex.optional, concatAll, Regex.groupCount]

/-- The route of a value with an extension, unless its pattern is too large. -/
theorem compile_ofExtension (h : Extended ext) : Route.compile (ofExtension ('.' :: ext)) .strict =
    if maxSize < leastSize (ofExtension ('.' :: ext)) .strict then .error ⟨ofExtension ('.' :: ext), .tooLarge⟩
    else .ok ⟨.named [['f']], ⟨⟨source (ofExtension ('.' :: ext)) .strict, extensionRegex ext, []⟩, .strict⟩⟩ := by
  have hdenotes : Denotes (segments (ofExtension ('.' :: ext))) 0 (valueRegexes 0 ext) := by
    rw [segments_ofExtension h, ← List.append_nil (valueRegexes 0 ext)]
    exact .cons (Segment.denotes_dotted ['f'] h.dottedText 0) .nil
  have hkeys : keys (ofExtension ('.' :: ext)) = [['f']] := by
    rw [keys, segments_ofExtension h]
    rfl
  rw [hdenotes.compile, hkeys]
  rfl

/-- The ways of the route take a value behind a slash and what resembles the extension behind it. -/
theorem mem_ways_extension {path : Text} {q : Progress} :
    q ∈ ways (concatAll (valueRegexes 0 ext)) path ⟨0, []⟩ ↔
      ∃ v w, v ≠ [] ∧ '/' ∉ v ∧ Resembles ('.' :: ext) w ∧ '/' :: (v ++ w) <+: path ∧
        q = ⟨(v ++ w).length + 1, [⟨1, 1, 1 + v.length⟩]⟩ := by
  have landed_value : ∀ v w : Text, (landed 1 ⟨0, []⟩ (some v, v.length + 1)).skip w.length =
      ⟨(v ++ w).length + 1, [⟨1, 1, 1 + v.length⟩]⟩ := by
    intro v w
    simp [landed, Progress.skip]
    omega
  simp only [mem_ways_valueRegexes, landed_value]
  rfl

/-- The parameter that such a way captures. -/
theorem ofKeys_captures {v x : Text} (hne : v ≠ []) (k : Nat) :
    Params.ofKeys [['f']] (Mode.strict.captures 1 [] ('/' :: (v ++ x)) ⟨k, [⟨1, 1, 1 + v.length⟩]⟩) =
      ⟨[(['f'], v)]⟩ := by
  have htext : textOf ('/' :: (v ++ x)) [⟨1, 1, 1 + v.length⟩] 1 = some v := by
    have hdrop : (('/' :: (v ++ x)).take (1 + v.length)).drop 1 = v := by
      rw [Nat.add_comm, List.take_succ_cons, List.drop_succ_cons, List.take_left, List.drop_zero]
    simpa [textOf] using hdrop
  obtain ⟨c, t, rfl⟩ := List.exists_cons_of_ne_nil hne
  rw [Params.ofKeys, Mode.groups_captures]
  show (⟨([['f']].zip [textOf _ _ 1]).filterMap _⟩ : Params) = _
  rw [htext]
  rfl

end Template

/-! ## Where a route of a value with an extension ends -/

/-- What resembles an extension does not end in a slash. -/
theorem Resembles.getLast?_ne {ext w : Text} (h : Resembles ('.' :: ext) w)
    (hext : Template.Extended ext) : w ≠ [] ∧ w.getLast? ≠ some '/' := by
  obtain ⟨_, u, he, rfl, hu⟩ := h
  cases he
  obtain ⟨c, hc, halnum⟩ := hext.last
  have hback := List.rel_reverse hu
  rw [← List.head?_reverse] at hc
  obtain ⟨front, hfront⟩ : ∃ front, ext.reverse = c :: front := by
    cases hrev : ext.reverse with
    | nil => rw [hrev] at hc; cases hc
    | cons d front => rw [hrev] at hc; cases hc; exact ⟨front, rfl⟩
  rw [hfront, List.forall₂_cons_left_iff] at hback
  obtain ⟨d, back, hd, -, hrev⟩ := hback
  refine ⟨List.cons_ne_nil _ _, ?_⟩
  have hne : u ≠ [] := by
    rintro rfl
    cases hrev
  rw [List.getLast?_cons, ← List.head?_reverse, hrev]
  intro hslash
  obtain rfl : d = '/' := Option.some.inj hslash
  have hdot : c ≠ '.' := by
    rintro rfl
    cases halnum
  rw [standsFor, if_neg hdot] at hd
  obtain rfl : c = '/' := sameFold_slash.1 (Unicode.sameFold_symm hd)
  cases halnum

/-- Only one value is in front of something that resembles an extension, where the route may end. -/
theorem Resembles.value_unique {ext v w u v' w' u' : Text} (hext : Template.Extended ext)
    (hw : Resembles ('.' :: ext) w) (hw' : Resembles ('.' :: ext) w') (hu : Template.Mode.strict.ends u = true)
    (hu' : Template.Mode.strict.ends u' = true) (heq : v ++ w ++ u = v' ++ w' ++ u') : v = v' := by
  have hlen : w.length = w'.length := hw.length.trans hw'.length.symm
  -- A slash behind one of them only would be the last character of the other one.
  have apart : ∀ {v w v' w' : Text}, Resembles ('.' :: ext) w → v ++ w ++ [] ≠ v' ++ w' ++ ['/'] := by
    intro v w v' w' hw heq
    obtain ⟨hne, hslash⟩ := hw.getLast?_ne hext
    have h := congrArg List.getLast? heq
    rw [List.append_nil, List.getLast?_append_of_ne_nil _ hne, List.getLast?_concat] at h
    exact hslash h
  rcases Template.Mode.strict_ends_iff.1 hu with rfl | rfl <;> rcases Template.Mode.strict_ends_iff.1 hu' with rfl | rfl
  · rw [List.append_nil, List.append_nil] at heq
    exact (List.append_inj' heq hlen).1
  · exact absurd heq (apart hw)
  · exact absurd heq.symm (apart hw')
  · exact (List.append_inj' (List.append_inj' heq rfl).1 hlen).1

namespace Template

/-- What the route of a value with an extension captures: the value, where the path ends in something that resembles
the extension, with or without a slash. -/
theorem exec_extensionRegex {ext source : Text} (hext : Extended ext) {path : Text} {ps : Params} :
    Route.exec ⟨.named [['f']], ⟨⟨source, extensionRegex ext, []⟩, .strict⟩⟩ path = some ps ↔
      ∃ v w u, v ≠ [] ∧ '/' ∉ v ∧ Resembles ('.' :: ext) w ∧ Mode.strict.ends u = true ∧ path = '/' :: (v ++ w ++ u) ∧
        ps = ⟨[(['f'], v)]⟩ := by
  have hexec := @exec_captures ⟨⟨source, extensionRegex ext, []⟩, .strict⟩ (valueRegexes 0 ext) .strict 1 rfl rfl
    (groupCount_extensionRegex ext) path
  -- A way that may end tells the value, and the route captures that value.
  have found : ∀ {q}, (ways (concatAll (valueRegexes 0 ext)) path ⟨0, []⟩).find?
      (fun q => Mode.strict.ends (q.rest path)) =
      some q → ∃ v w u, v ≠ [] ∧ '/' ∉ v ∧ Resembles ('.' :: ext) w ∧ Mode.strict.ends u = true ∧
      path = '/' :: (v ++ w ++ u) ∧
        Params.ofKeys [['f']] (Mode.strict.captures 1 [] path q) = ⟨[(['f'], v)]⟩ := by
    intro q hq
    obtain ⟨v, w, hne, hslash, hw, ⟨u, rfl⟩, rfl⟩ := mem_ways_extension.1 (List.mem_of_find?_eq_some hq)
    have hends := List.find?_some hq
    rw [show Progress.rest ⟨(v ++ w).length + 1, _⟩ ('/' :: (v ++ w) ++ u) = u from List.drop_left] at hends
    refine ⟨v, w, u, hne, hslash, hw, hends, rfl, ?_⟩
    rw [List.cons_append, List.append_assoc]
    exact ofKeys_captures hne _
  constructor
  · intro h
    obtain ⟨c, hc, rfl⟩ := Option.map_eq_some_iff.1 h
    rw [hexec] at hc
    obtain ⟨q, hq, rfl⟩ := Option.map_eq_some_iff.1 hc
    exact found hq
  · rintro ⟨v, w, u, hne, hslash, hw, hends, hpath, rfl⟩
    have hway : ∃ q ∈ ways (concatAll (valueRegexes 0 ext)) path ⟨0, []⟩, Mode.strict.ends (q.rest path) = true := by
      refine ⟨_, mem_ways_extension.2 ⟨v, w, hne, hslash, hw, ?_, rfl⟩, ?_⟩
      · rw [hpath]
        exact List.prefix_append ('/' :: (v ++ w)) u
      · rw [hpath, show Progress.rest ⟨(v ++ w).length + 1, _⟩ ('/' :: (v ++ w ++ u)) = u from List.drop_left]
        exact hends
    obtain ⟨q, hq⟩ := Option.isSome_iff_exists.1 (List.find?_isSome.2 hway)
    obtain ⟨v', w', u', -, -, hw', hends', hpath', hcaptured⟩ := found hq
    have hvalue : v' = v := hw'.value_unique hext hw hends' hends (List.cons.inj (hpath'.symm.trans hpath)).2
    rw [Route.exec, hexec, hq, Option.map_some, Option.map_some]
    exact congrArg some (hcaptured.trans (by rw [hvalue]))

/-- The route of a value with an extension matches a path if that is a slash and a value with something behind that
resembles the extension, and perhaps a slash at the end; then it captures the value. The extension resembles itself, up
to case, and if it has one part only, nothing else does. -/
theorem exec_extension {parts : List Text} (h : Extension parts) {r : Route}
    (hr : Route.compile (ofExtension (dotted parts)) .strict = .ok r) :
    (∀ path, r.pattern.isMatch path = (r.exec path).isSome ∧ ∀ ps, r.exec path = some ps ↔
      ∃ v w, v ≠ [] ∧ '/' ∉ v ∧ Resembles (dotted parts) w ∧
        (path = '/' :: (v ++ w) ∨ path = '/' :: (v ++ w ++ ['/'])) ∧ ps = ⟨[("f".toList, v)]⟩) ∧
    (∀ w, Alike (dotted parts) w → Resembles (dotted parts) w) ∧
    (parts.length = 1 → ∀ w, Resembles (dotted parts) w → Alike (dotted parts) w) := by
  obtain ⟨ext, hext, hextended⟩ := h.exists_extended
  rw [hext, compile_ofExtension hextended] at hr
  rw [hext]
  refine ⟨fun path => ⟨isMatch_eq_isSome_exec r path, fun ps => ?_⟩, fun w hw => hw.resembles, fun hone w hw => ?_⟩
  · split at hr
    · cases hr
    cases hr
    refine (exec_extensionRegex hextended).trans ⟨?_, ?_⟩
    · rintro ⟨v, w, u, hne, hslash, hw, hends, hpath, hps⟩
      refine ⟨v, w, hne, hslash, hw, ?_, hps⟩
      rcases Mode.strict_ends_iff.1 hends with rfl | rfl
      · exact .inl (by rwa [List.append_nil] at hpath)
      · exact .inr hpath
    · rintro ⟨v, w, hne, hslash, hw, hpath | hpath, hps⟩
      · exact ⟨v, w, [], hne, hslash, hw, rfl, by rwa [List.append_nil], hps⟩
      · exact ⟨v, w, ['/'], hne, hslash, hw, rfl, hpath, hps⟩
  · obtain ⟨p, rfl⟩ := List.length_eq_one_iff.1 hone
    obtain rfl : p = ext := by simpa [dotted] using hext
    refine hw.alike fun hdot => ?_
    cases (h.solid p List.mem_cons_self).2 '.' hdot

/-- A value that has the extension in it, with the extension in another case and a slash behind. -/
theorem exec_extension_twice : ∃ r, Route.compile "/:f.tar.gz".toList .strict = .ok r ∧
    r.exec "/x.tar.gz.Tar.gz/".toList = some ⟨[("f".toList, "x.tar.gz".toList)]⟩ := by
  have h : Extension ["tar".toList, "gz".toList] := ⟨List.cons_ne_nil _ _, by decide⟩
  obtain ⟨r, hr⟩ : ∃ r, Route.compile (ofExtension (dotted ["tar".toList, "gz".toList])) .strict = .ok r := ⟨_, rfl⟩
  obtain ⟨hexec, hself, -⟩ := exec_extension h hr
  have hshouted : Resembles (dotted ["tar".toList, "gz".toList]) ".Tar.gz".toList := hself _ (by unfold Alike; decide)
  exact ⟨r, hr, ((hexec _).2 _).2 ⟨"x.tar.gz".toList, _, by decide, by decide, hshouted, .inr rfl, rfl⟩⟩

/-- An extension of two parts. A slash stands for its second dot, though no path with a slash there ends in the
extension. -/
theorem exec_extension_slash : Extension ["tar".toList, "gz".toList] ∧
    ∃ r, Route.compile "/:f.tar.gz".toList .strict = .ok r ∧
    r.exec "/x.tar/gz".toList = some ⟨[("f".toList, "x".toList)]⟩ ∧
      ¬ ∃ v w, v ≠ [] ∧ '/' ∉ v ∧ Alike ".tar.gz".toList w ∧
        ("/x.tar/gz".toList = '/' :: (v ++ w) ∨ "/x.tar/gz".toList = '/' :: (v ++ w ++ ['/'])) := by
  refine ⟨⟨List.cons_ne_nil _ _, by decide⟩, _, rfl, by decide, ?_⟩
  rintro ⟨v, w, -, hv, hw, hpath | hpath⟩
  · have hmem : '/' ∈ v ++ w := (List.cons.inj hpath).2 ▸ (by decide : '/' ∈ "x.tar/gz".toList)
    rcases List.mem_append.1 hmem with h | h
    · exact hv h
    · exact absurd (hw.slash_mem h) (by decide)
  · have hlast := congrArg List.getLast? hpath
    rw [← List.cons_append, List.getLast?_concat] at hlast
    cases hlast

end Template

end PathRouter
