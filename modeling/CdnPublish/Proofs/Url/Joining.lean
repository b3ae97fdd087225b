import CdnPublish.Proofs.Url.Site

/-!
# Plain links

A plain URL is read as it is written, from whatever base. A plain link without a site takes the site
of its base: from the root of the site if it starts with a slash, and else from where the path of
the base ends.
-/

namespace CdnPublish.Url

variable {parts : List Segment} {query : Option (List Char)} {link : List Char}

/-- The URL of a path on a plain site. -/
def Site.url (site : Site) (parts : List Segment) (query : Option (List Char)) : Url :=
  ⟨site.protocol.scheme, some site.authority, .segments parts, query, none⟩

/-- Links that have nothing at their ends or within them that vanishes when they are read. -/
def IsVisible (link : List Char) : Prop :=
  ∀ character ∈ link, 0x20 < character.toNat

section Links

theorem clean_of_visible (visible : IsVisible link) : clean link = link := by
  have margin : ∀ text : List Char, IsVisible text →
      text.dropWhile (fun character => decide (character.toNat ≤ 0x20)) = text := by
    intro text visible
    cases text with
    | nil => rfl
    | cons first rest =>
        have late := visible first (.head _)
        rw [List.dropWhile_cons_of_neg]
        simpa using late
  have breaks : ∀ character ∈ link,
      (!(decide (character = '\t') || decide (character = '\n') || decide (character = '\r'))) =
        true := by
    intro character mem
    have late := visible character mem
    simp only [Bool.not_eq_true', Bool.or_eq_false_iff, decide_eq_false_iff_not]
    refine ⟨⟨?_, ?_⟩, ?_⟩ <;>
    · rintro rfl
      simp at late
  unfold clean
  simp only [margin link visible]
  rw [margin link.reverse fun character mem => visible character (List.mem_reverse.mp mem),
    List.reverse_reverse]
  exact List.filter_eq_self.mpr breaks

theorem cutScheme?_scheme (protocol : Protocol) (rest : List Char) :
    cutScheme? (protocol.scheme ++ ':' :: rest) = some (protocol.scheme, rest) := by
  cases protocol <;> rfl

theorem cutScheme?_of_not_mem (absent : ':' ∉ link) : cutScheme? link = none := by
  unfold cutScheme?
  split
  · rfl
  · split
    · split
      · rename_i rest found
        refine absurd ?_ absent
        apply (List.dropWhile_suffix isSchemeChar).mem
        rw [found]
        exact .head rest
      · rfl
    · rfl

theorem IsPlainPath.isVisible (path : IsPlainPath parts query) :
    IsVisible (pathText parts query) := by
  intro character mem
  rcases path.of_mem_pathText mem with rfl | rfl | plain
  · simp
  · simp
  · exact (range_of_isPlain plain).1

end Links

namespace Site

variable (site : Site)

theorem chars_url (path : IsPlainPath parts query) :
    (site.url parts query).chars = site.chars ++ '/' :: pathText parts query := by
  unfold Site.url Site.authority Url.chars Url.origin Authority.text Authority.credentials Path.text
  rw [cons_pathText path.proper]
  simp [Site.chars, Site.address, Site.portText, Host.text, queryText]

theorem isVisible_url (path : IsPlainPath parts query) :
    IsVisible (site.url parts query).chars := by
  have scheme : IsVisible site.protocol.scheme := by
    unfold IsVisible
    cases site.protocol <;> simp [Protocol.scheme]
  rw [site.chars_url path]
  intro character mem
  simp only [Site.chars, List.mem_append, List.mem_cons] at mem
  rcases mem with (inScheme | rfl | rfl | rfl | inAddress) | rfl | inPath
  · exact scheme character inScheme
  · simp
  · simp
  · simp
  · rcases colon_or_isPlain inAddress with rfl | plain
    · simp
    · exact (range_of_isPlain plain).1
  · simp
  · exact path.isVisible character inPath

theorem afterSlashes_url (path : IsPlainPath parts query) :
    afterSlashes site.protocol.scheme (site.address ++ '/' :: pathText parts query) =
      .ok (site.url parts query) := by
  rw [afterSlashes_address, fromRoot_pathText (kind_scheme site.protocol) _ path]
  rfl

/-- Two slashes lead to a site of its own, whatever the base is. A base of the same scheme is only
asked about links with fewer slashes. -/
theorem afterScheme_url (base : Option Url) (path : IsPlainPath parts query) :
    afterScheme base site.protocol.scheme
        ('/' :: '/' :: (site.address ++ '/' :: pathText parts query)) =
      .ok (site.url parts query) := by
  have slashes : ∀ character ∈ ['/', '/'], isSlash character = true := by
    simp [isSlash]
  have stops : Text.Stops isSlash (site.address ++ '/' :: pathText parts query) := by
    intro character isFirst
    rw [List.head?_append_of_ne_nil _ site.address_ne_nil] at isFirst
    have inAddress := List.mem_of_mem_head? isFirst
    have slash : character ≠ '/' := ne_of_mem_address inAddress rfl (by decide)
    have backslash : character ≠ '\\' := ne_of_mem_address inAddress rfl (by decide)
    simp [isSlash, slash, backslash]
  have front := Text.takeWhile_append_of_stops slashes stops
  have rest := Text.dropWhile_append_of_stops slashes stops
  simp only [List.cons_append, List.nil_append] at front rest
  unfold afterScheme
  simp only [kind_scheme, front, rest, site.afterSlashes_url path]
  cases base.filter fun base => base.scheme = site.protocol.scheme with
  | none => rfl
  | some base => rfl

theorem cutScheme?_url (path : IsPlainPath parts query) :
    cutScheme? (clean (site.url parts query).chars) = some (site.protocol.scheme,
      '/' :: '/' :: (site.address ++ '/' :: pathText parts query)) := by
  rw [clean_of_visible (site.isVisible_url path), site.chars_url path, Site.chars,
    List.append_assoc]
  exact cutScheme?_scheme site.protocol _

/-- A plain URL is read as it is written. -/
theorem parseChars_url (path : IsPlainPath parts query) :
    parseChars (site.url parts query).chars = .ok (site.url parts query) := by
  unfold parseChars
  rw [site.cutScheme?_url path]
  exact site.afterScheme_url none path

/-- A plain URL means the same from every base. -/
theorem joinChars_url (base : Url) (path : IsPlainPath parts query) :
    joinChars base (site.url parts query).chars = .ok (site.url parts query) := by
  unfold joinChars
  simp only [site.cutScheme?_url path]
  exact site.afterScheme_url (some base) path

theorem joinChars_of_plain {above : List Segment} {given : Option (List Char)}
    {first : Char} {rest : List Char} (shape : link = first :: rest)
    (visible : IsVisible link) (unschemed : ':' ∉ link) (path : first ≠ '#') :
    joinChars (site.url above given) link = relativeLink (site.url above given) link := by
  unfold joinChars
  simp only [clean_of_visible visible, cutScheme?_of_not_mem unschemed]
  rw [if_neg (by simp [shape, path]), if_neg (by simp [isVerbatim, url])]
  have web : (site.url above given).kind = .web := kind_scheme site.protocol
  rw [if_neg (by simp [web])]

end Site

section Routes

variable (site : Site) (route : Route)

theorem Route.isPlainPath_self : IsPlainPath (namesOf route.segments) route.query :=
  route.isPlainPath []

theorem Route.not_mem_colon : ':' ∉ route.chars := by
  intro mem
  rcases route.isPlainPath_self.of_mem_pathText mem with never | never | never <;> cases never

/-- A rooted link replaces the path of its base. -/
theorem joinChars_rooted (above : List Segment) (given : Option (List Char)) :
    joinChars (site.url above given) ('/' :: route.chars) =
      .ok (site.url (namesOf route.segments) route.query) := by
  rcases route.exists_first with ⟨first, rest, shape, plain⟩
  have slash : first ≠ '/' := ne_of_isPlain plain rfl
  have backslash : first ≠ '\\' := ne_of_isPlain plain rfl
  have visible : IsVisible ('/' :: route.chars) :=
    List.forall_mem_cons.mpr ⟨by simp, route.isPlainPath_self.isVisible⟩
  rw [site.joinChars_of_plain rfl visible (by simp [route.not_mem_colon]) (by decide)]
  have straight : relativeLink (site.url above given) ('/' :: route.chars) =
      .ok (withPath site.protocol.scheme (some site.authority) [] route.chars) := by
    rw [shape]
    simp [relativeLink, isSlash, slash, backslash, Site.url]
  rw [straight, Route.chars, withPath_pathText (Site.kind_scheme site.protocol) _ _
    route.isPlainPath_self]
  rfl

/-- A relative link goes on where the path of its base ends. The base ends with a slash, so the
segment that the link replaces is the empty one behind it. -/
theorem joinChars_relative (above : List PlainSegment) :
    joinChars (site.url (namesOf above ++ [[]]) none) route.chars =
      .ok (site.url (namesOf above ++ namesOf route.segments) route.query) := by
  rcases route.exists_first with ⟨first, rest, shape, plain⟩
  have slash : first ≠ '/' := ne_of_isPlain plain rfl
  have backslash : first ≠ '\\' := ne_of_isPlain plain rfl
  have query : first ≠ '?' := ne_of_isPlain plain rfl
  have fragment : first ≠ '#' := ne_of_isPlain plain rfl
  rw [site.joinChars_of_plain shape route.isPlainPath_self.isVisible route.not_mem_colon fragment]
  have straight : relativeLink (site.url (namesOf above ++ [[]]) none) route.chars =
      .ok (withPath site.protocol.scheme (some site.authority) (namesOf above) route.chars) := by
    rw [shape]
    unfold relativeLink
    split
    · rename_i same
      cases same
    · rename_i same
      exact absurd (List.cons.inj same).1 query
    · rename_i same
      exact absurd (List.cons.inj same).1 fragment
    · rename_i same
      cases same
      simp [isSlash, slash, backslash, Site.url, segments]
  rw [straight, Route.chars, withPath_pathText (Site.kind_scheme site.protocol) _ _
    route.isPlainPath_self]
  rfl

end Routes

end CdnPublish.Url
