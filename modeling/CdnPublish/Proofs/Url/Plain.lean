import CdnPublish.Proofs.Text.Encoding
import CdnPublish.Proofs.Text.Leading
import CdnPublish.Proofs.Text.Split
import CdnPublish.Url.Parser

/-!
# Plain paths

A plain path is made of segments that say nothing but their names: no character of them has a
meaning of its own in a URL or has to be encoded there, and none of them is a dot or two. Such a
path, and a plain query behind it, is read as it is written.
-/

namespace CdnPublish.Url

/-- Whether a character stands for itself in a path and in a query. -/
def isPlain (character : Char) : Bool :=
  character.isAlphanum || ['-', '_', '~', '.', '=', '&'].contains character

/-- Whether a character may stand in a plain segment. -/
def isSegmentChar (character : Char) : Bool :=
  character.isAlphanum || ['-', '_', '~', '.'].contains character

/-- Whether a character may stand in a plain query. -/
def isQueryChar (character : Char) : Bool :=
  character.isAlphanum || ['-', '_', '=', '&'].contains character

/-- A segment of a plain path. -/
structure PlainSegment where
  name : List Char
  name_ne_nil : name ≠ []
  isSegmentChar_name : ∀ character ∈ name, isSegmentChar character = true
  ne_dot : name ≠ ['.']
  ne_dotDot : name ≠ ['.', '.']

/-- What a link says behind the place that it starts from: a path, and perhaps a query. -/
structure Route where
  segments : List PlainSegment
  segments_ne_nil : segments ≠ []
  query : Option (List Char)
  isQueryChar_query : ∀ text ∈ query, ∀ character ∈ text, isQueryChar character = true

/-- The names of segments. -/
def namesOf (segments : List PlainSegment) : List Segment :=
  segments.map PlainSegment.name

/-- A query as it is written behind a path. -/
def queryText (query : Option (List Char)) : List Char :=
  query.elim [] ('?' :: ·)

/-- A path and a query as they are written, without a slash before them. -/
def pathText (parts : List Segment) (query : Option (List Char)) : List Char :=
  Text.glue '/' parts ++ queryText query

/-- A route as it is written, without a slash before it. -/
def Route.chars (route : Route) : List Char :=
  pathText (namesOf route.segments) route.query

section Characters

variable {character special : Char} {text : List Char}

theorem isPlain_of_isAlphanum (alphanumeric : character.isAlphanum = true) :
    isPlain character = true := by
  simp [isPlain, alphanumeric]

theorem isPlain_of_isSegmentChar (plain : isSegmentChar character = true) :
    isPlain character = true := by
  simp only [isSegmentChar, isPlain, Bool.or_eq_true, List.contains_iff_mem] at plain ⊢
  exact plain.imp_right fun mem => List.mem_append_left ['=', '&'] mem

theorem isPlain_of_isQueryChar (plain : isQueryChar character = true) :
    isPlain character = true := by
  simp only [isQueryChar, isPlain, Bool.or_eq_true, List.contains_iff_mem] at plain ⊢
  refine plain.imp_right fun mem => ?_
  have within : ['-', '_', '=', '&'] ⊆ ['-', '_', '~', '.', '=', '&'] := by decide
  exact within mem

theorem range_of_isPlain (plain : isPlain character = true) :
    0x20 < character.toNat ∧ character.toNat ≤ 0x7E := by
  simp only [isPlain, Bool.or_eq_true, List.contains_iff_mem] at plain
  rcases plain with alphanumeric | mem
  · have codes := Text.isAlphanum_iff_toNat.mp alphanumeric
    omega
  · have codes : ∀ mark ∈ ['-', '_', '~', '.', '=', '&'],
        0x20 < mark.toNat ∧ mark.toNat ≤ 0x7E := by simp
    exact codes character mem

theorem ne_of_isPlain (plain : isPlain character = true) (marks : isPlain special = false) :
    character ≠ special := by
  rintro rfl
  rw [plain] at marks
  cases marks

/-- No plain character is encoded in a path or in a query. -/
theorem not_encodes_of_isPlain {part : Part} (known : part = .path ∨ part = .specialQuery)
    (plain : isPlain character = true) : part.encodes character = false := by
  have range := range_of_isPlain plain
  have reserved : part.reserved.contains character = false := by
    have marks : ∀ special ∈ part.reserved, isPlain special = false := by
      rcases known with rfl | rfl <;> simp [Part.reserved, isPlain]
    apply Bool.eq_false_of_not_eq_true
    intro mem
    exact ne_of_isPlain plain (marks character (List.contains_iff_mem.mp mem)) rfl
  simp only [Part.encodes, reserved, Bool.or_false, Bool.or_eq_false_iff, decide_eq_false_iff_not]
  omega

theorem flatMap_eq_self {step : Char → List Char}
    (same : ∀ character ∈ text, step character = [character]) : text.flatMap step = text := by
  induction text with
  | nil => rfl
  | cons character rest induction_hypothesis =>
      rcases List.forall_mem_cons.mp same with ⟨here, later⟩
      rw [List.flatMap_cons, here, induction_hypothesis later, List.singleton_append]

theorem percentEncode_of_isPlain {part : Part} (known : part = .path ∨ part = .specialQuery)
    (plain : ∀ character ∈ text, isPlain character = true) : percentEncode part text = text := by
  apply flatMap_eq_self
  intro character mem
  rw [if_neg (by simp [not_encodes_of_isPlain known (plain character mem)])]

end Characters

section Paths

variable {parts path : List Segment} {part : Segment} {query : Option (List Char)}

/-- A segment that is read as it is written: a plain one, or an empty one. -/
structure IsLiteral (part : Segment) : Prop where
  isPlain : ∀ character ∈ part, isPlain character = true
  ne_dot : part ≠ ['.']
  ne_dotDot : part ≠ ['.', '.']

theorem isLiteral_nil : IsLiteral [] :=
  ⟨by simp, by simp, by simp⟩

theorem PlainSegment.isLiteral (segment : PlainSegment) : IsLiteral segment.name :=
  ⟨fun character mem => isPlain_of_isSegmentChar (segment.isSegmentChar_name character mem),
    segment.ne_dot, segment.ne_dotDot⟩

theorem isLiteral_of_mem_namesOf {segments : List PlainSegment} (mem : part ∈ namesOf segments) :
    IsLiteral part := by
  rcases List.mem_map.mp mem with ⟨segment, -, rfl⟩
  exact segment.isLiteral

/-- Only capital letters change in lower case, and into small ones. -/
theorem eq_of_toLower_eq {character special : Char} (early : special.toNat < 97)
    (same : character.toLower = special) : character = special := by
  unfold Char.toLower at same
  split at same
  · rename_i upper
    have code := congrArg Char.toNat same
    have range : 65 ≤ character.toNat ∧ character.toNat ≤ 90 := by
      simpa [UInt32.le_iff_toNat_le] using upper
    change (character.val + 32).toNat = special.toNat at code
    rw [UInt32.toNat_add] at code
    simp at code
    omega
  · exact same

theorem eq_of_map_toLower_eq {text : List Char} (dots : ∀ special ∈ text, special = '.')
    (same : part.map Char.toLower = text) : part = text := by
  induction part generalizing text with
  | nil => exact same
  | cons character part induction_hypothesis =>
      cases text with
      | nil => cases same
      | cons special text =>
          rcases List.forall_mem_cons.mp dots with ⟨rfl, later⟩
          rcases List.cons.inj same with ⟨first, rest⟩
          rw [eq_of_toLower_eq (by decide) first, induction_hypothesis later rest]

theorem not_mem_map_toLower (literal : IsLiteral part) : '%' ∉ part.map Char.toLower := by
  intro mem
  rcases List.mem_map.mp mem with ⟨character, inPart, same⟩
  exact ne_of_isPlain (literal.isPlain character inPart) (by decide)
    (eq_of_toLower_eq (by decide) same)

/-- A literal segment is none of the names that consist of dots or hold an encoded one. -/
theorem not_contains_of_isLiteral {names : List String} (literal : IsLiteral part)
    (dotted : ∀ name ∈ names, '%' ∈ name.toList ∨
      (∀ special ∈ name.toList, special = '.') ∧ part ≠ name.toList) :
    names.contains (String.ofList (part.map Char.toLower)) = false := by
  apply Bool.eq_false_of_not_eq_true
  intro found
  have same : (String.ofList (part.map Char.toLower)).toList = part.map Char.toLower :=
    String.toList_ofList
  rcases dotted _ (List.contains_iff_mem.mp found) with encoded | ⟨dots, other⟩
  · rw [same] at encoded
    exact not_mem_map_toLower literal encoded
  · rw [same] at dots other
    exact other (eq_of_map_toLower_eq dots rfl)

theorem not_isSingleDot (literal : IsLiteral part) : isSingleDot part = false := by
  apply not_contains_of_isLiteral literal
  have other := literal.ne_dot
  simpa using other

theorem not_isDoubleDot (literal : IsLiteral part) : isDoubleDot part = false := by
  apply not_contains_of_isLiteral literal
  have other := literal.ne_dotDot
  simpa using other

/-- Literal segments lead straight down. -/
theorem follow_of_isLiteral (path : List Segment) (literal : ∀ part ∈ parts, IsLiteral part) :
    follow .web path parts = path ++ parts := by
  induction parts generalizing path with
  | nil => exact (List.append_nil path).symm
  | cons part parts induction_hypothesis =>
      rcases List.forall_mem_cons.mp literal with ⟨here, later⟩
      rw [follow, not_isDoubleDot here, not_isSingleDot here]
      simp only [Bool.false_eq_true, if_false]
      rw [induction_hypothesis _ later]
      simp [extend]

theorem ne_of_mem_glue {character special : Char} (literal : ∀ part ∈ parts, IsLiteral part)
    (marks : isPlain special = false) (other : special ≠ '/')
    (mem : character ∈ Text.glue '/' parts) : character ≠ special := by
  rcases Text.mem_glue mem with rfl | ⟨part, partMem, inPart⟩
  · exact other.symm
  · exact ne_of_isPlain ((literal part partMem).isPlain character inPart) marks

theorem segmentsOf_glue (proper : parts ≠ []) (literal : ∀ part ∈ parts, IsLiteral part) :
    segmentsOf .web (Text.glue '/' parts) = parts := by
  have slashed : ((Text.glue '/' parts).map fun character =>
      if isSeparator .web character then '/' else character) = Text.glue '/' parts := by
    refine (List.map_congr_left fun character mem => ?_).trans (List.map_id _)
    have straight : character ≠ '\\' := ne_of_mem_glue literal (by decide) (by decide) mem
    split
    · rename_i separates
      have slash : character = '/' := by simpa [isSeparator, straight] using separates
      exact slash.symm
    · rfl
  have whole : ∀ part ∈ parts, '/' ∉ part := fun part mem inPart =>
    ne_of_isPlain ((literal part mem).isPlain '/' inPart) (by decide) rfl
  simp only [segmentsOf, slashed, Text.pieces_glue proper whole]
  refine (List.map_congr_left fun part mem => ?_).trans (List.map_id _)
  exact percentEncode_of_isPlain (Or.inl rfl) (literal part mem).isPlain

theorem walk_glue (path : List Segment) (proper : parts ≠ [])
    (literal : ∀ part ∈ parts, IsLiteral part) :
    walk .web path (Text.glue '/' parts) = path ++ parts := by
  rw [walk, segmentsOf_glue proper literal, follow_of_isLiteral path literal]
  rfl

/-- A path and a query that are read as they are written. -/
structure IsPlainPath (parts : List Segment) (query : Option (List Char)) : Prop where
  proper : parts ≠ []
  literal : ∀ part ∈ parts, IsLiteral part
  plain : ∀ text ∈ query, ∀ character ∈ text, isPlain character = true

theorem cutPath_pathText (path : IsPlainPath parts query) :
    cutPath (pathText parts query) = (Text.glue '/' parts, queryText query) := by
  have within : ∀ character ∈ Text.glue '/' parts, (!isPathEnd character) = true := by
    intro character mem
    have query : character ≠ '?' := ne_of_mem_glue path.literal (by decide) (by decide) mem
    have fragment : character ≠ '#' := ne_of_mem_glue path.literal (by decide) (by decide) mem
    simp [isPathEnd, query, fragment]
  have stops : Text.Stops (fun character => !isPathEnd character) (queryText query) := by
    cases query with
    | none => exact Text.stops_nil _
    | some text => exact Text.stops_cons_iff.mpr rfl
  rw [cutPath, pathText, Text.takeWhile_append_of_stops within stops,
    Text.dropWhile_append_of_stops within stops]

theorem queryAndFragment_queryText (path : IsPlainPath parts query) :
    queryAndFragment .web (queryText query) = (query, none) := by
  cases query with
  | none => rfl
  | some text =>
      have plain := path.plain text rfl
      have within : ∀ character ∈ text, decide (character ≠ '#') = true := fun character mem =>
        decide_eq_true (ne_of_isPlain (plain character mem) (by decide))
      have stops := Text.stops_nil fun character : Char => decide (character ≠ '#')
      have front := Text.takeWhile_append_of_stops within stops
      have rest := Text.dropWhile_append_of_stops within stops
      rw [List.append_nil] at front rest
      change (some (percentEncode .specialQuery (text.takeWhile _)), _) = _
      rw [front, rest, percentEncode_of_isPlain (Or.inr rfl) plain]

variable {scheme : List Char}

theorem withPath_pathText (web : Kind.ofScheme scheme = .web) (authority : Option Authority)
    (above : List Segment) (path : IsPlainPath parts query) :
    withPath scheme authority above (pathText parts query) =
      ⟨scheme, authority, .segments (above ++ parts), query, none⟩ := by
  simp only [withPath, web, cutPath_pathText path, queryAndFragment_queryText path,
    walk_glue above path.proper path.literal]

theorem fromRoot_pathText (web : Kind.ofScheme scheme = .web) (authority : Option Authority)
    (path : IsPlainPath parts query) :
    fromRoot scheme authority ('/' :: pathText parts query) =
      ⟨scheme, authority, .segments parts, query, none⟩ := by
  rw [fromRoot, web]
  exact withPath_pathText web authority [] path

/-- Between the slashes and the question mark all characters of a plain path are plain. -/
theorem IsPlainPath.of_mem_pathText {character : Char} (path : IsPlainPath parts query)
    (mem : character ∈ pathText parts query) :
    character = '/' ∨ character = '?' ∨ isPlain character = true := by
  rcases List.mem_append.mp mem with inPath | inQuery
  · rcases Text.mem_glue inPath with slash | ⟨part, partMem, inPart⟩
    · exact Or.inl slash
    · exact Or.inr (Or.inr ((path.literal part partMem).isPlain character inPart))
  · cases query with
    | none => cases inQuery
    | some text =>
        exact Or.inr ((List.mem_cons.mp inQuery).imp_right (path.plain text rfl character))

theorem cons_pathText (proper : parts ≠ []) :
    '/' :: pathText parts query = parts.flatMap ('/' :: ·) ++ queryText query := by
  rw [← Text.cons_glue proper]
  rfl

end Paths

namespace Route

variable (route : Route)

theorem isPlainPath (above : List PlainSegment) :
    IsPlainPath (namesOf above ++ namesOf route.segments) route.query := by
  refine ⟨?_, ?_, ?_⟩
  · simp [namesOf, route.segments_ne_nil]
  · intro part mem
    rcases List.mem_append.mp mem with isAbove | isOwn
    · exact isLiteral_of_mem_namesOf isAbove
    · exact isLiteral_of_mem_namesOf isOwn
  · intro text given character mem
    exact isPlain_of_isQueryChar (route.isQueryChar_query text given character mem)

theorem exists_first : ∃ first rest, route.chars = first :: rest ∧ isPlain first = true := by
  rcases List.exists_cons_of_ne_nil route.segments_ne_nil with ⟨segment, others, shape⟩
  rcases List.exists_cons_of_ne_nil segment.name_ne_nil with ⟨first, later, name⟩
  have plain : isPlain first = true := segment.isLiteral.isPlain first (by simp [name])
  have start : ∃ rest, Text.glue '/' (namesOf route.segments) = first :: rest := by
    rw [shape, namesOf, List.map_cons, name]
    cases others with
    | nil => exact ⟨later, rfl⟩
    | cons next others => exact ⟨_, rfl⟩
  rcases start with ⟨rest, same⟩
  refine ⟨first, rest ++ queryText route.query, ?_, plain⟩
  rw [chars, pathText, same, List.cons_append]

end Route

end CdnPublish.Url
