import CdnPublish.Proofs.Url.Form
import CdnPublish.Proofs.Url.Plain

/-!
# Plain sites

A plain site is a protocol of the web, a host whose labels are made of small letters and digits, and
perhaps a port that the protocol does not imply. Its host is a domain name that is already in its
final form, so reading such a site gives back what is written.
-/

namespace CdnPublish.Url

/-- The protocols of the web. -/
inductive Protocol where
  | http
  | https
  deriving DecidableEq, Repr

/-- The scheme that stands for a protocol. -/
def Protocol.scheme : Protocol → List Char
  | .http => "http".toList
  | .https => "https".toList

/-- The port that a protocol implies. -/
def Protocol.port : Protocol → Nat
  | .http => 80
  | .https => 443

/-- Whether a character may stand in a plain label. -/
def isHostChar (character : Char) : Bool :=
  character.isLower || character.isDigit

/-- A label of a host: a small letter, and then small letters and digits. -/
structure PlainLabel where
  first : Char
  rest : List Char
  isLower_first : first.isLower = true
  isHostChar_rest : ∀ character ∈ rest, isHostChar character = true
  /-- No label looks like an encoded one. -/
  unmarked : ¬['x', 'n'] <+: first :: rest

/-- The label as it is written. -/
def PlainLabel.name (label : PlainLabel) : List Char :=
  label.first :: label.rest

/-- A protocol, a host, and perhaps a port. -/
structure Site where
  protocol : Protocol
  labels : List PlainLabel
  labels_ne_nil : labels ≠ []
  port : Option Nat
  port_range : ∀ number ∈ port, 1 ≤ number ∧ number ≤ 65535
  port_ne : ∀ number ∈ port, number ≠ protocol.port

namespace Site

/-- The host as it is written. -/
def host (site : Site) : List Char :=
  Text.glue '.' (site.labels.map PlainLabel.name)

/-- The port as it is written behind the host. -/
def portText (site : Site) : List Char :=
  site.port.elim [] fun number => ':' :: Nat.toDigits 10 number

/-- What stands behind the slashes of a site. -/
def address (site : Site) : List Char :=
  site.host ++ site.portText

/-- The site as it is written. -/
def chars (site : Site) : List Char :=
  site.protocol.scheme ++ ':' :: '/' :: '/' :: site.address

/-- What an address says about the site. -/
def authority (site : Site) : Authority :=
  ⟨[], [], .domain site.host, site.port⟩

end Site

section Hosts

variable {character : Char}

theorem range_of_isHostChar (plain : isHostChar character = true) :
    (48 ≤ character.toNat ∧ character.toNat ≤ 57) ∨
      (97 ≤ character.toNat ∧ character.toNat ≤ 122) := by
  simp only [isHostChar, Char.isLower, Char.isDigit, Bool.or_eq_true, Bool.and_eq_true,
    decide_eq_true_eq, ge_iff_le, UInt32.le_iff_toNat_le] at plain
  exact plain.symm

theorem isPlain_of_isHostChar (plain : isHostChar character = true) :
    isPlain character = true := by
  apply isPlain_of_isAlphanum
  rw [Text.isAlphanum_iff_toNat]
  have range := range_of_isHostChar plain
  omega

theorem PlainLabel.isHostChar_name (label : PlainLabel) :
    ∀ character ∈ label.name, isHostChar character = true := by
  intro character mem
  rcases List.mem_cons.mp mem with rfl | later
  · rw [isHostChar, label.isLower_first]
    rfl
  · exact label.isHostChar_rest character later

theorem toLower_of_isHostChar (plain : isHostChar character = true) :
    character.toLower = character := by
  have range := range_of_isHostChar plain
  have small : ¬('A'.val ≤ character.val ∧ character.val ≤ 'Z'.val) := by
    rw [UInt32.le_iff_toNat_le, UInt32.le_iff_toNat_le]
    change ¬(65 ≤ character.toNat ∧ character.toNat ≤ 90)
    omega
  exact dif_neg small

/-- The characters of a plain host are already in their final form. -/
theorem mapped_of_isHostChar (plain : isHostChar character = true) :
    Domain.mapped character = [character] := by
  have range := range_of_isHostChar plain
  have visible : Domain.isInvisible character = false := by
    apply Bool.eq_false_of_not_eq_true
    intro invisible
    simp only [Domain.isInvisible, Bool.or_eq_true, decide_eq_true_eq] at invisible
    rcases invisible with ((rfl | rfl) | rfl) | rfl <;> simp at range
  have undotted : Domain.isDot character = false := by
    apply Bool.eq_false_of_not_eq_true
    intro dot
    simp only [Domain.isDot, Bool.or_eq_true, decide_eq_true_eq] at dot
    rcases dot with ((rfl | rfl) | rfl) | rfl <;> simp at range
  have isAscii : character.toNat < 0x80 := by omega
  rw [Domain.mapped, visible, undotted, if_pos isAscii, toLower_of_isHostChar plain]
  rfl

theorem not_isForbidden_of_isHostChar (plain : isHostChar character = true) :
    Domain.isForbidden character = false := by
  have range := range_of_isHostChar plain
  have listed : "%#/:<>?@[\\]^|".toList.contains character = false := by
    apply Bool.eq_false_of_not_eq_true
    intro mem
    have marks : ∀ special ∈ "%#/:<>?@[\\]^|".toList, isPlain special = false := by
      simp [isPlain]
    exact ne_of_isPlain (isPlain_of_isHostChar plain)
      (marks character (List.contains_iff_mem.mp mem)) rfl
  simp only [Domain.isForbidden, listed, Bool.or_false, Bool.or_eq_false_iff,
    decide_eq_false_iff_not]
  omega

theorem percentDecode_of_isPlain {text : List Char}
    (plain : ∀ character ∈ text, isPlain character = true) :
    percentDecode text = Text.encode text := by
  induction text with
  | nil => rw [percentDecode_nil, Text.encode_nil]
  | cons character rest induction_hypothesis =>
      rcases List.forall_mem_cons.mp plain with ⟨here, later⟩
      rw [percentDecode_cons_of_ne (ne_of_isPlain here rfl), induction_hypothesis later,
        ← Text.encode_cons]

theorem label?_name (label : PlainLabel) : Domain.label? label.name = some label.name := by
  have isAscii : Domain.isAscii label.name = true := by
    apply List.all_eq_true.mpr
    intro character mem
    have range := range_of_isHostChar (label.isHostChar_name character mem)
    apply decide_eq_true
    omega
  have unmarked : Domain.mark.isPrefixOf label.name = false := by
    apply Bool.eq_false_of_not_eq_true
    intro marked
    have start : ['x', 'n'] <+: Domain.mark := ⟨['-', '-'], rfl⟩
    exact label.unmarked (start.trans (List.isPrefixOf_iff_prefix.mp marked))
  rw [Domain.label?, if_pos isAscii, unmarked]
  rfl

end Hosts

section Numbers

variable {label : PlainLabel} {character : Char} {value : Nat}

theorem not_isDigit_of_isLower (letter : character.isLower = true) :
    character.isDigit = false := by
  apply Bool.eq_false_of_not_eq_true
  intro digit
  have early := Text.toNat_of_isDigit digit
  have late := Text.toNat_of_isLower letter
  omega

/-- A small letter is no decimal digit. -/
theorem ten_le_of_hexDigitValue? (letter : character.isLower = true)
    (digit : hexDigitValue? character = some value) : 10 ≤ value := by
  have range := Text.toNat_of_isLower letter
  have late : ∀ other : Char, other.toNat < 97 → ¬character ≤ other := by
    intro other early
    rw [Char.le_def, UInt32.le_iff_toNat_le]
    change ¬character.toNat ≤ other.toNat
    omega
  simp only [hexDigitValue?, Bool.and_eq_true, decide_eq_true_eq] at digit
  rw [if_neg fun both => late '9' (by decide) both.2] at digit
  split at digit
  · cases digit
    omega
  · rw [if_neg fun both => late 'F' (by decide) both.2] at digit
    cases digit

theorem numberIn?_name (label : PlainLabel) : numberIn? 10 label.name = none := by
  unfold numberIn? PlainLabel.name
  rw [List.mapM_cons]
  cases first : hexDigitValue? label.first with
  | none => rfl
  | some value =>
      cases label.rest.mapM hexDigitValue? with
      | none => rfl
      | some digits =>
          have large := ten_le_of_hexDigitValue? label.isLower_first first
          change (if (value :: digits).all (· < 10) = true then _ else none) = none
          rw [if_neg]
          simp
          omega

theorem part?_name (label : PlainLabel) : Ipv4.part? label.name = none := by
  have letter := label.isLower_first
  have other : label.first ≠ '0' := by
    intro zero
    rw [zero] at letter
    cases letter
  have number := numberIn?_name label
  unfold PlainLabel.name at number ⊢
  have decimal : ∀ rest, label.first :: label.rest ≠ '0' :: rest :=
    fun rest same => other (List.cons.inj same).1
  rw [Ipv4.part?, number]
  · exact List.cons_ne_nil _ _
  · exact fun digits => decimal _
  · exact fun digits => decimal _
  · exact fun digit digits => decimal _

end Numbers

namespace Site

variable (site : Site)

/-- The labels as texts. -/
def names : List (List Char) :=
  site.labels.map PlainLabel.name

theorem names_ne_nil : site.names ≠ [] := by
  simpa [names] using site.labels_ne_nil

theorem host_eq_glue : site.host = Text.glue '.' site.names :=
  rfl

variable {site} in
theorem exists_label {name : List Char} (mem : name ∈ site.names) :
    ∃ label : PlainLabel, label.name = name := by
  rcases List.mem_map.mp mem with ⟨label, -, same⟩
  exact ⟨label, same⟩

variable {site} in
theorem dot_or_isHostChar {character : Char} (mem : character ∈ site.host) :
    character = '.' ∨ isHostChar character = true := by
  rcases Text.mem_glue mem with dot | ⟨name, nameMem, inName⟩
  · exact Or.inl dot
  · rcases exists_label nameMem with ⟨label, rfl⟩
    exact Or.inr (label.isHostChar_name character inName)

variable {site} in
theorem isPlain_of_mem_host {character : Char} (mem : character ∈ site.host) :
    isPlain character = true := by
  rcases dot_or_isHostChar mem with rfl | plain
  · rfl
  · exact isPlain_of_isHostChar plain

theorem pieces_host : Text.pieces '.' site.host = site.names := by
  apply Text.pieces_glue site.names_ne_nil
  intro name mem dot
  rcases exists_label mem with ⟨label, rfl⟩
  have plain := label.isHostChar_name '.' dot
  cases plain

theorem host_ne_nil : site.host ≠ [] := by
  intro empty
  have pieces := site.pieces_host
  rw [empty] at pieces
  have mem : [] ∈ site.names := by
    rw [← pieces]
    exact .head _
  rcases exists_label mem with ⟨label, same⟩
  cases same

theorem mapM_label?_names : site.names.mapM Domain.label? = some site.names := by
  unfold names
  induction site.labels with
  | nil => rfl
  | cons label labels induction_hypothesis =>
      rw [List.map_cons, List.mapM_cons, label?_name, induction_hypothesis]
      rfl

/-- A plain host is its own final form. -/
theorem toAscii?_host : Domain.toAscii? (percentDecode site.host) = some site.host := by
  have isAscii : ∀ character ∈ site.host, character.toNat < 0x80 := by
    intro character mem
    have range := range_of_isPlain (isPlain_of_mem_host mem)
    omega
  have mapped : site.host.flatMap Domain.mapped = site.host := by
    apply flatMap_eq_self
    intro character mem
    rcases dot_or_isHostChar mem with rfl | plain
    · rfl
    · exact mapped_of_isHostChar plain
  have allowed : site.host.any Domain.isForbidden = false := by
    apply List.any_eq_false.mpr
    intro character mem
    rcases dot_or_isHostChar mem with rfl | plain
    · decide
    · simp [not_isForbidden_of_isHostChar plain]
  rw [percentDecode_of_isPlain fun _ mem => isPlain_of_mem_host mem]
  unfold Domain.toAscii?
  simp only [Text.decode?_encode isAscii, mapped, pieces_host, mapM_label?_names,
    Option.bind_eq_bind, Option.bind_some]
  rw [← host_eq_glue, allowed]
  rfl

/-- The host is no number: only its last label is looked at, and like every label it starts with a
letter. -/
theorem not_isMeant : Ipv4.isMeant site.host = false := by
  have last := List.getLast_mem site.names_ne_nil
  rcases exists_label last with ⟨label, same⟩
  have known : site.names.getLast? = some label.name := by
    rw [List.getLast?_eq_some_getLast site.names_ne_nil, same]
  have labels : Ipv4.labels site.host = site.names := by
    simp [Ipv4.labels, pieces_host, known, PlainLabel.name]
  have digits : label.name.all Char.isDigit = false := by
    simp [PlainLabel.name, not_isDigit_of_isLower label.isLower_first]
  unfold Ipv4.isMeant
  simp only [labels, known, digits, part?_name]
  simp

theorem parse_host : Host.parse site.host = .ok (.domain site.host) := by
  have unbracketed : site.host.head? ≠ some '[' := by
    intro bracket
    have plain := isPlain_of_mem_host (List.mem_of_mem_head? bracket)
    cases plain
  unfold Host.parse
  rw [if_neg unbracketed, toAscii?_host]
  cases shape : site.host with
  | nil => exact absurd shape site.host_ne_nil
  | cons first rest =>
      change (if Ipv4.isMeant (first :: rest) = true then _ else _) = _
      rw [← shape, not_isMeant]
      rfl

end Site

section Ports

variable {digits : List Char} {character : Char}

theorem hexDigitValue?_of_isDigit (digit : character.isDigit = true) :
    hexDigitValue? character = some (character.toNat - 48) := by
  have range : '0' ≤ character ∧ character ≤ '9' := by
    simpa [Char.isDigit, Char.le_def] using digit
  simp [hexDigitValue?, range]

theorem ofDigits_of_isDigit (decimal : ∀ character ∈ digits, character.isDigit = true) :
    ofDigits 10 (digits.filterMap hexDigitValue?) = Nat.ofDigitChars 10 digits 0 := by
  have values : digits.filterMap hexDigitValue? =
      digits.map fun character => character.toNat - 48 := by
    rw [← List.filterMap_eq_map]
    exact List.filterMap_congr fun character mem =>
      hexDigitValue?_of_isDigit (decimal character mem)
  rw [values, ofDigits, List.foldl_map]
  exact Text.foldl_digits digits

theorem isDigit_of_mem_decimal {number : Nat} :
    ∀ character ∈ Nat.toDigits 10 number, character.isDigit = true :=
  fun _ mem => Nat.isDigit_of_mem_toDigits (by decide) (by decide) mem

theorem ofDigits_decimal (number : Nat) :
    ofDigits 10 ((Nat.toDigits 10 number).filterMap hexDigitValue?) = number := by
  rw [ofDigits_of_isDigit isDigit_of_mem_decimal]
  exact Nat.ofDigitChars_toDigits (by decide) (by decide)

end Ports

namespace Site

variable (site : Site)

theorem kind_scheme (protocol : Protocol) : Kind.ofScheme protocol.scheme = .web := by
  cases protocol <;> decide

theorem defaultPort?_scheme (protocol : Protocol) :
    defaultPort? protocol.scheme = some protocol.port := by
  cases protocol <;> rfl

theorem portOf_portText : portOf site.protocol.scheme site.portText = .ok (site.port, []) := by
  cases given : site.port with
  | none =>
      rw [portText, given]
      rfl
  | some number =>
      have range := site.port_range number given
      have other : some number ≠ defaultPort? site.protocol.scheme := by
        rw [defaultPort?_scheme]
        simpa using site.port_ne number given
      have stops := Text.stops_nil Char.isDigit
      have decimal := @isDigit_of_mem_decimal number
      have front := Text.takeWhile_append_of_stops decimal stops
      have rest := Text.dropWhile_append_of_stops decimal stops
      rw [List.append_nil] at front rest
      rw [portText, given, Option.elim_some, portOf]
      simp only [front, rest, ofDigits_decimal]
      rw [if_neg (by omega), if_neg]
      simp [Nat.toDigits_ne_nil, other]

theorem address_ne_nil : site.address ≠ [] := by
  simp [address, site.host_ne_nil]

variable {site} in
theorem colon_or_isPlain {character : Char} (mem : character ∈ site.address) :
    character = ':' ∨ isPlain character = true := by
  rcases List.mem_append.mp mem with inHost | inPort
  · exact Or.inr (isPlain_of_mem_host inHost)
  · cases given : site.port with
    | none =>
        rw [portText, given] at inPort
        cases inPort
    | some number =>
        rw [portText, given] at inPort
        refine (List.mem_cons.mp inPort).imp_right fun inDigits => ?_
        have digit := isDigit_of_mem_decimal character inDigits
        exact isPlain_of_isAlphanum (by simp [Char.isAlphanum, digit])

variable {site} in
theorem ne_of_mem_address {character special : Char} (mem : character ∈ site.address)
    (marks : isPlain special = false) (other : special ≠ ':') : character ≠ special := by
  rcases colon_or_isPlain mem with rfl | plain
  · exact other.symm
  · exact ne_of_isPlain plain marks

theorem cutHost_append {host rest : List Char}
    (plain : ∀ character ∈ host, isPlain character = true)
    (ends : rest = [] ∨ ∃ port, rest = ':' :: port) :
    cutHost false (host ++ rest) = (host, rest) := by
  induction host with
  | nil =>
      rcases ends with rfl | ⟨port, rfl⟩
      · rfl
      · rfl
  | cons character host induction_hypothesis =>
      rcases List.forall_mem_cons.mp plain with ⟨here, later⟩
      have colon : character ≠ ':' := ne_of_isPlain here rfl
      have bracket : character ≠ '[' := ne_of_isPlain here rfl
      simp [cutHost, colon, bracket, induction_hypothesis later]

theorem cutHost_address : cutHost false site.address = (site.host, site.portText) := by
  apply cutHost_append fun _ mem => isPlain_of_mem_host mem
  unfold portText
  cases site.port with
  | none => exact Or.inl rfl
  | some number => exact Or.inr ⟨_, rfl⟩

/-- A plain site is read as it is written. -/
theorem afterSlashes_address (rest : List Char) :
    afterSlashes site.protocol.scheme (site.address ++ '/' :: rest) =
      .ok (fromRoot site.protocol.scheme (some site.authority) ('/' :: rest)) := by
  have within : ∀ character ∈ site.address, (!isAuthorityEnd .web character) = true := by
    intro character mem
    have slash : character ≠ '/' := ne_of_mem_address mem rfl (by decide)
    have backslash : character ≠ '\\' := ne_of_mem_address mem rfl (by decide)
    have query : character ≠ '?' := ne_of_mem_address mem rfl (by decide)
    have fragment : character ≠ '#' := ne_of_mem_address mem rfl (by decide)
    simp [isAuthorityEnd, isSeparator, isPathEnd, slash, backslash, query, fragment]
  have stops : Text.Stops (fun character => !isAuthorityEnd .web character) ('/' :: rest) :=
    Text.stops_cons_iff.mpr rfl
  have front := Text.takeWhile_append_of_stops within stops
  have after := Text.dropWhile_append_of_stops within stops
  have anonymous : site.address.contains '@' = false := by
    apply Bool.eq_false_of_not_eq_true
    intro mem
    exact ne_of_mem_address (List.contains_iff_mem.mp mem) rfl (by decide) rfl
  have host : hostOf .web site.host site.portText = .ok (.domain site.host) := by
    change (if site.host = [] then _ else _) = _
    rw [if_neg site.host_ne_nil, parse_host]
  unfold afterSlashes
  simp only [kind_scheme, front, after, cutCredentials?, anonymous, Bool.false_and,
    Bool.false_eq_true, if_false, Option.getD_none, cutHost_address, host, portOf_portText]
  rfl

end Site

end CdnPublish.Url
