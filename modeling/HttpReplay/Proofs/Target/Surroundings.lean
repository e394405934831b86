import HttpReplay.Proofs.Bytes.Pattern
import HttpReplay.Proofs.Target.Url
import HttpReplay.Target.Parse
import Mathlib

/-!
White space around the address of a server.

A web address is read without the spaces and controls around it, and without the line breaks in it.
White space is more than that, and what stands in front of an address without a scheme is not around
it any more once the scheme has been put in front. So an address that names a server need not do so
with white space around it. It does if the white space is left out anyway or gets to where nothing
is looked at: the user in front of an `@`, or the path (`Undisturbed`). Otherwise it gets into the
server or before the scheme, and the address is malformed (`parse_surrounded`).
-/

set_option autoImplicit false

namespace HttpReplay

open Unicode (IsLow)

/-! ## White space around a text -/

namespace Text

def leading (cs : List Char) : List Char := cs.takeWhile isBlank

def trailing (cs : List Char) : List Char := (cs.dropWhile isBlank).rtakeWhile isBlank

variable {α : Type} {p : α → Bool} {u v : List α} {c : Char} {cs : List Char}

theorem rdropWhile_append_of_all (h : ∀ x ∈ v, p x = true) :
    (u ++ v).rdropWhile p = u.rdropWhile p := by
  rw [List.rdropWhile, List.reverse_append,
    List.dropWhile_append_of_pos fun x hx => h x (List.mem_reverse.1 hx), List.rdropWhile]

theorem rdropWhile_append_of_not {x : α} (hx : x ∈ v) (h : ¬ p x = true) :
    (u ++ v).rdropWhile p = u ++ v.rdropWhile p := by
  have hne : (v.reverse.dropWhile p).isEmpty = false := by
    cases hdrop : v.reverse.dropWhile p with
    | nil => exact absurd (List.dropWhile_eq_nil_iff.1 hdrop x (List.mem_reverse.2 hx)) h
    | cons y rest => rfl
  rw [List.rdropWhile, List.reverse_append, List.dropWhile_append, hne, if_neg Bool.false_ne_true,
    List.reverse_append, List.reverse_reverse, List.rdropWhile]

theorem leading_append (cs : List Char) : leading cs ++ (trimChars cs ++ trailing cs) = cs := by
  have hinner : trimChars cs ++ trailing cs = cs.dropWhile isBlank :=
    List.rdropWhile_append_rtakeWhile
  rw [hinner, leading, List.takeWhile_append_dropWhile]

theorem isBlank_of_mem_leading (h : c ∈ leading cs) : isBlank c = true := List.mem_takeWhile_imp h

theorem isBlank_of_mem_trailing (h : c ∈ trailing cs) : isBlank c = true :=
  List.mem_rtakeWhile_imp h

end Text

/-! ## What is taken off a web address -/

namespace Url

def isAround (c : Char) : Bool := c.toNat ≤ 0x20

def isKept (c : Char) : Bool := c != '\t' && c != '\n' && c != '\r'

/-- What is left when the end of an address is taken off and line breaks are taken out. -/
def stripEnd (cs : List Char) : List Char := (cs.rdropWhile isAround).filter isKept

def isSlash (c : Char) : Bool := c == '/' || c == '\\'

variable {u v cs rest extra : List Char} {c : Char} {name address : String}

theorem isAround_iff : isAround c = true ↔ IsLow c := decide_eq_true_iff

theorem significant_eq (address : String) :
    significant address = stripEnd (address.toList.dropWhile isAround) := rfl

theorem IsSpacing.isSlash (hc : IsSpacing c) : isSlash c = false := by
  have hend := hc.isEnd
  rw [Url.isEnd, Bool.or_eq_false_iff, Bool.or_eq_false_iff] at hend
  exact hend.1.1

theorem isSlash_web (implied : Nat) (c : Char) :
    (SchemeClass.web implied).isSlash c = isSlash c := by
  have hweb : (SchemeClass.web implied != .other) = true := by simp
  rw [SchemeClass.isSlash, hweb, Bool.and_true, isSlash]

theorem exists_not_isLow (h : ¬ ∀ c ∈ v, IsLow c) : ∃ c ∈ v, ¬ IsLow c := by
  by_contra hnone
  exact h fun c hc => not_not.1 fun hlow => hnone ⟨c, hc, hlow⟩

theorem isKept_of_not_isLow (h : ¬ IsLow c) : isKept c = true := by
  have hne {d : Char} (hd : IsLow d) : (c != d) = true := bne_iff_ne.2 fun heq => h (heq ▸ hd)
  rw [isKept, hne (by decide), hne (by decide), hne (by decide)]
  rfl

theorem stripEnd_append (h : (∃ c ∈ v, ¬ IsLow c) ∨ u.rdropWhile isAround = u) :
    stripEnd (u ++ v) = u.filter isKept ++ stripEnd v := by
  by_cases hall : ∀ c ∈ v, IsLow c
  · have hu : u.rdropWhile isAround = u := by
      rcases h with ⟨c, hc, hlow⟩ | hu
      · exact absurd (hall c hc) hlow
      · exact hu
    have hv : v.rdropWhile isAround = [] :=
      List.rdropWhile_eq_nil_iff.2 fun c hc => isAround_iff.2 (hall c hc)
    rw [stripEnd, stripEnd, Text.rdropWhile_append_of_all fun c hc => isAround_iff.2 (hall c hc), hu,
      hv, List.filter_nil, List.append_nil]
  · obtain ⟨c, hc, hlow⟩ := exists_not_isLow hall
    rw [stripEnd, stripEnd, Text.rdropWhile_append_of_not hc (mt isAround_iff.1 hlow),
      List.filter_append]

/-- Whether `extra` is what is left of white space `v` at the end of an address. -/
structure Remains (v extra : List Char) : Prop where
  spacing : ∀ c ∈ extra, IsSpacing c
  none : (∀ c ∈ v, IsLow c) → extra = []
  some : ¬ (∀ c ∈ v, IsLow c) → ∃ c ∈ extra, Text.isBlank c = true

/-- White space at the end is taken off, or it stays and takes what stands before it with it. -/
theorem exists_stripEnd_append (u : List Char) (hv : ∀ c ∈ v, Text.isBlank c = true) :
    ∃ extra, stripEnd (u ++ v) = stripEnd u ++ extra ∧ Remains v extra := by
  by_cases hall : ∀ c ∈ v, IsLow c
  · refine ⟨[], ?_, fun c hc => absurd hc List.not_mem_nil, fun _ => rfl, fun h => absurd hall h⟩
    rw [stripEnd, stripEnd, Text.rdropWhile_append_of_all fun c hc => isAround_iff.2 (hall c hc),
      List.append_nil]
  · -- The first character that stays keeps what stands before it from being taken off, too.
    obtain ⟨c, hc, hlow⟩ := exists_not_isLow hall
    have hsplit := List.rdropWhile_append_rtakeWhile (p := isAround) (l := u)
    refine ⟨(u.rtakeWhile isAround ++ v.rdropWhile isAround).filter isKept, ?_, fun d hd => ?_,
      fun h => absurd h hall, fun _ => ⟨c, ?_, hv c hc⟩⟩
    · rw [stripEnd, stripEnd, Text.rdropWhile_append_of_not hc (mt isAround_iff.1 hlow),
        ← List.filter_append, ← List.append_assoc, hsplit]
    · rcases List.mem_append.1 (List.mem_of_mem_filter hd) with hd | hd
      · exact .inr (isAround_iff.1 (List.mem_rtakeWhile_imp hd))
      · exact .inl (hv d ((List.rdropWhile_prefix isAround v).subset hd))
    · have hmem : c ∈ v.rdropWhile isAround := by
        rw [← List.rdropWhile_append_rtakeWhile (p := isAround) (l := v), List.mem_append] at hc
        exact hc.resolve_right fun hc => hlow (isAround_iff.1 (List.mem_rtakeWhile_imp hc))
      exact List.mem_filter.2 ⟨List.mem_append_right _ hmem, isKept_of_not_isLow hlow⟩

/-! ## White space in the authority -/

theorem not_mem_of_isSpacing (h : ∀ c ∈ u, IsSpacing c) : '@' ∉ u :=
  fun hmem => (h '@' hmem).ne (by decide) (by decide) rfl

theorem authority_append (hu : ∀ c ∈ u, IsSpacing c) (v : List Char) :
    authority (u ++ v) = u ++ authority v :=
  List.takeWhile_append_of_pos fun c hc => by rw [(hu c hc).isEnd]; rfl

theorem authority_of_isSpacing (hu : ∀ c ∈ u, IsSpacing c) : authority u = u := by
  have hnil : authority [] = [] := rfl
  have hall := authority_append hu []
  rwa [hnil, List.append_nil] at hall

theorem authority_append_of_ne (h : authority cs ≠ cs) (extra : List Char) :
    authority (cs ++ extra) = authority cs := by
  have hshorter : (authority cs).length ≠ cs.length :=
    fun hlength => h ((List.takeWhile_prefix _).eq_of_length hlength)
  exact List.takeWhile_append.trans (if_neg hshorter)

theorem authority_append_of_eq (h : authority cs = cs) (extra : List Char) :
    authority (cs ++ extra) = cs ++ authority extra := by
  have hlength : (authority cs).length = cs.length := congrArg List.length h
  exact List.takeWhile_append.trans (if_pos hlength)

theorem afterUser_append_of_mem (h : '@' ∈ v) : afterUser (u ++ v) = afterUser v := by
  have hshorter : (v.reverse.takeWhile (· != '@')).length ≠ v.reverse.length := by
    intro hlength
    have hwhole := (List.takeWhile_prefix (· != '@')).eq_of_length hlength
    have hmem := List.mem_reverse.2 h
    rw [← hwhole] at hmem
    exact absurd (List.mem_takeWhile_imp hmem) (by decide)
  rw [afterUser, afterUser, List.reverse_append, List.takeWhile_append, if_neg hshorter]

theorem afterUser_append_of_not_mem (h : '@' ∉ extra) :
    afterUser (cs ++ extra) = afterUser cs ++ extra := by
  have hother : ∀ c ∈ extra.reverse, (c != '@') = true := by
    intro c hc
    rw [bne_iff_ne]
    rintro rfl
    exact h (List.mem_reverse.1 hc)
  rw [afterUser, afterUser, List.reverse_append, List.takeWhile_append_of_pos hother,
    List.reverse_append, List.reverse_reverse]

theorem ne_nil_of_readServer {implied : Nat} {read : Option Net.Host × Option Nat}
    (h : readServer implied (serverOf cs) = .ok read) : cs ≠ [] := by
  rintro rfl
  cases h

/-- Spacing in front of an `@` is a part of the user. -/
theorem serverOf_append_left (hu : ∀ c ∈ u, IsSpacing c) (h : '@' ∈ authority v) :
    serverOf (u ++ v) = serverOf v := by
  rw [serverOf, serverOf, authority_append hu, afterUser_append_of_mem h]

/-- Spacing that no `@` follows is a part of the server. -/
theorem serverOf_append_of_not_mem (hu : ∀ c ∈ u, IsSpacing c) (h : '@' ∉ authority v) :
    serverOf (u ++ v) = u ++ authority v := by
  have hnone : '@' ∉ u ++ authority v := by
    rw [List.mem_append, not_or]
    exact ⟨not_mem_of_isSpacing hu, h⟩
  rw [serverOf, authority_append hu, ← List.nil_append (u ++ authority v),
    afterUser_append_of_not_mem hnone]
  rfl

/-- What follows the end of the authority makes no difference to the server. -/
theorem serverOf_append_of_ne (h : authority cs ≠ cs) (extra : List Char) :
    serverOf (cs ++ extra) = serverOf cs := by
  rw [serverOf, serverOf, authority_append_of_ne h]

/-- Where no authority ends, spacing is a part of the server. -/
theorem serverOf_append_of_eq (h : authority cs = cs) (hextra : ∀ c ∈ extra, IsSpacing c) :
    serverOf (cs ++ extra) = serverOf cs ++ extra := by
  rw [serverOf, serverOf, authority_append_of_eq h, authority_of_isSpacing hextra, h,
    afterUser_append_of_not_mem (not_mem_of_isSpacing hextra)]

/-- No line break ends an authority. -/
theorem authority_filter (cs : List Char) :
    authority (cs.filter isKept) = (authority cs).filter isKept := by
  induction cs with
  | nil => rfl
  | cons c rest ih =>
    rw [authority] at ih
    rw [authority, authority, List.takeWhile_cons]
    cases hkept : isKept c with
    | true =>
      rw [List.filter_cons_of_pos hkept, List.takeWhile_cons]
      split
      next => rw [List.filter_cons_of_pos hkept, ih, authority]
      next => rfl
    | false =>
      have hspacing : IsSpacing c := by
        by_contra hother
        exact absurd (isKept_of_not_isLow fun hlow => hother (.inr hlow)) (by rw [hkept]; decide)
      rw [List.filter_cons_of_neg (by rw [hkept]; decide), ih, hspacing.isEnd]
      rw [Bool.not_false, if_pos rfl, List.filter_cons_of_neg (by rw [hkept]; decide), authority]

theorem mem_authority_append (hextra : ∀ c ∈ extra, IsSpacing c) :
    '@' ∈ authority (cs ++ extra) ↔ '@' ∈ authority cs := by
  by_cases hend : authority cs = cs
  · rw [authority_append_of_eq hend, authority_of_isSpacing hextra, List.mem_append, hend,
      or_iff_left (not_mem_of_isSpacing hextra)]
  · rw [authority_append_of_ne hend]

/-- What is taken off or taken out is no `@` and ends no authority. -/
theorem mem_authority_stripEnd : '@' ∈ authority (stripEnd cs) ↔ '@' ∈ authority cs := by
  have hkept : isKept '@' = true := by decide
  have hsplit := List.rdropWhile_append_rtakeWhile (p := isAround) (l := cs)
  have hlow : ∀ c ∈ cs.rtakeWhile isAround, IsSpacing c :=
    fun c hc => .inr (isAround_iff.1 (List.mem_rtakeWhile_imp hc))
  rw [stripEnd, authority_filter, List.mem_filter, and_iff_left hkept]
  generalize cs.rdropWhile isAround = front at hsplit ⊢
  rw [← hsplit, mem_authority_append hlow]

/-- An `@` in the authority is the first character or follows one that is no slash. -/
theorem dropWhile_isSlash_of_mem (h : '@' ∈ authority cs) : cs.dropWhile isSlash = cs := by
  cases cs with
  | nil => rfl
  | cons c rest =>
    apply List.dropWhile_cons_of_neg
    intro hslash
    have hend : isEnd c = true := by
      rw [isEnd, ← isSlash, hslash, Bool.true_or, Bool.true_or]
    rw [authority, List.takeWhile_cons, hend] at h
    cases h

/-! ## The scheme -/

theorem splitScheme?_append (h : splitScheme? cs = some (name, rest)) (extra : List Char) :
    splitScheme? (cs ++ extra) = some (name, rest ++ extra) := by
  rw [splitScheme?] at h ⊢
  have hprefix := List.takeWhile_prefix (· != ':') (l := cs)
  cases hdrop : cs.drop (cs.takeWhile (· != ':')).length with
  | nil =>
    rw [hdrop] at h
    cases h
  | cons colon tail =>
    have hshorter : (cs.takeWhile (· != ':')).length ≠ cs.length := by
      intro hlength
      rw [hlength, List.drop_length] at hdrop
      cases hdrop
    have hname : (cs ++ extra).takeWhile (· != ':') = cs.takeWhile (· != ':') := by
      rw [List.takeWhile_append, if_neg hshorter]
    rw [hname, List.drop_append_of_le_length hprefix.length_le, hdrop]
    rw [hdrop] at h
    dsimp only [List.cons_append] at h ⊢
    split at h
    next hok =>
      rw [if_pos hok]
      obtain ⟨rfl, rfl⟩ := Prod.mk.inj (Option.some.inj h)
      rfl
    next => cases h

/-- No scheme starts with a character beyond ASCII. -/
theorem splitScheme?_cons (hc : 0x80 ≤ c.toNat) (cs : List Char) :
    splitScheme? (c :: cs) = none := by
  have hcolon : (c != ':') = true := by
    rw [bne_iff_ne]
    rintro rfl
    exact absurd hc (by decide)
  have hletter : c.isAlpha = false := by
    rw [Bool.eq_false_iff]
    intro hletter
    simp only [Char.isAlpha, Char.isUpper, Char.isLower, Bool.or_eq_true, Bool.and_eq_true,
      decide_eq_true_eq] at hletter
    rcases hletter with ⟨-, hle⟩ | ⟨-, hle⟩
    · exact absurd (Nat.le_trans hc (UInt32.le_iff_toNat_le.1 hle)) (by decide)
    · exact absurd (Nat.le_trans hc (UInt32.le_iff_toNat_le.1 hle)) (by decide)
  rw [splitScheme?, List.takeWhile_cons, if_pos hcolon]
  split
  next => rw [List.head?_cons, Option.any_some, hletter]; rfl
  next => rfl

theorem bind_eq_ok {ε α β : Type} {x : Except ε α} {f : α → Except ε β} {b : β}
    (h : x >>= f = .ok b) : ∃ a, x = .ok a ∧ f a = .ok b := by
  cases x with
  | error e => cases h
  | ok a => exact ⟨a, rfl, h⟩

theorem drop_length_takeWhile {α : Type} (p : α → Bool) (l : List α) :
    l.drop (l.takeWhile p).length = l.dropWhile p := by
  have hsplit := List.takeWhile_append_dropWhile (p := p) (l := l)
  generalize l.takeWhile p = front at hsplit ⊢
  generalize l.dropWhile p = back at hsplit ⊢
  rw [← hsplit, List.drop_left]

/-- An address has the scheme that it is written with. -/
theorem scheme_of_parse {url : Url} (h : parse address = .ok url) :
    ∃ rest, splitScheme? (significant address) = some (url.scheme, rest) := by
  rw [parse] at h
  cases hsplit : splitScheme? (significant address) with
  | none =>
    rw [hsplit] at h
    cases h
  | some parts =>
    obtain ⟨name, rest⟩ := parts
    have hname : url.scheme = name := by
      rw [hsplit] at h
      dsimp only at h
      repeat' split at h
      all_goals
        obtain ⟨read, -, hread⟩ := bind_eq_ok h
        exact (congrArg Url.scheme (Except.ok.inj hread)).symm
    exact ⟨rest, by rw [hname]⟩

theorem parse_web {implied : Nat} (h : splitScheme? (significant address) = some (name, rest))
    (hclass : SchemeClass.ofName name = .web implied) :
    parse address = (readServer implied (serverOf (rest.dropWhile isSlash))).map
      fun (host, port) => ⟨name, host, port⟩ := by
  have hslash : rest.drop (rest.takeWhile (SchemeClass.web implied).isSlash).length =
      rest.dropWhile isSlash := by
    rw [drop_length_takeWhile, show (SchemeClass.web implied).isSlash = isSlash from
      funext (isSlash_web implied)]
  rw [parse, h]
  dsimp only
  rw [hclass]
  dsimp only
  rw [hslash, readAuthority_web]
  cases readServer implied (serverOf (rest.dropWhile isSlash)) with
  | error why => rfl
  | ok read => rfl

end Url

/-! ## The server that an address names -/

namespace Target

variable {address : String} {target : Target} {scheme : Scheme} {cs : List Char}

/-- An address with its scheme. -/
def withScheme (address : String) : String :=
  if hasScheme address then address else Scheme.http.name ++ "://" ++ address

/-- The scheme of an address to replay to, and what follows it and the slashes after it. -/
def onwards? (address : String) : Option (Scheme × List Char) :=
  (Url.splitScheme? (Url.significant (withScheme address))).bind fun (name, rest) =>
    (Scheme.ofName? name).map fun scheme => (scheme, rest.dropWhile Url.isSlash)

theorem ofName_of_ofName? {name : String} (h : Scheme.ofName? name = some scheme) :
    Url.SchemeClass.ofName name = .web scheme.defaultPort := by
  unfold Scheme.ofName? at h
  split at h
  all_goals cases h
  · rfl
  · rfl

theorem parse_eq_bind (h : onwards? address = some (scheme, cs)) :
    parse address = ((Url.readServer scheme.defaultPort (Url.serverOf cs)).mapError
      (.malformed (withScheme address))).bind fun (host, port) => match host with
        | some host => .ok (onHost scheme host.text port)
        | none => .error (.noHost (withScheme address)) := by
  obtain ⟨⟨name, rest⟩, hsplit, hscheme⟩ := Option.bind_eq_some_iff.1 h
  obtain ⟨known, hname, heq⟩ := Option.map_eq_some_iff.1 hscheme
  obtain ⟨rfl, rfl⟩ := Prod.mk.inj heq
  rw [parse, ← withScheme, Url.parse_web hsplit (ofName_of_ofName? hname)]
  cases Url.readServer known.defaultPort (Url.serverOf (rest.dropWhile Url.isSlash)) with
  | error why => rfl
  | ok read =>
    obtain ⟨host, port⟩ := read
    simp only [Except.map, Except.mapError, Except.bind, bind, hname]
    cases host with
    | none => rfl
    | some host => rfl

theorem parse_of_readServer (h : onwards? address = some (scheme, cs)) {host : Net.Host}
    {port : Option Nat}
    (hread : Url.readServer scheme.defaultPort (Url.serverOf cs) = .ok (some host, port)) :
    parse address = .ok (onHost scheme host.text port) := by
  rw [parse_eq_bind h, hread]
  rfl

theorem parse_of_readServer_error (h : onwards? address = some (scheme, cs)) {why : Url.Fault}
    (hread : Url.readServer scheme.defaultPort (Url.serverOf cs) = .error why) :
    parse address = .error (.malformed (withScheme address) why) := by
  rw [parse_eq_bind h, hread]
  rfl

theorem parse_of_splitScheme? (h : Url.splitScheme? (Url.significant (withScheme address)) = none) :
    parse address = .error (.malformed (withScheme address) .noScheme) := by
  rw [parse, ← withScheme, Url.parse, h]
  rfl

theorem exists_onwards? (h : parse address = .ok target) : ∃ scheme cs host port,
    onwards? address = some (scheme, cs) ∧
      Url.readServer scheme.defaultPort (Url.serverOf cs) = .ok (some host, port) ∧
      target = onHost scheme host.text port := by
  obtain ⟨scheme, cs, honwards⟩ : ∃ scheme cs, onwards? address = some (scheme, cs) := by
    rw [parse, ← withScheme] at h
    obtain ⟨url, hurl, h⟩ := Url.bind_eq_ok h
    cases hparse : Url.parse (withScheme address) with
    | error why =>
      rw [hparse] at hurl
      cases hurl
    | ok read =>
      rw [hparse] at hurl
      obtain rfl := Except.ok.inj hurl
      obtain ⟨rest, hsplit⟩ := Url.scheme_of_parse hparse
      cases hname : Scheme.ofName? read.scheme with
      | none =>
        rw [hname] at h
        cases h
      | some scheme =>
        refine ⟨scheme, rest.dropWhile Url.isSlash, ?_⟩
        rw [onwards?, hsplit, Option.bind_some]
        dsimp only
        rw [hname, Option.map_some]
  rw [parse_eq_bind honwards] at h
  cases hread : Url.readServer scheme.defaultPort (Url.serverOf cs) with
  | error why =>
    rw [hread] at h
    cases h
  | ok read =>
    obtain ⟨host, port⟩ := read
    rw [hread] at h
    cases host with
    | none => cases h
    | some host => exact ⟨scheme, cs, host, port, honwards, hread, (Except.ok.inj h).symm⟩

/-! ## White space around the address -/

/-- A visible character of ASCII is no part of white space. -/
theorem not_mem_flatMap_of_isBlank {b : UInt8} (hlow : 0x20 < b.toNat) (hhigh : b.toNat < 0x80)
    (h : ∀ c ∈ cs, Text.isBlank c = true) : b ∉ cs.flatMap String.utf8EncodeChar := by
  intro hmem
  obtain ⟨c, hc, hb⟩ := List.mem_flatMap.1 hmem
  have hclass := Text.toNat_of_isBlank (h c hc)
  have hbyte := Utf8.toNat_of_mem_utf8EncodeChar hb
  omega

theorem hasScheme_trim (address : String) : hasScheme (Text.trim address) = hasScheme address := by
  -- White space has neither the colon nor the slash, so it is left out from either end.
  have hpattern : Bytes.ofText "://" = [0x3A, 0x2F, 0x2F] := by decide +kernel
  have hcolon : (0x3A : UInt8) ∉ (Text.leading address.toList).flatMap String.utf8EncodeChar :=
    not_mem_flatMap_of_isBlank (by decide) (by decide) fun c => Text.isBlank_of_mem_leading
  have hslash : (0x2F : UInt8) ∉
      ((Text.trailing address.toList).flatMap String.utf8EncodeChar).reverse := by
    rw [List.mem_reverse]
    exact not_mem_flatMap_of_isBlank (by decide) (by decide) fun c => Text.isBlank_of_mem_trailing
  have hreverse : ([0x3A, 0x2F, 0x2F] : Bytes).reverse = [0x2F, 0x2F, 0x3A] := rfl
  rw [Bool.eq_iff_iff, hasScheme, hasScheme, hpattern, Bytes.hasPattern_iff (by decide),
    Bytes.hasPattern_iff (by decide), Bytes.ofText_eq, Bytes.ofText_eq, Text.trim,
    String.toList_ofList]
  nth_rewrite 2 [← Text.leading_append address.toList]
  rw [List.flatMap_append, List.flatMap_append, Bytes.infix_append_iff_of_not_mem hcolon,
    ← @List.reverse_infix _ _ (_ ++ _), List.reverse_append, hreverse,
    Bytes.infix_append_iff_of_not_mem hslash, ← hreverse, List.reverse_infix]

theorem onwards?_of_not_hasScheme (h : hasScheme address = false) :
    onwards? address = some (.http, (Url.stripEnd address.toList).dropWhile Url.isSlash) := by
  have htext : (withScheme address).toList =
      ['h', 't', 't', 'p', ':', '/', '/'] ++ address.toList := by
    rw [withScheme, h, if_neg Bool.false_ne_true, String.toList_append, String.toList_append]
    rfl
  have hscheme : Url.splitScheme? ['h', 't', 't', 'p', ':', '/', '/'] =
      some ("http", ['/', '/']) := by decide +kernel
  have hsignificant : Url.significant (withScheme address) =
      ['h', 't', 't', 'p', ':', '/', '/'] ++ Url.stripEnd address.toList := by
    rw [Url.significant_eq, htext]
    exact Url.stripEnd_append (u := ['h', 't', 't', 'p', ':', '/', '/']) (.inr (by decide))
  rw [onwards?, hsignificant, Url.splitScheme?_append hscheme, Option.bind_some]
  rfl

variable {extra : List Char} {read : Option Net.Host × Option Nat}

/-- Whether white space in front of an address makes no difference: in front of a scheme it is taken
off, and elsewhere it is line breaks or a part of the user. -/
def FitsBefore (address : String) : Prop :=
  if hasScheme address then ∀ c ∈ Text.leading address.toList, IsLow c
  else (∀ c ∈ Text.leading address.toList, Url.isKept c = false) ∨
    '@' ∈ Url.authority (Text.trimChars address.toList)

/-- Whether white space behind an address makes no difference: it is taken off, or it is a part of
what follows the authority. -/
def FitsBehind (address : String) : Prop :=
  (∀ c ∈ Text.trailing address.toList, IsLow c) ∨
    ∃ scheme cs, onwards? (Text.trim address) = some (scheme, cs) ∧ Url.authority cs ≠ cs

/-- Whether the white space around an address makes no difference. -/
def Undisturbed (address : String) : Prop := FitsBefore address ∧ FitsBehind address

theorem toList_trim (address : String) :
    (Text.trim address).toList = Text.trimChars address.toList := by
  rw [Text.trim, String.toList_ofList]

/-- Taken off in front of a scheme, white space makes no difference there. -/
theorem onwards?_of_isLow (hscheme : hasScheme address = true)
    (hlow : ∀ c ∈ Text.leading address.toList, IsLow c)
    (honwards : onwards? (Text.trim address) = some (scheme, cs)) (hne : cs ≠ []) :
    ∃ extra, Url.Remains (Text.trailing address.toList) extra ∧
      onwards? address = some (scheme, cs ++ extra) := by
  have htrim : hasScheme (Text.trim address) = true := (hasScheme_trim address).trans hscheme
  rw [onwards?, withScheme, if_pos htrim, Url.significant_eq, toList_trim] at honwards
  obtain ⟨⟨name, rest⟩, hsplit, hname⟩ := Option.bind_eq_some_iff.1 honwards
  have hinner : ((Text.trimChars address.toList).dropWhile Url.isAround).isEmpty = false := by
    cases hdrop : (Text.trimChars address.toList).dropWhile Url.isAround with
    | cons c more => rfl
    | nil =>
      rw [hdrop] at hsplit
      cases hsplit
  have haddress : address.toList.dropWhile Url.isAround =
      (Text.trimChars address.toList).dropWhile Url.isAround ++ Text.trailing address.toList := by
    nth_rewrite 1 [← Text.leading_append address.toList]
    rw [List.dropWhile_append_of_pos fun c hc => Url.isAround_iff.2 (hlow c hc),
      List.dropWhile_append, hinner, if_neg Bool.false_ne_true]
  obtain ⟨extra, hstrip, hremains⟩ := Url.exists_stripEnd_append
    ((Text.trimChars address.toList).dropWhile Url.isAround)
    fun c (hc : c ∈ Text.trailing address.toList) => Text.isBlank_of_mem_trailing hc
  refine ⟨extra, hremains, ?_⟩
  obtain ⟨known, hknown, heq⟩ := Option.map_eq_some_iff.1 hname
  obtain ⟨rfl, rfl⟩ := Prod.mk.inj heq
  rw [onwards?, withScheme, if_pos hscheme, Url.significant_eq, haddress, hstrip,
    Url.splitScheme?_append hsplit, Option.bind_some]
  dsimp only
  rw [hknown, Option.map_some, List.dropWhile_append, if_neg (by simpa using hne)]

/-- More than can be taken off is no scheme. -/
theorem splitScheme?_of_not_isLow (hscheme : hasScheme address = true)
    (hlow : ¬ ∀ c ∈ Text.leading address.toList, IsLow c) :
    Url.splitScheme? (Url.significant (withScheme address)) = none := by
  cases hdrop : (Text.leading address.toList).dropWhile Url.isAround with
  | nil =>
    rw [List.dropWhile_eq_nil_iff] at hdrop
    exact absurd (fun c hc => Url.isAround_iff.1 (hdrop c hc)) hlow
  | cons c more =>
    -- White space that cannot be taken off is not ASCII, and a scheme is.
    have hsplit := List.takeWhile_append_dropWhile (p := Url.isAround)
      (l := Text.leading address.toList)
    have hhead := List.head?_dropWhile_not Url.isAround (Text.leading address.toList)
    rw [hdrop] at hhead hsplit
    have haround : ¬ IsLow c := fun hlow => by
      have hfalse : Url.isAround c = false := hhead
      rw [Url.isAround_iff.2 hlow] at hfalse
      cases hfalse
    have hmem : c ∈ Text.leading address.toList := by
      rw [← hsplit]
      exact List.mem_append_right _ List.mem_cons_self
    have hwide : 0x80 ≤ c.toNat :=
      (Text.toNat_of_isBlank (Text.isBlank_of_mem_leading hmem)).resolve_left haround
    have haddress : address.toList.dropWhile Url.isAround =
        [c] ++ (more ++ (Text.trimChars address.toList ++ Text.trailing address.toList)) := by
      nth_rewrite 1 [← Text.leading_append address.toList]
      rw [List.dropWhile_append, hdrop]
      rfl
    have halone : [c].rdropWhile Url.isAround = [c] := by
      rw [List.rdropWhile_singleton, if_neg (mt Url.isAround_iff.1 haround)]
    rw [withScheme, if_pos hscheme, Url.significant_eq, haddress,
      Url.stripEnd_append (.inr halone), List.filter_cons_of_pos (Url.isKept_of_not_isLow haround)]
    exact Url.splitScheme?_cons hwide _

/-- Where a scheme is put in front, line breaks are all that is taken out in front. -/
theorem exists_stripEnd (hne : Url.stripEnd (Text.trimChars address.toList) ≠ []) :
    ∃ extra, Url.Remains (Text.trailing address.toList) extra ∧
      Url.stripEnd address.toList = (Text.leading address.toList).filter Url.isKept ++
        (Url.stripEnd (Text.trimChars address.toList) ++ extra) := by
  obtain ⟨extra, hstrip, hremains⟩ := Url.exists_stripEnd_append
    (Text.leading address.toList ++ Text.trimChars address.toList)
    fun c (hc : c ∈ Text.trailing address.toList) => Text.isBlank_of_mem_trailing hc
  have hvisible : ∃ c ∈ Text.trimChars address.toList, ¬ IsLow c := by
    apply Url.exists_not_isLow
    intro hall
    apply hne
    rw [Url.stripEnd, List.rdropWhile_eq_nil_iff.2 fun c hc => Url.isAround_iff.2 (hall c hc)]
    rfl
  refine ⟨extra, hremains, ?_⟩
  rw [← List.append_assoc, ← Url.stripEnd_append (.inl hvisible), ← hstrip, List.append_assoc,
    Text.leading_append]

/-- What becomes of an address that names a server without the white space around it: it names the
same server, or it is malformed, and the latter exactly where it is disturbed. -/
structure Surrounded (address : String) (target : Target) : Prop where
  same : Undisturbed address → parse address = .ok target
  malformed : ¬ Undisturbed address →
    ∃ why, parse address = .error (.malformed (withScheme address) why)

/-- What white space behind an address does, where that in front of it makes no difference. -/
theorem parse_of_fitsBefore {cs' : List Char} {host : Net.Host} {port : Option Nat}
    (hbefore : FitsBefore address)
    (honwards : onwards? (Text.trim address) = some (scheme, cs))
    (hread : Url.readServer scheme.defaultPort (Url.serverOf cs) = .ok (some host, port))
    (hremains : Url.Remains (Text.trailing address.toList) extra)
    (honwards' : onwards? address = some (scheme, cs'))
    (hserver : Url.serverOf cs' = Url.serverOf (cs ++ extra)) :
    Surrounded address (onHost scheme host.text port) := by
  constructor
  · rintro ⟨-, hlow | ⟨scheme', cs'', htrim, hend⟩⟩
    · apply parse_of_readServer honwards'
      rw [hserver, hremains.none hlow, List.append_nil, hread]
    · obtain ⟨-, rfl⟩ := Prod.mk.inj (Option.some.inj (htrim.symm.trans honwards))
      apply parse_of_readServer honwards'
      rw [hserver, Url.serverOf_append_of_ne hend, hread]
  · intro hdisturbed
    obtain ⟨hlow, hwhole⟩ := not_or.1 fun hbehind => hdisturbed ⟨hbefore, hbehind⟩
    have hwhole : Url.authority cs = cs := by
      by_contra hend
      exact hwhole ⟨scheme, cs, honwards, hend⟩
    obtain ⟨c, hmem, hc⟩ := hremains.some hlow
    obtain ⟨why, hwhy⟩ := Url.readServer_append (fun c => Url.isEnd_of_mem_serverOf) hread
      hremains.spacing hc hmem
    refine ⟨why, parse_of_readServer_error honwards' ?_⟩
    rw [hserver, Url.serverOf_append_of_eq hwhole hremains.spacing, hwhy]

/-- White space that is neither taken off nor a part of the user is a part of the server. -/
theorem parse_of_blank_cons {c : Char} (hc : Text.isBlank c = true)
    (hcs : ∀ d ∈ cs, Url.IsSpacing d) {more : List Char} (hat : '@' ∉ Url.authority more)
    (honwards : onwards? address = some (scheme, c :: cs ++ more)) :
    ∃ why, parse address = .error (.malformed (withScheme address) why) := by
  have hspacing : ∀ d ∈ c :: cs, Url.IsSpacing d := List.forall_mem_cons.2 ⟨.inl hc, hcs⟩
  obtain ⟨why, hwhy⟩ := Url.readServer_cons scheme.defaultPort hc
    (cs ++ Url.authority more)
  refine ⟨why, parse_of_readServer_error honwards ?_⟩
  rw [Url.serverOf_append_of_not_mem hspacing hat, List.cons_append, hwhy]

variable {host : Net.Host} {port : Option Nat}

/-- In front of a scheme, white space is taken off, or there is no scheme any more. -/
theorem surrounded_of_hasScheme (hscheme : hasScheme address = true)
    (honwards : onwards? (Text.trim address) = some (scheme, cs))
    (hread : Url.readServer scheme.defaultPort (Url.serverOf cs) = .ok (some host, port)) :
    Surrounded address (onHost scheme host.text port) := by
  have hbefore : FitsBefore address ↔ ∀ c ∈ Text.leading address.toList, IsLow c := by
    rw [FitsBefore, if_pos hscheme]
  by_cases hlow : ∀ c ∈ Text.leading address.toList, IsLow c
  · obtain ⟨extra, hremains, hsame⟩ :=
      onwards?_of_isLow hscheme hlow honwards (Url.ne_nil_of_readServer hread)
    exact parse_of_fitsBefore (hbefore.2 hlow) honwards hread hremains hsame rfl
  · exact ⟨fun hundisturbed => absurd (hbefore.1 hundisturbed.1) hlow,
      fun _ => ⟨_, parse_of_splitScheme? (splitScheme?_of_not_isLow hscheme hlow)⟩⟩

/-- Where a scheme is put in front, white space gets to the user or to the server. -/
theorem surrounded_of_not_hasScheme (hscheme : hasScheme address = false)
    (honwards : onwards? (Text.trim address) = some (scheme, cs))
    (hread : Url.readServer scheme.defaultPort (Url.serverOf cs) = .ok (some host, port)) :
    Surrounded address (onHost scheme host.text port) := by
  have hne : cs ≠ [] := Url.ne_nil_of_readServer hread
  have hcs := onwards?_of_not_hasScheme ((hasScheme_trim address).trans hscheme)
  have hsame := onwards?_of_not_hasScheme hscheme
  rw [toList_trim, honwards] at hcs
  obtain ⟨rfl, rfl⟩ := Prod.mk.inj (Option.some.inj hcs)
  have hstrip : Url.stripEnd (Text.trimChars address.toList) ≠ [] := by
    intro hnil
    rw [hnil] at hne
    exact hne rfl
  obtain ⟨extra, hremains, haddress⟩ := exists_stripEnd hstrip
  rw [haddress] at hsame
  have hbefore : FitsBefore address ↔ (Text.leading address.toList).filter Url.isKept = [] ∨
      '@' ∈ Url.authority (Url.stripEnd (Text.trimChars address.toList)) := by
    rw [FitsBefore, if_neg (by rw [hscheme]; decide), List.filter_eq_nil_iff,
      Url.mem_authority_stripEnd]
    simp only [Bool.not_eq_true]
  have hblank : ∀ c ∈ (Text.leading address.toList).filter Url.isKept, Text.isBlank c = true :=
    fun c hc => Text.isBlank_of_mem_leading (List.mem_of_mem_filter hc)
  generalize Url.stripEnd (Text.trimChars address.toList) = trimmed at *
  cases hpre : (Text.leading address.toList).filter Url.isKept with
  | nil =>
    rw [hpre, List.nil_append, List.dropWhile_append, if_neg (by simpa using hne)] at hsame
    exact parse_of_fitsBefore (hbefore.2 (.inl hpre)) honwards hread hremains hsame rfl
  | cons c pre =>
    rw [hpre, List.forall_mem_cons] at hblank
    have hspacing : ∀ d ∈ c :: pre, Url.IsSpacing d :=
      List.forall_mem_cons.2 ⟨.inl hblank.1, fun d hd => .inl (hblank.2 d hd)⟩
    have hslash : Url.isSlash c = false := (hspacing c List.mem_cons_self).isSlash
    rw [hpre, List.cons_append, List.dropWhile_cons_of_neg (by rw [hslash]; decide)] at hsame
    by_cases hat : '@' ∈ Url.authority trimmed
    · -- A user keeps the slashes from being skipped, with the white space and without it.
      rw [Url.dropWhile_isSlash_of_mem hat] at honwards hread
      refine parse_of_fitsBefore (hbefore.2 (.inr hat)) honwards hread hremains hsame ?_
      rw [← List.cons_append]
      exact Url.serverOf_append_left hspacing ((Url.mem_authority_append hremains.spacing).2 hat)
    · refine ⟨fun hundisturbed => ?_, fun _ => ?_⟩
      · rcases hbefore.1 hundisturbed.1 with hnil | hmem
        · rw [hpre] at hnil
          cases hnil
        · exact absurd hmem hat
      · exact parse_of_blank_cons hblank.1 (fun d hd => .inl (hblank.2 d hd))
          (mt (Url.mem_authority_append hremains.spacing).1 hat) hsame

/-- **White space around the address of a server** makes no difference or makes it malformed. -/
theorem parse_surrounded (h : parse (Text.trim address) = .ok target) :
    Surrounded address target := by
  obtain ⟨scheme, cs, host, port, honwards, hread, rfl⟩ := exists_onwards? h
  cases hscheme : hasScheme address with
  | true => exact surrounded_of_hasScheme hscheme honwards hread
  | false => exact surrounded_of_not_hasScheme hscheme honwards hread

end Target
end HttpReplay
