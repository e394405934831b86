import HttpReplay.Proofs.Net.Host
import HttpReplay.Target.Url
import Mathlib

/-!
What of a web address says whom to connect to.

The server is what stands after the last `@` of the authority, and the authority ends before the
first slash, backslash, question mark or number sign; nothing else is looked at
(`readAuthority_web`). White space in the server is an error wherever it is (`readServer_cons`,
`readServer_append`), and so is white space before the scheme that is not taken off with the
controls and spaces around an address (`splitScheme?_cons`).
-/

set_option autoImplicit false

namespace HttpReplay.Url

open Unicode (IsLow)

/-! ## The server of a web address -/

/-- The characters that end the authority of a web address. -/
def isEnd (c : Char) : Bool := c == '/' || c == '\\' || c == '?' || c == '#'

/-- What names user and server in the part of a web address that follows scheme and slashes. -/
def authority (cs : List Char) : List Char := cs.takeWhile (!isEnd ·)

/-- What follows the last `@`, or all if there is none. -/
def afterUser (cs : List Char) : List Char := (cs.reverse.takeWhile (· != '@')).reverse

/-- What names the server in the part of a web address that follows scheme and slashes. -/
def serverOf (cs : List Char) : List Char := afterUser (authority cs)

/-- The port that is named after a host, if one is. -/
def portAfter? (rest : List Char) : Except Fault (Option Nat) :=
  if rest.head? = some ':' then port? rest.tail else .ok none

/-- What the text of a host and what follows it mean, if `implied` is the port that the scheme
implies. -/
def readParts (implied : Nat) (text rest : List Char) :
    Except Fault (Option Net.Host × Option Nat) :=
  if text.isEmpty then .error (.host .empty)
  else ((Net.Host.parse (String.ofList text)).mapError .host).bind fun host =>
    (portAfter? rest).map fun port => (some host, port.filter (some · != some implied))

/-- The host and the port that the text of a server names. -/
def readServer (implied : Nat) (cs : List Char) : Except Fault (Option Net.Host × Option Nat) :=
  let text := hostText (.web implied) false cs
  readParts implied text (cs.drop text.length)

variable {implied : Nat} {bracketed : Bool} {c : Char} {cs server rest extra : List Char}

theorem endsAuthority_web (implied : Nat) (c : Char) :
    (SchemeClass.web implied).endsAuthority c = isEnd c := by
  have hweb : (SchemeClass.web implied != .other) = true := by simp
  rw [SchemeClass.endsAuthority, SchemeClass.isSlash, hweb, Bool.and_true, isEnd]

/-- Whether the text after a character is in brackets. -/
def inBrackets (bracketed : Bool) (c : Char) : Bool := c == '[' || (bracketed && c != ']')

theorem hostText_cons : hostText (.web implied) bracketed (c :: cs) =
    if isEnd c || (c == ':' && !bracketed) then []
    else c :: hostText (.web implied) (inBrackets bracketed c) cs := by
  rw [hostText, endsAuthority_web, inBrackets]

/-- A host that goes on to the end of its text goes on in what follows it. -/
theorem hostText_append_of_eq (h : hostText (.web implied) bracketed server = server) :
    hostText (.web implied) bracketed (server ++ rest) =
      server ++ hostText (.web implied) (server.foldl inBrackets bracketed) rest := by
  induction server generalizing bracketed with
  | nil => rfl
  | cons c server ih =>
    rw [hostText_cons] at h
    rw [List.cons_append, hostText_cons]
    split at h
    next => cases h
    next hstop => rw [if_neg hstop, ih (List.cons.inj h).2, List.foldl_cons, List.cons_append]

/-- A host that ends earlier ends there whatever follows. -/
theorem hostText_append_of_ne (h : hostText (.web implied) bracketed server ≠ server) :
    hostText (.web implied) bracketed (server ++ rest) =
      hostText (.web implied) bracketed server := by
  induction server generalizing bracketed with
  | nil => exact absurd rfl h
  | cons c server ih =>
    rw [hostText_cons] at h
    rw [List.cons_append, hostText_cons, hostText_cons]
    split at h
    next hstop => rw [if_pos hstop, if_pos hstop]
    next hstop =>
      have hne : hostText (.web implied) (inBrackets bracketed c) server ≠ server :=
        fun heq => h (congrArg (c :: ·) heq)
      rw [if_neg hstop, if_neg hstop, ih hne]

/-- Where no authority ends, only a colon ends a host. -/
theorem hostText_spec (implied : Nat) (bracketed : Bool) (h : ∀ c ∈ cs, isEnd c = false) :
    ∃ rest, cs = hostText (.web implied) bracketed cs ++ rest ∧
      (rest = [] ∨ ∃ digits, rest = ':' :: digits) := by
  induction cs generalizing bracketed with
  | nil => exact ⟨[], rfl, .inl rfl⟩
  | cons c cs ih =>
    rw [hostText_cons]
    split
    next hstop =>
      rw [h c List.mem_cons_self, Bool.false_or, Bool.and_eq_true, beq_iff_eq] at hstop
      exact ⟨c :: cs, rfl, .inr ⟨cs, by rw [hstop.1]⟩⟩
    next =>
      obtain ⟨rest, hrest, hcolon⟩ := ih _ fun d hd => h d (List.mem_cons_of_mem c hd)
      exact ⟨rest, by rw [List.cons_append, ← hrest], hcolon⟩

/-- What follows an authority is nothing or starts with the character that ends it. -/
theorem exists_authority (cs : List Char) : ∃ rest, cs = authority cs ++ rest ∧
    (∀ c ∈ authority cs, isEnd c = false) ∧ ∀ c ∈ rest.head?, isEnd c = true := by
  refine ⟨cs.dropWhile (!isEnd ·), List.takeWhile_append_dropWhile.symm, fun c hc => ?_,
    fun c hc => ?_⟩
  · simpa using List.mem_takeWhile_imp hc
  · have hhead := List.head?_dropWhile_not (!isEnd ·) cs
    rw [Option.mem_def.1 hc] at hhead
    simpa using hhead

theorem port?_append (hend : ∀ c ∈ rest.head?, isEnd c = true) : port? (cs ++ rest) = port? cs := by
  have hdigits : (cs ++ rest).takeWhile Char.isDigit = cs.takeWhile Char.isDigit := by
    have hnone : rest.takeWhile Char.isDigit = [] := by
      cases rest with
      | nil => rfl
      | cons c rest =>
        have hother : c.isDigit = false := by
          have hc := hend c rfl
          simp only [isEnd, Bool.or_eq_true, beq_iff_eq] at hc
          rcases hc with ((rfl | rfl) | rfl) | rfl <;> rfl
        rw [List.takeWhile_cons, hother]
        rfl
    rw [List.takeWhile_append, hnone, List.append_nil]
    split
    next hall => exact (List.takeWhile_prefix _).eq_of_length hall |>.symm
    next => rfl
  have hended : ((cs ++ rest).drop (cs.takeWhile Char.isDigit).length).head?.all
        (fun c => ['/', '\\', '?', '#'].contains c) =
      (cs.drop (cs.takeWhile Char.isDigit).length).head?.all
        (fun c => ['/', '\\', '?', '#'].contains c) := by
    rw [List.drop_append_of_le_length (List.takeWhile_prefix _).length_le]
    cases cs.drop (cs.takeWhile Char.isDigit).length with
    | cons c left => rfl
    | nil =>
      cases rest with
      | nil => rfl
      | cons c rest =>
        have hc := hend c rfl
        simp only [isEnd, Bool.or_eq_true, beq_iff_eq] at hc
        rcases hc with ((rfl | rfl) | rfl) | rfl <;> rfl
  rw [port?, port?, hdigits, hended]

theorem portAfter?_of_ne (h : rest.head? ≠ some ':') : portAfter? rest = .ok none := if_neg h

/-- What ends the authority makes no difference to the server. -/
theorem readServer_append_end (h : ∀ c ∈ server, isEnd c = false)
    (hend : ∀ c ∈ rest.head?, isEnd c = true) :
    readServer implied (server ++ rest) = readServer implied server := by
  have hcolon : rest.head? ≠ some ':' := fun hhead => absurd (hend ':' hhead) (by decide)
  obtain ⟨tail, htail, hport⟩ := hostText_spec implied false h
  rw [readServer, readServer]
  by_cases hwhole : hostText (.web implied) false server = server
  · have hrest (b : Bool) : hostText (.web implied) b rest = [] := by
      cases rest with
      | nil => rfl
      | cons c rest => rw [hostText_cons, hend c rfl, Bool.true_or, if_pos rfl]
    rw [hostText_append_of_eq hwhole, hrest, List.append_nil, hwhole, List.drop_left,
      List.drop_length, readParts, readParts, portAfter?_of_ne hcolon]
    rfl
  · rw [hostText_append_of_ne hwhole]
    generalize hostText (.web implied) false server = text at htail hwhole ⊢
    subst htail
    rcases hport with rfl | ⟨digits, rfl⟩
    · exact absurd (List.append_nil text).symm hwhole
    · have hsame : portAfter? (':' :: digits ++ rest) = portAfter? (':' :: digits) :=
        port?_append hend
      rw [List.append_assoc, List.drop_left, List.drop_left, readParts, readParts, hsame]

/-- What precedes the last `@` is nothing or ends in it. -/
theorem exists_afterUser (cs : List Char) :
    '@' ∉ cs ∧ afterUser cs = cs ∨ ∃ said, cs = said ++ '@' :: afterUser cs := by
  have hsplit := List.takeWhile_append_dropWhile (p := (· != '@')) (l := cs.reverse)
  have hhead := List.head?_dropWhile_not (· != '@') cs.reverse
  cases hfront : cs.reverse.dropWhile (· != '@') with
  | nil =>
    rw [hfront, List.append_nil] at hsplit
    refine .inl ⟨fun hmem => ?_, by rw [afterUser, hsplit, List.reverse_reverse]⟩
    rw [← List.mem_reverse, ← hsplit] at hmem
    exact absurd (List.mem_takeWhile_imp hmem) (by decide)
  | cons at_ front =>
    rw [hfront] at hsplit hhead
    obtain rfl : at_ = '@' := by simpa using hhead
    refine .inr ⟨front.reverse, ?_⟩
    rw [afterUser]
    generalize cs.reverse.takeWhile (· != '@') = server at hsplit ⊢
    rw [← List.reverse_reverse cs, ← hsplit]
    simp

theorem read_rest (implied : Nat) (hcs : cs = authority cs ++ rest) :
    (User.read (.web implied) cs).rest = afterUser (authority cs) ++ rest := by
  have hauthority : cs.takeWhile (!(SchemeClass.web implied).endsAuthority ·) = authority cs := by
    simp only [endsAuthority_web, authority]
  rw [User.read, hauthority]
  generalize authority cs = named at hcs ⊢
  rcases exists_afterUser named with ⟨hnone, heq⟩ | ⟨said, hsaid⟩
  · rw [if_neg (by simpa using hnone), heq, hcs]
  · -- The user is counted off from the end: all but the server and the `@` in front of it.
    have hmem : named.contains '@' = true := by
      rw [List.contains_iff_mem, hsaid]
      exact List.mem_append_right said List.mem_cons_self
    have hlength : named.length - (named.reverse.takeWhile (· != '@')).length - 1 = said.length := by
      have hserver : (afterUser named).length = (named.reverse.takeWhile (· != '@')).length :=
        List.length_reverse
      have hall := congrArg List.length hsaid
      rw [List.length_append, List.length_cons] at hall
      omega
    have htake : named.take said.length = said := by
      rw [hsaid, List.take_left]
    rw [if_pos hmem]
    dsimp only
    rw [hlength, htake, hcs]
    nth_rewrite 1 [hsaid]
    rw [List.append_assoc, List.cons_append, ← List.drop_drop, List.drop_left]
    rfl

theorem readAuthority_eq (implied : Nat) (cs : List Char) : readAuthority (.web implied) cs =
    readServer implied (User.read (.web implied) cs).rest := by
  rw [readAuthority]
  generalize User.read (.web implied) cs = user
  obtain ⟨said, rest⟩ := user
  rw [readServer, readParts, portAfter?]
  dsimp only
  -- What is asked of an address without a host is all answered alike where the scheme is a web one.
  by_cases hempty : hostText (.web implied) false rest = []
  · simp only [hempty]
    split
    · rfl
    · simp
      rfl
  · have htext : (hostText (.web implied) false rest).isEmpty = false := by
      cases h : hostText (.web implied) false rest with
      | nil => exact absurd h hempty
      | cons c text => rfl
    have hfirst : rest.head?.any (SchemeClass.web implied).endsAuthority = false := by
      cases rest with
      | nil => rfl
      | cons c rest =>
        rw [hostText_cons] at hempty
        rw [List.head?_cons, Option.any_some, endsAuthority_web]
        cases hc : isEnd c with
        | false => rfl
        | true => simp [hc] at hempty
    have hweb : (SchemeClass.web implied == .other) = false := by simp
    simp only [htext, hfirst, hweb, Bool.and_false, Bool.false_and, Bool.false_eq_true, if_false]
    cases Net.Host.parse (String.ofList (hostText (.web implied) false rest)) with
    | error why => rfl
    | ok host =>
      split
      next => cases port? (rest.drop (hostText (.web implied) false rest).length).tail <;> rfl
      next => rfl

theorem isEnd_of_mem_serverOf (hc : c ∈ serverOf cs) : isEnd c = false := by
  obtain ⟨-, -, hnone, -⟩ := exists_authority cs
  apply hnone
  rw [serverOf] at hc
  rcases exists_afterUser (authority cs) with ⟨-, heq⟩ | ⟨said, hsaid⟩
  · rwa [heq] at hc
  · rw [hsaid]
    exact List.mem_append_right said (List.mem_cons_of_mem _ hc)

/-- **Only the server is looked at.** -/
theorem readAuthority_web (implied : Nat) (cs : List Char) :
    readAuthority (.web implied) cs = readServer implied (serverOf cs) := by
  obtain ⟨rest, hcs, -, hend⟩ := exists_authority cs
  rw [readAuthority_eq, read_rest implied hcs, ← serverOf,
    readServer_append_end (fun c => isEnd_of_mem_serverOf) hend]

/-! ## White space in a web address -/

/-- White space, and what is taken off an address with it. -/
def IsSpacing (c : Char) : Prop := Text.isBlank c = true ∨ IsLow c

/-- None of it can be seen in ASCII. -/
theorem IsSpacing.ne {d : Char} (hc : IsSpacing c) (hlow : 0x20 < d.toNat) (hhigh : d.toNat < 0x80) :
    c ≠ d := by
  rintro rfl
  rcases hc with hc | hc
  · have hclass := Text.toNat_of_isBlank hc
    omega
  · exact Nat.not_lt.2 hc hlow

theorem IsSpacing.isEnd (hc : IsSpacing c) : isEnd c = false := by
  have hne {d : Char} (hlow : 0x20 < d.toNat) (hhigh : d.toNat < 0x80) : (c == d) = false :=
    beq_eq_false_iff_ne.2 (hc.ne hlow hhigh)
  rw [Url.isEnd, hne (by decide) (by decide), hne (by decide) (by decide),
    hne (by decide) (by decide), hne (by decide) (by decide)]
  rfl

theorem IsSpacing.isDigit (hc : IsSpacing c) : c.isDigit = false := by
  cases hdigit : c.isDigit with
  | false => rfl
  | true =>
    simp only [Char.isDigit, Bool.and_eq_true, decide_eq_true_eq] at hdigit
    have hlow : 48 ≤ c.toNat := hdigit.1
    have hhigh : c.toNat ≤ 57 := hdigit.2
    exact absurd rfl (hc.ne (d := c) (by omega) (by omega))

theorem hostText_of_isSpacing (h : ∀ c ∈ extra, IsSpacing c) :
    hostText (.web implied) bracketed extra = extra := by
  induction extra generalizing bracketed with
  | nil => rfl
  | cons c extra ih =>
    have hc := h c List.mem_cons_self
    have hcolon : (c == ':') = false := beq_eq_false_iff_ne.2 (hc.ne (by decide) (by decide))
    rw [hostText_cons, hc.isEnd, hcolon, ih fun d hd => h d (List.mem_cons_of_mem c hd)]
    rfl

/-- What the text of a host says if no host is spelled so. -/
theorem readParts_of_parse_error {text : List Char} {why : Net.HostError} (hne : text ≠ [])
    (h : Net.Host.parse (String.ofList text) = .error why) :
    readParts implied text rest = .error (.host why) := by
  rw [readParts, if_neg (by simpa using hne), h]
  rfl

/-- **White space in front of a server is an error.** -/
theorem readServer_cons (implied : Nat) (hc : Text.isBlank c = true) (cs : List Char) :
    ∃ why, readServer implied (c :: cs) = .error why := by
  have hspacing : IsSpacing c := .inl hc
  have hcolon : (c == ':') = false := beq_eq_false_iff_ne.2 (hspacing.ne (by decide) (by decide))
  have hbracket : c ≠ '[' := hspacing.ne (by decide) (by decide)
  rw [readServer, hostText_cons, hspacing.isEnd, hcolon, Bool.false_or, Bool.false_and]
  generalize hostText (.web implied) (inBrackets false c) cs = text
  obtain ⟨why, hwhy⟩ := Net.Host.parse_of_isBlank hc (String.ofList (c :: text))
    (by rw [String.toList_ofList]; exact List.mem_cons_self)
    (by
      rw [String.toList_ofList]
      exact fun hhead => absurd (Option.some.inj hhead) hbracket)
  exact ⟨_, readParts_of_parse_error (List.cons_ne_nil c text) hwhy⟩

/-- A port that nothing ends is all digits. -/
theorem takeWhile_of_port? {digits : List Char} {n : Option Nat}
    (h : ∀ c ∈ digits, isEnd c = false) (hok : port? digits = .ok n) :
    digits.takeWhile Char.isDigit = digits := by
  have hended : (digits.drop (digits.takeWhile Char.isDigit).length).head?.all
      (fun c => ['/', '\\', '?', '#'].contains c) = true := by
    rw [port?] at hok
    split at hok
    next =>
      split at hok
      next hended => exact hended
      next => cases hok
    next =>
      split at hok
      next hended => exact (Bool.and_eq_true_iff.1 hended).2
      next => cases hok
  have hsplit := List.takeWhile_append_dropWhile (p := Char.isDigit) (l := digits)
  cases hrest : digits.dropWhile Char.isDigit with
  | nil => rwa [hrest, List.append_nil] at hsplit
  | cons c rest =>
    have hc : c ∈ digits := by
      rw [← hsplit, hrest]
      exact List.mem_append_right _ List.mem_cons_self
    rw [hrest] at hsplit
    generalize digits.takeWhile Char.isDigit = front at hsplit hended
    rw [← hsplit, List.drop_left, List.head?_cons, Option.all_some] at hended
    have hother := h c hc
    rw [isEnd] at hother
    simp only [List.contains_cons, List.contains_nil, Bool.or_false] at hended
    simp only [Bool.or_eq_false_iff] at hother
    simp [hother] at hended

theorem port?_append_of_isSpacing {digits : List Char}
    (hdigits : digits.takeWhile Char.isDigit = digits) (hc : IsSpacing c) (cs : List Char) :
    port? (digits ++ c :: cs) = .error .port := by
  have hread : (digits ++ c :: cs).takeWhile Char.isDigit = digits := by
    rw [List.takeWhile_append, hdigits, if_pos rfl, List.takeWhile_cons, hc.isDigit]
    exact List.append_nil digits
  have hended : (['/', '\\', '?', '#'].contains c) = false := by
    have hend := hc.isEnd
    simp only [isEnd, Bool.or_eq_false_iff, beq_eq_false_iff_ne] at hend
    simp [hend]
  rw [port?, hread, List.drop_left, List.head?_cons, Option.all_some, hended]
  cases Numeral.digits? 10 digits with
  | none => rfl
  | some n =>
    dsimp only
    rw [Bool.and_false]
    rfl

/-- No port goes on behind spacing. -/
theorem portAfter?_append {digits : List Char} {n : Option Nat}
    (h : ∀ c ∈ digits, isEnd c = false) (hok : portAfter? (':' :: digits) = .ok n)
    (hc : IsSpacing c) (cs : List Char) : portAfter? (':' :: digits ++ c :: cs) = .error .port :=
  port?_append_of_isSpacing (takeWhile_of_port? h hok) hc cs

/-- A server that is read has a host, and a port unless nothing stands there. -/
theorem exists_of_readParts {text : List Char} {read : Option Net.Host × Option Nat}
    (h : readParts implied text rest = .ok read) : text ≠ [] ∧
      (∃ host, Net.Host.parse (String.ofList text) = .ok host) ∧ ∃ n, portAfter? rest = .ok n := by
  rw [readParts] at h
  split at h
  next => cases h
  next hne =>
    refine ⟨by simpa using hne, ?_⟩
    cases hhost : Net.Host.parse (String.ofList text) with
    | error why =>
      rw [hhost] at h
      cases h
    | ok host =>
      refine ⟨⟨host, rfl⟩, ?_⟩
      cases hport : portAfter? rest with
      | error why =>
        rw [hhost, hport] at h
        cases h
      | ok n => exact ⟨n, rfl⟩

/-- What the port says if it is none. -/
theorem readParts_of_portAfter?_error {text : List Char} {host : Net.Host} {why : Fault}
    (hne : text ≠ []) (hhost : Net.Host.parse (String.ofList text) = .ok host)
    (hport : portAfter? rest = .error why) : readParts implied text rest = .error why := by
  rw [readParts, if_neg (by simpa using hne), hhost, hport]
  rfl

/-- **White space after a server is an error.** -/
theorem readServer_append {read : Option Net.Host × Option Nat}
    (h : ∀ c ∈ server, isEnd c = false) (hok : readServer implied server = .ok read)
    (hextra : ∀ c ∈ extra, IsSpacing c) (hc : Text.isBlank c = true) (hmem : c ∈ extra) :
    ∃ why, readServer implied (server ++ extra) = .error why := by
  obtain ⟨first, more, rfl⟩ := List.exists_cons_of_ne_nil (List.ne_nil_of_mem hmem)
  obtain ⟨tail, htail, hport⟩ := hostText_spec implied false h
  rw [readServer] at hok ⊢
  by_cases hwhole : hostText (.web implied) false server = server
  · -- The host goes on, and has white space in it.
    rw [hostText_append_of_eq hwhole, hostText_of_isSpacing hextra]
    obtain ⟨why, hwhy⟩ := Net.Host.parse_of_isBlank hc
      (String.ofList (server ++ first :: more))
      (by rw [String.toList_ofList]; exact List.mem_append_right server hmem)
      (by
        rw [String.toList_ofList]
        intro _ hlast
        rw [List.getLast?_append_of_ne_nil _ (List.cons_ne_nil _ _)] at hlast
        exact (hextra _ (List.mem_of_getLast? hlast)).ne (by decide) (by decide) rfl)
    exact ⟨_, readParts_of_parse_error (by simp) hwhy⟩
  · -- The host has ended at a colon, and the port goes on.
    rw [hostText_append_of_ne hwhole]
    generalize hostText (.web implied) false server = text at htail hwhole hok ⊢
    subst htail
    rcases hport with rfl | ⟨digits, rfl⟩
    · exact absurd (List.append_nil text).symm hwhole
    · rw [List.append_assoc, List.drop_left]
      rw [List.drop_left] at hok
      obtain ⟨hne, ⟨host, hhost⟩, n, hn⟩ := exists_of_readParts hok
      have hdigits : ∀ d ∈ digits, isEnd d = false := fun d hd =>
        h d (List.mem_append_right text (List.mem_cons_of_mem _ hd))
      exact ⟨_, readParts_of_portAfter?_error hne hhost
        (portAfter?_append hdigits hn (hextra first List.mem_cons_self) more)⟩

end HttpReplay.Url
