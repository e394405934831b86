import HttpReplay.Proofs.Client.Redirects
import HttpReplay.Proofs.Http.Lookup
import HttpReplay.Proofs.Http.Origin

/-!
What a redirect may put on the wire.

The bytes of a Location come from the other side and are copied into a first line as they are, spaces and
carriage returns among them. Two things keep them there. A value holds no line feed, since the one that
ends its line ends it too (`Http.lf_not_mem_of_header`), and the request that is made of it has no other
line, so the host is put right below. What is sent is then a line, the host and nothing more
(`hostOnly`), whatever the line says. If the Location is made of visible bytes the line is one that the
grammar allows.
-/

set_option autoImplicit false

namespace HttpReplay.Client

open Bytes (lf cr crlf colon space slash)
open Http (hostField isTargetEnd)

variable {settings : Settings} {redirects : Nat}
  {response next location line authority target : Bytes}

/-! ## A line, a host, and nothing more -/

/-- The bytes of a request that has a certain first line and no field but the host. -/
def hostOnly (line authority : Bytes) : Bytes :=
  line ++ (crlf ++ (hostField ++ colon :: space :: (authority ++ Http.blankLine)))

theorem isLineEnd_cr : Http.IsLineEnd [cr] := .inr rfl

theorem locateInBlock?_crlf (name : Bytes) : Http.locateInBlock? name crlf = none :=
  Http.locateInBlock?_lineEnd isLineEnd_cr name []

/-- Setting the host of a first line without fields. -/
theorem setHeader_bare (hline : lf ∉ line) (authority : Bytes) :
    Http.setHeader hostField authority (line ++ Http.blankLine) = hostOnly line authority := by
  have hparts : line ++ Http.blankLine = (line ++ [cr]) ++ lf :: crlf := by
    simp [Http.blankLine, crlf]
  rw [hparts, Http.setHeader_line (isLineEnd_cr.lf_not_mem_append hline), Http.setInBlock,
    locateInBlock?_crlf]
  simp [hostOnly, Http.blankLine, crlf]

/-- The host is a field on a line of its own. -/
theorem hostOnly_eq (hvalue : Http.IsValue authority) (line : Bytes) :
    hostOnly line authority = (line ++ [cr]) ++ lf ::
      ((Http.newField hostField authority Http.hostField_spec.2.2.1 hvalue).toBytes ++ [cr] ++
        lf :: crlf) := by
  simp [hostOnly, Http.newField, Http.FieldText.toBytes, crlf, Http.blankLine]

section HostOnly

variable (hline : lf ∉ line) (hvalue : Http.IsValue authority)

include hline hvalue

/-- There are three lines, the empty one among them. -/
theorem count_hostOnly : (hostOnly line authority).count lf = 3 := by
  have hparts : line.count lf = 0 ∧ authority.count lf = 0 :=
    ⟨List.count_eq_zero.2 hline, List.count_eq_zero.2 hvalue.no_lf⟩
  have hfixed : crlf.count lf = 1 ∧ hostField.count lf = 0 ∧ Http.blankLine.count lf = 2 := by
    decide +kernel
  have hother : (colon == lf) = false ∧ (space == lf) = false := by decide
  simp [hostOnly, List.count_append, List.count_cons, hparts, hfixed, hother]

/-- **Whoever looks a field up finds the host and no other field.** -/
theorem header_hostOnly (name : Bytes) :
    Http.header name (hostOnly line authority) =
      if Bytes.sameLetters hostField name = true then some authority else none := by
  obtain ⟨-, -, hcolon, hlf⟩ := Http.hostField_spec
  have hempty : Http.valueInBlock? name crlf = none := by
    rw [Http.valueInBlock?, locateInBlock?_crlf]
    rfl
  rw [hostOnly_eq hvalue, Http.header_line (isLineEnd_cr.lf_not_mem_append hline),
    Http.valueInBlock?_field _ (Http.isEnding_newField hcolon hvalue)
      (Http.lf_not_mem_newField hcolon hlf hvalue), hempty]
  rfl

/-- Nothing follows the head. -/
theorem afterHead?_hostOnly : Http.afterHead? (hostOnly line authority) = some [] := by
  obtain ⟨-, -, hcolon, hlf⟩ := Http.hostField_spec
  have hempty : lf ∉ [cr] := by decide
  rw [hostOnly_eq hvalue, Http.afterHead?_line (isLineEnd_cr.lf_not_mem_append hline),
    Http.afterBlock?_field _ (Http.isEnding_newField hcolon hvalue)
      (Http.lf_not_mem_newField hcolon hlf hvalue)]
  exact Http.afterBlock?_line hempty []

end HostOnly

/-- With a first line that the grammar allows, it is a head of the grammar and nothing else. -/
theorem requestHead_hostOnly {line : Http.RequestLine} (hline : line.WellFormed)
    (hne : authority ≠ []) (hvisible : Http.IsVisible authority) :
    Http.requestHead (hostOnly line.toBytes authority) =
      .found ⟨line, [⟨hostField, authority⟩]⟩ [] := by
  obtain ⟨hname, htoken, hcolon, -⟩ := Http.hostField_spec
  have hvalue := hvisible.isValue hne
  have hfield : (Http.newField hostField authority hcolon hvalue).WellFormed := by
    refine ⟨hname, htoken, ?_⟩
    have hspace : Http.isValueByte space = true := by decide
    simpa [Http.newField, hspace] using hvisible.forall_isValueByte
  have hempty : Http.Written [] [] crlf := .done isLineEnd_cr
  have hwritten := Http.Written.line _ hfield isLineEnd_cr hempty
  have hfields := Http.fields_eq_found_iff.2 ⟨hwritten, (by decide : 1 ≤ Http.maxFields)⟩
  rw [hostOnly_eq hvalue, List.append_assoc, Http.requestHead_line hline isLineEnd_cr, List.append_assoc]
  exact congrArg (Http.Scan.map fun fs => (⟨line, fs⟩ : Http.Head Http.RequestLine)) hfields

/-! ## The line that a Location is copied into -/

/-- The first line of the request for a visible Location, before its target is reduced. -/
def getLine (location : Bytes) : Http.RequestLine := ⟨Bytes.ofText "GET", location, 1⟩

theorem getRequest_eq (location : Bytes) :
    getRequest location = (getLine location).toBytes ++ Http.blankLine := by
  have hstart : Bytes.ofText "GET " = Bytes.ofText "GET" ++ [space] := by decide +kernel
  have hend : Bytes.ofText " HTTP/1.1\r\n\r\n" =
      space :: (Http.versionStart ++ Http.versionDigit 1 :: Http.blankLine) := by decide +kernel
  simp [getRequest, getLine, Http.RequestLine.toBytes, hstart, hend]

theorem get_spec : Bytes.ofText "GET" ≠ [] ∧ ∀ b ∈ Bytes.ofText "GET", Http.isToken b = true := by
  decide +kernel

theorem wellFormed_getLine (hne : location ≠ []) (hvisible : Http.IsVisible location) :
    (getLine location).WellFormed where
  method_ne_nil := get_spec.1
  method_token := get_spec.2
  target_ne_nil := hne
  target_byte b hb := by
    obtain ⟨hlow, hhigh⟩ := hvisible b hb
    have hdelete : b ≠ 0x7F := fun heq => absurd hhigh (by rw [heq]; decide)
    simpa [Http.isTargetByte, hdelete] using hlow
  target_text := Utf8.isSome_decode?_of_ascii fun b hb =>
    UInt8.lt_of_le_of_lt (hvisible b hb).2 (by decide)
  minor_le := Nat.le_refl 1

/-- The reduction of a target adds no byte but a slash. -/
theorem mem_originForm {b : UInt8} (hb : b ∈ Http.originForm target) : b = slash ∨ b ∈ target := by
  by_cases habsolute : Http.IsAbsolute target
  · obtain ⟨path, horigin, hpath⟩ := Http.exists_originForm habsolute
    rw [horigin, List.mem_cons] at hb
    obtain rfl | ⟨start, rfl⟩ := hpath
    · exact .inl (by simpa using hb)
    · exact hb.imp_right fun hb => List.mem_append_right start (List.mem_cons_of_mem slash hb)
  · rw [Http.originForm_of_not_isAbsolute habsolute] at hb
    exact .inr hb

/-- **What is sent for a Location is one line and the host.** -/
theorem exists_setHost_getRequest (hlf : lf ∉ location) (authority : Bytes) :
    ∃ line, lf ∉ line ∧ Bytes.ofText "GET " <+: line ∧ Bytes.ofText " HTTP/1.1" <:+ line ∧
      Http.setHost authority (getRequest location) = hostOnly line authority := by
  -- The target ends where the Location has a byte that ends it, if not behind the Location.
  obtain ⟨target, rest, hspan⟩ :
      ∃ target rest, location.span (fun b => !isTargetEnd b) = (target, rest) := ⟨_, _, rfl⟩
  obtain ⟨rfl, htarget, hrest⟩ := Bytes.span_eq_iff.1 hspan
  have hget : Bytes.ofText "GET " = Bytes.ofText "GET" ++ [space] := by decide +kernel
  have hversion : Bytes.ofText " HTTP/1.1\r\n\r\n" = Bytes.ofText " HTTP/1.1" ++ Http.blankLine := by
    decide +kernel
  have hparts : getRequest (target ++ rest) = Bytes.ofText "GET" ++ space ::
      (target ++ (rest ++ (Bytes.ofText " HTTP/1.1" ++ Http.blankLine))) := by
    simp [getRequest, hget, hversion]
  have hends : ∀ b ∈ (rest ++ (Bytes.ofText " HTTP/1.1" ++ Http.blankLine)).head?,
      isTargetEnd b = true := by
    cases rest with
    | nil => decide +kernel
    | cons b rest => simpa using hrest
  have hreduced := Http.reduceTarget_parts get_spec.2
    (fun b hb => by simpa using htarget b hb) hends (by simp [Http.blankLine, crlf])
  have hline : lf ∉ Bytes.ofText "GET " ++
      (Http.originForm target ++ (rest ++ Bytes.ofText " HTTP/1.1")) := by
    have hfixed : lf ∉ Bytes.ofText "GET " ∧ lf ∉ Bytes.ofText " HTTP/1.1" := by decide +kernel
    have htargetLf : lf ∉ Http.originForm target := fun hmem =>
      (mem_originForm hmem).elim (by decide) fun hmem => hlf (List.mem_append_left _ hmem)
    have hrestLf : lf ∉ rest := fun hmem => hlf (List.mem_append_right _ hmem)
    simp [hfixed, htargetLf, hrestLf]
  refine ⟨_, hline, List.prefix_append _ _,
    ⟨Bytes.ofText "GET " ++ (Http.originForm target ++ rest), by simp⟩, ?_⟩
  rw [← setHeader_bare hline, Http.setHost, hparts, hreduced, hget]
  simp

/-- What is sent for a visible Location is a request of the grammar. -/
theorem setHost_getRequest (hne : location ≠ []) (hvisible : Http.IsVisible location)
    (authority : Bytes) :
    Http.setHost authority (getRequest location) =
      hostOnly (getLine location).reduced.toBytes authority := by
  have hline := wellFormed_getLine hne hvisible
  have hlf := Http.lf_not_mem_line hline.reduced (.inl rfl)
  rw [List.append_nil] at hlf
  rw [Http.setHost, getRequest_eq, Http.reduceTarget_line hline, setHeader_bare hlf]

/-- **A redirect puts nothing on the wire but a line and the host.** Whatever the response is and whatever
its Location holds, the next request as it is sent has one first line, the host as its only field, and
no body, for whoever reads it line by line; and if the Location is made of visible bytes it is, for the
grammar too, a request with that one field and nothing after it. -/
theorem hop_confined (h : redirectRequest? settings redirects response = some next)
    (hne : authority ≠ []) (hvisible : Http.IsVisible authority) :
    (∃ line, lf ∉ line ∧ Bytes.ofText "GET " <+: line ∧ Bytes.ofText " HTTP/1.1" <:+ line ∧
        Http.setHost authority next = hostOnly line authority) ∧
      (Http.setHost authority next).count lf = 3 ∧
      (∀ name, Http.header name (Http.setHost authority next) =
        if Bytes.sameLetters hostField name = true then some authority else none) ∧
      Http.afterHead? (Http.setHost authority next) = some [] ∧
      ∀ location, Http.header locationField response = some location → location ≠ [] →
        Http.IsVisible location →
        Http.requestHead (Http.setHost authority next) =
          .found ⟨⟨Bytes.ofText "GET", Http.originForm location, 1⟩, [⟨hostField, authority⟩]⟩ [] := by
  obtain ⟨-, -, location, hlocation, rfl⟩ := redirectRequest?_eq_some_iff.1 h
  have hvalue := hvisible.isValue hne
  obtain ⟨line, hlf, hstart, hend, hsent⟩ :=
    exists_setHost_getRequest (Http.lf_not_mem_of_header hlocation) authority
  refine ⟨⟨line, hlf, hstart, hend, hsent⟩, ?_, ?_, ?_, ?_⟩
  · rw [hsent, count_hostOnly hlf hvalue]
  · rw [hsent]
    exact header_hostOnly hlf hvalue
  · rw [hsent, afterHead?_hostOnly hlf hvalue]
  · intro location' hlocation' hlocationNe hlocationVisible
    obtain rfl : location = location' := Option.some.inj (hlocation.symm.trans hlocation')
    rw [setHost_getRequest hlocationNe hlocationVisible]
    exact requestHead_hostOnly (wellFormed_getLine hlocationNe hlocationVisible).reduced hne hvisible

/-- A redirect whose Location has carriage returns, spaces and a host of its own. -/
def smuggling : Bytes :=
  Bytes.ofText "HTTP/1.1 302\r\nLocation: http://a/b\r\r c\rHost: d \nX: e\r\n\r\nGET"

/-- A redirect to another host, without a path. -/
def elsewhere : Bytes := Bytes.ofText "HTTP/1.1 301 a\nlocation:\thttp://b\n\n"

theorem hop_confined_smuggling :
    redirectRequest? oneHop 0 smuggling =
        some (getRequest (Bytes.ofText "http://a/b\r\r c\rHost: d")) ∧
      redirectRequest? oneHop 0 elsewhere = some (getRequest (Bytes.ofText "http://b")) ∧
      Bytes.ofText "t:1" ≠ [] ∧ Http.IsVisible (Bytes.ofText "t:1") ∧
      (Http.setHost (Bytes.ofText "t:1")
        (getRequest (Bytes.ofText "http://a/b\r\r c\rHost: d"))).count lf = 3 ∧
      Http.header hostField (Http.setHost (Bytes.ofText "t:1")
        (getRequest (Bytes.ofText "http://a/b\r\r c\rHost: d"))) = some (Bytes.ofText "t:1") ∧
      Http.requestHead (Http.setHost (Bytes.ofText "t:1") (getRequest (Bytes.ofText "http://b"))) =
        .found ⟨⟨Bytes.ofText "GET", [slash], 1⟩, [⟨hostField, Bytes.ofText "t:1"⟩]⟩ [] := by
  have hnext : redirectRequest? oneHop 0 smuggling =
      some (getRequest (Bytes.ofText "http://a/b\r\r c\rHost: d")) := by decide +kernel
  have hnext' : redirectRequest? oneHop 0 elsewhere =
      some (getRequest (Bytes.ofText "http://b")) := by decide +kernel
  have hne : Bytes.ofText "t:1" ≠ [] := by decide +kernel
  have hvisible : Http.IsVisible (Bytes.ofText "t:1") := by
    rw [Http.IsVisible]
    decide +kernel
  have hlocation : Http.IsVisible (Bytes.ofText "http://b") := by
    rw [Http.IsVisible]
    decide +kernel
  have horigin : Http.originForm (Bytes.ofText "http://b") = [slash] := by decide +kernel
  obtain ⟨-, hcount, hheader, -⟩ := hop_confined hnext hne hvisible
  obtain ⟨-, -, -, -, hhead⟩ := hop_confined hnext' hne hvisible
  refine ⟨hnext, hnext', hne, hvisible, hcount, ?_, ?_⟩
  · rw [hheader, if_pos (Http.sameLetters_iff.2 rfl)]
  · rw [hhead _ (by decide +kernel) (by decide +kernel) hlocation, horigin]

end HttpReplay.Client
