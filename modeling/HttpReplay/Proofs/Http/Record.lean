import HttpReplay.Proofs.Http.Body
import HttpReplay.Proofs.Http.Chunks
import HttpReplay.Proofs.Http.Lookup

/-!
The record of an exchange gives its parts back.

A record is put together by readers that know nothing of each other: one cuts at the first space, one
between the first two spaces of the first line, one at fixed offsets, one at the first two line ends in a
row, and one goes through the lines. None of them asks whether a message is one. So what they give back is
told on messages that were put together from parts (`plainMessage`), and the parts are held to as little as
the cuts need: no byte on a line ends it, no word of a first line has a space, no name has a colon, and no
value has blanks at its ends. Nothing is asked of the bodies. They may have empty lines and what looks like
more fields, since the readers are done when they come to the empty line below the fields; the induction on
the fields ends there, whatever follows (`body_lines`, `valueInBlock?_lines`).
-/

set_option autoImplicit false

namespace HttpReplay

namespace Http

open Bytes (lf cr crlf colon space isBlank)

variable {a b : Bytes}

/-! ## Fields -/

theorem IsInline.append (ha : IsInline a) (hb : IsInline b) : IsInline (a ++ b) := by
  simp [IsInline, ha.1, ha.2, hb.1, hb.2]

theorem IsInline.cons {c : UInt8} (hc : isLineEnd c = false) (ha : IsInline a) : IsInline (c :: a) := by
  obtain ⟨hcr, hlf⟩ : c ≠ cr ∧ c ≠ lf := by simpa [isLineEnd] using hc
  simp [IsInline, ha.1, ha.2, hcr.symm, hlf.symm]

/-- A field as it is mostly written: its name, a colon, one space and its value. -/
structure PlainField where
  name : Bytes
  value : Bytes
  no_colon : colon ∉ name
  name_inline : IsInline name
  value_inline : IsInline value
  first_not_blank : ∀ b ∈ value.head?, isBlank b = false
  last_not_blank : ∀ b ∈ value.getLast?, isBlank b = false

namespace PlainField

/-- Whether a field has a name, letters compared without regard to case. -/
def isNamed (name : Bytes) (f : PlainField) : Bool := Bytes.sameLetters f.name name

variable (f : PlainField)

def toBytes : Bytes := f.name ++ colon :: space :: f.value

theorem lead_blank : ∀ b ∈ [space], isBlank b = true := List.forall_mem_singleton.2 rfl

theorem trail_blank : ∀ b ∈ ([] : Bytes), isBlank b = true := List.forall_mem_nil _

/-- The field in the parts that the search cuts a line into: one blank in front of the value, and none
after it. -/
def text : FieldText where
  name := f.name
  lead := [space]
  value := f.value
  trail := []
  no_colon := f.no_colon
  lead_blank := lead_blank
  trail_blank := trail_blank
  first_not_blank := by
    rw [List.append_nil]
    exact f.first_not_blank
  last_not_blank := f.last_not_blank

theorem toBytes_text : f.text.toBytes = f.toBytes := by simp [FieldText.toBytes, toBytes, text]

theorem isInline : IsInline f.toBytes :=
  f.name_inline.append (.cons (by decide) (.cons (by decide) f.value_inline))

theorem toBytes_ne_nil : f.toBytes ≠ [] := by simp [toBytes]

/-- Fields, each of them on a line. -/
def lines (fields : List PlainField) : Bytes := fields.flatMap fun f => f.toBytes ++ crlf

theorem lines_cons_append (fields : List PlainField) (rest : Bytes) :
    lines (f :: fields) ++ rest = f.toBytes ++ (crlf ++ (lines fields ++ rest)) := by
  simp [lines]

/-- The text of the value of the first field with a name, empty if there is none. -/
def textOf (name : String) (fields : List PlainField) : String :=
  (fields.find? (·.isNamed (Bytes.ofText name))).elim "" fun f => Utf8.lossy f.value

end PlainField

open PlainField (lines)

variable {first content : Bytes} {fields : List PlainField}

/-- A line with a plain field on it answers for the field's name, and for no other. -/
theorem valueInBlock?_plainField (f : PlainField) (name rest : Bytes) :
    valueInBlock? name (f.toBytes ++ (crlf ++ rest)) =
      if f.isNamed name = true then some f.value else valueInBlock? name rest := by
  have hlf : lf ∉ f.text.toBytes := by
    rw [f.toBytes_text]
    exact f.isInline.2
  have hline := valueInBlock?_field f.text (.inl rfl) hlf name rest
  rw [f.toBytes_text, List.append_assoc] at hline
  exact hline

/-- **The search through plain fields** ends at the first with the name, or at the empty line. -/
theorem valueInBlock?_lines (name : Bytes) (fields : List PlainField) (content : Bytes) :
    valueInBlock? name (lines fields ++ (crlf ++ content)) =
      (fields.find? (·.isNamed name)).map PlainField.value := by
  induction fields with
  | nil =>
    have hend : locateInBlock? name ([cr] ++ lf :: content) = none :=
      locateInBlock?_lineEnd (.inr rfl) name content
    rw [valueInBlock?, lines, List.flatMap_nil, List.nil_append]
    exact congrArg (Option.map Place.value) hend
  | cons f fields ih =>
    rw [f.lines_cons_append, valueInBlock?_plainField, ih]
    by_cases hname : f.isNamed name = true
    · rw [if_pos hname, List.find?_cons_of_pos hname, Option.map_some]
    · rw [if_neg hname, List.find?_cons_of_neg hname]

/-- **The body is cut off below plain fields**: no line of theirs is empty, and the empty line below them
is the first. -/
theorem body_lines (fields : List PlainField) (content : Bytes) :
    body (crlf ++ (lines fields ++ (crlf ++ content))) = content := by
  induction fields with
  | nil =>
    have hblank : crlf ++ (lines [] ++ (crlf ++ content)) = blankLine ++ content := by
      simp [lines, blankLine]
    rw [hblank, body_blankLine]
  | cons f fields ih =>
    have hfirst : ∀ b ∈ (f.toBytes ++ (crlf ++ (lines fields ++ (crlf ++ content)))).head?, b ≠ cr := by
      intro b hb heq
      rw [List.head?_append_of_ne_nil _ f.toBytes_ne_nil] at hb
      exact f.isInline.1 (heq ▸ List.mem_of_mem_head? hb)
    rw [f.lines_cons_append]
    exact (body_lineEnd (.inr rfl) hfirst).trans ((body_text f.isInline.1 _).trans ih)

/-! ## Messages -/

/-- A first line, fields on a line each, an empty line, and a body. -/
def plainMessage (first : Bytes) (fields : List PlainField) (content : Bytes) : Bytes :=
  first ++ (crlf ++ (lines fields ++ (crlf ++ content)))

theorem body_plainMessage (hfirst : IsInline first) :
    body (plainMessage first fields content) = content :=
  (body_text hfirst.1 _).trans (body_lines fields content)

theorem header_plainMessage (hfirst : IsInline first) (name : Bytes) :
    header name (plainMessage first fields content) =
      (fields.find? (·.isNamed name)).map PlainField.value := by
  have hcr : lf ≠ cr := by decide
  have hstart : lf ∉ first ++ [cr] := by simp [hfirst.2, hcr]
  have hparts : plainMessage first fields content =
      (first ++ [cr]) ++ lf :: (lines fields ++ (crlf ++ content)) := by simp [plainMessage, crlf]
  rw [hparts, header_line hstart, valueInBlock?_lines]

theorem fieldText_plainMessage (hfirst : IsInline first) (name : String) :
    Exchange.fieldText name (plainMessage first fields content) = PlainField.textOf name fields := by
  rw [Exchange.fieldText, header_plainMessage hfirst, PlainField.textOf]
  cases fields.find? (·.isNamed (Bytes.ofText name)) <;> rfl

/-- What can stand between two spaces of a line. -/
structure IsWord (word : Bytes) : Prop where
  no_space : space ∉ word
  isInline : IsInline word

theorem IsWord.not_isTargetEnd (h : IsWord a) {c : UInt8} (hc : c ∈ a) : isTargetEnd c = false := by
  refine not_isTargetEnd_iff.2 ⟨fun heq => h.no_space (heq ▸ hc), ?_⟩
  have hcr : c ≠ cr := fun heq => h.isInline.1 (heq ▸ hc)
  have hlf : c ≠ lf := fun heq => h.isInline.2 (heq ▸ hc)
  simp [isLineEnd, hcr, hlf]

/-- The parts of a request. The words may be any: the readers do not look into them. -/
structure PlainRequest where
  method : Bytes
  target : Bytes
  version : Bytes
  fields : List PlainField
  body : Bytes
  method_word : IsWord method
  target_word : IsWord target
  version_word : IsWord version

namespace PlainRequest

variable (r : PlainRequest)

def firstLine : Bytes := r.method ++ space :: (r.target ++ space :: r.version)

def toBytes : Bytes := plainMessage r.firstLine r.fields r.body

theorem isInline_firstLine : IsInline r.firstLine :=
  r.method_word.isInline.append (.cons (by decide)
    (r.target_word.isInline.append (.cons (by decide) r.version_word.isInline)))

theorem method_toBytes : Http.method r.toBytes = r.method := by
  rw [toBytes, plainMessage, firstLine, List.append_assoc, List.cons_append]
  exact Http.method_word r.method_word.no_space _

theorem path_toBytes : path r.toBytes = r.target := by
  rw [toBytes, plainMessage, firstLine, List.append_assoc, List.cons_append, List.append_assoc,
    List.cons_append]
  exact path_words (fun _ => r.method_word.not_isTargetEnd) (fun _ => r.target_word.not_isTargetEnd)
    (by simp [isTargetEnd])

end PlainRequest

/-- The parts of a response. The code has a fixed place, so the version before it has a fixed length. -/
structure PlainResponse where
  version : Bytes
  code : Bytes
  reason : Bytes
  fields : List PlainField
  body : Bytes
  version_word : IsWord version
  version_start : Bytes.ofText "HTTP/" <+: version
  version_length : version.length = 8
  code_inline : IsInline code
  code_length : code.length = 3
  reason_inline : IsInline reason

namespace PlainResponse

variable (r : PlainResponse)

def firstLine : Bytes := r.version ++ space :: (r.code ++ space :: r.reason)

def toBytes : Bytes := plainMessage r.firstLine r.fields r.body

theorem isInline_firstLine : IsInline r.firstLine :=
  r.version_word.isInline.append (.cons (by decide)
    (r.code_inline.append (.cons (by decide) r.reason_inline)))

theorem method_toBytes : method r.toBytes = r.version := by
  rw [toBytes, plainMessage, firstLine, List.append_assoc, List.cons_append]
  exact method_word r.version_word.no_space _

theorem exists_toBytes : ∃ rest, r.toBytes = (r.version ++ [space]) ++ (r.code ++ rest) :=
  ⟨space :: r.reason ++ (crlf ++ (lines r.fields ++ (crlf ++ r.body))), by
    simp [toBytes, plainMessage, firstLine]⟩

theorem status_toBytes : status r.toBytes = some r.code := by
  obtain ⟨rest, hparts⟩ := r.exists_toBytes
  have hbefore : (r.version ++ [space]).length = 9 := by simp [r.version_length]
  have hstart : Bytes.ofText "HTTP/" <+: r.toBytes := by
    rw [hparts, List.append_assoc]
    exact r.version_start.trans (List.prefix_append _ _)
  have hlength : 12 ≤ r.toBytes.length := by
    rw [hparts, List.length_append, hbefore, List.length_append, r.code_length]
    omega
  rw [status, if_pos ⟨hlength, Bytes.isSome_strip?_iff.2 hstart⟩, hparts, List.drop_left' hbefore,
    List.take_left' r.code_length]

theorem not_isEmpty_toBytes : ¬ r.toBytes.isEmpty = true := by simp [toBytes, plainMessage, firstLine]

end PlainResponse

end Http

/-! ## Times -/

namespace Moment

variable {started stopped : Moment}

/-- The milliseconds are the nanoseconds with the digits below cut off, and so towards zero. -/
theorem millisBetween_eq (started stopped : Moment) :
    millisBetween started stopped =
      (nanosBetween started stopped).sign * ((nanosBetween started stopped).natAbs / 1000000 : Nat) := by
  rw [millisBetween]
  generalize nanosBetween started stopped = nanos
  obtain hneg | rfl | hpos := Int.lt_trichotomy nanos 0
  · obtain ⟨n, rfl⟩ := Int.eq_negSucc_of_lt_zero hneg
    exact (Int.neg_one_mul _).symm
  · rfl
  · obtain ⟨n, rfl⟩ := Int.eq_succ_of_zero_lt hpos
    exact (Int.one_mul _).symm

/-- Where no leap second is looked at, the moments are numbers and their difference is that of the
numbers. -/
theorem nanosBetween_of_not_leap (hstarted : started.isLeap = false) (hstopped : stopped.isLeap = false) :
    nanosBetween started stopped = stopped.nanoseconds - started.nanoseconds := by
  simp [nanosBetween, leapBetween, hstarted, hstopped]

end Moment

namespace Exchange

open Http

/-- **The record gives the parts of the exchange back**, with what is no text in them replaced, and fields
looked up by their name. The time it took is told in whole milliseconds, and what is left over is dropped
also where the answer is there before the request. -/
theorem record_gives_back (request : PlainRequest) (response : PlainResponse)
    (started stopped : Moment) :
    ∃ millis : Int,
      record? ⟨request.toBytes, response.toBytes, started, stopped⟩ = some {
        host := PlainField.textOf "Host" request.fields
        method := Utf8.lossy request.method
        url := Utf8.lossy request.target
        requestBody := Utf8.lossy request.body
        userAgent := PlainField.textOf "User-Agent" request.fields
        realIp := PlainField.textOf "X-Real-IP" request.fields
        forwardedFor := PlainField.textOf "X-Forwarded-For" request.fields
        connection := PlainField.textOf "Connection" request.fields
        cookies := PlainField.textOf "Cookie" request.fields
        statusCode := Utf8.lossy response.code
        responseBody := Utf8.lossy response.body
        protocol := Utf8.lossy response.version
        contentLength := PlainField.textOf "Content-Length" response.fields
        contentType := PlainField.textOf "Content-Type" response.fields
        setCookie := PlainField.textOf "Set-Cookie" response.fields
        roundTripMillis := millis
        timestamp := stopped.isoText } ∧
      millis = (Moment.nanosBetween started stopped).sign *
        ((Moment.nanosBetween started stopped).natAbs / 1000000 : Nat) ∧
      (started.isLeap = false → stopped.isLeap = false →
        Moment.nanosBetween started stopped = stopped.nanoseconds - started.nanoseconds) := by
  refine ⟨Moment.millisBetween started stopped, ?_, Moment.millisBetween_eq started stopped,
    Moment.nanosBetween_of_not_leap⟩
  have hrequest (name : String) : fieldText name request.toBytes = PlainField.textOf name request.fields :=
    fieldText_plainMessage request.isInline_firstLine name
  have hresponse (name : String) :
      fieldText name response.toBytes = PlainField.textOf name response.fields :=
    fieldText_plainMessage response.isInline_firstLine name
  have hrequestBody : body request.toBytes = request.body :=
    body_plainMessage request.isInline_firstLine
  have hresponseBody : body response.toBytes = response.body :=
    body_plainMessage response.isInline_firstLine
  rw [record?, if_neg response.not_isEmpty_toBytes, request.method_toBytes, request.path_toBytes,
    response.method_toBytes, response.status_toBytes, hrequestBody, hresponseBody]
  simp only [hrequest, hresponse]

/-- A field without a value and one of the same name below it, which has one but no text. -/
def imitatedFields : List PlainField :=
  [⟨Bytes.ofText "cOOKIE", [], by decide +kernel, ⟨by decide +kernel, by decide +kernel⟩,
      ⟨by decide +kernel, by decide +kernel⟩, by decide +kernel, by decide +kernel⟩,
    ⟨Bytes.ofText "Host", Bytes.ofText "a:" ++ [0xFF], by decide +kernel,
      ⟨by decide +kernel, by decide +kernel⟩, ⟨by decide +kernel, by decide +kernel⟩, by decide +kernel,
      by decide +kernel⟩]

/-- A request with a body that goes on like its head and then begins another. -/
def imitatingRequest : PlainRequest where
  method := Bytes.ofText "POST"
  target := Bytes.ofText "/b?c:d"
  version := Bytes.ofText "HTTP/1.1"
  fields := imitatedFields
  body := Bytes.ofText "Cookie: e\r\n\r\nGET /f HTTP/1.1\r\n\r\n"
  method_word := ⟨by decide +kernel, by decide +kernel, by decide +kernel⟩
  target_word := ⟨by decide +kernel, by decide +kernel, by decide +kernel⟩
  version_word := ⟨by decide +kernel, by decide +kernel, by decide +kernel⟩

/-- A response without fields and with a body that begins in empty lines. -/
def imitatingResponse : PlainResponse where
  version := Bytes.ofText "HTTP/1.0"
  code := Bytes.ofText "404"
  reason := []
  fields := []
  body := Bytes.ofText "\r\n\r\nContent-Type: g\r\n"
  version_word := ⟨by decide +kernel, by decide +kernel, by decide +kernel⟩
  version_start := by decide +kernel
  version_length := by decide +kernel
  code_inline := ⟨by decide +kernel, by decide +kernel⟩
  code_length := by decide +kernel
  reason_inline := ⟨by decide +kernel, by decide +kernel⟩

/-- The answer is there a second and a half and a nanosecond before the request. -/
theorem record_gives_back_imitating :
    record? ⟨imitatingRequest.toBytes, imitatingResponse.toBytes, ⟨2, 500000000⟩, ⟨0, 999999999⟩⟩ = some {
      host := "a:\uFFFD"
      method := "POST"
      url := "/b?c:d"
      requestBody := "Cookie: e\r\n\r\nGET /f HTTP/1.1\r\n\r\n"
      userAgent := ""
      realIp := ""
      forwardedFor := ""
      connection := ""
      cookies := ""
      statusCode := "404"
      responseBody := "\r\n\r\nContent-Type: g\r\n"
      protocol := "HTTP/1.0"
      contentLength := ""
      contentType := ""
      setCookie := ""
      roundTripMillis := -1500
      timestamp := "1970-01-01T00:00:00.999Z" } := by
  obtain ⟨millis, hrecord, hmillis, hnanos⟩ :=
    record_gives_back imitatingRequest imitatingResponse ⟨2, 500000000⟩ ⟨0, 999999999⟩
  rw [hnanos rfl rfl] at hmillis
  obtain rfl : millis = -1500 := hmillis
  rw [hrecord]
  decide +kernel

end Exchange

end HttpReplay
