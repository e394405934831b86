import HttpReplay.Client.Synthetic
import HttpReplay.Http.Message
import HttpReplay.Proofs.Http.Head
import HttpReplay.Proofs.Text.Utf8

/-!
Made-up responses are responses.

Whoever gets a made-up response looks at it as at any other, so it has to say its status where a
response says it and to end where its framing says (`SyntheticStatus.isMadeUp_response`). All of it
is fixed text but the code and the date. The code is one of five, and the rules for the first line
can be run on each of them; the date is whatever the calendar shows, and all that matters of it is
that no byte of it ends the line it stands on. That is so because every date is written in printable
characters, years of more than four digits and negative ones included.
-/

set_option autoImplicit false

namespace HttpReplay

/-! ## Printable text -/

/-- Whether a character can be seen or is a space, and is ASCII. -/
def Text.isPrintable (c : Char) : Bool := 0x20 ≤ c.toNat && c.toNat < 0x7F

/-- Printable text may stand in a field. -/
theorem Http.isValueByte_of_mem_ofText {s : String} (hs : s.toList.all Text.isPrintable = true) :
    ∀ b ∈ Bytes.ofText s, isValueByte b = true := by
  intro b hb
  rw [Bytes.ofText_eq] at hb
  obtain ⟨c, hc, hb⟩ := List.mem_flatMap.1 hb
  have hprintable := List.all_eq_true.1 hs c hc
  simp only [Text.isPrintable, Bool.and_eq_true, decide_eq_true_eq] at hprintable
  obtain ⟨hlow, hhigh⟩ := hprintable
  have hsize : c.utf8Size = 1 := Char.utf8Size_eq_one_iff.2
    (UInt32.le_iff_toNat_le.2 (Nat.le_of_lt hhigh))
  have hencode : String.utf8EncodeChar c = [UInt8.ofNat c.toNat] :=
    String.utf8EncodeChar_eq_singleton hsize
  rw [hencode, List.mem_singleton] at hb
  have hnat : b.toNat = c.toNat := by
    rw [hb, UInt8.toNat_ofNat']
    omega
  have hspace : (0x20 : UInt8) ≤ b := by
    rw [UInt8.le_iff_toNat_le, hnat]
    exact hlow
  have hdelete : b ≠ 0x7F := by
    rintro rfl
    rw [← hnat] at hhigh
    exact absurd hhigh (by decide)
  simp [isValueByte, hspace, hdelete]

namespace Moment

theorem isPrintable_padded (width n : Nat) :
    (padded width n).toList.all Text.isPrintable = true := by
  rw [padded, String.toList_ofList, List.all_append, Bool.and_eq_true]
  constructor
  · refine List.all_eq_true.2 fun c hc => ?_
    obtain rfl := List.eq_of_mem_replicate hc
    decide
  · refine List.all_eq_true.2 fun c hc => ?_
    have hdigit : c.isDigit = true := Nat.isDigit_of_mem_toDigits (by decide) (by decide) hc
    simp only [Char.isDigit, Bool.and_eq_true, decide_eq_true_eq] at hdigit
    have hlow : 48 ≤ c.toNat := hdigit.1
    have hhigh : c.toNat ≤ 57 := hdigit.2
    simp only [Text.isPrintable, Bool.and_eq_true, decide_eq_true_eq]
    omega

theorem isPrintable_yearText (year : Int) :
    (yearText year).toList.all Text.isPrintable = true := by
  unfold yearText
  split
  · exact isPrintable_padded 4 _
  · rw [String.toList_append, List.all_append, isPrintable_padded, Bool.and_true]
    split <;> rfl

/-- **Every date is written in printable characters.** -/
theorem isPrintable_messageText (m : Moment) :
    m.messageText.toList.all Text.isPrintable = true := by
  have hname {names : List String} (k : Nat)
      (hnames : ∀ name ∈ names, name.toList.all Text.isPrintable = true) :
      (names.getD k "").toList.all Text.isPrintable = true := by
    rw [List.getD_eq_getElem?_getD]
    cases hget : names[k]? with
    | none => rfl
    | some name => exact hnames name (List.mem_of_getElem? hget)
  have hdays : ∀ name ∈ dayNames, name.toList.all Text.isPrintable = true := by decide +kernel
  have hmonths : ∀ name ∈ monthNames, name.toList.all Text.isPrintable = true := by
    decide +kernel
  simp only [messageText, clockText, String.toList_append, List.all_append, hname _ hdays,
    hname _ hmonths, isPrintable_padded, isPrintable_yearText, Bool.and_true, Bool.true_and]
  decide

end Moment

/-- A response says its status at its beginning, whatever follows. -/
theorem Http.status_append {s code : Bytes} (h : status s = some code) (more : Bytes) :
    status (s ++ more) = some code := by
  unfold status at h
  split at h
  next hs =>
    obtain ⟨hlength, hstart⟩ := hs
    obtain ⟨rest, hrest⟩ := Option.isSome_iff_exists.1 hstart
    have hstart' : Bytes.strip? (Bytes.ofText "HTTP/") (s ++ more) = some (rest ++ more) := by
      rw [Bytes.strip?_eq_some, Bytes.strip?_eq_some.1 hrest, List.append_assoc]
    have hlength' : 12 ≤ (s ++ more).length := by
      rw [List.length_append]
      omega
    have hcode : ((s ++ more).drop 9).take 3 = (s.drop 9).take 3 := by
      rw [List.drop_append_of_le_length (by omega),
        List.take_append_of_le_length (by rw [List.length_drop]; omega)]
    rw [status, if_pos ⟨hlength', by rw [hstart']; rfl⟩, hcode, h]
  next => cases h

namespace SyntheticStatus

theorem isValueByte_of_mem_date (today : Moment) :
    ∀ b ∈ date today, Http.isValueByte b = true := by
  unfold date
  dsimp only
  split
  · exact Http.isValueByte_of_mem_ofText (Moment.isPrintable_messageText today)
  · exact Http.isValueByte_of_mem_ofText (by decide +kernel)

/-! ## The head of a made-up response -/

/-- The first line of a made-up response. -/
def startLine (status : SyntheticStatus) : Bytes :=
  Bytes.ofText "HTTP/1.1 " ++ Bytes.ofText status.code ++ Bytes.ofText " Accepted\r\n"

/-- The name of the field that carries the date. -/
def dateField : Bytes := Bytes.ofText "Date"

/-- What follows the date in every made-up response. -/
def closing : Bytes :=
  Bytes.ofText "Content-Length: 0\r\nContent-Type: text/plain; charset=utf-8\r\n\r\n"

/-- The fields after the date. -/
def closingFields : List Http.Field :=
  [⟨Bytes.ofText "Content-Length", Bytes.ofText "0"⟩,
    ⟨Bytes.ofText "Content-Type", Bytes.ofText "text/plain; charset=utf-8"⟩]

/-- A made-up response, cut where the date begins and ends. -/
theorem response_eq (status : SyntheticStatus) (today : Moment) :
    status.response today = status.startLine ++
      (dateField ++ Bytes.colon :: ((Bytes.space :: date today) ++ (Bytes.crlf ++ closing))) := by
  have hopening : Bytes.ofText " Accepted\r\nDate: " =
      Bytes.ofText " Accepted\r\n" ++ (dateField ++ [Bytes.colon, Bytes.space]) := by
    decide +kernel
  have hclosing :
      Bytes.ofText "\r\nContent-Length: 0\r\nContent-Type: text/plain; charset=utf-8\r\n\r\n" =
        Bytes.crlf ++ closing := by
    decide +kernel
  rw [response, hopening, hclosing, startLine]
  simp

/-- The first line is found, and says a code whose responses may have a body. -/
theorem head_startLine (status : SyntheticStatus) :
    Http.emptyLines status.startLine = .found () status.startLine ∧
      ∃ start, Http.statusLine status.startLine = .found start [] ∧
        Http.isBodiless start.code = false := by
  cases status with
  | unknown => exact ⟨by decide +kernel, ⟨1, 520⟩, by decide +kernel, rfl⟩
  | connectionError => exact ⟨by decide +kernel, ⟨1, 521⟩, by decide +kernel, rfl⟩
  | connectionTimeout => exact ⟨by decide +kernel, ⟨1, 522⟩, by decide +kernel, rfl⟩
  | unreachable => exact ⟨by decide +kernel, ⟨1, 523⟩, by decide +kernel, rfl⟩
  | timeout => exact ⟨by decide +kernel, ⟨1, 524⟩, by decide +kernel, rfl⟩

/-- The date and the fields after it are found, and nothing is left of the response. -/
theorem fields_of_date (today : Moment) :
    Http.fields Http.maxFields
        (dateField ++ Bytes.colon :: ((Bytes.space :: date today) ++ (Bytes.crlf ++ closing))) =
      .found (⟨dateField, Bytes.trimBlanks (Bytes.space :: date today)⟩ :: closingFields) [] := by
  have hvalue : ∀ b ∈ Bytes.space :: date today, Http.isValueByte b = true :=
    List.forall_mem_cons.2 ⟨by decide, isValueByte_of_mem_date today⟩
  have hne : dateField ≠ [] := by decide +kernel
  have hname : ∀ b ∈ dateField, Http.isToken b = true := by decide +kernel
  have hfield := Http.field_append hne hname hvalue closing
  obtain ⟨first, more, hcons, hfirst⟩ : ∃ first more, dateField = first :: more ∧
      ¬ (first = Bytes.cr ∨ first = Bytes.lf) := ⟨0x44, [0x61, 0x74, 0x65], by decide +kernel⟩
  have hclosing : Http.fields 63 closing = .found closingFields [] := by decide +kernel
  rw [hcons, List.cons_append] at hfield ⊢
  rw [Http.maxFields, Http.fields_cons 64 hfirst, hfield]
  change (Http.fields 63 closing).map _ = _
  rw [hclosing]
  rfl

theorem responseHead_response (status : SyntheticStatus) (today : Moment) :
    ∃ start, Http.isBodiless start.code = false ∧
      Http.responseHead (status.response today) =
        .found ⟨start, ⟨dateField, Bytes.trimBlanks (Bytes.space :: date today)⟩ :: closingFields⟩
          [] := by
  obtain ⟨hempty, start, hstart, hbody⟩ := head_startLine status
  refine ⟨start, hbody, ?_⟩
  rw [response_eq, Http.responseHead, Http.head, Http.firm_emptyLines.found_append hempty]
  dsimp only [Http.Scan.andThen]
  rw [Http.firm_statusLine.found_append hstart]
  dsimp only [Http.Scan.andThen, List.nil_append]
  rw [fields_of_date]
  rfl

/-- A head that ends in these fields announces an empty body, if there may be one. -/
theorem ofHead_of_closing {start : Http.StatusLine} (hbody : Http.isBodiless start.code = false)
    (value : Bytes) :
    Http.Delimiter.ofHead false ⟨start, ⟨dateField, value⟩ :: closingFields⟩ = .length 0 := by
  have hchunks : (⟨dateField, value⟩ :: closingFields).any Http.Field.announcesChunks = false := by
    have hname : Bytes.sameLetters dateField (Bytes.ofText "transfer-encoding") = false := by
      decide +kernel
    have hclosing : closingFields.any Http.Field.announcesChunks = false := by decide +kernel
    rw [List.any_cons, hclosing, Http.Field.announcesChunks, hname]
    rfl
  have hlength : Http.announcedLength? (⟨dateField, value⟩ :: closingFields) = some 0 := by
    have hname : Bytes.sameLetters dateField (Bytes.ofText "content-length") = false := by
      decide +kernel
    have hclosing : Http.announcedLength? closingFields = some 0 := by decide +kernel
    have hdate : Http.Field.announcesLength ⟨dateField, value⟩ ≠ true := by
      simp [Http.Field.announcesLength, hname]
    rw [Http.announcedLength?, List.filter_cons_of_neg hdate]
    exact hclosing
  simp [Http.Delimiter.ofHead, hbody, hchunks, hlength]

/-! ## What a made-up response says -/

/-- The codes of made-up responses. -/
def codes : List String := ["520", "521", "522", "523", "524"]

/-- Whether bytes are a response as it is made up for a status: one that says so and ends where it
says, whether or not it answers a request for the head alone. -/
structure IsMadeUp (status : SyntheticStatus) (response : Bytes) : Prop where
  carries : Http.status response = some (Bytes.ofText status.code)
  known : status.code ∈ codes
  whole : ∀ headRequest, Http.framing headRequest response = .complete

theorem IsMadeUp.ne_nil {status : SyntheticStatus} {response : Bytes}
    (h : status.IsMadeUp response) : response ≠ [] := by
  rintro rfl
  cases h.carries

/-- **Every made-up response is one.** -/
theorem isMadeUp_response (status : SyntheticStatus) (today : Moment) :
    status.IsMadeUp (status.response today) := by
  refine ⟨?_, by cases status <;> decide, fun headRequest => ?_⟩
  · have hstart : Http.status status.startLine = some (Bytes.ofText status.code) := by
      cases status <;> decide +kernel
    rw [response_eq]
    exact Http.status_append hstart _
  · obtain ⟨start, hbody, hhead⟩ := responseHead_response status today
    rw [Http.framing, hhead]
    cases headRequest with
    | true => rfl
    | false =>
      dsimp only
      rw [ofHead_of_closing hbody]
      rfl

end SyntheticStatus
end HttpReplay
