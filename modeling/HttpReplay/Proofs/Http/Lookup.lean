import HttpReplay.Proofs.Http.Layout

/-!
Looking a field up finds what the grammar found.

Two readers go through the fields of a head. The grammar cuts every line into a name and a value and hands
the list over; the search cuts lines only until one bears the name that it looks for, and it asks of no
line whether it is a field. On a block that was written as a list of fields the two are the same walk:
both end a line at its line feed, leave out the carriage return before it, cut at the first colon and trim
the same blanks. So the induction is on how the block was written (`Written.locate`), and the search ends
at the first field of the list with that name, or nowhere if there is none (`header_agrees`).
-/

set_option autoImplicit false

namespace HttpReplay.Http

open Bytes (lf cr colon space isBlank)

variable {name ending rest block message : Bytes} {fs : List Field}

/-- Whether a field has a name, letters compared without regard to case. -/
def Field.isNamed (name : Bytes) (f : Field) : Bool := Bytes.sameLetters f.name name

/-- The search on a line with a field. -/
theorem locateInBlock?_text (f : FieldText) (hending : IsEnding f.toBytes ending)
    (hlf : lf ∉ f.toBytes) (name rest : Bytes) :
    locateInBlock? name (f.toBytes ++ ending ++ lf :: rest) =
      if f.field.isNamed name = true then
        some { f.place with after := f.place.after ++ ending ++ [lf] ++ rest }
      else (locateInBlock? name rest).map (·.behind (f.toBytes ++ ending ++ [lf])) := by
  rw [locateInBlock?_line (lf_not_mem_append_ending hlf hending),
    splitLineEnd_eq_iff.2 ⟨rfl, hending⟩]
  dsimp only
  rw [if_neg (by simp [f.toBytes_ne_nil]), locateOnLine?_text]
  by_cases hname : Bytes.sameLetters f.name name = true
  · rw [if_pos hname]
    exact (if_pos hname).symm
  · rw [if_neg hname]
    exact (if_neg hname).symm

/-- The search ends at the empty line. -/
theorem locateInBlock?_lineEnd (hend : IsLineEnd ending) (name rest : Bytes) :
    locateInBlock? name (ending ++ lf :: rest) = none := by
  obtain rfl | rfl := hend <;> exact (locateInBlock?_line (by decide) name rest).trans (if_pos rfl)

/-- **Where the search of a written block ends**: at the value of the first field with that name. -/
theorem Written.locate (h : Written rest fs block) (name : Bytes) :
    (fs.find? (·.isNamed name) = none ∧ locateInBlock? name block = none) ∨
      ∃ f start lead after, fs.find? (·.isNamed name) = some f ∧ (∀ b ∈ lead, isBlank b = true) ∧
        locateInBlock? name block = some ⟨start ++ (f.name ++ colon :: lead), f.value, after⟩ := by
  induction h with
  | done hend => exact .inl ⟨rfl, locateInBlock?_lineEnd hend name rest⟩
  | @line f ending block fs hf hend h ih =>
    have hline := hf.isLineText
    rw [← List.append_assoc, locateInBlock?_text f (hline.isEnding hend) hline.lf_not_mem]
    by_cases hname : f.field.isNamed name = true
    · rw [if_pos hname, List.find?_cons_of_pos hname]
      refine .inr ⟨f.field, [], f.lead, f.trail ++ ending ++ [lf] ++ block, rfl, f.lead_blank, ?_⟩
      simp [FieldText.place, FieldText.field]
    · rw [if_neg hname, List.find?_cons_of_neg hname]
      obtain ⟨hnone, hplace⟩ | ⟨g, start, lead, after, hfound, hlead, hplace⟩ := ih
      · exact .inl ⟨hnone, by rw [hplace]; rfl⟩
      · refine .inr ⟨g, f.toBytes ++ ending ++ [lf] ++ start, lead, after, hfound, hlead, ?_⟩
        rw [hplace]
        simp [Place.behind]

/-- A message that begins with no line end has its first line at once. -/
theorem HasHead.exists_block (h : HasHead fs rest message)
    (hfirst : ∀ b ∈ message.head?, isLineEnd b = false) :
    ∃ line block, message = line ++ lf :: block ∧ lf ∉ line ∧ Written rest fs block := by
  obtain ⟨lead, hlead, htext, hend, hblock⟩ := h.written
  cases lead with
  | nil => exact ⟨_, _, by simp, hend.lf_not_mem_append htext.lf_not_mem, hblock⟩
  | cons b lead =>
    have hb := hfirst b rfl
    rw [hlead b List.mem_cons_self] at hb
    cases hb

/-- **The field that is looked up is the first of its name that the grammar found**, in every head of a
request or a response, and where a field is set it is that field's value which is replaced. -/
theorem header_agrees (hfirst : ∀ b ∈ message.head?, isLineEnd b = false)
    (h : HasHead fs rest message) (name : Bytes) :
    header name message = (fs.find? (·.isNamed name)).map Field.value ∧
      ∀ f, fs.find? (·.isNamed name) = some f →
        ∃ start lead after, (∀ b ∈ lead, isBlank b = true) ∧
          message = start ++ (f.name ++ colon :: (lead ++ (f.value ++ after))) ∧
          ∀ value, setHeader name value message =
            start ++ (f.name ++ colon :: (lead ++ (value ++ after))) := by
  obtain ⟨line, block, rfl, hline, hblock⟩ := h.exists_block hfirst
  obtain ⟨hnone, hplace⟩ | ⟨f, start, lead, after, hfound, hlead, hplace⟩ := hblock.locate name
  · rw [header_line hline, valueInBlock?, hplace, hnone]
    refine ⟨rfl, fun f hf => ?_⟩
    cases hf
  · rw [header_line hline, valueInBlock?, hplace, hfound]
    refine ⟨rfl, ?_⟩
    rintro _ ⟨⟩
    have hwhole := (locateInBlock?_eq_some_iff.1 hplace).whole_eq
    refine ⟨line ++ lf :: start, lead, after, hlead, ?_, fun value => ?_⟩
    · rw [← hwhole]
      simp [Place.whole]
    · rw [setHeader_line hline, setInBlock, hplace]
      simp [Place.whole]

/-- Lines that end in one byte or in two, a colon in the reason, a field without a value, a name twice and
once more behind the head. -/
def mixedResponse : Bytes :=
  Bytes.ofText "HTTP/1.0 302 a: b\nX:\r\nlOCATION:\t http://c:1 \t\r\nLocation: /d\n\nLocation: e"

/-- The fields of its head. -/
def mixedFields : List Field :=
  [⟨Bytes.ofText "X", []⟩, ⟨Bytes.ofText "lOCATION", Bytes.ofText "http://c:1"⟩,
    ⟨Bytes.ofText "Location", Bytes.ofText "/d"⟩]

theorem header_agrees_mixed :
    (∀ b ∈ mixedResponse.head?, isLineEnd b = false) ∧
      HasHead mixedFields (Bytes.ofText "Location: e") mixedResponse ∧
      header (Bytes.ofText "Location") mixedResponse = some (Bytes.ofText "http://c:1") ∧
      header (Bytes.ofText "a") mixedResponse = none ∧
      ∃ start lead after, mixedResponse = start ++ (Bytes.ofText "lOCATION" ++ colon ::
          (lead ++ (Bytes.ofText "http://c:1" ++ after))) ∧
        setHeader (Bytes.ofText "Location") (Bytes.ofText "f") mixedResponse =
          start ++ (Bytes.ofText "lOCATION" ++ colon :: (lead ++ (Bytes.ofText "f" ++ after))) := by
  have hfirst : ∀ b ∈ mixedResponse.head?, isLineEnd b = false := by decide +kernel
  have hhead : HasHead mixedFields (Bytes.ofText "Location: e") mixedResponse :=
    .inr ⟨⟨0, 302⟩, by decide +kernel⟩
  obtain ⟨hvalue, hplace⟩ := header_agrees hfirst hhead (Bytes.ofText "Location")
  obtain ⟨hother, -⟩ := header_agrees hfirst hhead (Bytes.ofText "a")
  have hfound : mixedFields.find? (·.isNamed (Bytes.ofText "Location")) =
      some ⟨Bytes.ofText "lOCATION", Bytes.ofText "http://c:1"⟩ := by decide +kernel
  obtain ⟨start, lead, after, -, hparts, hset⟩ := hplace _ hfound
  refine ⟨hfirst, hhead, ?_, ?_, start, lead, after, hparts, hset _⟩
  · rw [hvalue, hfound]
    rfl
  · rw [hother]
    decide +kernel

end HttpReplay.Http
