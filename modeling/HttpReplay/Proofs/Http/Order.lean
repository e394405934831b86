import HttpReplay.Proofs.Http.Completion
import HttpReplay.Proofs.Http.Layout
import HttpReplay.Proofs.Http.Scan

/-!
Where the fields of a response stand does not matter.

To speak of the lines of a head in another order, the head has to be taken apart into lines. A head is a
top, which is the empty lines in front and the first line, then a line for each field, and an empty line
(`ResponseText`). The grammar finds exactly what is written in this way (`responseHead_eq_found_iff_text`),
so nothing that is a head is left out. What makes the top a part of its own is that a rule which ends its
line has no use for what comes after it (`EndsLine.exists_line`).

How the body is delimited can be found in one pass over the fields that stops as soon as it knows
(`Delimiter.walk`). It stops at the first field that announces chunks, and up to there every length takes
the place of the one before it; so chunks outrank lengths wherever they stand, and only lengths are
sensitive to order, among themselves. With one of them at most, the verdict on a response is the same
however its lines are ordered (`framing_reorder`).
-/

set_option autoImplicit false

namespace HttpReplay.Http

open Bytes (lf cr)

variable {α : Type} {s rest block : Bytes} {fs : List Field}

/-! ## The top of a head -/

/-- **A line can be read without what comes after it.** -/
theorem EndsLine.exists_line {rule : Bytes → Scan α} {a : α} (h : EndsLine rule) (hends : Ends rule)
    (hfirm : Firm rule) (hfound : rule s = .found a rest) :
    ∃ line, line ≠ [] ∧ s = line ++ rest ∧ rule line = .found a [] := by
  obtain ⟨text, ending, rfl, -, -⟩ := h s a rest hfound
  have hparts : text ++ (ending ++ lf :: rest) = text ++ (ending ++ [lf]) ++ rest := by simp
  rw [hparts] at hfound ⊢
  refine ⟨text ++ (ending ++ [lf]), by simp, rfl, hfirm.found_of_append ?_ hfound⟩
  -- The line feed is there, so the rule decides.
  intro hcut
  obtain hbad | ⟨b, left, hline⟩ := hends (text ++ (ending ++ [lf])) (by simp)
  · rw [hbad] at hcut
    cases hcut
  · rw [hline] at hcut
    cases hcut

/-- What stands in front of the fields of a response: empty lines and the first line. -/
def responseTop (s : Bytes) : Scan StatusLine := (emptyLines s).andThen fun _ s => statusLine s

theorem firm_responseTop : Firm responseTop := firm_emptyLines.andThen fun _ => firm_statusLine

/-- A head is its top and its fields. -/
theorem responseHead_eq (s : Bytes) :
    responseHead s = (responseTop s).andThen fun first s =>
      (fields maxFields s).map fun fs => ⟨first, fs⟩ := by
  rw [responseHead, head, responseTop]
  cases emptyLines s <;> rfl

/-- The empty lines come to an end where there is another byte. -/
theorem emptyLines_ne_cut (h : ∃ b ∈ s, isLineEnd b = false) : emptyLines s ≠ .cut := by
  obtain ⟨b, hb, hnot⟩ := h
  -- A line may end in one byte or in two, so the rule's own cases are those of the proof.
  induction s using emptyLines.induct with
  | case1 => cases hb
  | case2 tail ih =>
    rw [emptyLines_lf]
    refine ih ((List.mem_cons.1 hb).resolve_left ?_)
    rintro rfl
    cases hnot
  | case3 =>
    obtain rfl := List.mem_singleton.1 hb
    cases hnot
  | case4 tail hne ih =>
    rw [emptyLines_crlf]
    refine ih ((List.mem_cons.1 ((List.mem_cons.1 hb).resolve_left ?_)).resolve_left ?_)
    · rintro rfl
      cases hnot
    · rintro rfl
      cases hnot
  | case5 c tail hc =>
    rw [emptyLines_cr_of_ne hc]
    intro hcut
    cases hcut
  | case6 c tail hlf hcr =>
    rw [emptyLines_of_ne hlf hcr]
    intro hcut
    cases hcut

/-- **The top of a head is read without the fields below it.** -/
theorem exists_top {first : StatusLine} (h : responseTop s = .found first rest) :
    ∃ top, s = top ++ rest ∧ responseTop top = .found first [] := by
  obtain ⟨⟨⟩, afterLead, hempty, hstatus⟩ := Scan.andThen_eq_found_iff.1 h
  obtain ⟨lead, rfl, -, hnot⟩ := exists_of_emptyLines hempty
  obtain ⟨line, hne, rfl, hline⟩ := endsLine_statusLine.exists_line ends_statusLine firm_statusLine hstatus
  refine ⟨lead ++ line, by simp, ?_⟩
  have hother : ∃ b ∈ lead ++ line, isLineEnd b = false := by
    obtain ⟨b, line, rfl⟩ := List.exists_cons_of_ne_nil hne
    exact ⟨b, by simp, hnot b rfl⟩
  rw [← List.append_assoc] at hempty
  rw [responseTop, firm_emptyLines.found_of_append (emptyLines_ne_cut hother) hempty]
  exact hline

/-! ## Lines -/

/-- A field on its line, as it may be written. -/
structure FieldLine where
  text : FieldText
  /-- What the line ends in, up to the line feed. -/
  ending : Bytes
  wellFormed : text.WellFormed
  isLineEnd : IsLineEnd ending

namespace FieldLine

def toBytes (l : FieldLine) : Bytes := l.text.toBytes ++ (l.ending ++ [lf])

def field (l : FieldLine) : Field := l.text.field

end FieldLine

theorem written_iff_lines :
    Written rest fs block ↔ ∃ (lines : List FieldLine) (ending : Bytes), IsLineEnd ending ∧
      fs = lines.map FieldLine.field ∧
      block = lines.flatMap FieldLine.toBytes ++ (ending ++ lf :: rest) := by
  constructor
  · intro h
    induction h with
    | done hend => exact ⟨[], _, hend, rfl, rfl⟩
    | line f hf hend _ ih =>
      obtain ⟨lines, ending, hend', rfl, rfl⟩ := ih
      exact ⟨⟨f, _, hf, hend⟩ :: lines, ending, hend', rfl, by simp [FieldLine.toBytes]⟩
  · rintro ⟨lines, ending, hend, rfl, rfl⟩
    induction lines with
    | nil => exact .done hend
    | cons l lines ih =>
      have h := ih.line l.text l.wellFormed l.isLineEnd
      rw [List.map_cons, List.flatMap_cons, FieldLine.toBytes]
      simpa [FieldLine.field] using h

/-- **The head of a response as it may be written**: a top, lines with fields, as many as are kept, and an
empty line. -/
structure ResponseText where
  top : Bytes
  first : StatusLine
  lines : List FieldLine
  /-- What the empty line ends in, up to the line feed. -/
  ending : Bytes
  top_found : responseTop top = .found first []
  length_le : lines.length ≤ maxFields
  isLineEnd : IsLineEnd ending

namespace ResponseText

variable (t : ResponseText)

def toBytes : Bytes := t.top ++ (t.lines.flatMap FieldLine.toBytes ++ (t.ending ++ [lf]))

/-- The fields, in the order of their lines. -/
def fields : List Field := t.lines.map FieldLine.field

/-- What the head says. -/
def head : Head StatusLine := ⟨t.first, t.fields⟩

/-- The same head with its lines in another order. -/
def reorder (lines : List FieldLine) (h : lines.Perm t.lines) : ResponseText :=
  { t with
    lines := lines
    length_le := h.length_eq ▸ t.length_le }

end ResponseText

/-- **The heads that are found are those that are written so.** -/
theorem responseHead_eq_found_iff_text {h : Head StatusLine} :
    responseHead s = .found h rest ↔ ∃ t : ResponseText, h = t.head ∧ s = t.toBytes ++ rest := by
  rw [responseHead_eq, Scan.andThen_eq_found_iff]
  constructor
  · rintro ⟨first, block, htop, hblock⟩
    obtain ⟨fs, hfields, rfl⟩ := Scan.map_eq_found_iff.1 hblock
    obtain ⟨hwritten, hroom⟩ := fields_eq_found_iff.1 hfields
    obtain ⟨lines, ending, hend, rfl, rfl⟩ := written_iff_lines.1 hwritten
    obtain ⟨top, rfl, hfirst⟩ := exists_top htop
    rw [List.length_map] at hroom
    exact ⟨⟨top, first, lines, ending, hfirst, hroom, hend⟩, rfl, by simp [ResponseText.toBytes]⟩
  · rintro ⟨t, rfl, rfl⟩
    have hwritten : Written rest t.fields
        (t.lines.flatMap FieldLine.toBytes ++ (t.ending ++ lf :: rest)) :=
      written_iff_lines.2 ⟨t.lines, t.ending, t.isLineEnd, rfl, rfl⟩
    have hroom : t.fields.length ≤ maxFields := by
      rw [ResponseText.fields, List.length_map]
      exact t.length_le
    have hparts : t.toBytes ++ rest =
        t.top ++ (t.lines.flatMap FieldLine.toBytes ++ (t.ending ++ lf :: rest)) := by
      simp [ResponseText.toBytes]
    refine ⟨t.first, _, ?_, Scan.map_eq_found_iff.2
      ⟨t.fields, fields_eq_found_iff.2 ⟨hwritten, hroom⟩, rfl⟩⟩
    rw [hparts]
    exact firm_responseTop.found_append t.top_found _

/-- The verdict on a response is that of its delimiter on the body. -/
theorem ResponseText.framing_eq (t : ResponseText) (headRequest : Bool) (body : Bytes) :
    framing headRequest (t.toBytes ++ body) = (Delimiter.ofHead headRequest t.head).framing body := by
  rw [framing, responseHead_eq_found_iff_text.2 ⟨t, rfl, rfl⟩]

/-! ## The order of fields -/

/-- How a pass over the fields delimits the body, if the latest length field so far had this to say: it ends
at the first field that announces chunks, and every length field takes the place of the one before it. -/
def Delimiter.walk (latest : Option Nat) : List Field → Delimiter
  | [] => match latest with
    | some size => .length size
    | none => .open
  | f :: fs =>
    if f.announcesChunks then .chunks
    else if f.announcesLength then walk (Numeral.size? 10 f.value) fs
    else walk latest fs

theorem Delimiter.walk_of_chunks (h : fs.any Field.announcesChunks = true) (latest : Option Nat) :
    walk latest fs = .chunks := by
  induction fs generalizing latest with
  | nil => cases h
  | cons f fs ih =>
    rw [walk]
    by_cases hf : f.announcesChunks = true
    · rw [if_pos hf]
    · rw [if_neg hf]
      rw [List.any_cons, Bool.eq_false_of_not_eq_true hf, Bool.false_or] at h
      split
      · exact ih h _
      · exact ih h latest

/-- Where no chunks are announced the pass comes to the end, and it is the last length field that counts. -/
theorem Delimiter.walk_of_no_chunks (h : fs.any Field.announcesChunks = false) (latest : Option Nat) :
    walk latest fs =
      match (fs.filter Field.announcesLength).getLast? with
      | some f => walk (Numeral.size? 10 f.value) []
      | none => walk latest [] := by
  induction fs generalizing latest with
  | nil => rfl
  | cons f fs ih =>
    rw [List.any_cons, Bool.or_eq_false_iff] at h
    rw [walk, if_neg (by simp [h.1])]
    by_cases hf : f.announcesLength = true
    · rw [if_pos hf, ih h.2, List.filter_cons_of_pos hf, List.getLast?_cons]
      cases (fs.filter Field.announcesLength).getLast? <;> rfl
    · rw [if_neg hf, ih h.2, List.filter_cons_of_neg hf]

/-- **One pass is enough** to see how the body is delimited. -/
theorem Delimiter.ofHead_eq_walk (headRequest : Bool) (h : Head StatusLine) :
    ofHead headRequest h =
      if headRequest || isBodiless h.start.code then .empty else walk none h.fields := by
  rw [ofHead]
  refine if_congr Iff.rfl rfl ?_
  by_cases hchunks : h.fields.any Field.announcesChunks = true
  · rw [if_pos hchunks, walk_of_chunks hchunks]
  · rw [if_neg hchunks, walk_of_no_chunks (Bool.eq_false_of_not_eq_true hchunks), announcedLength?]
    cases (h.fields.filter Field.announcesLength).getLast? <;> rfl

/-- A list of one element at most has one order. -/
theorem eq_of_perm_of_length_le_one {l l' : List α} (h : l.Perm l') (hlength : l.length ≤ 1) : l = l' := by
  cases l with
  | nil => exact h.nil_eq
  | cons a tail =>
    obtain rfl := List.eq_nil_of_length_eq_zero (Nat.le_zero.1 (Nat.le_of_succ_le_succ hlength))
    exact (List.perm_singleton.1 h.symm).symm

/-- **With one length field at most the order of the fields does not matter.** -/
theorem Delimiter.ofHead_perm {fs' : List Field} (hperm : fs'.Perm fs)
    (honly : fs.countP Field.announcesLength ≤ 1) (headRequest : Bool) (first : StatusLine) :
    ofHead headRequest ⟨first, fs'⟩ = ofHead headRequest ⟨first, fs⟩ := by
  have hlengths : fs'.filter Field.announcesLength = fs.filter Field.announcesLength := by
    apply eq_of_perm_of_length_le_one (hperm.filter _)
    rwa [← List.countP_eq_length_filter, hperm.countP_eq]
  rw [ofHead, ofHead, announcedLength?, announcedLength?, hlengths, hperm.any_eq]

/-- **The verdict on a response does not depend on the order of its fields**, whatever the body and
whatever was asked for, if there is one length field at most. A field that names chunks decides over every
length, wherever it stands; and in any case the verdict is that of one pass over the fields. -/
theorem framing_reorder (t : ResponseText) :
    (t.fields.countP Field.announcesLength ≤ 1 →
      ∀ (lines : List FieldLine) (hperm : lines.Perm t.lines) (headRequest : Bool) (body : Bytes),
        framing headRequest ((t.reorder lines hperm).toBytes ++ body) =
          framing headRequest (t.toBytes ++ body)) ∧
      (isBodiless t.first.code = false → (∃ f ∈ t.fields, f.NamesChunked) → ∀ body,
        framing false (t.toBytes ++ body) =
          if chunksComplete body then .complete else .incomplete) ∧
      ∀ headRequest body, framing headRequest (t.toBytes ++ body) =
        (if headRequest || isBodiless t.first.code then .empty
          else Delimiter.walk none t.fields : Delimiter).framing body := by
  have hpass : ∀ headRequest body, framing headRequest (t.toBytes ++ body) =
      (if headRequest || isBodiless t.first.code then .empty
        else Delimiter.walk none t.fields : Delimiter).framing body := by
    intro headRequest body
    rw [t.framing_eq, Delimiter.ofHead_eq_walk]
    rfl
  refine ⟨fun honly lines hperm headRequest body => ?_, fun hallowed hnamed body => ?_, hpass⟩
  · have hfields : (t.reorder lines hperm).fields.Perm t.fields := hperm.map FieldLine.field
    rw [ResponseText.framing_eq, ResponseText.framing_eq]
    exact congrArg (Delimiter.framing body) (Delimiter.ofHead_perm hfields honly headRequest t.first)
  · obtain ⟨f, hf, hnames⟩ := hnamed
    have hchunks : t.fields.any Field.announcesChunks = true :=
      List.any_eq_true.2 ⟨f, hf, Field.announcesChunks_iff.2 hnames⟩
    rw [hpass, hallowed, Delimiter.walk_of_chunks hchunks]
    rfl

/-- With two length fields the later one counts. -/
example :
    framing false (Bytes.ofText "HTTP/1.1 200\r\nContent-Length: 1\r\nContent-Length: 2\r\n\r\na") =
        .incomplete ∧
      framing false (Bytes.ofText "HTTP/1.1 200\r\nContent-Length: 2\r\nContent-Length: 1\r\n\r\na") =
        .complete := by decide +kernel

/-- A coding that is not chunked, a length in the middle, and a coding that is. -/
def codings : ResponseText where
  top := Bytes.ofText "\r\nHTTP/1.1 200 OK\n"
  first := ⟨1, 200⟩
  lines :=
    [{ text := newField (Bytes.ofText "Transfer-Encoding") (Bytes.ofText "gzip") (by decide +kernel)
        ⟨by decide +kernel, by decide +kernel, by decide +kernel, by decide +kernel, by decide +kernel⟩
       ending := [cr]
       wellFormed := ⟨by decide +kernel, by decide +kernel, by decide +kernel⟩
       isLineEnd := .inr rfl },
     { text := newField (Bytes.ofText "content-LENGTH") (Bytes.ofText "1") (by decide +kernel)
        ⟨by decide +kernel, by decide +kernel, by decide +kernel, by decide +kernel, by decide +kernel⟩
       ending := []
       wellFormed := ⟨by decide +kernel, by decide +kernel, by decide +kernel⟩
       isLineEnd := .inl rfl },
     { text := newField (Bytes.ofText "TRANSFER-encoding") (Bytes.ofText "x, Chunked") (by decide +kernel)
        ⟨by decide +kernel, by decide +kernel, by decide +kernel, by decide +kernel, by decide +kernel⟩
       ending := [cr]
       wellFormed := ⟨by decide +kernel, by decide +kernel, by decide +kernel⟩
       isLineEnd := .inr rfl }]
  ending := [cr]
  top_found := by decide +kernel
  length_le := by decide
  isLineEnd := .inr rfl

theorem framing_reorder_codings :
    codings.toBytes = Bytes.ofText ("\r\nHTTP/1.1 200 OK\nTransfer-Encoding: gzip\r\n" ++
        "content-LENGTH: 1\nTRANSFER-encoding: x, Chunked\r\n\r\n") ∧
      codings.fields.countP Field.announcesLength ≤ 1 ∧
      framing false ((codings.reorder _ (List.reverse_perm _)).toBytes ++ Bytes.ofText "2\r\n0\r") =
        framing false (codings.toBytes ++ Bytes.ofText "2\r\n0\r") ∧
      isBodiless codings.first.code = false ∧ (∃ f ∈ codings.fields, f.NamesChunked) ∧
      framing false (codings.toBytes ++ Bytes.ofText "2\r\n0\r") = .incomplete := by
  have honly : codings.fields.countP Field.announcesLength ≤ 1 := by decide +kernel
  have hchunks : codings.fields.any Field.announcesChunks = true := by decide +kernel
  have hnamed : ∃ f ∈ codings.fields, f.NamesChunked := by
    obtain ⟨f, hf, hnames⟩ := List.any_eq_true.1 hchunks
    exact ⟨f, hf, Field.announcesChunks_iff.1 hnames⟩
  obtain ⟨hreorder, hdecides, -⟩ := framing_reorder codings
  refine ⟨by decide +kernel, honly, hreorder honly _ _ false _, rfl, hnamed, ?_⟩
  rw [hdecides rfl hnamed]
  decide +kernel

end HttpReplay.Http
