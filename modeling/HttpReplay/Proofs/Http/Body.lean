import HttpReplay.Proofs.Http.Host
import HttpReplay.Proofs.Http.Layout
import HttpReplay.Replay.Exchange

/-!
Where the body is taken from.

What follows a head is known from its grammar, which takes a line feed for the end of a line with or
without a carriage return before it, and skips empty lines in front. The body that goes into a record is
cut at the first two line ends in a row that are written with both bytes. The two cuts are compared line by
line: a text has no carriage return, so no such pair of line ends begins in it (`body_text`), and none
begins at the end of a line that has another line with a text below it (`body_lineEnd`). What is left is
the end of the last line and the empty line (`Written.exists_last`), and there the cuts agree only if both
are written with both bytes, or if nothing follows (`body_last_iff`).
-/

set_option autoImplicit false

namespace HttpReplay.Http

open Bytes (lf cr crlf)

variable {lead s text ending ending' last start rest block message : Bytes} {fs : List Field}

/-! ## The first pair of line ends -/

theorem body_append (h : ∀ u, u <:+ lead → u ≠ [] → ¬ blankLine <+: u ++ s) :
    body (lead ++ s) = body s := by
  rw [body, body, Bytes.splitAtPattern?_append_left h]
  cases Bytes.splitAtPattern? blankLine s <;> rfl

theorem body_blankLine (s : Bytes) : body (blankLine ++ s) = s := by
  have hcut : Bytes.splitAtPattern? blankLine ([] ++ blankLine ++ s) = some ([], s) :=
    Bytes.splitAtPattern?_append (by decide) (by decide) s
  rw [List.nil_append] at hcut
  rw [body, hcut]

/-- No pair of line ends begins in a text. -/
theorem body_text (h : cr ∉ text) (s : Bytes) : body (text ++ s) = body s := by
  refine body_append fun u hu hne hprefix => ?_
  obtain ⟨b, u, rfl⟩ := List.exists_cons_of_ne_nil hne
  obtain ⟨rfl, -⟩ := List.cons_prefix_cons.1 hprefix
  exact h (hu.mem List.mem_cons_self)

/-- No pair of line ends begins with the end of a line that has another below it. -/
theorem body_lineEnd (hend : IsLineEnd ending) (hs : ∀ b ∈ s.head?, b ≠ cr) :
    body (ending ++ lf :: s) = body s := by
  have hcr : cr ∉ [lf] := by decide
  have hlf : body (lf :: s) = body s := body_text hcr s
  obtain rfl | rfl := hend
  · exact hlf
  · rw [← hlf]
    refine body_append fun u hu hne hprefix => ?_
    obtain rfl : u = [cr] := by simpa [List.suffix_cons_iff, hne] using hu
    obtain ⟨left, hleft⟩ := hprefix
    obtain rfl : cr :: lf :: left = s := by simpa [blankLine, crlf] using hleft
    exact hs cr rfl rfl

/-- A body that is not empty follows four bytes at least. -/
theorem length_body_add_four_le (h : body message ≠ []) : (body message).length + 4 ≤ message.length := by
  rw [body] at h ⊢
  split at h
  next before after hcut =>
    have hlength : blankLine.length = 4 := rfl
    rw [Bytes.splitAtPattern?_eq_some hcut, List.length_append, List.length_append]
    omega
  next => exact absurd rfl h

/-! ## The last two line ends of a head -/

/-- **What is left of a head where the cut is looked for:** the end of its last line, the empty line, and
what follows. -/
theorem Written.exists_last (h : Written rest fs block) (htext : IsLineText text)
    (hend : IsLineEnd ending) :
    ∃ start last e e', IsLineText last ∧ IsLineEnd e ∧ IsLineEnd e' ∧
      text ++ (ending ++ lf :: block) = start ++ (last ++ (e ++ lf :: (e' ++ lf :: rest))) ∧
      body (text ++ (ending ++ lf :: block)) = body (e ++ lf :: (e' ++ lf :: rest)) := by
  -- The induction goes down the lines, with the line above the block at hand.
  induction h generalizing text ending with
  | done hempty =>
    exact ⟨[], text, _, _, htext, hend, hempty, rfl, body_text htext.cr_not_mem _⟩
  | line f hf hbelow _ ih =>
    have hline := hf.isLineText
    obtain ⟨start, last, e, e', hlast, he, he', hparts, hbody⟩ := ih hline hbelow
    refine ⟨text ++ (ending ++ lf :: start), last, e, e', hlast, he, he', ?_, ?_⟩
    · rw [hparts]
      simp
    · rw [body_text htext.cr_not_mem, body_lineEnd hend, hbody]
      intro b hb heq
      rw [List.head?_append_of_ne_nil _ hline.ne_nil] at hb
      exact hline.cr_not_mem (heq ▸ List.mem_of_mem_head? hb)

/-- With a line end of one byte among the last two the head does not end in a pair of the other kind. -/
theorem not_blankLine_suffix (hlast : IsLineText last) (hend : IsLineEnd ending)
    (hend' : IsLineEnd ending') (h : ¬ (ending = [cr] ∧ ending' = [cr])) (start rest : Bytes) :
    ¬ blankLine ++ rest <:+ start ++ (last ++ (ending ++ lf :: (ending' ++ lf :: rest))) := by
  rintro ⟨t, ht⟩
  have hhead : t ++ [cr, lf, cr, lf] = start ++ last ++ ending ++ [lf] ++ ending' ++ [lf] := by
    have hwhole : (t ++ [cr, lf, cr, lf]) ++ rest =
        (start ++ last ++ ending ++ [lf] ++ ending' ++ [lf]) ++ rest := by
      simpa [blankLine, crlf] using ht
    exact List.append_cancel_right hwhole
  obtain rfl | rfl := hend'
  · -- The empty line is a line feed, and so is the byte in front of it.
    have hends : (t ++ [cr, lf]) ++ [cr, lf] = (start ++ last ++ ending) ++ [lf, lf] := by
      simpa using hhead
    obtain ⟨-, hsame⟩ := List.append_inj' hends rfl
    exact absurd hsame (by decide)
  · obtain rfl | rfl := hend
    · -- The text of the last line would have to end in a carriage return.
      have hends : (t ++ [cr]) ++ [lf, cr, lf] = (start ++ last) ++ [lf, cr, lf] := by
        simpa using hhead
      obtain ⟨hsame, -⟩ := List.append_inj' hends rfl
      have hgetLast : last.getLast? = some cr := by
        rw [← List.getLast?_append_of_ne_nil start hlast.ne_nil, ← hsame, List.getLast?_concat]
      exact hlast.cr_not_mem (List.mem_of_getLast? hgetLast)
    · exact h ⟨rfl, rfl⟩

/-- **Where the two cuts agree** when the last line of the head is reached. -/
theorem body_last_iff (hlast : IsLineText last) (hend : IsLineEnd ending) (hend' : IsLineEnd ending')
    (start rest : Bytes) :
    body (ending ++ lf :: (ending' ++ lf :: rest)) = rest ↔
      rest = [] ∨ blankLine ++ rest <:+
        start ++ (last ++ (ending ++ lf :: (ending' ++ lf :: rest))) := by
  by_cases hboth : ending = [cr] ∧ ending' = [cr]
  · obtain ⟨rfl, rfl⟩ := hboth
    refine iff_of_true (body_blankLine rest) (.inr ⟨start ++ last, ?_⟩)
    simp [blankLine, crlf]
  · rw [or_iff_left (not_blankLine_suffix hlast hend hend' hboth start rest)]
    -- The cut, if there is one, is at least four bytes from the first of the two line ends.
    have hlength : (ending ++ lf :: (ending' ++ lf :: rest)).length < rest.length + 4 := by
      obtain rfl | rfl := hend <;> obtain rfl | rfl := hend'
      · simp
      · simp
      · simp
      · exact absurd ⟨rfl, rfl⟩ hboth
    by_cases hnil : body (ending ++ lf :: (ending' ++ lf :: rest)) = []
    · rw [hnil]
      exact eq_comm
    · have hcut := length_body_add_four_le hnil
      constructor
      · intro hsame
        rw [hsame] at hcut
        omega
      · rintro rfl
        simp only [List.length_nil] at hlength
        omega

/-! ## Heads -/

theorem isLineEnd_of_mem_blankLine {b : UInt8} (h : b ∈ blankLine) : isLineEnd b = true := by
  have hall : ∀ b ∈ blankLine, isLineEnd b = true := by decide +kernel
  exact hall b h

/-- Empty lines in front of a text are passed over, unless the cut is among them. -/
theorem body_emptyLines (hlead : ¬ blankLine <:+: lead) (hs : ∀ b ∈ s.head?, isLineEnd b = false) :
    body (lead ++ s) = body s := by
  refine body_append fun u hu _ hprefix => ?_
  obtain ⟨t, ht⟩ := hprefix
  obtain ⟨more, rfl, -⟩ | ⟨v, hv, rfl⟩ := List.append_eq_append_iff.1 ht
  · exact hlead ((List.prefix_append blankLine more).isInfix.trans hu.isInfix)
  · -- It would have to go on with a byte of the text.
    cases v with
    | nil =>
      rw [List.append_nil] at hv
      exact hlead (hv ▸ hu.isInfix)
    | cons b v =>
      have hb := isLineEnd_of_mem_blankLine (b := b) (by rw [hv]; simp)
      rw [hs b rfl] at hb
      cases hb

theorem takeWhile_of_head? {p : UInt8 → Bool} (h : ∀ b ∈ s.head?, p b = false) : s.takeWhile p = [] := by
  cases s with
  | nil => rfl
  | cons b s => exact List.takeWhile_cons_of_neg (by simp [h b rfl])

/-- A cut among the empty lines leaves the head in the body. -/
theorem length_lt_body (hlead : blankLine <:+: lead) (s : Bytes) (hs : rest.length < s.length) :
    rest.length < (body (lead ++ s)).length := by
  rw [← Bytes.hasPattern_iff (by decide), Bytes.hasPattern, Option.isSome_iff_exists] at hlead
  obtain ⟨⟨before, after⟩, hcut⟩ := hlead
  rw [body, Bytes.splitAtPattern?_append_right (by decide) hcut s, List.length_append]
  omega

/-- **The body is what follows the head** exactly if no pair of line ends is among the empty lines in front
and the head ends in such a pair, or else nothing follows it. -/
theorem WrittenHead.body_eq_iff (h : WrittenHead rest fs message) :
    body message = rest ↔ ¬ blankLine <:+: message.takeWhile isLineEnd ∧
      (rest = [] ∨ blankLine ++ rest <:+ message) := by
  obtain ⟨lead, hlead, htext, hend, hblock⟩ := h
  obtain ⟨start, last, e, e', hlast, he, he', hparts, hbody⟩ := hblock.exists_last htext hend
  have hfirst : ∀ b ∈ (start ++ (last ++ (e ++ lf :: (e' ++ lf :: rest)))).head?,
      isLineEnd b = false := by
    intro b hb
    rw [← hparts, List.head?_append_of_ne_nil _ htext.ne_nil] at hb
    exact htext.inside b (List.mem_of_mem_head? hb)
  rw [hparts] at hbody ⊢
  have hspan : (lead ++ (start ++ (last ++ (e ++ lf :: (e' ++ lf :: rest))))).takeWhile isLineEnd =
      lead := by
    rw [List.takeWhile_append_of_pos hlead, takeWhile_of_head? hfirst, List.append_nil]
  rw [hspan]
  by_cases hpair : blankLine <:+: lead
  · have hshorter : rest.length < (start ++ (last ++ (e ++ lf :: (e' ++ lf :: rest)))).length := by
      simp only [List.length_append, List.length_cons]
      omega
    have hlonger := length_lt_body hpair _ hshorter
    refine iff_of_false (fun hsame => ?_) (fun hboth => hboth.1 hpair)
    rw [hsame] at hlonger
    exact Nat.lt_irrefl _ hlonger
  · rw [body_emptyLines hpair hfirst, hbody, body_last_iff hlast he he' (lead ++ start) rest,
      List.append_assoc]
    exact (and_iff_right hpair).symm

/-! ## Requests, responses and records -/

/-- A request begins with its method. -/
theorem not_lineEnd_of_isRequest (h : isRequest message = true) :
    ∀ b ∈ message.head?, isLineEnd b = false := by
  rw [isRequest, Bool.and_eq_true, List.any_eq_true] at h
  obtain ⟨⟨m, hm, hstrip⟩, -⟩ := h
  obtain ⟨rest, hrest⟩ := Option.isSome_iff_exists.1 hstrip
  obtain ⟨b, word, rfl, htoken, -⟩ := methodPrefixes_spec m hm
  have hb := isLineEnd_of_class htoken (by decide) (by decide)
  rw [Bytes.strip?_eq_some.1 hrest]
  simpa using hb

/-- **When the body is what the grammar leaves behind the head.** Of a request: if the head ends in two
line ends of both bytes, or nothing follows it. Of a response this holds as well, as long as there are no
such two among the empty lines in front of it. The record of their exchange has the bodies for its texts,
so under the same conditions it carries what follows the heads. -/
theorem body_follows_iff (e : Exchange) :
    (∀ first rest, isRequest e.request = true → requestHead e.request = .found first rest →
      (body e.request = rest ↔ rest = [] ∨ blankLine ++ rest <:+ e.request)) ∧
    ∀ first rest, responseHead e.response = .found first rest →
      (body e.response = rest ↔ ¬ blankLine <:+: e.response.takeWhile isLineEnd ∧
        (rest = [] ∨ blankLine ++ rest <:+ e.response)) ∧
      ∃ record, e.record? = some record ∧ record.requestBody = Utf8.lossy (body e.request) ∧
        record.responseBody = Utf8.lossy (body e.response) := by
  refine ⟨fun first rest hrequest hhead => ?_, fun first rest hhead => ⟨?_, ?_⟩⟩
  · have hwritten := writtenHead_of_head endsLine_requestLine hhead
    rw [hwritten.body_eq_iff, takeWhile_of_head? (not_lineEnd_of_isRequest hrequest)]
    exact and_iff_right (by decide)
  · exact (writtenHead_of_head endsLine_statusLine hhead).body_eq_iff
  · have hne : ¬ e.response.isEmpty = true := by
      rw [List.isEmpty_iff]
      intro hnil
      rw [hnil] at hhead
      cases hhead
    exact ⟨_, if_neg hne, rfl, rfl⟩

/-- A request with lines that end in a line feed alone. -/
def bareRequest : Bytes := Bytes.ofText "POST / HTTP/1.1\nHost: a\n\nb"

/-- **Bodies are missed.** It is not so that the body of every request is what follows its head. -/
theorem body_missed :
    ¬ ((∀ request first rest, isRequest request = true → requestHead request = .found first rest →
        body request = rest) ∧
      ∀ response first rest, responseHead response = .found first rest → body response = rest) := by
  rintro ⟨h, -⟩
  have hhead : requestHead bareRequest = .found ⟨⟨Bytes.ofText "POST", Bytes.ofText "/", 1⟩,
      [⟨hostField, Bytes.ofText "a"⟩]⟩ (Bytes.ofText "b") := by decide +kernel
  have hmissed : body bareRequest ≠ Bytes.ofText "b" := by decide +kernel
  exact hmissed (h bareRequest _ _ (by decide +kernel) hhead)

/-- A request whose first line ends in a line feed alone and whose head ends in two line ends of both
bytes. The response has an empty line in front, and two such line ends in its body only. -/
def halfBare : Exchange where
  request := Bytes.ofText "POST / HTTP/1.1\nHost: a\r\n\r\nb"
  response := Bytes.ofText "\r\nHTTP/1.1 200 OK\r\nA: b\n\r\nc\r\n\r\nd"
  started := ⟨0, 0⟩
  stopped := ⟨0, 0⟩

theorem body_follows_iff_halfBare :
    isRequest halfBare.request = true ∧
      requestHead halfBare.request = .found ⟨⟨Bytes.ofText "POST", Bytes.ofText "/", 1⟩,
        [⟨hostField, Bytes.ofText "a"⟩]⟩ (Bytes.ofText "b") ∧
      body halfBare.request = Bytes.ofText "b" ∧
      responseHead halfBare.response = .found ⟨⟨1, 200⟩, [⟨Bytes.ofText "A", Bytes.ofText "b"⟩]⟩
        (Bytes.ofText "c\r\n\r\nd") ∧
      body halfBare.response ≠ Bytes.ofText "c\r\n\r\nd" ∧
      ∃ record, halfBare.record? = some record ∧ record.requestBody = "b" ∧
        record.responseBody = "d" := by
  have hrequest : isRequest halfBare.request = true := by decide +kernel
  have hhead : requestHead halfBare.request = .found ⟨⟨Bytes.ofText "POST", Bytes.ofText "/", 1⟩,
      [⟨hostField, Bytes.ofText "a"⟩]⟩ (Bytes.ofText "b") := by decide +kernel
  have hresponse : responseHead halfBare.response =
      .found ⟨⟨1, 200⟩, [⟨Bytes.ofText "A", Bytes.ofText "b"⟩]⟩ (Bytes.ofText "c\r\n\r\nd") := by
    decide +kernel
  obtain ⟨hrequests, hresponses⟩ := body_follows_iff halfBare
  obtain ⟨hcut, record, hrecord, hrequestBody, hresponseBody⟩ := hresponses _ _ hresponse
  have hbody : body halfBare.request = Bytes.ofText "b" := by
    rw [hrequests _ _ hrequest hhead]
    decide +kernel
  have hmissed : body halfBare.response ≠ Bytes.ofText "c\r\n\r\nd" := by
    rw [ne_eq, hcut]
    decide +kernel
  refine ⟨hrequest, hhead, hbody, hresponse, hmissed, record, hrecord, ?_, ?_⟩
  · rw [hrequestBody, hbody]
    decide +kernel
  · rw [hresponseBody]
    decide +kernel

end HttpReplay.Http
