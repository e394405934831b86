import HttpReplay.Proofs.Http.Chunks

/-!
Well-formed responses end at their last byte.

A response is a head and what the head announces. For the head the firmness of its grammar is all there is
to say: no shorter beginning of it is a head, and what follows it does not change it. So a response ends
exactly when the verdict of its delimiter on the body turns at the body's end (`endsExactly_append`), and
that is a matter of lengths for one kind of body and of chunks for the other (`framing_endsExactly`).
-/

set_option autoImplicit false

namespace HttpReplay.Http

variable {headRequest : Bool} {headBytes body : Bytes} {h : Head StatusLine}

/-! ## Heads -/

/-- **A head puts off the end of a response to the end of the body** that it announces. -/
theorem endsExactly_append (hhead : responseHead headBytes = .found h [])
    (hbody : TurnsAtEnd (Delimiter.ofHead headRequest h).framing .incomplete .complete body) :
    EndsExactly headRequest (headBytes ++ body) := by
  refine TurnsAtEnd.append (fun start hstart hne => ?_) (fun s => ?_) hbody
  · rw [framing, firm_responseHead.cut_of_prefix hhead hstart hne]
  · rw [framing, firm_responseHead.found_append hhead s]
    rfl

/-- The field is a transfer coding with a text for its value that has the word `chunked` in it, whatever
else it has, letters in either case. -/
def Field.NamesChunked (f : Field) : Prop :=
  Bytes.sameLetters f.name (Bytes.ofText "transfer-encoding") = true ∧
    (Utf8.decode? f.value).isSome = true ∧
    ∃ before word after, f.value = before ++ (word ++ after) ∧
      Bytes.sameLetters word (Bytes.ofText "chunked") = true

theorem Field.announcesChunks_iff {f : Field} : f.announcesChunks = true ↔ f.NamesChunked := by
  have hword : Bytes.lower (Bytes.ofText "chunked") = Bytes.ofText "chunked" := by decide +kernel
  have hne : Bytes.ofText "chunked" ≠ [] := by decide +kernel
  rw [announcesChunks, NamesChunked, Bool.and_eq_true, Bool.and_eq_true, and_assoc,
    Bytes.hasPattern_iff hne]
  refine and_congr_right fun _ => and_congr_right fun _ => ⟨?_, ?_⟩
  · rintro ⟨before, after, hparts⟩
    rw [List.append_assoc, Bytes.lower] at hparts
    obtain ⟨u, rest, hvalue, -, hrest⟩ := List.map_eq_append_iff.1 hparts.symm
    obtain ⟨word, v, rfl, hsame, -⟩ := List.map_eq_append_iff.1 hrest
    refine ⟨u, word, v, hvalue, ?_⟩
    rw [Bytes.sameLetters, beq_iff_eq, hword]
    exact hsame
  · rintro ⟨before, word, after, hvalue, hsame⟩
    rw [Bytes.sameLetters, beq_iff_eq, hword] at hsame
    refine ⟨Bytes.lower before, Bytes.lower after, ?_⟩
    rw [hvalue, ← hsame]
    simp [Bytes.lower]

/-! ## Bodies -/

theorem Delimiter.turnsAtEnd_empty : TurnsAtEnd Delimiter.empty.framing .incomplete .complete [] :=
  ⟨rfl, fun _ hstart hne => absurd (List.prefix_nil.1 hstart) hne⟩

/-- A body of a known length is all there at that length. -/
theorem Delimiter.turnsAtEnd_length (body : Bytes) :
    TurnsAtEnd (Delimiter.length body.length).framing .incomplete .complete body := by
  refine ⟨if_pos (Nat.le_refl _), fun start hstart hne => ?_⟩
  have hless : ¬ body.length ≤ start.length := fun hlength =>
    hne (hstart.eq_of_length (Nat.le_antisymm hstart.length_le hlength))
  exact if_neg hless

theorem Delimiter.turnsAtEnd_chunks (body : ChunkedBody) :
    TurnsAtEnd Delimiter.chunks.framing .incomplete .complete body.toBytes := by
  obtain ⟨hwhole, hshort⟩ := body.turnsAtEnd
  refine ⟨if_pos hwhole, fun start hstart hne => if_neg ?_⟩
  rw [hshort start hstart hne]
  exact Bool.false_ne_true

/-! ## Responses -/

/-- **Well-formed responses are recognised exactly at their last byte.** Behind a head that allows a body,
this is so for a body as long as the only length field says, if no field names chunks, and for a body in
chunks however it is written, if some field does. Behind a head that allows none the response is its head,
and stays whole whatever comes after it. -/
theorem framing_endsExactly (hhead : responseHead headBytes = .found h []) :
    (isBodiless h.start.code = false →
      (∀ f body, h.fields.filter Field.announcesLength = [f] →
          (∀ g ∈ h.fields, ¬ g.NamesChunked) →
          Numeral.Spells 10 f.value body.length → body.length ≤ Numeral.maxSize →
          EndsExactly false (headBytes ++ body)) ∧
        ((∃ g ∈ h.fields, g.NamesChunked) →
          ∀ body : ChunkedBody, EndsExactly false (headBytes ++ body.toBytes))) ∧
      ∀ headRequest, headRequest = true ∨ isBodiless h.start.code = true →
        EndsExactly headRequest headBytes ∧
          ∀ more, framing headRequest (headBytes ++ more) = .complete := by
  refine ⟨fun hallowed => ⟨fun f body honly hnone hspells hmax => ?_, fun hsome body => ?_⟩,
    fun headRequest hnobody => ?_⟩
  · have hchunks : h.fields.any Field.announcesChunks = false := by
      rw [List.any_eq_false]
      exact fun g hg => Field.announcesChunks_iff.not.2 (hnone g hg)
    have hlength : announcedLength? h.fields = some body.length := by
      rw [announcedLength?, honly]
      exact Numeral.size?_of_spells (by decide) hspells hmax
    have hdelimiter : Delimiter.ofHead false h = .length body.length := by
      simp [Delimiter.ofHead, hallowed, hchunks, hlength]
    exact endsExactly_append hhead (hdelimiter ▸ Delimiter.turnsAtEnd_length body)
  · have hchunks : h.fields.any Field.announcesChunks = true := by
      obtain ⟨g, hg, hnames⟩ := hsome
      exact List.any_eq_true.2 ⟨g, hg, Field.announcesChunks_iff.2 hnames⟩
    have hdelimiter : Delimiter.ofHead false h = .chunks := by
      simp [Delimiter.ofHead, hallowed, hchunks]
    exact endsExactly_append hhead (hdelimiter ▸ Delimiter.turnsAtEnd_chunks body)
  · have hdelimiter : Delimiter.ofHead headRequest h = .empty := by
      rw [Delimiter.ofHead, if_pos]
      simpa using hnobody
    have hends := endsExactly_append hhead (hdelimiter ▸ Delimiter.turnsAtEnd_empty)
    rw [List.append_nil] at hends
    refine ⟨hends, fun more => ?_⟩
    rw [framing_append (by rw [hends.1]; exact nofun), hends.1]

/-- The data looks like the end of the body; the numerals have zeros in front and a letter in upper case. -/
def trickyBody : ChunkedBody where
  chunks :=
    [{ line :=
        { size := 5
          numeral := Bytes.ofText "0005"
          extension := some (Bytes.ofText "last=0")
          spells := ⟨[('0', 0), ('0', 0), ('0', 0), ('5', 5)], by decide, by decide,
            by decide +kernel, by decide⟩
          size_le := by decide
          extension_inline := by
            rintro _ ⟨⟩
            exact ⟨by decide +kernel, by decide +kernel⟩ }
       data := Bytes.ofText "0\r\n\r\n"
       data_ne_nil := by decide +kernel
       size_eq := by decide +kernel },
     { line :=
        { size := 10
          numeral := Bytes.ofText "A"
          extension := none
          spells := ⟨[('A', 10)], by decide, by decide, by decide +kernel, by decide⟩
          size_le := by decide
          extension_inline := nofun }
       data := Bytes.ofText "\r\n0\r\n\r\n0\r\n"
       data_ne_nil := by decide +kernel
       size_eq := by decide +kernel }]
  last :=
    { size := 0
      numeral := Bytes.ofText "00"
      extension := none
      spells := ⟨[('0', 0), ('0', 0)], by decide, by decide, by decide +kernel, by decide⟩
      size_le := by decide
      extension_inline := nofun }
  trailers := [Bytes.ofText "Digest: 0"]
  last_size := rfl
  trailer_ne_nil := by decide +kernel
  trailer_inline := by
    rw [List.forall_mem_singleton]
    exact ⟨by decide +kernel, by decide +kernel⟩

/-- A head that announces chunks and, in vain, a length. -/
def chunkedHead : Bytes :=
  Bytes.ofText "HTTP/1.1 200 OK\r\nTransfer-Encoding: gzip, Chunked\r\nContent-Length: 3\r\n\r\n"

/-- A head that announces a length, without carriage returns. -/
def lengthHead : Bytes := Bytes.ofText "HTTP/1.0 200\nContent-length: 003\nA: chunked\n\n"

theorem framing_endsExactly_tricky :
    (∃ h, responseHead chunkedHead = .found h [] ∧ isBodiless h.start.code = false ∧
        ∃ g ∈ h.fields, g.NamesChunked) ∧
      EndsExactly false (chunkedHead ++ trickyBody.toBytes) ∧ EndsExactly true chunkedHead ∧
      (∃ h f, responseHead lengthHead = .found h [] ∧ isBodiless h.start.code = false ∧
        h.fields.filter Field.announcesLength = [f] ∧ (∀ g ∈ h.fields, ¬ g.NamesChunked) ∧
        Numeral.Spells 10 f.value 3) ∧
      EndsExactly false (lengthHead ++ Bytes.ofText "abc") := by
  have hchunked : responseHead chunkedHead = .found ⟨⟨1, 200⟩,
      [⟨Bytes.ofText "Transfer-Encoding", Bytes.ofText "gzip, Chunked"⟩,
       ⟨Bytes.ofText "Content-Length", Bytes.ofText "3"⟩]⟩ [] := by decide +kernel
  have hnames : Field.NamesChunked
      ⟨Bytes.ofText "Transfer-Encoding", Bytes.ofText "gzip, Chunked"⟩ := by
    rw [← Field.announcesChunks_iff]
    decide +kernel
  have hlength : responseHead lengthHead = .found ⟨⟨0, 200⟩,
      [⟨Bytes.ofText "Content-length", Bytes.ofText "003"⟩,
       ⟨Bytes.ofText "A", Bytes.ofText "chunked"⟩]⟩ [] := by decide +kernel
  have hnone : ∀ g ∈ [(⟨Bytes.ofText "Content-length", Bytes.ofText "003"⟩ : Field),
      ⟨Bytes.ofText "A", Bytes.ofText "chunked"⟩], ¬ g.NamesChunked := by
    simp only [← Field.announcesChunks_iff]
    decide +kernel
  have hspells : Numeral.Spells 10 (Bytes.ofText "003") 3 :=
    ⟨[('0', 0), ('0', 0), ('3', 3)], by decide, by decide, by decide +kernel, by decide⟩
  have hthree : (Bytes.ofText "abc").length = 3 := by decide +kernel
  obtain ⟨hbody, hhead⟩ := framing_endsExactly hchunked
  obtain ⟨hbody', -⟩ := framing_endsExactly hlength
  refine ⟨⟨_, hchunked, rfl, _, List.mem_cons_self, hnames⟩,
    (hbody rfl).2 ⟨_, List.mem_cons_self, hnames⟩ trickyBody, (hhead true (.inl rfl)).1,
    ⟨_, _, hlength, rfl, rfl, hnone, hspells⟩, (hbody' rfl).1 _ _ rfl hnone ?_ (by decide +kernel)⟩
  rw [hthree]
  exact hspells

end HttpReplay.Http
