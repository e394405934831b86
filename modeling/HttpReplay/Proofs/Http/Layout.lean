import HttpReplay.Proofs.Http.Block

/-!
How heads are written.

The grammar hands over what a head says and not how it stands in the bytes. Whoever compares it with a
reader that looks at the bytes alone needs the second: empty lines, a first line, fields one on a line
each, and an empty line, where every line ends in a line feed with or without a carriage return before it
(`WrittenHead`). For the fields this is an equivalence (`fields_eq_found_iff`): a block was written so
exactly if the rule for fields finds them, given the room.

Of a first line nothing more is needed than that it is one line. That is a property of rules which goes
from parts to whole (`StaysOnLine.andThen`), so neither kind of first line is taken apart here.
-/

set_option autoImplicit false

namespace HttpReplay.Http

open Bytes (lf cr colon space)

variable {α β : Type} {p : UInt8 → Bool} {s text ending block rest message : Bytes}
  {fs : List Field} {room : Nat}

/-! ## Lines -/

/-- The text of a line in a head: it is not empty, and no byte of it could end the line. -/
structure IsLineText (text : Bytes) : Prop where
  ne_nil : text ≠ []
  inside : ∀ b ∈ text, isLineEnd b = false

namespace IsLineText

theorem lf_not_mem (h : IsLineText text) : lf ∉ text :=
  fun hmem => absurd (h.inside lf hmem) (by decide)

theorem cr_not_mem (h : IsLineText text) : cr ∉ text :=
  fun hmem => absurd (h.inside cr hmem) (by decide)

/-- A carriage return at the end of the line is not one of its text. -/
theorem isEnding (h : IsLineText text) (hend : IsLineEnd ending) : IsEnding text ending := by
  obtain rfl | rfl := hend
  · exact .inr ⟨rfl, fun hlast => h.cr_not_mem (List.mem_of_getLast? hlast)⟩
  · exact .inl rfl

end IsLineText

/-! ## Fields -/

namespace FieldText

/-- A line that the grammar takes for a field. -/
structure WellFormed (f : FieldText) : Prop where
  name_ne_nil : f.name ≠ []
  name_token : ∀ b ∈ f.name, isToken b = true
  value_byte : ∀ b ∈ f.lead ++ (f.value ++ f.trail), isValueByte b = true

/-- The field that the line says. -/
def field (f : FieldText) : Field := ⟨f.name, f.value⟩

variable (f : FieldText)

/-- The blanks around the value are those that are trimmed. -/
theorem trimBlanks_eq : Bytes.trimBlanks (f.lead ++ (f.value ++ f.trail)) = f.value := by
  have hlead : Bytes.spanBlanks (f.lead ++ (f.value ++ f.trail)) = (f.lead, f.value ++ f.trail) :=
    Bytes.spanBlanks_eq_iff.2 ⟨rfl, f.lead_blank, f.first_not_blank⟩
  have htrail : Bytes.splitTrailingBlanks (f.value ++ f.trail) = (f.value, f.trail) :=
    Bytes.splitTrailingBlanks_eq_iff.2 ⟨rfl, f.trail_blank, f.last_not_blank⟩
  rw [Bytes.trimBlanks, hlead, htrail]

variable {f}

theorem WellFormed.isLineText (h : f.WellFormed) : IsLineText f.toBytes := by
  refine ⟨f.toBytes_ne_nil, fun b hb => ?_⟩
  rw [toBytes, List.mem_append, List.mem_cons] at hb
  obtain hb | rfl | hb := hb
  · exact isLineEnd_of_class (h.name_token b hb) (by decide) (by decide)
  · decide
  · exact isLineEnd_of_class (h.value_byte b hb) (by decide) (by decide)

/-- A name begins the line, so the line is not the one that ends the block. -/
theorem WellFormed.not_lineEnd (h : f.WellFormed) {b : UInt8} {tail : Bytes}
    (hparts : f.toBytes = b :: tail) : ¬ (b = cr ∨ b = lf) := by
  have hb : isLineEnd b = false := h.isLineText.inside b (hparts ▸ List.mem_cons_self)
  simpa [isLineEnd] using hb

end FieldText

/-- **The rule for a field finds what a line says.** -/
theorem field_eq_found_iff_text {g : Field} :
    field s = .found g rest ↔ ∃ (f : FieldText) (ending : Bytes), f.WellFormed ∧ IsLineEnd ending ∧
      g = f.field ∧ s = f.toBytes ++ (ending ++ lf :: rest) := by
  rw [field_eq_found_iff]
  constructor
  · rintro ⟨value, ending, rfl, hend, hne, htoken, hvalue, htrim⟩
    have hmem : colon ∈ g.name ++ colon :: value := by simp
    obtain ⟨f, hf⟩ := exists_fieldText hmem
    -- Both cut the line at its first colon.
    have hcolon := not_mem_of_class htoken (b := colon) (by decide)
    obtain ⟨hname, hafter⟩ := Bytes.append_cons_inj f.no_colon hcolon hf
    refine ⟨f, ending, ⟨hname ▸ hne, hname ▸ htoken, hafter ▸ hvalue⟩, hend, ?_, by rw [hf]; simp⟩
    rw [FieldText.field, hname, ← f.trimBlanks_eq, hafter, ← htrim]
  · rintro ⟨f, ending, hf, hend, rfl, rfl⟩
    exact ⟨f.lead ++ (f.value ++ f.trail), ending, by simp [FieldText.toBytes, FieldText.field], hend,
      hf.name_ne_nil, hf.name_token, hf.value_byte, f.trimBlanks_eq.symm⟩

/-- An empty line ends the block. -/
theorem fields_lineEnd (hend : IsLineEnd ending) (room : Nat) (rest : Bytes) :
    fields room (ending ++ lf :: rest) = .found [] rest := by
  have hline : lineEnd (ending ++ lf :: rest) = .found () rest :=
    lineEnd_eq_found_iff.2 ⟨ending, rfl, hend⟩
  obtain rfl | rfl := hend
  · rw [List.nil_append] at hline ⊢
    rw [fields, if_pos (.inr rfl), hline]
    rfl
  · rw [List.singleton_append] at hline ⊢
    rw [fields, if_pos (.inl rfl), hline]
    rfl

/-- A field on top of a block takes up room for one. -/
theorem fields_text {f : FieldText} (hf : f.WellFormed) (hend : IsLineEnd ending) (room : Nat)
    (block : Bytes) :
    fields (room + 1) (f.toBytes ++ (ending ++ lf :: block)) =
      (fields room block).map (f.field :: ·) := by
  have hfound : field (f.toBytes ++ (ending ++ lf :: block)) = .found f.field block :=
    field_eq_found_iff_text.2 ⟨f, ending, hf, hend, rfl, rfl⟩
  obtain ⟨b, tail, hparts⟩ := List.exists_cons_of_ne_nil f.toBytes_ne_nil
  rw [hparts, List.cons_append] at hfound ⊢
  rw [fields_cons _ (hf.not_lineEnd hparts), hfound]
  rfl

/-- **How a block of fields was written** in front of `rest`: each of them on a line, and then an empty
line. -/
inductive Written (rest : Bytes) : List Field → Bytes → Prop
  | done {ending : Bytes} (hend : IsLineEnd ending) : Written rest [] (ending ++ lf :: rest)
  | line (f : FieldText) {ending block : Bytes} {fs : List Field} (hf : f.WellFormed)
      (hend : IsLineEnd ending) (h : Written rest fs block) :
      Written rest (f.field :: fs) (f.toBytes ++ (ending ++ lf :: block))

/-- **The fields that are found are those that were written**, if there are no more than there is room
for. -/
theorem fields_eq_found_iff :
    fields room block = .found fs rest ↔ Written rest fs block ∧ fs.length ≤ room := by
  constructor
  · intro h
    fun_induction fields room block generalizing fs with
    | case1 | case3 | case4 | case5 => cases h
    | case2 =>
      obtain ⟨⟨⟩, hline, rfl⟩ := Scan.map_eq_found_iff.1 h
      obtain ⟨ending, hs, hend⟩ := lineEnd_eq_found_iff.1 hline
      exact ⟨hs ▸ .done hend, Nat.zero_le _⟩
    | case6 b s hb g left hfield room _ ih =>
      obtain ⟨gs, hrest, rfl⟩ := Scan.map_eq_found_iff.1 h
      obtain ⟨f, ending, hf, hend, rfl, hs⟩ := field_eq_found_iff_text.1 hfield
      obtain ⟨hwritten, hroom⟩ := ih hrest
      exact ⟨hs ▸ .line f hf hend hwritten, Nat.succ_le_succ hroom⟩
  · rintro ⟨h, hroom⟩
    induction h generalizing room with
    | done hend => exact fields_lineEnd hend room rest
    | line f hf hend h ih =>
      obtain ⟨fewer, rfl⟩ : ∃ fewer, room = fewer + 1 := Nat.exists_eq_succ_of_ne_zero (by
        rintro rfl
        cases hroom)
      rw [fields_text hf hend, ih (Nat.le_of_succ_le_succ hroom)]
      rfl

/-! ## First lines -/

/-- A rule that uses up part of a line. -/
def StaysOnLine (rule : Bytes → Scan α) : Prop :=
  ∀ s a rest, rule s = .found a rest → ∃ run, s = run ++ rest ∧ ∀ b ∈ run, isLineEnd b = false

/-- A rule that uses up a line and its end. -/
def EndsLine (rule : Bytes → Scan α) : Prop :=
  ∀ s a rest, rule s = .found a rest → ∃ text ending, s = text ++ (ending ++ lf :: rest) ∧
    (∀ b ∈ text, isLineEnd b = false) ∧ IsLineEnd ending

theorem StaysOnLine.andThen {rule : Bytes → Scan α} {next : α → Bytes → Scan β} (h : StaysOnLine rule)
    (hnext : ∀ a, EndsLine (next a)) : EndsLine fun s => (rule s).andThen next := by
  intro s c rest hfound
  obtain ⟨a, left, hrule, hleft⟩ := Scan.andThen_eq_found_iff.1 hfound
  obtain ⟨run, rfl, hrun⟩ := h s a left hrule
  obtain ⟨text, ending, rfl, htext, hend⟩ := hnext a left c rest hleft
  exact ⟨run ++ text, ending, by simp, List.forall_mem_append.2 ⟨hrun, htext⟩, hend⟩

theorem EndsLine.map {rule : Bytes → Scan α} (f : α → β) (h : EndsLine rule) :
    EndsLine fun s => (rule s).map f := by
  intro s c rest hfound
  obtain ⟨a, hrule, -⟩ := Scan.map_eq_found_iff.1 hfound
  exact h s a rest hrule

theorem EndsLine.bad : EndsLine fun _ => (.bad : Scan α) := fun _ _ _ h => by cases h

theorem staysOnLine_runThen {stop : UInt8} (hp : p cr = false ∧ p lf = false)
    (hstop : isLineEnd stop = false) (hnot : p stop = false) : StaysOnLine (runThen p stop) := by
  intro s run rest hfound
  obtain ⟨rfl, -, hrun⟩ := (runThen_eq_found_iff hnot).1 hfound
  refine ⟨run ++ [stop], by simp, List.forall_mem_append.2 ⟨fun b hb => ?_, by simpa using hstop⟩⟩
  exact isLineEnd_of_class (hrun b hb) hp.1 hp.2

theorem staysOnLine_version : StaysOnLine version := by
  intro s minor rest hfound
  obtain ⟨rfl, -⟩ := version_eq_found_iff.1 hfound
  have hstart : ∀ b ∈ versionStart, isLineEnd b = false := by decide +kernel
  have hdigit : isLineEnd (versionDigit minor) = false := by
    unfold versionDigit
    split <;> decide
  exact ⟨versionStart ++ [versionDigit minor], by simp,
    List.forall_mem_append.2 ⟨hstart, by simpa using hdigit⟩⟩

theorem staysOnLine_digit : StaysOnLine digit := by
  intro s n rest hfound
  cases s with
  | nil => cases hfound
  | cons b s =>
    rw [digit] at hfound
    split at hfound
    next hb =>
      cases hfound
      refine ⟨[b], rfl, List.forall_mem_singleton.2 ?_⟩
      exact isLineEnd_of_class (p := fun b => 0x30 ≤ b ∧ b ≤ 0x39) (by simpa using hb) (by decide)
        (by decide)
    next => cases hfound

theorem endsLine_lineEnd : EndsLine lineEnd := by
  intro s _ rest hfound
  obtain ⟨ending, hs, hend⟩ := lineEnd_eq_found_iff.1 hfound
  exact ⟨[], ending, hs, List.forall_mem_nil _, hend⟩

theorem endsLine_valueLine : EndsLine valueLine := by
  intro s value rest hfound
  obtain ⟨ending, hs, hend, hvalue⟩ := valueLine_eq_found_iff.1 hfound
  exact ⟨value, ending, hs, fun b hb => isLineEnd_of_class (hvalue b hb) (by decide) (by decide), hend⟩

/-- A rule that asks for a space first. -/
theorem EndsLine.space {rule : Bytes → Scan α} (h : EndsLine rule) :
    EndsLine fun s => match s with
      | [] => .cut
      | b :: s => if b ≠ space then .bad else rule s := by
  intro s a rest hfound
  cases s with
  | nil => cases hfound
  | cons b s =>
    dsimp only at hfound
    split at hfound
    next => cases hfound
    next hb =>
      obtain ⟨text, ending, rfl, htext, hend⟩ := h s a rest hfound
      refine ⟨b :: text, ending, rfl, List.forall_mem_cons.2 ⟨?_, htext⟩, hend⟩
      rw [not_not.1 hb]
      decide

theorem endsLine_reason : EndsLine reason := by
  intro s a rest hfound
  cases s with
  | nil => cases hfound
  | cons b s =>
    rw [reason] at hfound
    split at hfound
    next hb =>
      obtain ⟨text, ending, rfl, htext, hend⟩ := endsLine_valueLine.map _ s a rest hfound
      refine ⟨b :: text, ending, rfl, List.forall_mem_cons.2 ⟨?_, htext⟩, hend⟩
      rw [hb]
      decide
    next => exact endsLine_lineEnd _ _ _ hfound

theorem endsLine_statusLine : EndsLine statusLine :=
  staysOnLine_version.andThen fun _ => .space <|
    staysOnLine_digit.andThen fun _ => staysOnLine_digit.andThen fun _ =>
      staysOnLine_digit.andThen fun _ => endsLine_reason.map _

theorem endsLine_requestLine : EndsLine requestLine := by
  refine (staysOnLine_runThen (by decide) (by decide) (by decide)).andThen fun method => ?_
  refine (staysOnLine_runThen (by decide) (by decide) (by decide)).andThen fun target => ?_
  split
  · exact .bad
  · exact staysOnLine_version.andThen fun minor => endsLine_lineEnd.map _

/-! ## Heads -/

/-- The empty lines in front of a message hold nothing but line ends, and the message begins with another
byte. -/
theorem exists_of_emptyLines (h : emptyLines s = .found () rest) :
    ∃ lead, s = lead ++ rest ∧ (∀ b ∈ lead, isLineEnd b = true) ∧
      ∀ b ∈ rest.head?, isLineEnd b = false := by
  -- A line may end in one byte or in two, so the rule's own cases are those of the proof.
  induction s using emptyLines.induct with
  | case1 | case3 => cases h
  | case2 tail ih =>
    rw [emptyLines_lf] at h
    obtain ⟨lead, rfl, hlead, hrest⟩ := ih h
    exact ⟨lf :: lead, rfl, List.forall_mem_cons.2 ⟨rfl, hlead⟩, hrest⟩
  | case4 tail _ ih =>
    rw [emptyLines_crlf] at h
    obtain ⟨lead, rfl, hlead, hrest⟩ := ih h
    exact ⟨cr :: lf :: lead, rfl,
      List.forall_mem_cons.2 ⟨rfl, List.forall_mem_cons.2 ⟨rfl, hlead⟩⟩, hrest⟩
  | case5 c tail hc =>
    rw [emptyLines_cr_of_ne hc] at h
    cases h
  | case6 b tail hlf hcr =>
    rw [emptyLines_of_ne hlf hcr] at h
    obtain rfl := (Scan.found.inj h).2
    exact ⟨[], rfl, List.forall_mem_nil _, by simp [isLineEnd, hlf, hcr]⟩

/-- **How a head was written** in front of `rest`: empty lines, a first line, and a block of fields. -/
inductive WrittenHead (rest : Bytes) (fs : List Field) : Bytes → Prop
  | mk (lead : Bytes) {text ending block : Bytes} (hlead : ∀ b ∈ lead, isLineEnd b = true)
      (htext : IsLineText text) (hend : IsLineEnd ending) (h : Written rest fs block) :
      WrittenHead rest fs (lead ++ (text ++ (ending ++ lf :: block)))

theorem writtenHead_of_head {start : Bytes → Scan α} {h : Head α} (hstart : EndsLine start)
    (hfound : head start message = .found h rest) : WrittenHead rest h.fields message := by
  obtain ⟨⟨⟩, afterLead, hempty, hstarted⟩ := Scan.andThen_eq_found_iff.1 hfound
  obtain ⟨first, block, hfirst, hblock⟩ := Scan.andThen_eq_found_iff.1 hstarted
  obtain ⟨fs, hfields, rfl⟩ := Scan.map_eq_found_iff.1 hblock
  obtain ⟨lead, rfl, hlead, hnot⟩ := exists_of_emptyLines hempty
  obtain ⟨text, ending, rfl, hinside, hend⟩ := hstart _ _ _ hfirst
  have htext : IsLineText text := by
    refine ⟨fun hnil => ?_, hinside⟩
    -- Without a text the line would be one more of the empty lines.
    subst hnil
    obtain rfl | rfl := hend
    · exact absurd (hnot lf rfl) (by decide)
    · exact absurd (hnot cr rfl) (by decide)
  exact .mk lead hlead htext hend (fields_eq_found_iff.1 hfields).1

/-- The grammar finds a head with these fields in front of `rest`: that of a request or that of a
response. -/
def HasHead (fs : List Field) (rest message : Bytes) : Prop :=
  (∃ line, requestHead message = .found ⟨line, fs⟩ rest) ∨
    ∃ line, responseHead message = .found ⟨line, fs⟩ rest

theorem HasHead.written (h : HasHead fs rest message) : WrittenHead rest fs message := by
  obtain ⟨line, hfound⟩ | ⟨line, hfound⟩ := h
  · exact writtenHead_of_head endsLine_requestLine hfound
  · exact writtenHead_of_head endsLine_statusLine hfound

end HttpReplay.Http
