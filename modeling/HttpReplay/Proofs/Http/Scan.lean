import HttpReplay.Http.Framing

/-!
Verdicts of the grammar are firm.

A rule of the grammar that has found its match, or has refused, says the same of every longer
string; what is added is left over. This is why a client may look at a response after every portion
of it: what it has concluded from the head stays true, however the bytes were cut.

Firmness goes from rules to rules made of them (`Firm.andThen`, `Firm.map`), so only the rules that
look at bytes themselves need an argument of their own. Each of these asks for one byte after the
other, except `version`, which looks at eight at once and has to be cut where they could still come.
-/

set_option autoImplicit false

namespace HttpReplay.Http

variable {α β : Type}

/-- The same verdict with more bytes left over. -/
def Scan.extend (more : Bytes) : Scan α → Scan α
  | .found value rest => .found value (rest ++ more)
  | .cut => .cut
  | .refused why => .refused why

/-- Bytes added to a string change a rule's verdict on it only if it is that they end too soon. -/
def FirmAt (rule : Bytes → Scan α) (s : Bytes) : Prop :=
  ∀ more, rule s ≠ .cut → rule (s ++ more) = (rule s).extend more

def Firm (rule : Bytes → Scan α) : Prop := ∀ s, FirmAt rule s

theorem FirmAt.andThen {rule : Bytes → Scan α} {next : α → Bytes → Scan β} {s : Bytes}
    (h : FirmAt rule s) (hnext : ∀ a rest, rule s = .found a rest → FirmAt (next a) rest) :
    FirmAt (fun s => (rule s).andThen next) s := by
  intro more hcut
  have hrule := h more
  dsimp only at hcut ⊢
  cases hs : rule s with
  | found a rest =>
    rw [hs] at hrule hcut
    rw [hrule (by simp)]
    exact hnext a rest hs more hcut
  | cut =>
    rw [hs] at hcut
    exact absurd rfl hcut
  | refused why =>
    rw [hs] at hrule
    rw [hrule (by simp)]
    rfl

theorem FirmAt.map {rule : Bytes → Scan α} {s : Bytes} (f : α → β) (h : FirmAt rule s) :
    FirmAt (fun s => (rule s).map f) s := by
  intro more hcut
  have hrule := h more
  dsimp only at hcut ⊢
  cases hs : rule s with
  | found a rest =>
    rw [hs] at hrule
    rw [hrule (by simp)]
    rfl
  | cut =>
    rw [hs] at hcut
    exact absurd rfl hcut
  | refused why =>
    rw [hs] at hrule
    rw [hrule (by simp)]
    rfl

namespace Firm

theorem andThen {rule : Bytes → Scan α} {next : α → Bytes → Scan β} (h : Firm rule)
    (hnext : ∀ a, Firm (next a)) : Firm fun s => (rule s).andThen next :=
  fun s => (h s).andThen fun a rest _ => hnext a rest

theorem map {rule : Bytes → Scan α} (f : α → β) (h : Firm rule) :
    Firm fun s => (rule s).map f :=
  fun s => (h s).map f

theorem found (value : α) : Firm fun s => .found value s := fun _ _ _ => rfl

theorem refused (why : Refusal) : Firm fun _ => (.refused why : Scan α) := fun _ _ _ => rfl

/-- What was found is found in every longer string, with more left over. -/
theorem found_append {rule : Bytes → Scan α} (h : Firm rule) {s rest : Bytes} {value : α}
    (hs : rule s = .found value rest) (more : Bytes) :
    rule (s ++ more) = .found value (rest ++ more) := by
  rw [h s more (by simp [hs]), hs]
  rfl

/-- What is found in front of some bytes is found without them, unless the rule asks for more. -/
theorem found_of_append {rule : Bytes → Scan α} (h : Firm rule) {s rest more : Bytes} {value : α}
    (hcut : rule s ≠ .cut) (hs : rule (s ++ more) = .found value (rest ++ more)) :
    rule s = .found value rest := by
  have hfirm := h s more hcut
  rw [hs] at hfirm
  cases hrule : rule s with
  | found value' left =>
    rw [hrule] at hfirm
    obtain ⟨rfl, hsame⟩ := Scan.found.inj hfirm
    rw [List.append_cancel_right hsame]
  | cut => exact absurd hrule hcut
  | refused why =>
    rw [hrule] at hfirm
    cases hfirm

/-- What uses up a string to its end is cut in every shorter one. -/
theorem cut_of_prefix {rule : Bytes → Scan α} (h : Firm rule) {s start : Bytes} {value : α}
    (hs : rule s = .found value []) (hstart : start <+: s) (hne : start ≠ s) :
    rule start = .cut := by
  obtain ⟨more, rfl⟩ := hstart
  have hmore : more ≠ [] := fun hnil => hne (by rw [hnil, List.append_nil])
  cases hrule : rule start with
  | found value' rest =>
    rw [h.found_append hrule more] at hs
    simp only [Scan.found.injEq, List.append_eq_nil_iff] at hs
    exact absurd hs.2.2 hmore
  | cut => rfl
  | refused why =>
    rw [h start more (by simp [hrule]), hrule] at hs
    cases hs

/-- A rule that asks for a first byte is firm if it is so from there on. -/
theorem byte {rule : Bytes → Scan α} (hnil : rule [] = .cut)
    (hcons : ∀ b, Firm fun s => rule (b :: s)) : Firm rule := by
  intro s more hcut
  cases s with
  | nil => exact absurd hnil hcut
  | cons b rest => exact hcons b rest more hcut

end Firm

/-! ## Lines -/

theorem firm_lineEnd : Firm lineEnd := by
  refine .byte rfl fun b => ?_
  by_cases hlf : b = Bytes.lf
  · simp only [lineEnd, if_pos hlf]
    exact .found ()
  by_cases hcr : b = Bytes.cr
  · simp only [lineEnd, if_neg hlf, if_pos hcr]
    refine .byte rfl fun c => ?_
    dsimp only
    split
    · exact .found ()
    · exact .refused _
  · simp only [lineEnd, if_neg hlf, if_neg hcr]
    exact .refused _

theorem emptyLines_lf (s : Bytes) : emptyLines (Bytes.lf :: s) = emptyLines s := by
  rw [emptyLines.eq_def]
  exact if_pos rfl

theorem emptyLines_crlf (s : Bytes) : emptyLines (Bytes.cr :: Bytes.lf :: s) = emptyLines s := by
  rw [emptyLines.eq_def]
  exact (if_neg (by decide)).trans ((if_pos rfl).trans (if_pos rfl))

/-- A carriage return in front of another byte than a line feed ends no line. -/
theorem emptyLines_cr_of_ne {c : UInt8} (hc : ¬ c = Bytes.lf) (s : Bytes) :
    emptyLines (Bytes.cr :: c :: s) = .bad := by
  rw [emptyLines.eq_def]
  exact (if_neg (by decide)).trans ((if_pos rfl).trans (if_neg hc))

/-- No empty line begins with another byte than those that end one. -/
theorem emptyLines_of_ne {b : UInt8} (hlf : ¬ b = Bytes.lf) (hcr : ¬ b = Bytes.cr) (s : Bytes) :
    emptyLines (b :: s) = .found () (b :: s) := by
  rw [emptyLines.eq_def]
  exact (if_neg hlf).trans (if_neg hcr)

theorem firm_emptyLines : Firm emptyLines := by
  intro s
  -- A line may end in one byte or in two, so the rule's own cases are those of the proof.
  induction s using emptyLines.induct with
  | case1 | case3 => exact fun _ hcut => absurd rfl hcut
  | case2 rest ih =>
    intro more hcut
    rw [emptyLines_lf] at hcut
    rw [List.cons_append, emptyLines_lf, emptyLines_lf]
    exact ih more hcut
  | case4 tail hne ih =>
    intro more hcut
    rw [emptyLines_crlf] at hcut
    rw [List.cons_append, List.cons_append, emptyLines_crlf, emptyLines_crlf]
    exact ih more hcut
  | case5 c tail hc hne =>
    intro more _
    rw [List.cons_append, List.cons_append, emptyLines_cr_of_ne hc, emptyLines_cr_of_ne hc]
    rfl
  | case6 b rest hlf hcr =>
    intro more _
    rw [List.cons_append, emptyLines_of_ne hlf hcr, emptyLines_of_ne hlf hcr]
    rfl

theorem firm_spanThen (p : UInt8 → Bool) : Firm (spanThen p) := by
  intro s
  -- The bytes that satisfy `p` are one after the other in front of the same rule.
  induction s with
  | nil => exact fun _ hcut => absurd rfl hcut
  | cons b rest ih =>
    by_cases hb : p b = true
    · have hrule (s : Bytes) :
          spanThen p (b :: s) = (spanThen p s).map fun found => (b :: found.1, found.2) :=
        if_pos hb
      intro more hcut
      rw [List.cons_append, hrule, hrule]
      rw [hrule] at hcut
      exact ih.map _ more hcut
    · have hrule (s : Bytes) : spanThen p (b :: s) = .found ([], b) s := if_neg hb
      intro more _
      rw [List.cons_append, hrule, hrule]
      rfl

theorem firm_runThen (p : UInt8 → Bool) (stop : UInt8) : Firm (runThen p stop) := by
  refine (firm_spanThen p).andThen fun (run, b) => ?_
  dsimp only
  split
  · exact .refused _
  · exact .found run

/-- A rule that begins with a byte that is known is firm if it is so with any. -/
theorem Firm.cons {rule : Bytes → Scan α} (h : Firm rule) (b : UInt8) :
    Firm fun s => rule (b :: s) := fun s => h (b :: s)

theorem firm_valueLine : Firm valueLine :=
  (firm_spanThen isValueByte).andThen fun (_, b) => (firm_lineEnd.cons b).map _

/-! ## Start lines -/

theorem firm_version : Firm version := by
  intro s more hcut
  unfold version at hcut ⊢
  cases hs : Bytes.strip? (Bytes.ofText "HTTP/1.") s with
  | some rest =>
    have hmore : Bytes.strip? (Bytes.ofText "HTTP/1.") (s ++ more) = some (rest ++ more) := by
      rw [Bytes.strip?_eq_some.1 hs, List.append_assoc]
      exact Bytes.strip?_eq_some.2 rfl
    rw [hs] at hcut
    rw [hmore]
    cases rest with
    | nil => exact absurd rfl hcut
    | cons digit rest =>
      dsimp only [List.cons_append]
      split
      · rfl
      split
      · rfl
      · rfl
  | none =>
    rw [hs] at hcut
    dsimp only at hcut ⊢
    -- A string that could still become a version is cut. Any other has a byte that differs, and
    -- keeps it however long it gets.
    by_cases hshort : s.length < 8 ∧ s.isPrefixOf (Bytes.ofText "HTTP/1.") = true
    · rw [if_pos hshort] at hcut
      exact absurd rfl hcut
    have hnot : ¬ (s <+: Bytes.ofText "HTTP/1.") := by
      intro hprefix
      have hlength : s.length ≤ (Bytes.ofText "HTTP/1.").length := hprefix.length_le
      have hseven : (Bytes.ofText "HTTP/1.").length = 7 := by decide
      exact hshort ⟨by omega, List.isPrefixOf_iff_prefix.2 hprefix⟩
    have hmore : Bytes.strip? (Bytes.ofText "HTTP/1.") (s ++ more) = none := by
      cases hstrip : Bytes.strip? (Bytes.ofText "HTTP/1.") (s ++ more) with
      | none => rfl
      | some rest =>
        obtain ⟨missing, hpattern, -⟩ | ⟨left, hleft, -⟩ :=
          List.append_eq_append_iff.1 (Bytes.strip?_eq_some.1 hstrip)
        · exact absurd ⟨missing, hpattern.symm⟩ hnot
        · rw [Bytes.strip?_eq_some.2 hleft] at hs
          cases hs
    have hshort' : ¬ ((s ++ more).length < 8 ∧
        (s ++ more).isPrefixOf (Bytes.ofText "HTTP/1.") = true) := by
      rintro ⟨-, hprefix⟩
      exact hnot ((List.prefix_append s more).trans (List.isPrefixOf_iff_prefix.1 hprefix))
    rw [hmore]
    dsimp only
    rw [if_neg hshort, if_neg hshort']
    rfl

theorem firm_digit : Firm digit := by
  refine .byte rfl fun b => ?_
  simp only [digit]
  split
  · exact .found _
  · exact .refused _

theorem firm_reason : Firm reason := by
  refine .byte rfl fun b => ?_
  simp only [reason]
  split
  · exact firm_valueLine.map _
  · exact firm_lineEnd.cons b

theorem firm_statusLine : Firm statusLine := by
  refine firm_version.andThen fun minor => .byte rfl fun b => ?_
  dsimp only
  split
  · exact .refused _
  · exact firm_digit.andThen fun hundreds => firm_digit.andThen fun tens =>
      firm_digit.andThen fun units => firm_reason.map _

/-! ## Heads -/

theorem firm_field : Firm field :=
  (firm_runThen isToken Bytes.colon).andThen fun _ => firm_valueLine.map _

/-- The rule for fields, one field after the other. -/
theorem fields_cons (room : Nat) {b : UInt8} (hb : ¬ (b = Bytes.cr ∨ b = Bytes.lf)) (s : Bytes) :
    fields room (b :: s) = (field (b :: s)).andThen fun f rest =>
      match room with
      | 0 => .refused .crowded
      | room + 1 => (fields room rest).map (f :: ·) := by
  rw [fields, if_neg hb]
  split
  next hfield =>
    rw [hfield]
    rfl
  next why hfield =>
    rw [hfield]
    rfl
  next f rest hfield =>
    -- The rule has a proof about `rest` in it, so only the other side can be rewritten.
    have hnext (next : Field → Bytes → Scan (List Field)) :
        (field (b :: s)).andThen next = next f rest := by
      rw [hfield]
      rfl
    refine Eq.trans ?_ (hnext _).symm
    cases room <;> rfl

theorem firm_fields (room : Nat) : Firm (fields room) := by
  have firm_of_rest {room : Nat} (hrest : ∀ f : Field, Firm fun rest =>
      match room with
      | 0 => .refused .crowded
      | room + 1 => (fields room rest).map (f :: ·)) : Firm (fields room) := by
    refine .byte (by rw [fields]) fun b => ?_
    by_cases hb : b = Bytes.cr ∨ b = Bytes.lf
    · have hrule : (fun s => fields room (b :: s)) =
          fun s => (lineEnd (b :: s)).map fun _ => [] := by
        funext s
        rw [fields, if_pos hb]
      rw [hrule]
      exact (firm_lineEnd.cons b).map _
    · rw [funext (fields_cons room hb)]
      exact (firm_field.cons b).andThen hrest
  -- Each field uses up room, so the induction is on that.
  induction room with
  | zero => exact firm_of_rest fun _ => .refused _
  | succ room ih => exact firm_of_rest fun f => ih.map (f :: ·)

theorem firm_responseHead : Firm responseHead :=
  firm_emptyLines.andThen fun _ => firm_statusLine.andThen fun _ => (firm_fields maxFields).map _

end HttpReplay.Http
