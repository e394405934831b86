import HttpReplay.Proofs.Http.Fields
import HttpReplay.Proofs.Http.Lines
import HttpReplay.Proofs.Http.Scan

/-!
Edited blocks stay what they were.

Setting a field looks at a block with one reader, and whoever gets the message looks at it with another,
which refuses what is no head. The two go by the same lines: a block with a line on top is acceptable to
the grammar if the line is a field and the rest is acceptable (`acceptable_line_iff`), and whether a line
is a field is decided by the parts that the search cuts it into (`FieldText.exists_field_iff`). So an edit
that keeps the name and puts bytes in that may stand in a value keeps a block acceptable. It may come to
have too many fields, but that is no reason to call it malformed, and having room for fewer never is
(`acceptable_of_succ`).
-/

set_option autoImplicit false

namespace HttpReplay.Http

open Bytes (lf cr colon space isBlank)

variable {name value line rest block ending : Bytes} {room : Nat}

/-! ## What the grammar says of a line -/

theorem isLineEnd_of_class {p : UInt8 → Bool} {b : UInt8} (hb : p b = true) (hcr : p cr = false)
    (hlf : p lf = false) : isLineEnd b = false := by
  have hnotcr : b ≠ cr := fun heq => by simp [heq, hcr] at hb
  have hnotlf : b ≠ lf := fun heq => by simp [heq, hlf] at hb
  simp [isLineEnd, hnotcr, hnotlf]

/-- What a field was written as has no line feed but the one that ends it. -/
theorem lf_not_mem_written (hname : ∀ b ∈ name, isToken b = true)
    (hvalue : ∀ b ∈ value, isValueByte b = true) (hend : IsLineEnd ending) :
    lf ∉ name ++ colon :: (value ++ ending) := by
  have hcolon : lf ≠ colon := by decide
  have hending : lf ∉ ending := by obtain rfl | rfl := hend <;> decide
  have hname := not_mem_of_class hname (b := lf) (by decide)
  have hbytes := not_mem_of_class hvalue (b := lf) (by decide)
  simp [hname, hbytes, hcolon, hending]

/-- A field ends where its line does. -/
theorem field_line_iff {f : Field} {left : Bytes} (hlf : lf ∉ line) :
    field (line ++ lf :: rest) = .found f left ↔
      left = rest ∧ ∃ value ending, line = f.name ++ colon :: (value ++ ending) ∧
        IsLineEnd ending ∧ f.name ≠ [] ∧ (∀ b ∈ f.name, isToken b = true) ∧
        (∀ b ∈ value, isValueByte b = true) ∧ f.value = Bytes.trimBlanks value := by
  rw [field_eq_found_iff]
  constructor
  · rintro ⟨value, ending, hs, hend, hne, htoken, hvalue, htrim⟩
    have hlf' := lf_not_mem_written htoken hvalue hend
    have hparts : line ++ lf :: rest = (f.name ++ colon :: (value ++ ending)) ++ lf :: left := by
      simp [hs]
    obtain ⟨rfl, rfl⟩ := Bytes.append_cons_inj hlf hlf' hparts
    exact ⟨rfl, value, ending, rfl, hend, hne, htoken, hvalue, htrim⟩
  · rintro ⟨rfl, value, ending, rfl, hend, hne, htoken, hvalue, htrim⟩
    exact ⟨value, ending, by simp, hend, hne, htoken, hvalue, htrim⟩

/-- **The parts that a line is cut into decide whether it is a field.** -/
theorem FieldText.exists_field_iff (f : FieldText) (hending : IsEnding f.toBytes ending)
    (hlf : lf ∉ f.toBytes) :
    (∃ g, field (f.toBytes ++ ending ++ lf :: rest) = .found g rest) ↔
      f.name ≠ [] ∧ (∀ b ∈ f.name, isToken b = true) ∧
        ∀ b ∈ f.lead ++ (f.value ++ f.trail), isValueByte b = true := by
  have hline := lf_not_mem_append_ending hlf hending
  constructor
  · rintro ⟨g, hfield⟩
    obtain ⟨-, value, ending', hparts, hend, hne, htoken, hvalue, -⟩ :=
      (field_line_iff hline).1 hfield
    -- Both readings cut at the first colon, so what comes before it is one name.
    have hcolon := not_mem_of_class htoken (b := colon) (by decide)
    rw [toBytes, List.append_assoc, List.cons_append] at hparts
    obtain ⟨hname, hafter⟩ := Bytes.append_cons_inj f.no_colon hcolon hparts
    rw [hname]
    refine ⟨hne, htoken, ?_⟩
    have hcr := not_mem_of_class hvalue (b := cr) (by decide)
    -- After it, only the carriage return at the end can be read in two ways.
    suffices hsame : f.lead ++ (f.value ++ f.trail) = value by rwa [hsame]
    generalize hs : f.lead ++ (f.value ++ f.trail) = s at hafter
    obtain rfl | ⟨rfl, hlast⟩ := hending
    · obtain rfl | rfl := hend
      · rw [List.append_nil] at hafter
        exact absurd (hafter ▸ List.mem_append_right s (List.mem_singleton.2 rfl)) hcr
      · exact (List.append_inj' hafter rfl).1
    · rw [List.append_nil] at hafter
      obtain rfl | rfl := hend
      · rw [hafter, List.append_nil]
      · have hbytes : f.toBytes = (f.name ++ colon :: value) ++ [cr] := by
          rw [toBytes, hs, hafter]
          simp
        rw [hbytes, List.getLast?_concat] at hlast
        exact absurd rfl hlast
  · rintro ⟨hne, htoken, hvalue⟩
    have hend : IsLineEnd ending := hending.symm.imp And.left id
    exact ⟨⟨f.name, Bytes.trimBlanks (f.lead ++ (f.value ++ f.trail))⟩, (field_line_iff hline).2
      ⟨rfl, _, ending, by simp [toBytes], hend, hne, htoken, hvalue, rfl⟩⟩

/-! ## Acceptable blocks -/

/-- A block that a head can go on with: no byte is wrong, up to the end of the block, to the end of the
bytes, or until there are more fields than there is room for. -/
def Acceptable (room : Nat) (block : Bytes) : Prop := fields room block ≠ .refused .malformed

theorem acceptable_nil : Acceptable room [] := by
  rw [Acceptable, fields]
  rintro ⟨⟩

/-- A block that does not begin with a field ends there, if it is one at all. -/
theorem acceptable_end_iff {b : UInt8} {s : Bytes} (hb : b = cr ∨ b = lf) :
    Acceptable room (b :: s) ↔ lineEnd (b :: s) ≠ .bad := by
  rw [Acceptable, fields, if_pos hb]
  cases lineEnd (b :: s) <;> simp [Scan.map]

/-- A field, and what comes after it as far as there is room. -/
theorem acceptable_cons_iff {b : UInt8} {s : Bytes} (hb : ¬ (b = cr ∨ b = lf)) :
    Acceptable room (b :: s) ↔
      field (b :: s) ≠ .bad ∧
        ∀ f rest, field (b :: s) = .found f rest → ∀ fewer, room = fewer + 1 → Acceptable fewer rest := by
  rw [Acceptable, fields_cons room hb]
  cases hfield : field (b :: s) with
  | found f rest =>
    cases room with
    | zero => simp [Scan.andThen]
    | succ room =>
      have hmap : (fields room rest).map (f :: ·) ≠ .refused .malformed ↔ Acceptable room rest := by
        rw [Acceptable]
        cases fields room rest <;> simp [Scan.map]
      refine hmap.trans ⟨fun h => ⟨by rintro ⟨⟩, ?_⟩, fun h => h.2 f rest rfl room rfl⟩
      rintro _ _ hsame fewer hroom
      cases hsame
      cases hroom
      exact h
  | cut => simp [Scan.andThen]
  | refused why => simp [Scan.andThen]

/-- **A line, and the lines below it.** -/
theorem acceptable_line_iff (hlf : lf ∉ line) (htext : (splitLineEnd line).1 ≠ []) :
    Acceptable room (line ++ lf :: rest) ↔
      (∃ f, field (line ++ lf :: rest) = .found f rest) ∧
        ∀ fewer, room = fewer + 1 → Acceptable fewer rest := by
  cases line with
  | nil => exact absurd rfl htext
  | cons b line =>
    have hblf : ¬ b = lf := fun h => hlf (h ▸ List.mem_cons_self)
    rw [List.cons_append]
    by_cases hcr : b = cr
    · -- A line that begins with a carriage return and goes on is neither a field nor an end.
      subst hcr
      cases line with
      | nil => exact absurd rfl htext
      | cons c line =>
        have hclf : ¬ c = lf := fun h => hlf (by simp [h])
        have hcrlf : ¬ cr = lf := by decide
        have hbad : lineEnd (cr :: (c :: line ++ lf :: rest)) = .bad := by
          simp [lineEnd, hclf, hcrlf]
        rw [acceptable_end_iff (.inl rfl), hbad]
        refine ⟨fun h => absurd rfl h, ?_⟩
        rintro ⟨⟨f, hfield⟩, -⟩
        obtain ⟨-, value, ending, hparts, -, hne, htoken, -⟩ := (field_line_iff hlf).1 hfield
        obtain ⟨x, name, hname⟩ := List.exists_cons_of_ne_nil hne
        rw [hname] at hparts htoken
        obtain ⟨rfl, -⟩ := List.cons.inj hparts
        exact absurd (htoken cr List.mem_cons_self) (by decide)
    · rw [acceptable_cons_iff (not_or.2 ⟨hcr, hblf⟩)]
      obtain hbad | ⟨f, left, hfound⟩ := ends_field (b :: (line ++ lf :: rest)) (by simp)
      · rw [hbad]
        simp
      · obtain ⟨rfl, -⟩ := (field_line_iff hlf).1 hfound
        rw [hfound]
        simp

/-- A line that is cut into parts, and the lines below it. -/
theorem acceptable_field_iff (f : FieldText) (hending : IsEnding f.toBytes ending)
    (hlf : lf ∉ f.toBytes) :
    Acceptable room (f.toBytes ++ ending ++ lf :: rest) ↔
      (f.name ≠ [] ∧ (∀ b ∈ f.name, isToken b = true) ∧
        ∀ b ∈ f.lead ++ (f.value ++ f.trail), isValueByte b = true) ∧
        ∀ fewer, room = fewer + 1 → Acceptable fewer rest := by
  have htext : (splitLineEnd (f.toBytes ++ ending)).1 ≠ [] := by
    rw [splitLineEnd_eq_iff.2 ⟨rfl, hending⟩]
    exact f.toBytes_ne_nil
  rw [acceptable_line_iff (lf_not_mem_append_ending hlf hending) htext,
    f.exists_field_iff hending hlf]

/-- **With room for fewer fields a block is no worse.** -/
theorem acceptable_of_succ (h : Acceptable (room + 1) block) : Acceptable room block := by
  -- Each field uses up room, so the induction is on that.
  induction room using Nat.strongRecOn generalizing block with
  | ind room ih =>
    cases block with
    | nil => exact acceptable_nil
    | cons b block =>
      by_cases hb : b = cr ∨ b = lf
      · rwa [acceptable_end_iff hb] at h ⊢
      · rw [acceptable_cons_iff hb] at h ⊢
        refine ⟨h.1, fun f rest hfound fewer hroom => ?_⟩
        exact ih fewer (by omega) (h.2 f rest hfound (fewer + 1) (by omega))

/-! ## Edits that keep a block acceptable -/

/-- A value of these bytes may be put in the place of another. -/
theorem Located.acceptable_replace {place : Place} (h : Located name block place)
    (hvalue : IsValue value) (hbytes : ∀ b ∈ value, isValueByte b = true)
    (hblock : Acceptable room block) :
    Acceptable room ({ place with value := value } : Place).whole := by
  induction h generalizing room with
  | here f ending rest hname hending hlf =>
    rw [acceptable_field_iff f hending hlf] at hblock
    rw [f.whole_replace hvalue, acceptable_field_iff (f.replace value hvalue)
      (f.isEnding_replace hvalue hending) (f.lf_not_mem_replace hvalue hlf)]
    obtain ⟨⟨hne, htoken, hparts⟩, hrest⟩ := hblock
    refine ⟨⟨hne, htoken, ?_⟩, hrest⟩
    simp only [FieldText.replace, List.forall_mem_append] at hparts ⊢
    exact ⟨hparts.1, hbytes, hparts.2.2⟩
  | later line hlf htext hnone _ ih =>
    rw [acceptable_line_iff hlf htext] at hblock
    rw [Place.whole_behind, acceptable_line_iff hlf htext]
    obtain ⟨⟨f, hfield⟩, hrest⟩ := hblock
    -- What a field is says nothing of the lines below it.
    exact ⟨⟨f, (field_line_iff hlf).2 ⟨rfl, ((field_line_iff hlf).1 hfield).2⟩⟩,
      fun fewer hroom => ih (hrest fewer hroom)⟩

/-- **Setting a field keeps a block acceptable** if its name and its value may stand in a field. -/
theorem acceptable_setInBlock (hne : name ≠ []) (htoken : ∀ b ∈ name, isToken b = true)
    (hvalue : IsValue value) (hbytes : ∀ b ∈ value, isValueByte b = true)
    (hblock : Acceptable room block) : Acceptable room (setInBlock name value block) := by
  cases hplace : locateInBlock? name block with
  | some place =>
    rw [setInBlock, hplace]
    exact (locateInBlock?_eq_some_iff.1 hplace).acceptable_replace hvalue hbytes hblock
  | none =>
    have hcolon := not_mem_of_class htoken (b := colon) (by decide)
    have hlf := lf_not_mem_newField hcolon (not_mem_of_class htoken (by decide)) hvalue
    rw [setInBlock_of_none hplace hcolon hvalue,
      acceptable_field_iff _ (isEnding_newField hcolon hvalue) hlf]
    refine ⟨⟨hne, htoken, ?_⟩, ?_⟩
    · have hspace : isValueByte space = true := by decide
      simpa [newField, hspace] using hbytes
    · rintro fewer rfl
      exact acceptable_of_succ hblock

/-! ## What comes after a block -/

/-- What follows the empty line that ends a block of lines. -/
def afterBlock? (block : Bytes) : Option Bytes :=
  match h : Bytes.splitAtByte? lf block with
  | none => none
  | some (line, rest) =>
    have := Bytes.length_of_splitAtByte? h
    if (splitLineEnd line).1.isEmpty then some rest else afterBlock? rest
termination_by block.length

theorem afterBlock?_line (h : lf ∉ line) (rest : Bytes) :
    afterBlock? (line ++ lf :: rest) =
      if (splitLineEnd line).1.isEmpty then some rest else afterBlock? rest := by
  rw [afterBlock?]
  split
  next hcut =>
    rw [Bytes.splitAtByte?_append h] at hcut
    cases hcut
  next hcut =>
    rw [Bytes.splitAtByte?_append h] at hcut
    obtain ⟨rfl, rfl⟩ := Prod.mk.inj (Option.some.inj hcut)
    rfl

/-- No field is an empty line. -/
theorem afterBlock?_field (f : FieldText) (hending : IsEnding f.toBytes ending)
    (hlf : lf ∉ f.toBytes) (rest : Bytes) :
    afterBlock? (f.toBytes ++ ending ++ lf :: rest) = afterBlock? rest := by
  rw [afterBlock?_line (lf_not_mem_append_ending hlf hending),
    splitLineEnd_eq_iff.2 ⟨rfl, hending⟩]
  exact if_neg (by simp [f.toBytes_ne_nil])

/-- Where the grammar sees a block end, the lines end it too. -/
theorem afterBlock?_of_fields {fs : List Field} (h : fields room block = .found fs rest) :
    afterBlock? block = some rest := by
  fun_induction fields room block generalizing fs with
  | case1 | case3 | case4 | case5 => cases h
  | case2 _ b s hb =>
    obtain ⟨_, hline, -⟩ := Scan.map_eq_found_iff.1 h
    obtain ⟨ending, hs, hend⟩ := lineEnd_eq_found_iff.1 hline
    rw [hs]
    obtain rfl | rfl := hend <;> exact afterBlock?_line (by decide) rest
  | case6 b s hb f left hfield room _ ih =>
    obtain ⟨_, hrest, -⟩ := Scan.map_eq_found_iff.1 h
    obtain ⟨value, ending, hs, hend, -, htoken, hvalue, -⟩ := field_eq_found_iff.1 hfield
    have hlf := lf_not_mem_written htoken hvalue hend
    -- The colon is not part of the line's end, so the line has a text.
    have hgoes : ¬ (splitLineEnd (f.name ++ colon :: (value ++ ending))).1.isEmpty = true := by
      rw [List.isEmpty_iff]
      intro hempty
      obtain ⟨hline, hending⟩ := splitLineEnd_eq_iff.1 (Prod.ext hempty rfl)
      have hcolon : colon ∈ f.name ++ colon :: (value ++ ending) := by simp
      rw [hline] at hcolon
      obtain hcr | ⟨hnil, -⟩ := hending
      · rw [hcr] at hcolon
        simp [colon, cr] at hcolon
      · rw [hnil] at hcolon
        cases hcolon
    rw [hs, ← List.append_assoc value, ← List.cons_append, ← List.append_assoc,
      afterBlock?_line hlf, if_neg hgoes]
    exact ih hrest

theorem Located.afterBlock?_replace {place : Place} (h : Located name block place)
    (hvalue : IsValue value) :
    afterBlock? ({ place with value := value } : Place).whole = afterBlock? block := by
  induction h with
  | here f ending rest hname hending hlf =>
    rw [f.whole_replace hvalue, afterBlock?_field f hending hlf,
      afterBlock?_field _ (f.isEnding_replace hvalue hending) (f.lf_not_mem_replace hvalue hlf)]
  | later line hlf htext hnone _ ih =>
    have hgoes : ¬ (splitLineEnd line).1.isEmpty = true := by simpa using htext
    rw [Place.whole_behind, afterBlock?_line hlf, afterBlock?_line hlf, if_neg hgoes, if_neg hgoes, ih]

/-- **Setting a field leaves what comes after the block as it is.** -/
theorem afterBlock?_setInBlock (hcolon : colon ∉ name) (hlf : lf ∉ name) (hvalue : IsValue value) :
    afterBlock? (setInBlock name value block) = afterBlock? block := by
  cases hplace : locateInBlock? name block with
  | some place =>
    rw [setInBlock, hplace]
    exact (locateInBlock?_eq_some_iff.1 hplace).afterBlock?_replace hvalue
  | none =>
    rw [setInBlock_of_none hplace hcolon hvalue,
      afterBlock?_field _ (isEnding_newField hcolon hvalue) (lf_not_mem_newField hcolon hlf hvalue)]

/-- What follows the head of a message: everything after the first empty line below the first line. -/
def afterHead? (message : Bytes) : Option Bytes :=
  match Bytes.splitAtByte? lf message with
  | none => none
  | some (_, block) => afterBlock? block

theorem afterHead?_line {startLine : Bytes} (h : lf ∉ startLine) (block : Bytes) :
    afterHead? (startLine ++ lf :: block) = afterBlock? block := by
  rw [afterHead?, Bytes.splitAtByte?_append h]

end HttpReplay.Http
