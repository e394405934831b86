import HttpReplay.Text.Blank
import HttpReplay.Unicode.HostName

/-!
White space in the form of names.

No white space may stand in a name, and none is left out of it. What is written for it, where
anything is, has a character of ASCII in it that is a space or a control (`exists_of_imageOf?`). Such
a character is a part of no composite, so composition leaves it where it is (`mem_composed`). In the
form of a name with white space in it there is therefore still such a character
(`exists_of_nameForm?`), whatever stands around it.

What is said about a table here is checked on the table itself. For this a table has to be a list of
characters and not a text, which is what `rows_ofList` is for.
-/

set_option autoImplicit false

namespace HttpReplay.Unicode

/-! ## Tables -/

/-- Rows, written as characters. -/
def rowsOf (written : List Char) : List (List Nat) :=
  ((Text.parts Char.isWhitespace written).filter (!·.isEmpty)).map fun row =>
    (Text.parts (· == '.') row).map fun digits => (Numeral.digits? 16 digits).getD 0

/-- What holds of the rows that the characters of a table spell holds of the rows of the table. -/
theorem of_rowsOf {written : String} {cs : List Char} {p : List (List Nat) → Bool}
    (hwritten : written = String.ofList cs) (h : p (rowsOf cs) = true) :
    p (rows written) = true := by
  subst hwritten
  rw [rows, String.toList_ofList]
  exact h

/-- The white space that is not ASCII. -/
def wideBlanks : List Char :=
  ['\u0085', '\u00A0', '\u1680', '\u2000', '\u2001', '\u2002', '\u2003', '\u2004', '\u2005',
    '\u2006', '\u2007', '\u2008', '\u2009', '\u200A', '\u2028', '\u2029', '\u202F', '\u205F',
    '\u3000']

theorem mem_wideBlanks {c : Char} (hc : Text.isBlank c = true) (hwide : 0x20 < c.toNat) :
    c ∈ wideBlanks := by
  have hcode : c.toNat ∈ wideBlanks.map Char.toNat := by
    have hcodes : wideBlanks.map Char.toNat = [0x85, 0xA0, 0x1680, 0x2000, 0x2001, 0x2002, 0x2003,
      0x2004, 0x2005, 0x2006, 0x2007, 0x2008, 0x2009, 0x200A, 0x2028, 0x2029, 0x202F, 0x205F,
      0x3000] := by decide
    simp only [Text.isBlank, Bool.or_eq_true, Bool.and_eq_true, decide_eq_true_eq,
      beq_iff_eq] at hc
    simp only [hcodes, List.mem_cons, List.not_mem_nil, or_false]
    omega
  obtain ⟨d, hd, heq⟩ := List.mem_map.1 hcode
  rwa [← Char.toNat_inj.1 heq]

set_option maxRecDepth 100000 in
theorem valid_wideBlanks :
    (NameTable.valid.all fun e => wideBlanks.all fun c => !e.covers c) = true := by
  unfold NameTable.valid Entry.table
  apply of_rowsOf (p := fun r => (Entry.ofRows 0 r).all fun e => wideBlanks.all fun c =>
    !e.covers c)
  · rfl
  · decide +kernel

set_option maxRecDepth 100000 in
theorem ignored_wideBlanks :
    (NameTable.ignored.all fun e => wideBlanks.all fun c => !e.covers c) = true := by
  unfold NameTable.ignored Entry.table
  apply of_rowsOf (p := fun r => (Entry.ofRows 0 r).all fun e => wideBlanks.all fun c =>
    !e.covers c)
  · rfl
  · decide +kernel

set_option maxRecDepth 100000 in
theorem runs_wideBlanks :
    (NameTable.runs.all fun r => wideBlanks.all fun c => (r.image? c).all (· == ' ')) = true := by
  unfold NameTable.runs
  apply of_rowsOf (p := fun r => (NameTable.Run.ofRows 0 r).all fun r => wideBlanks.all fun c =>
    (r.image? c).all (· == ' '))
  · rfl
  · decide +kernel

set_option maxRecDepth 100000 in
theorem spellings_wideBlanks :
    (NameTable.spellings.all fun s => wideBlanks.all fun c => s.1 != c.toNat) = true := by
  unfold NameTable.spellings
  apply of_rowsOf (p := fun r => (NameTable.spellingsOfRows 0 r).all fun s => wideBlanks.all
    fun c => s.1 != c.toNat)
  · rfl
  · decide +kernel

set_option maxRecDepth 100000 in
theorem composites_gt :
    (composites.all fun c => 0x20 < c.first && 0x20 < c.second && 0x20 < c.whole) = true := by
  unfold composites
  apply of_rowsOf (p := fun r => (r.flatMap fun row =>
    Composite.ofRow (row.headD 0) row.tail).all fun c =>
      0x20 < c.first && 0x20 < c.second && 0x20 < c.whole)
  · rfl
  · decide +kernel

/-! ## What is written for white space -/

/-- Whether a character is a space or a control of ASCII. -/
def IsLow (c : Char) : Prop := c.toNat ≤ 0x20

instance (c : Char) : Decidable (IsLow c) := inferInstanceAs (Decidable (_ ≤ _))

theorem not_covers_of_all {table : List Entry} {c : Char} (hc : c ∈ wideBlanks)
    (h : (table.all fun e => wideBlanks.all fun c => !e.covers c) = true) :
    lists table c = false := by
  rw [lists, List.any_eq_false]
  intro e he hcovers
  have hnone := List.all_eq_true.1 (List.all_eq_true.1 h e he) c hc
  rw [hcovers] at hnone
  cases hnone

/-- For white space that is not ASCII, a space is written or nothing may be. -/
theorem eq_space_of_imageOf? {c : Char} {image : List Char} (hc : c ∈ wideBlanks)
    (h : imageOf? c = some image) : image = [' '] := by
  have hwide : ¬ c.toNat < 0x80 := by
    have hall : wideBlanks.all fun c => 0x80 ≤ c.toNat := by decide
    exact Nat.not_lt.2 (by simpa using List.all_eq_true.1 hall c hc)
  rw [imageOf?, if_neg hwide, not_covers_of_all hc valid_wideBlanks,
    not_covers_of_all hc ignored_wideBlanks] at h
  simp only [Bool.false_eq_true, if_false] at h
  split at h
  next written hrun =>
    obtain ⟨r, hr, himage⟩ := List.exists_of_findSome?_eq_some hrun
    have hspace := List.all_eq_true.1 (List.all_eq_true.1 runs_wideBlanks r hr) c hc
    rw [himage, Option.all_some, beq_iff_eq] at hspace
    rw [hspace] at h
    exact (Option.some.inj h).symm
  next =>
    obtain ⟨s, hs, -⟩ := Option.map_eq_some_iff.1 h
    have hcode := List.find?_some hs
    have hother := List.all_eq_true.1
      (List.all_eq_true.1 spellings_wideBlanks s (List.mem_of_find?_eq_some hs)) c hc
    rw [bne, hcode] at hother
    cases hother

theorem exists_of_imageOf? {c : Char} {image : List Char} (hc : Text.isBlank c = true)
    (h : imageOf? c = some image) : ∃ d ∈ image, IsLow d := by
  by_cases hlow : c.toNat ≤ 0x20
  · have hascii : c.toNat < 0x80 := Nat.lt_of_le_of_lt hlow (by decide)
    have hsame : c.toLower = c := by
      have hupper : ¬ (c.val ≥ 'A'.val ∧ c.val ≤ 'Z'.val) := fun hrange =>
        absurd (Nat.le_trans (UInt32.le_iff_toNat_le.1 hrange.1) hlow) (by decide)
      exact dif_neg hupper
    rw [imageOf?, if_pos hascii, hsame] at h
    obtain rfl := Option.some.inj h
    exact ⟨c, List.mem_singleton_self c, hlow⟩
  · obtain rfl := eq_space_of_imageOf? (mem_wideBlanks hc (Nat.lt_of_not_le hlow)) h
    exact ⟨' ', List.mem_singleton_self ' ', by decide⟩

/-! ## Composition -/

variable {c d : Char} {cs : List Char}

theorem gt_of_mem_composites {x : Composite} (h : x ∈ composites) :
    0x20 < x.first ∧ 0x20 < x.second ∧ 0x20 < x.whole := by
  have hall := composites_gt
  rw [List.all_eq_true] at hall
  have hgt := hall x h
  simp only [Bool.and_eq_true, decide_eq_true_eq] at hgt
  exact ⟨hgt.1.1, hgt.1.2, hgt.2⟩

theorem partsOf_of_isLow (hc : IsLow c) (depth : Nat) : partsOf depth c = [c] := by
  cases depth with
  | zero => rw [partsOf]
  | succ depth =>
    have hsyllable : Hangul.parts? c.toNat = none := by
      have hbelow : ¬ Hangul.syllables ≤ c.toNat := Nat.not_le.2 (Nat.lt_of_le_of_lt hc (by decide))
      rw [Hangul.parts?, decide_eq_false hbelow]
      rfl
    have hcomposite : composites.find? (·.whole == c.toNat) = none := by
      rw [List.find?_eq_none]
      intro x hx hwhole
      have hgt := (gt_of_mem_composites hx).2.2
      rw [beq_iff_eq.1 hwhole] at hgt
      exact Nat.not_lt.2 hc hgt
    rw [partsOf, partsBy, hsyllable, hcomposite]

/-- No part of a composite is a space or a control. -/
theorem not_isLow_of_compose? {whole : Char} (h : compose? c d = some whole) :
    ¬ IsLow c ∧ ¬ IsLow d := by
  rcases Option.or_eq_some_iff.1 h with hsyllable | ⟨-, hcomposite⟩
  · unfold Hangul.compose? at hsyllable
    simp only [Bool.and_eq_true, decide_eq_true_eq] at hsyllable
    unfold IsLow
    split at hsyllable
    next hrange =>
      simp only [Hangul.leads, Hangul.vowels] at hrange
      omega
    next =>
      split at hsyllable
      next hrange =>
        simp only [Hangul.syllables, Hangul.trails] at hrange
        omega
      next => cases hsyllable
  · obtain ⟨x, hfind, -⟩ := Option.map_eq_some_iff.1 hcomposite
    obtain ⟨hfirst, hsecond, -⟩ := gt_of_mem_composites (List.mem_of_find?_eq_some hfind)
    have hparts := List.find?_some hfind
    simp only [Bool.and_eq_true, beq_iff_eq] at hparts
    rw [hparts.1] at hsecond
    rw [hparts.2] at hfirst
    exact ⟨Nat.not_le.2 hfirst, Nat.not_le.2 hsecond⟩

theorem mem_insertMark : d ∈ insertMark c cs ↔ d = c ∨ d ∈ cs := by
  induction cs with
  | nil => simp [insertMark]
  | cons x rest ih =>
    rw [insertMark]
    split
    · rw [List.mem_cons, ih, List.mem_cons]
      exact or_left_comm
    · rw [List.mem_cons]

theorem mem_orderMarks : d ∈ orderMarks cs ↔ d ∈ cs := by
  induction cs with
  | nil => rfl
  | cons c rest ih => rw [orderMarks, mem_insertMark, ih, List.mem_cons]

theorem mem_composeOnto (hd : IsLow d) {letter : Char} {apart : List Char}
    (h : d ∈ letter :: (apart ++ cs)) : d ∈ composeOnto letter apart cs := by
  induction cs generalizing letter apart with
  | nil => simpa [composeOnto] using h
  | cons c rest ih =>
    rw [composeOnto]
    split
    next composite heq =>
      have hcomposed : compose? letter c = some composite := by
        split at heq
        next => exact heq
        next => cases heq
      obtain ⟨hletter, hmark⟩ := not_isLow_of_compose? hcomposed
      -- Neither of the two that become one is a space, so the space is apart or still to come.
      apply ih
      rcases List.mem_cons.1 h with rfl | h
      · exact absurd hd hletter
      rcases List.mem_append.1 h with h | h
      · exact List.mem_cons_of_mem _ (List.mem_append_left rest h)
      rcases List.mem_cons.1 h with rfl | h
      · exact absurd hd hmark
      · exact List.mem_cons_of_mem _ (List.mem_append_right apart h)
    next =>
      split
      · rw [← List.cons_append, List.mem_append] at h
        exact List.mem_append.2 (h.imp_right fun h => ih (by simpa using h))
      · apply ih
        simpa using h

theorem mem_composeOrdered (hd : IsLow d) (h : d ∈ cs) : d ∈ composeOrdered cs := by
  induction cs with
  | nil => exact h
  | cons c rest ih =>
    rw [composeOrdered]
    split
    · exact mem_composeOnto hd h
    · rcases List.mem_cons.1 h with rfl | h
      · exact List.mem_cons_self
      · exact List.mem_cons_of_mem c (ih h)

/-- **Composition leaves spaces and controls where they are.** -/
theorem mem_composed (hd : IsLow d) (h : d ∈ cs) : d ∈ composed cs := by
  refine mem_composeOrdered hd (mem_orderMarks.2 (List.mem_flatMap.2 ⟨d, h, ?_⟩))
  rw [partsOf_of_isLow hd]
  exact List.mem_singleton_self d

/-- What is made of a list one by one is made of each of its elements. -/
theorem exists_of_mapM {α β : Type} {f : α → Option β} {xs : List α} {ys : List β} {x : α}
    (h : xs.mapM f = some ys) (hx : x ∈ xs) : ∃ y ∈ ys, f x = some y := by
  induction xs generalizing ys with
  | nil => cases hx
  | cons a rest ih =>
    rw [List.mapM_cons] at h
    simp only [Option.bind_eq_bind, Option.bind_eq_some_iff, Option.pure_def,
      Option.some.injEq] at h
    obtain ⟨b, hb, bs, hbs, rfl⟩ := h
    rcases List.mem_cons.1 hx with rfl | hx
    · exact ⟨b, List.mem_cons_self, hb⟩
    · obtain ⟨y, hy, hfy⟩ := ih hbs hx
      exact ⟨y, List.mem_cons_of_mem b hy, hfy⟩

/-- **In the form of a name with white space in it there is a space or a control.** -/
theorem exists_of_nameForm? {form : List Char} (hc : Text.isBlank c = true) (hmem : c ∈ cs)
    (h : nameForm? cs = some form) : ∃ d ∈ form, IsLow d := by
  obtain ⟨images, himages, rfl⟩ := Option.map_eq_some_iff.1 h
  obtain ⟨image, himage, hwritten⟩ := exists_of_mapM himages hmem
  obtain ⟨d, hd, hlow⟩ := exists_of_imageOf? hc hwritten
  exact ⟨d, mem_composed hlow (List.mem_flatten.2 ⟨image, himage, hd⟩), hlow⟩

end HttpReplay.Unicode
