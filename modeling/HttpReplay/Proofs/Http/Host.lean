import HttpReplay.Proofs.Bytes.Pattern
import HttpReplay.Proofs.Http.Block
import HttpReplay.Proofs.Text.Utf8

/-!
Pointing a request at another host.

Two edits are made one after the other: the target is reduced to its origin form, and the Host field is
set. Both are told by what the request was written from. A request with a line feed has a first line that
is a method, a target and a version (`exists_requestLine`), and all that is seen of a request, its method,
its path and whether it is one, is seen in that line and in the block below it
(`isRequest_line_iff`, `method_line`, `path_line`). The first edit changes the line and not the block, the
second the block and not the line, so what each of them keeps can be put together (`setHost_frame`).
-/

set_option autoImplicit false

namespace HttpReplay.Http

open Bytes (lf cr colon space slash isBlank)

variable {request block s rest target authority ending : Bytes} {line : RequestLine}

/-! ## First lines -/

theorem space_not_mem_method (h : line.WellFormed) : space ∉ line.method :=
  not_mem_of_class h.method_token (by decide)

/-- A first line and what comes after it, cut at the spaces of the line. -/
theorem toBytes_append (line : RequestLine) (rest : Bytes) :
    line.toBytes ++ rest = line.method ++ space ::
      (line.target ++ space :: (versionStart ++ versionDigit line.minor :: rest)) := by
  simp [RequestLine.toBytes]

theorem versionDigit_eq (minor : Nat) : versionDigit minor = 0x30 ∨ versionDigit minor = 0x31 := by
  unfold versionDigit
  split
  · exact .inl rfl
  · exact .inr rfl

/-- A first line has no byte that ends a line. -/
theorem isLineEnd_of_mem_toBytes (h : line.WellFormed) {b : UInt8} (hb : b ∈ line.toBytes) :
    isLineEnd b = false := by
  simp only [RequestLine.toBytes, List.mem_append, List.mem_cons, List.not_mem_nil, or_false] at hb
  obtain hb | rfl | hb | rfl | hb | rfl := hb
  · exact isLineEnd_of_class (h.method_token b hb) (by decide) (by decide)
  · decide
  · exact isLineEnd_of_class (h.target_byte b hb) (by decide) (by decide)
  · decide
  · have hchecked : ∀ b ∈ versionStart, isLineEnd b = false := by decide +kernel
    exact hchecked b hb
  · obtain hdigit | hdigit := versionDigit_eq line.minor <;> rw [hdigit] <;> decide

theorem lf_not_mem_line (h : line.WellFormed) (hend : IsLineEnd ending) :
    lf ∉ line.toBytes ++ ending :=
  hend.lf_not_mem_append fun hmem => absurd (isLineEnd_of_mem_toBytes h hmem) (by decide)

/-- Whether a target ends in front of a byte: a space, or the end of the line. -/
def isTargetEnd (b : UInt8) : Bool := b == space || isLineEnd b

theorem not_isTargetEnd_iff {b : UInt8} :
    isTargetEnd b = false ↔ b ≠ space ∧ isLineEnd b = false := by simp [isTargetEnd]

theorem isTargetEnd_of_isTargetByte {b : UInt8} (hb : isTargetByte b = true) :
    isTargetEnd b = false := by
  refine not_isTargetEnd_iff.2 ⟨fun heq => ?_, isLineEnd_of_class hb (by decide) (by decide)⟩
  rw [heq] at hb
  exact absurd hb (by decide)

/-! ## What is seen of a request -/

theorem method_word {word : Bytes} (h : space ∉ word) (rest : Bytes) :
    method (word ++ space :: rest) = word := by
  rw [method, Bytes.splitAtByte?_append h]

theorem method_line (h : line.WellFormed) (rest : Bytes) :
    method (line.toBytes ++ rest) = line.method := by
  rw [toBytes_append, method_word (space_not_mem_method h)]

/-- The target of a request stands between the first space and whatever ends it. -/
theorem path_words {method target after : Bytes} (hmethod : ∀ b ∈ method, isTargetEnd b = false)
    (htarget : ∀ b ∈ target, isTargetEnd b = false) (hafter : ∀ b ∈ after.head?, isTargetEnd b = true) :
    path (method ++ space :: (target ++ after)) = target := by
  have hspace := not_mem_of_class (p := (!isTargetEnd ·)) (s := method) (b := space)
    (fun b hb => by simp [hmethod b hb]) (by decide)
  have hline : ∀ b ∈ method ++ space :: target, (!isLineEnd b) = true := by
    refine List.forall_mem_append.2 ⟨fun b hb => ?_, List.forall_mem_cons.2 ⟨rfl, fun b hb => ?_⟩⟩
    · rw [(not_isTargetEnd_iff.1 (hmethod b hb)).2]
      rfl
    · rw [(not_isTargetEnd_iff.1 (htarget b hb)).2]
      rfl
  have hinside : ∀ b ∈ target, (b != space) = true := fun b hb =>
    bne_iff_ne.2 (not_isTargetEnd_iff.1 (htarget b hb)).1
  have hstop : (after.takeWhile (!isLineEnd ·)).takeWhile (· != space) = [] := by
    cases after with
    | nil => rfl
    | cons b after =>
      obtain rfl | hb : b = space ∨ isLineEnd b = true := by simpa [isTargetEnd] using hafter b rfl
      · rw [List.takeWhile_cons_of_pos (by decide), List.takeWhile_cons_of_neg (by decide)]
      · rw [List.takeWhile_cons_of_neg (by simp [hb])]
        rfl
  have hparts : method ++ space :: (target ++ after) = (method ++ space :: target) ++ after := by simp
  rw [path, hparts, List.takeWhile_append_of_pos hline, List.append_assoc, List.cons_append,
    Bytes.splitAtByte?_append hspace]
  dsimp only
  rw [List.takeWhile_append_of_pos hinside, hstop, List.append_nil]

/-- The target of a request that is put together from its parts. -/
theorem path_parts {method target after : Bytes} (hmethod : ∀ b ∈ method, isToken b = true)
    (htarget : ∀ b ∈ target, isTargetEnd b = false) (hafter : ∀ b ∈ after.head?, isTargetEnd b = true) :
    path (method ++ space :: (target ++ after)) = target := by
  refine path_words (fun b hb => not_isTargetEnd_iff.2 ⟨fun heq => ?_, ?_⟩) htarget hafter
  · exact absurd (hmethod b hb) (by rw [heq]; decide)
  · exact isLineEnd_of_class (hmethod b hb) (by decide) (by decide)

theorem path_line (h : line.WellFormed) (rest : Bytes) : path (line.toBytes ++ rest) = line.target := by
  rw [toBytes_append]
  exact path_parts h.method_token (fun b hb => isTargetEnd_of_isTargetByte (h.target_byte b hb))
    (by simp [isTargetEnd])

theorem emptyLines_of_isToken {b : UInt8} (hb : isToken b = true) (s : Bytes) :
    emptyLines (b :: s) = .found () (b :: s) := by
  have hlf : ¬ b = lf := fun heq => absurd hb (by rw [heq]; decide)
  have hcr : ¬ b = cr := fun heq => absurd hb (by rw [heq]; decide)
  exact emptyLines_of_ne hlf hcr s

/-- The marks of a method end in their only space. -/
theorem methodPrefixes_spec : ∀ m ∈ methodPrefixes, ∃ b word, m = b :: word ++ [space] ∧
    isToken b = true ∧ space ∉ b :: word := by
  have hchecked : ∀ m ∈ methodPrefixes, ∃ b ∈ m.head?, m = b :: m.tail.dropLast ++ [space] ∧
      isToken b = true ∧ space ∉ b :: m.tail.dropLast := by decide +kernel
  intro m hm
  obtain ⟨b, -, hparts⟩ := hchecked m hm
  exact ⟨b, _, hparts⟩

theorem any_methodPrefixes_iff {method : Bytes} (h : space ∉ method) (rest : Bytes) :
    methodPrefixes.any (fun m => (Bytes.strip? m (method ++ space :: rest)).isSome) = true ↔
      method ++ [space] ∈ methodPrefixes := by
  rw [List.any_eq_true]
  constructor
  · rintro ⟨m, hm, hstrip⟩
    obtain ⟨left, hleft⟩ := Option.isSome_iff_exists.1 hstrip
    obtain ⟨b, word, rfl, -, hword⟩ := methodPrefixes_spec m hm
    have hparts := Bytes.strip?_eq_some.1 hleft
    rw [List.append_assoc, List.singleton_append] at hparts
    obtain ⟨rfl, -⟩ := Bytes.append_cons_inj h hword hparts
    exact hm
  · intro hm
    exact ⟨_, hm, Option.isSome_iff_exists.2 ⟨rest, Bytes.strip?_eq_some.2 (by simp)⟩⟩

/-- The head of a request is its first line and the fields below it. -/
theorem requestHead_line (h : line.WellFormed) (hend : IsLineEnd ending) (block : Bytes) :
    requestHead (line.toBytes ++ (ending ++ lf :: block)) =
      (fields maxFields block).map fun fs => ⟨line, fs⟩ := by
  have hline : requestLine (line.toBytes ++ (ending ++ lf :: block)) = .found line block :=
    requestLine_eq_found_iff.2 ⟨h, ending, hend, rfl⟩
  obtain ⟨b, tail, hmethod⟩ := List.exists_cons_of_ne_nil h.method_ne_nil
  have hstart : emptyLines (line.toBytes ++ (ending ++ lf :: block)) =
      .found () (line.toBytes ++ (ending ++ lf :: block)) := by
    rw [RequestLine.toBytes, hmethod]
    exact emptyLines_of_isToken (h.method_token b (hmethod ▸ List.mem_cons_self)) _
  rw [requestHead, head, hstart]
  dsimp only [Scan.andThen]
  rw [hline]

/-- **What makes a request one**: its method, and a block that a head can go on with. -/
theorem isRequest_line_iff (h : line.WellFormed) (hend : IsLineEnd ending) :
    isRequest (line.toBytes ++ (ending ++ lf :: block)) = true ↔
      line.method ++ [space] ∈ methodPrefixes ∧ Acceptable maxFields block := by
  have hmarks : methodPrefixes.any (fun m => (Bytes.strip? m
      (line.toBytes ++ (ending ++ lf :: block))).isSome) = true ↔
        line.method ++ [space] ∈ methodPrefixes := by
    rw [toBytes_append]
    exact any_methodPrefixes_iff (space_not_mem_method h) _
  rw [isRequest, Bool.and_eq_true, hmarks, requestHead_line h hend, Acceptable]
  refine and_congr_right fun _ => ?_
  cases fields maxFields block with
  | found fs rest => simp [Scan.map]
  | cut => simp [Scan.map]
  | refused why => cases why <;> simp [Scan.map]

/-- **A request with a line feed has a whole first line.** -/
theorem exists_requestLine (h : isRequest request = true) (hlf : lf ∈ request) :
    ∃ (line : RequestLine) (ending block : Bytes), line.WellFormed ∧ IsLineEnd ending ∧
      request = line.toBytes ++ (ending ++ lf :: block) := by
  rw [isRequest, Bool.and_eq_true, List.any_eq_true] at h
  obtain ⟨⟨m, hm, hstrip⟩, hhead⟩ := h
  obtain ⟨rest, hrest⟩ := Option.isSome_iff_exists.1 hstrip
  obtain ⟨b, word, rfl, htoken, -⟩ := methodPrefixes_spec m hm
  have hparts : request = b :: (word ++ ([space] ++ rest)) := by
    rw [Bytes.strip?_eq_some.1 hrest]
    simp
  have hstart : emptyLines request = .found () request := by
    rw [hparts]
    exact emptyLines_of_isToken htoken _
  obtain hbad | ⟨line, block, hline⟩ := ends_requestLine request hlf
  · rw [requestHead, head, hstart] at hhead
    dsimp only [Scan.andThen] at hhead
    rw [hbad] at hhead
    cases hhead
  · obtain ⟨hline, ending, hend, hrequest⟩ := requestLine_eq_found_iff.1 hline
    exact ⟨line, ending, block, hline, hend, hrequest⟩

/-- What the grammar leaves behind the head of a request is what follows its first empty line. -/
theorem afterHead?_of_requestHead {first : Head RequestLine} (h : isRequest request = true)
    (hlf : lf ∈ request) (hhead : requestHead request = .found first rest) :
    afterHead? request = some rest := by
  obtain ⟨line, ending, block, hline, hend, rfl⟩ := exists_requestLine h hlf
  rw [requestHead_line hline hend] at hhead
  obtain ⟨_, hfields, -⟩ := Scan.map_eq_found_iff.1 hhead
  rw [← List.append_assoc, afterHead?_line (lf_not_mem_line hline hend)]
  exact afterBlock?_of_fields hfields

/-! ## The target -/

/-- The two ways in which an absolute target begins. -/
def IsAbsolute (target : Bytes) : Prop :=
  Bytes.ofText "http://" <+: target ∨ Bytes.ofText "https://" <+: target

theorem afterScheme?_eq_none_iff : afterScheme? target = none ↔ ¬ IsAbsolute target := by
  rw [afterScheme?, IsAbsolute, not_or, ← Bytes.strip?_eq_none_iff, ← Bytes.strip?_eq_none_iff]
  cases Bytes.strip? (Bytes.ofText "http://") target <;> simp

theorem exists_of_afterScheme? {rest : Bytes} (h : afterScheme? target = some rest) :
    ∃ scheme, target = scheme ++ rest := by
  rw [afterScheme?] at h
  cases hplain : Bytes.strip? (Bytes.ofText "http://") target with
  | some left =>
    rw [hplain] at h
    cases h
    exact ⟨_, Bytes.strip?_eq_some.1 hplain⟩
  | none =>
    rw [hplain] at h
    exact ⟨_, Bytes.strip?_eq_some.1 h⟩

theorem originForm_of_not_isAbsolute (h : ¬ IsAbsolute target) : originForm target = target := by
  rw [originForm, afterScheme?_eq_none_iff.2 h]

/-- **An absolute target is reduced to its end from a slash on,** or to the slash alone. -/
theorem exists_originForm (h : IsAbsolute target) :
    ∃ path, originForm target = slash :: path ∧
      (path = [] ∨ ∃ start, target = start ++ slash :: path) := by
  cases hscheme : afterScheme? target with
  | none => exact absurd h (afterScheme?_eq_none_iff.1 hscheme)
  | some rest =>
    obtain ⟨scheme, rfl⟩ := exists_of_afterScheme? hscheme
    rw [originForm, hscheme]
    dsimp only
    cases hslash : Bytes.splitAtByte? slash rest with
    | none => exact ⟨[], rfl, .inl rfl⟩
    | some parts =>
      obtain ⟨before, path⟩ := parts
      obtain ⟨rfl, -⟩ := Bytes.splitAtByte?_eq_some_iff.1 hslash
      exact ⟨path, rfl, .inr ⟨scheme ++ before, by simp⟩⟩

namespace RequestLine

/-- The same line with its target in origin form. -/
def reduced (line : RequestLine) : RequestLine := { line with target := originForm line.target }

/-- **A reduced line is one that the grammar allows.** -/
theorem WellFormed.reduced (h : line.WellFormed) : line.reduced.WellFormed := by
  by_cases habsolute : IsAbsolute line.target
  · obtain ⟨path, horigin, hpath⟩ := exists_originForm habsolute
    have hslash : isTargetByte slash = true := by decide
    have htarget : line.reduced.target = slash :: path := horigin
    refine { h with
      target_ne_nil := by simp [htarget], target_byte := ?_, target_text := ?_ }
    · rw [htarget]
      obtain rfl | ⟨start, hstart⟩ := hpath
      · simp [hslash]
      · exact fun b hb => h.target_byte b (hstart ▸ List.mem_append_right start hb)
    · rw [htarget]
      obtain rfl | ⟨start, hstart⟩ := hpath
      · decide +kernel
      · exact Utf8.isSome_decode?_of_append (by decide) (hstart ▸ h.target_text)
  · have hsame : line.reduced = line := by
      rw [RequestLine.reduced, originForm_of_not_isAbsolute habsolute]
    rwa [hsame]

end RequestLine

/-- A request whose target something ends is reduced there and nowhere else. -/
theorem reduceTarget_parts {method target after : Bytes} (hmethod : ∀ b ∈ method, isToken b = true)
    (htarget : ∀ b ∈ target, isTargetEnd b = false) (hafter : ∀ b ∈ after.head?, isTargetEnd b = true)
    (hne : after ≠ []) :
    reduceTarget (method ++ space :: (target ++ after)) =
      method ++ space :: (originForm target ++ after) := by
  have hspace := not_mem_of_class hmethod (b := space) (by decide)
  have hspan : (target ++ after).span (fun b => !(b == space || isLineEnd b)) = (target, after) :=
    Bytes.span_eq_iff.2 ⟨rfl, fun b hb => congrArg not (htarget b hb),
      fun b hb => congrArg not (hafter b hb)⟩
  rw [reduceTarget, splitTarget?, Bytes.splitAtByte?_append hspace]
  dsimp only
  rw [hspan]
  dsimp only
  rw [if_neg (by simpa using hne)]
  simp

/-- **Reducing the target is a matter of the first line alone.** -/
theorem reduceTarget_line (h : line.WellFormed) (rest : Bytes) :
    reduceTarget (line.toBytes ++ rest) = line.reduced.toBytes ++ rest := by
  rw [toBytes_append, toBytes_append]
  exact reduceTarget_parts h.method_token
    (fun b hb => isTargetEnd_of_isTargetByte (h.target_byte b hb)) (by simp [isTargetEnd]) (by simp)

/-! ## The host -/

/-- Bytes that can be seen. -/
def IsVisible (s : Bytes) : Prop := ∀ b ∈ s, 0x21 ≤ b ∧ b ≤ 0x7E

theorem IsVisible.forall_isValueByte (h : IsVisible s) : ∀ b ∈ s, isValueByte b = true := by
  intro b hb
  obtain ⟨hlow, hhigh⟩ := h b hb
  have hspace : (0x20 : UInt8) ≤ b := UInt8.le_trans (by decide) hlow
  have hdelete : b ≠ 0x7F := fun heq => absurd hhigh (by rw [heq]; decide)
  simp [isValueByte, hspace, hdelete]

theorem IsVisible.isValue (h : IsVisible s) (hne : s ≠ []) : IsValue s := by
  have hblank : ∀ b ∈ s, isBlank b = false := fun b hb => by
    have hspace : b ≠ space := fun heq => absurd (h b hb).1 (by rw [heq]; decide)
    have htab : b ≠ Bytes.tab := fun heq => absurd (h b hb).1 (by rw [heq]; decide)
    simp [isBlank, hspace, htab]
  exact {
    ne_nil := hne
    no_cr := fun hmem => absurd (h cr hmem).1 (by decide)
    no_lf := fun hmem => absurd (h lf hmem).1 (by decide)
    first_not_blank := fun b hb => hblank b (List.mem_of_mem_head? hb)
    last_not_blank := fun b hb => hblank b (List.mem_of_getLast? hb) }

theorem hostField_spec : hostField ≠ [] ∧ (∀ b ∈ hostField, isToken b = true) ∧
    colon ∉ hostField ∧ lf ∉ hostField := by decide +kernel

/-- **Pointing a request at a host changes the host and nothing else.** What comes out is a request,
also where it was cut or has more fields than are kept; its method, its fields of other names and what
follows its head are those of the request; its host is the one given; and its path is that of the
request, unless that was absolute, and then begins with a slash. -/
theorem setHost_frame (hrequest : isRequest request = true) (hlf : lf ∈ request)
    (hne : authority ≠ []) (hvisible : IsVisible authority) :
    isRequest (setHost authority request) = true ∧
      method (setHost authority request) = method request ∧
      header hostField (setHost authority request) = some authority ∧
      (∀ name, Bytes.sameLetters name hostField = false →
        header name (setHost authority request) = header name request) ∧
      (¬ IsAbsolute (path request) → path (setHost authority request) = path request) ∧
      (IsAbsolute (path request) → ∃ rest, path (setHost authority request) = slash :: rest) ∧
      afterHead? (setHost authority request) = afterHead? request := by
  obtain ⟨hname, htoken, hcolon, hhostlf⟩ := hostField_spec
  have hvalue := hvisible.isValue hne
  obtain ⟨line, ending, block, hline, hend, rfl⟩ := exists_requestLine hrequest hlf
  have hreduced := hline.reduced
  have hedited : setHost authority (line.toBytes ++ (ending ++ lf :: block)) =
      line.reduced.toBytes ++ (ending ++ lf :: setInBlock hostField authority block) := by
    have hstart := lf_not_mem_line hreduced hend
    rw [setHost, reduceTarget_line hline, ← List.append_assoc, setHeader_line hstart,
      List.append_assoc]
  obtain ⟨hmark, hblock⟩ := (isRequest_line_iff hline hend).1 hrequest
  rw [hedited, path_line hline, path_line hreduced, method_line hline, method_line hreduced,
    isRequest_line_iff hreduced hend]
  simp only [← List.append_assoc, header_line (lf_not_mem_line hline hend),
    header_line (lf_not_mem_line hreduced hend), afterHead?_line (lf_not_mem_line hline hend),
    afterHead?_line (lf_not_mem_line hreduced hend)]
  refine ⟨⟨hmark, ?_⟩, rfl, ?_, fun name hother => ?_, ?_, ?_, ?_⟩
  · exact acceptable_setInBlock hname htoken hvalue hvisible.forall_isValueByte hblock
  · exact valueInBlock?_setInBlock_self hcolon hhostlf hvalue
  · exact valueInBlock?_setInBlock hcolon hhostlf hvalue hother
  · exact originForm_of_not_isAbsolute
  · intro habsolute
    obtain ⟨path, hpath, -⟩ := exists_originForm habsolute
    exact ⟨path, hpath⟩
  · exact afterBlock?_setInBlock hcolon hhostlf hvalue

/-- An absolute target without a path, as many fields as are kept and no host among them, and a body
that begins like a head. -/
def fullRequest : Bytes :=
  Bytes.ofText "GET https://a?b HTTP/1.1\r\n" ++
    ((List.replicate maxFields (Bytes.ofText "A: 1\n")).flatten ++ Bytes.ofText "\r\nHost: c\n\nd")

theorem setHost_frame_fullRequest :
    isRequest fullRequest = true ∧ lf ∈ fullRequest ∧ IsAbsolute (path fullRequest) ∧
      isRequest (setHost (Bytes.ofText "e:1") fullRequest) = true ∧
      header hostField (setHost (Bytes.ofText "e:1") fullRequest) = some (Bytes.ofText "e:1") ∧
      header (Bytes.ofText "a") (setHost (Bytes.ofText "e:1") fullRequest) =
        some (Bytes.ofText "1") ∧
      (∃ rest, path (setHost (Bytes.ofText "e:1") fullRequest) = slash :: rest) ∧
      afterHead? (setHost (Bytes.ofText "e:1") fullRequest) =
        some (Bytes.ofText "Host: c\n\nd") := by
  have hrequest : isRequest fullRequest = true := by decide +kernel
  have hlf : lf ∈ fullRequest := by decide +kernel
  have hne : Bytes.ofText "e:1" ≠ [] := by decide +kernel
  have hvisible : IsVisible (Bytes.ofText "e:1") := by
    rw [IsVisible]
    decide +kernel
  have habsolute : IsAbsolute (path fullRequest) := by
    rw [IsAbsolute]
    decide +kernel
  obtain ⟨hstays, -, hhost, hother, -, hpath, hafter⟩ :=
    setHost_frame hrequest hlf hne hvisible
  refine ⟨hrequest, hlf, habsolute, hstays, hhost, ?_, hpath habsolute, ?_⟩
  · rw [hother _ (by decide +kernel)]
    decide +kernel
  · rw [hafter]
    decide +kernel

end HttpReplay.Http
