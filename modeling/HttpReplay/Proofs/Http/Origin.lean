import HttpReplay.Proofs.Http.Host

/-!
What a request with an absolute target asks for.

An absolute target names a host, and what is asked of that host is the rest of it: a path and perhaps a
query, where no path means the root (`AbsoluteTarget.pathAndQuery`). The reduction looks for a slash
instead and takes the target from there on (`AbsoluteTarget.reduced`). With a path, or with nothing after
the host, the two are the same. A query without a path in front of it has no slash that begins a path, so
it is lost, or what is left of it begins at a slash inside (`reduced_eq_iff`).

The rest of the request has no part in this: the target stands where it stood, and setting the Host field
changes nothing on the first line (`path_setHeader`).
-/

set_option autoImplicit false

namespace HttpReplay.Http

open Bytes (lf cr space slash)

variable {s method target after : Bytes}

/-- The byte that a query begins with. -/
def question : UInt8 := 0x3F

/-! ## Fields below the target -/

/-- A message without a line feed has nowhere to put a field. -/
theorem setHeader_of_not_mem (h : lf ∉ s) (name value : Bytes) : setHeader name value s = s := by
  rw [setHeader, locate?, Bytes.splitAtByte?_eq_none_iff.2 h]

/-- **Setting a field leaves the target in its place.** -/
theorem path_setHeader (name value message : Bytes) :
    path (setHeader name value message) = path message := by
  by_cases hmessage : lf ∈ message
  · obtain ⟨startLine, block, rfl, hstart⟩ := List.eq_append_cons_of_mem hmessage
    have hline (block : Bytes) : (startLine ++ lf :: block).takeWhile (!isLineEnd ·) =
        startLine.takeWhile (!isLineEnd ·) := by
      rw [List.takeWhile_append]
      split
      next hall =>
        rw [List.takeWhile_cons_of_neg (by decide), List.append_nil]
        exact ((List.takeWhile_prefix _).eq_of_length hall).symm
      next => rfl
    rw [setHeader_line hstart, path, path, hline, hline]
  · rw [setHeader_of_not_mem hmessage]

/-! ## Absolute targets -/

/-- A target that names a host. -/
structure AbsoluteTarget where
  scheme : Bytes
  host : Bytes
  /-- What comes after the host: a path, a query, both or neither. -/
  remainder : Bytes
  scheme_eq : scheme = Bytes.ofText "http://" ∨ scheme = Bytes.ofText "https://"
  host_inside : ∀ b ∈ host, isTargetEnd b = false
  host_ends : slash ∉ host ∧ question ∉ host
  remainder_inside : ∀ b ∈ remainder, isTargetEnd b = false
  remainder_first : ∀ b ∈ remainder.head?, b = slash ∨ b = question

namespace AbsoluteTarget

variable (t : AbsoluteTarget)

def toBytes : Bytes := t.scheme ++ (t.host ++ t.remainder)

/-- What is asked of the host: path and query, the root where there is no path. -/
def pathAndQuery : Bytes :=
  if t.remainder.head? = some slash then t.remainder else slash :: t.remainder

/-- The remainder from its first slash on, or the root if it has none. -/
def reduced : Bytes :=
  match Bytes.splitAtByte? slash t.remainder with
  | some (_, path) => slash :: path
  | none => [slash]

theorem afterScheme?_toBytes : afterScheme? t.toBytes = some (t.host ++ t.remainder) := by
  rw [afterScheme?, toBytes]
  obtain hscheme | hscheme := t.scheme_eq
  · rw [hscheme, Bytes.strip?_eq_some.2 rfl]
    rfl
  · -- The shorter scheme is not the beginning of the longer one.
    have hplain : Bytes.strip? (Bytes.ofText "http://")
        (Bytes.ofText "https://" ++ (t.host ++ t.remainder)) = none := by
      rw [Bytes.strip?_eq_none_iff]
      intro hprefix
      have hshort := List.prefix_of_prefix_length_le hprefix (List.prefix_append _ _) (by decide +kernel)
      revert hshort
      decide +kernel
    rw [hscheme, hplain, Bytes.strip?_eq_some.2 rfl]
    rfl

theorem originForm_toBytes : originForm t.toBytes = t.reduced := by
  rw [originForm, afterScheme?_toBytes, reduced]
  dsimp only
  cases hcut : Bytes.splitAtByte? slash t.remainder with
  | none =>
    have hnone : slash ∉ t.host ++ t.remainder := by
      rw [List.mem_append, not_or]
      exact ⟨t.host_ends.1, Bytes.splitAtByte?_eq_none_iff.1 hcut⟩
    rw [Bytes.splitAtByte?_eq_none_iff.2 hnone]
  | some parts =>
    obtain ⟨before, path⟩ := parts
    obtain ⟨hparts, hbefore⟩ := Bytes.splitAtByte?_eq_some_iff.1 hcut
    have hall : slash ∉ t.host ++ before := by
      rw [List.mem_append, not_or]
      exact ⟨t.host_ends.1, hbefore⟩
    rw [hparts, ← List.append_assoc, Bytes.splitAtByte?_append hall]

/-- **The reduction keeps path and query** exactly if the remainder does not begin with the query. -/
theorem reduced_eq_iff : t.reduced = t.pathAndQuery ↔ t.remainder.head? ≠ some question := by
  rw [reduced, pathAndQuery]
  cases hremainder : t.remainder with
  | nil => exact iff_of_true rfl nofun
  | cons b rest =>
    obtain rfl | rfl := t.remainder_first b (by rw [hremainder]; rfl)
    · have hcut : Bytes.splitAtByte? slash (slash :: rest) = some ([], rest) :=
        Bytes.splitAtByte?_append (s := []) (by simp) rest
      rw [hcut, List.head?_cons, if_pos rfl]
      exact iff_of_true rfl (by decide)
    · rw [List.head?_cons, if_neg (by decide)]
      refine iff_of_false (fun hsame => ?_) (fun hne => hne rfl)
      cases hcut : Bytes.splitAtByte? slash (question :: rest) with
      | none =>
        rw [hcut] at hsame
        cases hsame
      | some parts =>
        -- What is left from a slash on is shorter than the whole.
        rw [hcut] at hsame
        have hlength := Bytes.length_of_splitAtByte? hcut
        rw [(List.cons.inj hsame).2] at hlength
        exact Nat.lt_irrefl _ hlength

theorem toBytes_inside : ∀ b ∈ t.toBytes, isTargetEnd b = false := by
  have hscheme : ∀ b ∈ t.scheme, isTargetEnd b = false := by
    obtain hscheme | hscheme := t.scheme_eq <;> rw [hscheme] <;> decide +kernel
  exact List.forall_mem_append.2 ⟨hscheme, List.forall_mem_append.2 ⟨t.host_inside, t.remainder_inside⟩⟩

theorem reduced_inside : ∀ b ∈ t.reduced, isTargetEnd b = false := by
  have hslash : isTargetEnd slash = false := by decide
  rw [reduced]
  split
  next before path hcut =>
    obtain ⟨hparts, -⟩ := Bytes.splitAtByte?_eq_some_iff.1 hcut
    refine List.forall_mem_cons.2 ⟨hslash, fun b hb => t.remainder_inside b ?_⟩
    rw [hparts]
    exact List.mem_append_right before (List.mem_cons_of_mem slash hb)
  next => exact List.forall_mem_singleton.2 hslash

end AbsoluteTarget

/-! ## Requests -/

/-- **What a request with an absolute target asks for** is what follows the host from a slash on, or the
root, and the rest of it is as if that had been the target all along. So it asks for the path and the query
of the target exactly if what follows the host does not begin with the query. Where nothing ends the
target, the request stays as it is. -/
theorem setHost_asksFor (hmethod : ∀ b ∈ method, isToken b = true) (t : AbsoluteTarget)
    (authority : Bytes) :
    (∀ after, after ≠ [] → (∀ b ∈ after.head?, isTargetEnd b = true) →
      setHost authority (method ++ space :: (t.toBytes ++ after)) =
        setHeader hostField authority (method ++ space :: (t.reduced ++ after)) ∧
      path (setHost authority (method ++ space :: (t.toBytes ++ after))) = t.reduced ∧
      (path (setHost authority (method ++ space :: (t.toBytes ++ after))) = t.pathAndQuery ↔
        t.remainder.head? ≠ some question)) ∧
    setHost authority (method ++ space :: t.toBytes) = method ++ space :: t.toBytes := by
  constructor
  · intro after hne hafter
    have hset : setHost authority (method ++ space :: (t.toBytes ++ after)) =
        setHeader hostField authority (method ++ space :: (t.reduced ++ after)) := by
      rw [setHost, reduceTarget_parts hmethod t.toBytes_inside hafter hne, t.originForm_toBytes]
    have hpath : path (setHost authority (method ++ space :: (t.toBytes ++ after))) = t.reduced := by
      rw [hset, path_setHeader, path_parts hmethod t.reduced_inside hafter]
    exact ⟨hset, hpath, by rw [hpath, t.reduced_eq_iff]⟩
  · have hspan : t.toBytes.span (fun b => !(b == space || isLineEnd b)) = (t.toBytes, []) :=
      Bytes.span_eq_iff.2 ⟨by simp, fun b hb => congrArg not (t.toBytes_inside b hb), by simp⟩
    have hspace := not_mem_of_class hmethod (b := space) (by decide)
    have hlf : lf ∉ method ++ space :: t.toBytes := by
      have hmethodLf := not_mem_of_class hmethod (b := lf) (by decide)
      have htargetLf : lf ∉ t.toBytes := fun hmem => absurd (t.toBytes_inside lf hmem) (by decide)
      have hspaceLf : lf ≠ space := by decide
      simp [hmethodLf, htargetLf, hspaceLf]
    rw [setHost, reduceTarget, splitTarget?, Bytes.splitAtByte?_append hspace]
    dsimp only
    rw [hspan]
    exact setHeader_of_not_mem hlf hostField authority

/-- A query without a path in front of it, and a slash in the query. -/
def pathless : AbsoluteTarget where
  scheme := Bytes.ofText "https://"
  host := Bytes.ofText "h"
  remainder := Bytes.ofText "?q=/x"
  scheme_eq := .inr rfl
  host_inside := by decide +kernel
  host_ends := by decide +kernel
  remainder_inside := by decide +kernel
  remainder_first := by decide +kernel

/-- **Queries are lost.** It is not so that every request with an absolute target asks for its path and
query: one for `https://h?q=/x`, such as follows a redirect to that address, asks for `/x`. -/
theorem query_lost :
    ¬ ∀ (method after authority : Bytes) (t : AbsoluteTarget), (∀ b ∈ method, isToken b = true) →
      after ≠ [] → (∀ b ∈ after.head?, isTargetEnd b = true) →
      setHost authority (method ++ space :: (t.toBytes ++ after)) =
        setHeader hostField authority (method ++ space :: (t.pathAndQuery ++ after)) := by
  intro h
  have hsame := h (Bytes.ofText "GET") (Bytes.ofText " HTTP/1.1\r\n\r\n") (Bytes.ofText "a") pathless
    (by decide +kernel) (by decide +kernel) (by decide +kernel)
  revert hsame
  decide +kernel

/-- A path with a query behind it that holds another address. -/
def nested : AbsoluteTarget where
  scheme := Bytes.ofText "http://"
  host := Bytes.ofText "h:1"
  remainder := Bytes.ofText "/p?r=http://z"
  scheme_eq := .inl rfl
  host_inside := by decide +kernel
  host_ends := by decide +kernel
  remainder_inside := by decide +kernel
  remainder_first := by decide +kernel

theorem setHost_asksFor_nested :
    (∀ b ∈ Bytes.ofText "POST", isToken b = true) ∧
      (∀ b ∈ (Bytes.ofText "\nHost: b\n\nc").head?, isTargetEnd b = true) ∧
      setHost (Bytes.ofText "a") (Bytes.ofText "POST" ++ space ::
          (nested.toBytes ++ Bytes.ofText "\nHost: b\n\nc")) =
        Bytes.ofText "POST /p?r=http://z\nHost: a\n\nc" ∧
      path (setHost (Bytes.ofText "a") (Bytes.ofText "POST" ++ space ::
          (nested.toBytes ++ Bytes.ofText "\nHost: b\n\nc"))) = nested.pathAndQuery ∧
      path (setHost (Bytes.ofText "a") (Bytes.ofText "POST" ++ space ::
          (pathless.toBytes ++ Bytes.ofText "\nHost: b\n\nc"))) ≠ pathless.pathAndQuery := by
  have hmethod : ∀ b ∈ Bytes.ofText "POST", isToken b = true := by decide +kernel
  have hne : Bytes.ofText "\nHost: b\n\nc" ≠ [] := by decide +kernel
  have hafter : ∀ b ∈ (Bytes.ofText "\nHost: b\n\nc").head?, isTargetEnd b = true := by decide +kernel
  obtain ⟨hset, -, hkeeps⟩ := (setHost_asksFor hmethod nested (Bytes.ofText "a")).1 _ hne hafter
  obtain ⟨-, -, hloses⟩ := (setHost_asksFor hmethod pathless (Bytes.ofText "a")).1 _ hne hafter
  refine ⟨hmethod, hafter, ?_, hkeeps.2 (by decide +kernel), fun hsame => ?_⟩
  · rw [hset]
    decide +kernel
  · exact hloses.1 hsame (by decide +kernel)

end HttpReplay.Http
