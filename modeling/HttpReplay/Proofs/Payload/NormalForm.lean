import HttpReplay.Proofs.Payload.RoundTrip

/-!
The plainest of the payloads that say the same.

The reader of header lines is tolerant: it passes over spaces in a row, over signs and zeros in front
of a number and over all tokens after the fourth, so a header and a message can be written in many
ways. Writing down what was read picks one of them (`normalForm?`). It changes neither the header nor
the message, so that writing once more changes nothing, and the payloads that it leaves alone are
those that were written by this library under an id that the line can carry.

Nothing has to be asked of the id: what the reader takes for an id is one token of the line
(`Header.isId_of_decode?`), however wild the bytes around it are.
-/

set_option autoImplicit false

namespace HttpReplay.Payload

open Bytes (space lf)

variable {payload : Bytes} {h : Header}

/-- The payload written anew from the header and the message that were read off it. -/
def normalForm? (payload : Bytes) : Option Bytes :=
  (Header.decode? payload).map fun h => encode h (message payload)

/-- Payloads that were written, under an id that reads back. -/
def IsWritten (payload : Bytes) : Prop :=
  ∃ (h : Header) (message : Bytes), Header.IsId h.id ∧ payload = encode h message

/-- What was written is its own normal form. -/
theorem normalForm?_encode (hid : Header.IsId h.id) (message : Bytes) :
    normalForm? (encode h message) = some (encode h message) := by
  rw [normalForm?, Header.decode?_encode hid, Option.map_some, message_encode hid.no_lf]

/-- **The payloads that are left alone are those that were written.** -/
theorem normalForm?_eq_self_iff : normalForm? payload = some payload ↔ IsWritten payload := by
  constructor
  · intro hself
    obtain ⟨h, hdecode, hencode⟩ := Option.map_eq_some_iff.1 hself
    exact ⟨h, message payload, Header.isId_of_decode? hdecode, hencode.symm⟩
  · rintro ⟨h, message, hid, rfl⟩
    exact normalForm?_encode hid message

/-- Payloads have one normal form exactly if they say the same. -/
theorem normalForm?_eq_iff {payload' : Bytes} {h' : Header} (hdecode : Header.decode? payload = some h)
    (hdecode' : Header.decode? payload' = some h') :
    normalForm? payload = normalForm? payload' ↔ h = h' ∧ message payload = message payload' := by
  rw [normalForm?, hdecode, Option.map_some, normalForm?, hdecode', Option.map_some,
    Option.some.injEq]
  constructor
  · intro hsame
    -- Both are read back from the one string.
    have hid := Header.isId_of_decode? hdecode
    have hid' := Header.isId_of_decode? hdecode'
    have hheader := Header.decode?_encode hid (message payload)
    have hmessage := message_encode hid.no_lf (message payload)
    rw [hsame] at hheader hmessage
    rw [Header.decode?_encode hid'] at hheader
    rw [message_encode hid'.no_lf] at hmessage
    exact ⟨(Option.some.inj hheader).symm, hmessage.symm⟩
  · rintro ⟨rfl, hmessage⟩
    rw [hmessage]

/-- **Writing down what was read changes nothing that is read.** The header, the message and the mark
of a request are those of the payload; writing once more gives the same bytes; and the bytes are those
of the payload exactly if it was written from some header, whose id is not empty and holds neither a
space nor a line feed. -/
theorem rewritten_normal (hdecode : Header.decode? payload = some h) :
    Header.decode? (encode h (message payload)) = some h ∧
      message (encode h (message payload)) = message payload ∧
      (isRequest (encode h (message payload)) = true ↔ h.kind = .request) ∧
      normalForm? (encode h (message payload)) = some (encode h (message payload)) ∧
      (encode h (message payload) = payload ↔
        ∃ (h' : Header) (message' : Bytes), (h'.id ≠ [] ∧ space ∉ h'.id ∧ lf ∉ h'.id) ∧
          payload = encode h' message') := by
  have hid := Header.isId_of_decode? hdecode
  have hnormal : normalForm? payload = some (encode h (message payload)) := by
    rw [normalForm?, hdecode, Option.map_some]
  refine ⟨Header.decode?_encode hid _, message_encode hid.no_lf _, isRequest_encode,
    normalForm?_encode hid _, ?_⟩
  have hself : normalForm? payload = some payload ↔ IsWritten payload := normalForm?_eq_self_iff
  rw [hnormal, Option.some.injEq] at hself
  rw [hself]
  constructor
  · rintro ⟨h', message', hid', hpayload⟩
    exact ⟨h', message', ⟨hid'.ne_nil, hid'.no_space, hid'.no_lf⟩, hpayload⟩
  · rintro ⟨h', message', ⟨hne, hspace, hlf⟩, hpayload⟩
    exact ⟨h', message', ⟨hne, hspace, hlf⟩, hpayload⟩

/-- A line with spaces in a row, a sign and zeros in front of a number, a minus in front of zero, a
fifth token and an id that is no text. -/
def sloppyPayload : Bytes :=
  Bytes.ofText "  1 " ++ [0xFF, 0x0D] ++ Bytes.ofText "  +007 -0 9 \nGET / HTTP/1.1\n"

theorem rewritten_normal_sloppy :
    Header.decode? sloppyPayload = some ⟨.request, [0xFF, 0x0D], 7, some 0⟩ ∧
      normalForm? sloppyPayload =
        some (Bytes.ofText "1 " ++ [0xFF, 0x0D] ++ Bytes.ofText " 7 0\nGET / HTTP/1.1\n") ∧
      isRequest sloppyPayload = false ∧
      isRequest (encode ⟨.request, [0xFF, 0x0D], 7, some 0⟩ (message sloppyPayload)) = true := by
  have hdecode : Header.decode? sloppyPayload = some ⟨.request, [0xFF, 0x0D], 7, some 0⟩ := by
    decide +kernel
  exact ⟨hdecode, by decide +kernel, by decide +kernel,
    (rewritten_normal hdecode).2.2.1.2 rfl⟩

end HttpReplay.Payload
