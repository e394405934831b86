import HttpReplay.Bytes

/-!
Several payloads in one stream.

Each payload is followed by a separator that no sensible message holds. Writing is `frame`;
`split` cuts at the leftmost separator again and again and drops the empty parts, so separators in
a row, at the start or at the end separate nothing.
-/

set_option autoImplicit false

namespace HttpReplay.Payload

/-- The separator: a line of its own with three monkeys on it. -/
def separator : Bytes := Bytes.ofText "\n🐵🙈🙉\n"

theorem separator_ne_nil : separator ≠ [] := by decide

/-- The payloads one after the other, each followed by the separator. -/
def frame (payloads : List Bytes) : Bytes := payloads.flatMap (· ++ separator)

/-- The non-empty parts of a stream between separators. -/
def split (stream : Bytes) : List Bytes :=
  match h : Bytes.splitAtPattern? separator stream with
  | none => if stream.isEmpty then [] else [stream]
  | some (part, rest) =>
    have := Bytes.length_of_splitAtPattern? separator_ne_nil h
    if part.isEmpty then split rest else part :: split rest
termination_by stream.length

end HttpReplay.Payload
