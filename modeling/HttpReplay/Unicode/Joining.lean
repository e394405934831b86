import HttpReplay.Unicode.Composition

/-!
Characters that join and the two joiners.

In scripts whose letters join, a zero-width joiner or non-joiner between letters changes how they
are drawn, and can change which word is meant; anywhere else it is invisible. It may therefore
stand only where it shows: after a sign that takes away the vowel, and a non-joiner also between
two letters that would have joined, marks on them left out of account.
-/

set_option autoImplicit false

namespace HttpReplay.Unicode

/-- To which neighbours a character joins. -/
inductive Joining where
  /-- To the one before it in a script read from the right, which comes after it in the text. -/
  | left
  /-- To the one on its right, which comes before it in the text. -/
  | right
  /-- To both. -/
  | dual
  /-- It lies on a letter and does not part it from its neighbours. -/
  | transparent
  deriving DecidableEq, Repr

namespace Joining

/-- The joining types, as they are numbered in the table. -/
def numbered : List Joining := [.left, .right, .dual, .transparent]

/-- The characters that have a joining type. -/
def table : List Entry := Entry.table "
  ad.0.3 253.6f.3 114.6.3 108.2c.3 2.0.3 2.1.3 2.1.3 2.0.3 49.a.3 2.0.3 4.0.2 2.3.1 1.0.2 1.0.1
  1.0.2 1.0.1 1.4.2 1.3.1 1.c.2 2.6.2 1.0.1 1.1.2 1.14.3 f.1.2 1.0.3 1.2.1 2.2.1 1.f.2 1.11.1
  1.25.2 1.0.1 1.1.2 1.8.1 1.0.2 1.0.1 1.0.2 1.0.1 1.1.2 1.1.1 2.0.1 1.6.3 3.5.3 3.1.3 2.3.3 1.1.1
  b.2.2 3.0.2 10.0.3 1.0.1 1.0.3 1.2.2 1.4.1 1.3.2 1.0.1 1.8.2 1.0.1 1.0.2 1.0.1 1.0.2 1.0.1 1.1.2
  1.0.1 1.1a.3 3.0.1 1.a.2 1.2.1 1.e.2 1.1.1 1.3.2 1.0.1 1.0.2 1.1.1 1.2.2 1.1.1 1.5.2 27.a.3
  1a.20.2 1.8.3 a.0.3 19.3.3 2.8.3 2.2.3 2.4.3 13.0.1 1.4.2 1.1.1 1.0.2 1.0.1 1.9.2 1.0.1 1.0.2
  1.2.1 1.2.3 5.0.2 2.3.2 2.0.1 1.0.2 1.1.1 6.12.1 4.0.2 3.4.2 1.0.1 1.0.2 8.8.3 1.9.2 1.2.1 2.0.1
  1.1.2 1.1.1 1.5.2 1.0.1 1.e.2 2.17.3 2.1f.3 38.0.3 2.0.3 5.7.3 5.0.3 4.6.3 b.1.3 1e.0.3 3b.0.3
  5.3.3 9.0.3 15.1.3 1b.0.3 3.1.3 3a.0.3 5.1.3 5.1.3 3.2.3 4.0.3 1f.1.3 4.0.3 c.1.3 3a.0.3 5.4.3
  2.1.3 5.0.3 15.1.3 17.5.3 2.0.3 3b.0.3 3.0.3 2.3.3 9.0.3 6.3.3 c.1.3 1f.0.3 3e.0.3 d.0.3 33.0.3
  4.0.3 38.0.3 2.2.3 6.2.3 2.3.3 8.1.3 c.1.3 1e.0.3 3b.0.3 3.0.3 7.0.3 6.1.3 15.1.3 1d.1.3 3a.1.3
  5.3.3 9.0.3 15.1.3 1e.0.3 49.0.3 8.2.3 2.0.3 5b.0.3 3.6.3 d.7.3 63.0.3 3.8.3 c.6.3 4a.1.3 1c.0.3
  2.0.3 2.0.3 38.d.3 2.4.3 2.1.3 6.a.3 2.23.3 a.0.3 67.3.3 2.5.3 2.1.3 3.1.3 1a.1.3 5.2.3 11.3.3
  e.0.3 3.1.3 7.0.3 10.0.3 2c0.2.3 3b3.2.3 1e.1.3 1f.1.3 1f.1.3 41.1.3 2.6.3 9.0.3 3.a.3 a.0.3
  2a.0.2 4.2.3 2.0.3 11.58.2 d.1.3 1.21.2 1.0.3 1.0.2 76.2.3 5.1.3 a.0.3 7.2.3 dc.1.3 3.0.3 3b.0.3
  2.6.3 2.0.3 2.0.3 3.7.3 7.9.3 3.0.3 31.2d.3 3.c.3 14.3.3 31.0.3 2.3.3 9.0.3 29.8.3 d.1.3 21.3.3
  3.1.3 2.2.3 39.0.3 2.1.3 4.0.3 2.2.3 3b.7.3 3.1.3 99.2.3 2.c.3 2.6.3 5.0.3 7.0.3 4.1.3 c7.3f.3
  20c.0.3 3.1.3 1b.4.3 32.4.3 6.5.3 61.20.3 bff.2.3 8e.0.3 61.1f.3 22b.3.3 6c.1.3 75d5.3.3 2.9.3
  21.1.3 51.1.3 111.0.3 4.0.3 5.0.3 1a.1.3 6.0.3 14.31.2 1.0.0 52.1.3 1b.11.3 e.0.3 27.7.3 1a.a.3
  2f.2.3 31.0.3 3.3.3 3.1.3 28.0.3 44.5.3 3.1.3 3.1.3 d.0.3 9.0.3 30.0.3 34.0.3 2.2.3 3.1.3 6.1.3
  2.0.3 2b.1.3 9.0.3 ef.0.3 3.0.3 5.0.3 4f31.0.3 2e2.f.3 11.f.3 d0.0.3 fa.2.3 202.0.3 e3.0.3
  96.4.3 687.2.3 2.1.3 6.3.3 29.2.3 5.0.3 81.4.2 1.0.1 2.0.1 2.1.1 3.0.0 1.4.1 1.3.2 1.0.0 1.4.2
  1.0.1 1.2.2 1.0.1 3.0.1 1.1.3 5.3.2 1.0.1 91.0.2 1.0.1 1.0.2 1.2.1 1.2.2 1.0.1 1.1.2 1.0.1 1.0.2
  1.1.1 1.0.2 1.0.1 18.3.1 1.1.2 152.0.0 1.20.2 1.0.1 1.0.2 1.3.3 42.4.3 13e.1.3 16.0.1 1.1.2
  2.1.2 33.5.3 31.2.2 1.0.1 1.10.2 2.a.3 1.2.2 1.0.1 1c.3.2 1.1.1 1.b.2 1.3.3 2b.0.2 2.1.2 1.2.1
  2.0.2 1.1.1 1.1.2 1.0.1 1.1.2 2.0.2 1.1.1 1.0.2 5.0.1 1.0.2 1.0.0 36.0.3 37.e.3 2a.0.3 3.1.3
  b.2.3 32.3.3 3.1.3 8.0.3 3e.2.3 25.4.3 2.7.3 3f.0.3 d.1.3 35.8.3 b.3.3 3.0.3 60.2.3 3.0.3 2.1.3
  7.0.3 3.0.3 9e.0.3 4.7.3 16.1.3 3a.1.3 4.0.3 26.6.3 4.4.3 47.5.3 e.0.3 2.0.3 2.0.3 f.1.3 56.7.3
  3.2.3 2.0.3 18.0.3 55.5.3 2.0.3 5.1.3 2.1.3 ef.3.3 7.1.3 2.1.3 1c.1.3 56.7.3 3.0.3 2.1.3 6b.0.3
  2.0.3 3.5.3 2.0.3 66.0.3 2.0.3 3.3.3 2.4.3 104.8.3 2.1.3 101.1.3 2.0.3 5.0.3 91.3.3 3.1.3 5.0.3
  21.9.3 29.5.3 3.3.3 9.0.3 a.5.3 3.2.3 2f.c.3 2.1.3 c7.0.3 2.2.3 2.0.3 ca.6.3 2.5.3 2.0.3 53.15.3
  3.6.3 2.1.3 2.1.3 7b.5.3 4.0.3 2.1.3 2.6.3 2.0.3 49.1.3 4.0.3 2.0.3 15c.1.3 c.1.3 35.4.3 6.0.3
  2.0.3 18.0.3 14d6.10.3 7.e.3 2cc9.b.3 4.2.3 9c1.4.3 3c.6.3 419.0.3 40.3.3 52.0.3 4cb9.1.3 2.3.3
  125d.2d.3 3.16.3 221.2.3 a.f.3 3.6.3 1f.3.3 95.2.3 7bc.36.3 5.31.3 9.0.3 f.0.3 17.4.3 2.e.3
  551.6.3 2.10.3 3.6.3 2.1.3 2.4.3 65.0.3 a1.6.3 178.0.3 3e.3.3 1fd.3.3 ff.1.3 f4.0.3 3.0.3 8.1.3
  6.0.3 1db.6.3 2a.43.2 1.7.3 c16b6.0.3 1f.5f.3 81.ef.3"

def ofChar? (c : Char) : Option Joining := (value? table c).bind fun n => numbered[n]?

end Joining

/-- Keeps two letters from joining. -/
def nonJoiner : Char := '\u200C'

/-- Makes two letters join. -/
def joiner : Char := '\u200D'

/-- Whether the first of some characters that is not transparent joins in one of the ways. -/
def joinsFirst (ways : List Joining) (cs : List Char) : Bool :=
  match (cs.map Joining.ofChar?).find? (· != some .transparent) with
  | some (some way) => ways.contains way
  | _ => false

/-- Whether a joiner may stand between two texts, the first of which is given from its end. -/
def joinerFits (c : Char) (before after : List Char) : Bool :=
  (before.head?.map markClass) == some viramaClass ||
    (c == nonJoiner && joinsFirst [.left, .dual] before && joinsFirst [.right, .dual] after)

/-- Whether all joiners in a text may stand where they stand, `before` being what precedes the
text, from its end. -/
def joinersFit (before : List Char) : List Char → Bool
  | [] => true
  | c :: rest =>
    (if c == joiner || c == nonJoiner then joinerFits c before rest else true) &&
      joinersFit (c :: before) rest

end HttpReplay.Unicode
