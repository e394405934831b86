import HttpReplay.Unicode.Table

/-!
The direction in which characters are written, and when a label keeps its place among others.

A name with characters from scripts written from the right is drawn in both directions, and its
labels could appear to change places. They do not if each label has a direction of its own, given
by its first character, keeps out the characters of the other, and ends in a character that does
not let the direction of the dot after it change: the rule of RFC 5893.
-/

set_option autoImplicit false

namespace HttpReplay.Unicode

/-- The classes of the bidirectional algorithm that occur in names. -/
inductive Direction where
  | leftToRight
  | rightToLeft
  | arabicLetter
  | arabicNumber
  | europeanNumber
  | europeanSeparator
  | commonSeparator
  | europeanTerminator
  | neutral
  | boundaryNeutral
  | nonspacingMark
  deriving DecidableEq, Repr

namespace Direction

/-- The classes other than `leftToRight`, as they are numbered in the table. -/
def numbered : List Direction :=
  [.rightToLeft, .arabicLetter, .arabicNumber, .europeanNumber, .europeanSeparator,
    .commonSeparator, .europeanTerminator, .neutral, .boundaryNeutral, .nonspacingMark]

/-- The classes of characters, ranges running over characters that no name has. -/
def table : List Entry := Entry.table "
  0.8.8 6.d.8 6.1.7 1.2.6 1.4.7 1.0.4 1.0.5 1.0.4 1.1.5 1.9.3 1.0.5 1.5.7 1b.5.7 1b.3.7 1.0.8
  22.0.7 1.3.6 1.8.7 2.1.6 5.21.7 20.0.7 1c2.1.7 8.d.7 3.1b.7 2.10.7 1.6f.9 6.0.7 81.0.7 8d.6.9
  101.4.7 1.0.6 2.2c.9 1.0.0 1.0.9 1.0.0 1.1.9 1.0.0 1.1.9 1.0.0 1.0.9 9.24.0 12.1.7 1.0.1 1.1.6
  1.0.1 1.0.5 1.0.1 1.1.7 1.a.9 1.2f.1 1.14.9 1.9.2 1.0.6 1.1.2 1.2.1 1.0.9 1.64.1 1.6.9 2.0.7
  1.5.9 1.1.1 1.1.9 1.0.7 1.3.9 1.1.1 1.9.3 1.16.1 1.0.9 1.1d.1 1.1a.9 3.58.1 1.a.9 1.0.1 f.2a.0
  1.8.9 1.1.0 1.3.7 1.0.0 3.0.9 1.17.0 1.3.9 1.0.0 1.8.9 1.0.0 1.2.9 1.0.0 1.4.9 3.28.0 1.2.9
  3.0.0 2.2f.1 8.8.9 1.29.1 1.38.9 38.0.9 2.0.9 5.7.9 5.0.9 4.6.9 b.1.9 1e.0.9 3b.0.9 5.3.9 9.0.9
  15.1.9 f.1.6 8.0.6 3.4.9 3a.0.9 5.10.9 1f.1.9 4.0.9 c.1.9 3a.0.9 5.7.9 5.0.9 15.1.9 e.0.6 9.7.9
  3b.0.9 3.0.9 2.3.9 9.9.9 c.1.9 1f.0.9 3e.0.9 d.0.9 26.5.7 1.0.6 1.0.7 6.0.9 4.0.9 38.0.9 2.2.9
  6.10.9 c.1.9 15.6.7 3.0.9 3b.0.9 10.1.9 15.1.9 1d.1.9 3a.1.9 5.3.9 9.0.9 15.1.9 1e.0.9 49.0.9
  8.4.9 5b.0.9 3.6.9 5.0.6 8.7.9 63.0.9 3.8.9 c.6.9 4a.1.9 1c.0.9 2.0.9 2.0.9 1.3.7 34.d.9 2.4.9
  2.1.9 6.2f.9 a.0.9 67.3.9 2.5.9 2.1.9 3.1.9 1a.1.9 5.2.9 11.3.9 e.0.9 3.1.9 7.0.9 10.0.9 2c0.2.9
  31.9.7 67.0.7 29b.1.7 76.2.9 1e.1.9 1f.1.9 1f.1.9 44.6.9 9.0.9 3.a.9 8.0.6 2.0.9 13.1a.7 7b.1.9
  23.0.9 77.2.9 5.1.9 a.0.9 7.2.9 5.5.7 99.21.7 18.1.9 3.0.9 3b.0.9 2.8.9 2.0.9 3.7.9 7.c.9
  31.53.9 31.0.9 2.3.9 9.0.9 29.8.9 d.1.9 21.3.9 3.1.9 2.2.9 39.0.9 2.1.9 4.0.9 2.2.9 3b.7.9 3.1.9
  99.2.9 2.c.9 2.6.9 5.0.9 7.0.9 4.1.9 c7.3f.9 20d.1.8 3.17.7 9.2.6 3.e.7 1.0.5 1.19.7 42.23.6
  d.20.9 14.25.7 5.0.6 c.13.7 3d.87.7 1.0.4 1.0.6 1.121.7 46.19.7 2.315.7 2.152.7 101.2ff.7 e6.5.7
  5.2.9 8.6.7 80.0.9 61.1f.9 1.204.7 4.18.7 a.3.9 3.0.7 7.0.7 6.2.7 5a.1.9 6.0.7 5b.0.7 c5.25.7
  1bdb.3f.7 5691.36.7 147.2.7 60.3.9 1.0.7 1.9.9 1.1.7 1f.1.9 51.1.9 f.21.7 67.0.7 7a.0.9 4.0.9
  5.0.9 1a.1.9 2.3.7 1.0.9 c.1.6 3b.3.7 4d.1.9 1b.11.9 e.0.9 27.7.9 1a.a.9 2f.2.9 31.0.9 3.3.9
  3.1.9 28.0.9 44.5.9 3.1.9 3.1.9 d.0.9 9.0.9 30.0.9 34.0.9 2.2.9 3.1.9 6.1.9 2.0.9 2b.1.9 9.0.9
  74.1.7 7a.0.9 3.0.9 5.0.9 4f31.0.9 94.10.1 1.23c.7 21.f.9 16.1.7 2d.0.1 28e.0.7 3f.4c.7 4.10.7
  5d.0.9 e3.0.9 1.1a.3 7b.4.9 486.11b.0 4.0.7 1.e0.0 1.e.9 1.25.0 3.7.9 1.a4.0 1.1.9 5.4a.0 4.6.7
  1.1bf.0 1.23.1 1.3.9 9.19.2 1.5.0 1a.4.9 1.0.7 1.20.0 d1.1e.2 2.29.0 2.1.9 1.4.0 11.5.1 9.8.7
  22.5.9 1.27.0 9.15.1 1.a.9 1.8.1 17.11.0 1.3.9 1.70.0 b.0.9 37.e.9 c.13.7 b.0.9 3.1.9 b.2.9
  32.3.9 3.1.9 8.0.9 3e.2.9 25.4.9 2.7.9 3f.0.9 d.1.9 35.8.9 b.3.9 3.0.9 60.2.9 3.0.9 2.1.9 7.0.9
  3.0.9 9e.0.9 4.7.9 16.1.9 3a.1.9 4.0.9 26.e.9 47.5.9 e.0.9 2.0.9 2.0.9 f.1.9 56.7.9 3.2.9 2.0.9
  18.0.9 55.5.9 2.0.9 5.1.9 2.1.9 ef.3.9 7.1.9 2.1.9 1c.1.9 56.7.9 3.0.9 2.1.9 20.c.7 3f.0.9 2.0.9
  3.5.9 2.0.9 66.0.9 2.0.9 3.3.9 2.4.9 104.8.9 2.1.9 101.1.9 2.0.9 5.0.9 91.7.9 5.0.9 21.5.9 3.1.9
  29.5.9 3.3.9 9.0.9 a.5.9 3.2.9 2f.c.9 2.1.9 c7.0.9 2.2.9 2.0.9 ca.d.9 55.15.9 3.6.9 2.1.9 2.1.9
  7b.14.9 2.0.9 49.1.9 4.0.9 2.0.9 15c.1.9 c.1.9 35.4.9 6.0.9 2.0.9 18.0.9 7b.7.7 1.3.6 1.10.7
  144f.0.9 7.e.9 2cc9.b.9 4.2.9 9c1.4.9 3c.6.9 419.0.9 40.3.9 50.0.7 2.0.9 4cb9.1.9 f62.2f0.7
  10.46.9 221.2.9 12.7.9 3.6.9 1f.3.9 3c.58.7 1.2.9 1.0.7 bb.56.7 6aa.36.9 5.31.9 9.0.9 f.0.9
  17.14.9 551.8f.9 a1.6.9 178.0.9 3e.3.9 10.0.6 1ed.3.9 ff.1.9 f4.0.9 3.0.9 8.1.9 6.0.9 10b.cf.0
  1.6.9 4c.21.0 1.6.9 1.14.0 312.cc.1 1b3.23f.7 3e.2.7 3e.0.7 b3.99a.7"

def ofChar (c : Char) : Direction :=
  ((value? table c).bind fun n => numbered[n]?).getD .leftToRight

/-- Whether a character makes a text bidirectional. -/
def turns (d : Direction) : Bool := [rightToLeft, arabicLetter, arabicNumber].contains d

/-- What may stand in any label. -/
def common : List Direction :=
  [europeanNumber, europeanSeparator, commonSeparator, europeanTerminator, neutral,
    boundaryNeutral, nonspacingMark]

/-- Whether the classes of a label's characters let it keep its place. -/
def keepsPlace (label : List Direction) : Bool :=
  match label, (label.reverse.dropWhile (· == nonspacingMark)).head? with
  | leftToRight :: _, some last =>
    label.all ((leftToRight :: common).contains ·) &&
      [leftToRight, europeanNumber].contains last
  | first :: _, some last =>
    [rightToLeft, arabicLetter].contains first &&
      label.all ((rightToLeft :: arabicLetter :: arabicNumber :: common).contains ·) &&
      [rightToLeft, arabicLetter, europeanNumber, arabicNumber].contains last &&
      !(label.contains europeanNumber && label.contains arabicNumber)
  | _, _ => label.isEmpty

end Direction
end HttpReplay.Unicode
