import HttpReplay.Unicode.Table

/-!
Combining marks: the characters of Unicode's general category Mark. Among the characters that may
stand in a host name they are the ones that may not begin a label.
-/

set_option autoImplicit false

namespace HttpReplay.Unicode

/-- The marks, ranges running over characters that no name has. -/
def marks : List Entry := Entry.table "
  300.6f 114.6 108.2c 2 2.1 2.1 2 49.a 31.14 11 66.6 3.5 3.1 2.3 24 1f.1a 5c.a 3b.8 a 19.3 2.8 2.2
  2.4 2c.2 3c.8 2b.39 37.2 2.11 2.6 b.1 1e.2 39 2.f a b.1 1b.5 39.15 1f.1 4 c.2 39 2.f 15.1 17.9
  39 2.19 b.1 1f 3c.f a 29.4 38 2.18 c.1 1e.2 39 2.18 c.1 10.10 38.1 2.f a b.1 1e.2 47.15 13.1 3e
  3.6 d.7 63 3.8 c.6 4a.1 1c 2 2 5.1 32.13 2.1 6.2f a 65.13 18.3 5.2 2.2 3.6 4.3 e.b 2 b.3 2c0.2
  3b3.3 1d.2 1e.1 1f.1 43.1d a a8.1 23 77.1b dc.4 3a.2a 31.54 30.10 27.8 d.2 1f.c 39.d 31.13 99.2
  2.14 5 7 3.2 c7.3f 2d1.20 bff.2 8e 61.1f 22b.5 6a.1 75d5.3 2.9 21.1 51.1 111 4 5 18.4 5 54.1
  33.11 1b.11 e 27.7 1a.c 2d.3 30.d 25 44.d d 9.1 2e.2 33 2.2 3.1 6.1 2 2a.4 6.1 ed.7 2.1 4f31
  302.f 3ce e3 96.4 687.e 29.7 a6.1 23e.3 42.4 13e.1 4e.5 47.a 32.3 7b.2 36.e 2a 3.1 b.3 2e.a 8
  3e.2 25.d 11.1 2d d.2 31.d 9.3 2.1 5d.b 7 3 9e.b 16.3 38.1 2.f a b.12 44.18 2 f.1 53.11 18 52.13
  ec.11 1c.1 53.10 6b.c 66.e 101.e f6.e 2 2.1 8e.f 4 1d.9 29.6 2.3 9 a.a 2f.f c7.7 c8.10 53.24
  7b.14 2 43.d 15c.3 a.1 2 31.e 18 14e6 7.e 2cc9.11 9c1.4 3c.6 419 2.41 52.d 4cac.1 1262.46 21f.4
  4.15 3.6 1f.3 95.2 7bc.36 5.31 9 f 17.14 551.8f a1.6 178 3e.3 1fd.3 ff.1 f4 3 8.1 6 1db.6 6e.6"

def isMark (c : Char) : Bool := lists marks c

end HttpReplay.Unicode
