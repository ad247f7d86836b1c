import DiagramRepair.Text.Basic

/-! The ASCII parts of other characters in Unicode 14: what is left of a character in ASCII once it
is taken apart into a base and its marks, or into the plain characters that it is a form of.
-/

namespace DiagramRepair.Text

/-- The characters from `first` to `last`, whose ASCII parts are the characters from `start` on. -/
structure AsciiRun where
  first : Nat
  last : Nat
  start : Char

def asciiRuns : List AsciiRun :=
  [
    ⟨0x1d33, 0x1d3a, 'G'⟩, ⟨0x2074, 0x2079, '4'⟩, ⟨0x2080, 0x2089, '0'⟩, ⟨0x2096, 0x2099, 'k'⟩,
    ⟨0x2460, 0x2468, '1'⟩, ⟨0x24b6, 0x24cf, 'A'⟩, ⟨0x24d0, 0x24e9, 'a'⟩, ⟨0x32c0, 0x32c8, '1'⟩,
    ⟨0x3358, 0x3361, '0'⟩, ⟨0x33e0, 0x33e8, '1'⟩, ⟨0xff01, 0xff5e, '!'⟩, ⟨0x1d400, 0x1d419, 'A'⟩,
    ⟨0x1d41a, 0x1d433, 'a'⟩, ⟨0x1d434, 0x1d44d, 'A'⟩, ⟨0x1d44e, 0x1d454, 'a'⟩,
    ⟨0x1d456, 0x1d467, 'i'⟩, ⟨0x1d468, 0x1d481, 'A'⟩, ⟨0x1d482, 0x1d49b, 'a'⟩,
    ⟨0x1d4a9, 0x1d4ac, 'N'⟩, ⟨0x1d4ae, 0x1d4b5, 'S'⟩, ⟨0x1d4b6, 0x1d4b9, 'a'⟩,
    ⟨0x1d4bd, 0x1d4c3, 'h'⟩, ⟨0x1d4c5, 0x1d4cf, 'p'⟩, ⟨0x1d4d0, 0x1d4e9, 'A'⟩,
    ⟨0x1d4ea, 0x1d503, 'a'⟩, ⟨0x1d507, 0x1d50a, 'D'⟩, ⟨0x1d50d, 0x1d514, 'J'⟩,
    ⟨0x1d516, 0x1d51c, 'S'⟩, ⟨0x1d51e, 0x1d537, 'a'⟩, ⟨0x1d53b, 0x1d53e, 'D'⟩,
    ⟨0x1d540, 0x1d544, 'I'⟩, ⟨0x1d54a, 0x1d550, 'S'⟩, ⟨0x1d552, 0x1d56b, 'a'⟩,
    ⟨0x1d56c, 0x1d585, 'A'⟩, ⟨0x1d586, 0x1d59f, 'a'⟩, ⟨0x1d5a0, 0x1d5b9, 'A'⟩,
    ⟨0x1d5ba, 0x1d5d3, 'a'⟩, ⟨0x1d5d4, 0x1d5ed, 'A'⟩, ⟨0x1d5ee, 0x1d607, 'a'⟩,
    ⟨0x1d608, 0x1d621, 'A'⟩, ⟨0x1d622, 0x1d63b, 'a'⟩, ⟨0x1d63c, 0x1d655, 'A'⟩,
    ⟨0x1d656, 0x1d66f, 'a'⟩, ⟨0x1d670, 0x1d689, 'A'⟩, ⟨0x1d68a, 0x1d6a3, 'a'⟩,
    ⟨0x1d7ce, 0x1d7d7, '0'⟩, ⟨0x1d7d8, 0x1d7e1, '0'⟩, ⟨0x1d7e2, 0x1d7eb, '0'⟩,
    ⟨0x1d7ec, 0x1d7f5, '0'⟩, ⟨0x1d7f6, 0x1d7ff, '0'⟩, ⟨0x1f130, 0x1f149, 'A'⟩,
    ⟨0x1fbf0, 0x1fbf9, '0'⟩
  ]

/-- The ranges of characters whose ASCII parts are spaces. -/
def spacedRanges : List (Nat × Nat) :=
  [
    (0xa0, 0xa0), (0xa8, 0xa8), (0xaf, 0xaf), (0xb4, 0xb4), (0xb8, 0xb8), (0x2d8, 0x2dd),
    (0x37a, 0x37a), (0x384, 0x385), (0x1fbd, 0x1fbd), (0x1fbf, 0x1fc1), (0x1fcd, 0x1fcf),
    (0x1fdd, 0x1fdf), (0x1fed, 0x1fee), (0x1ffd, 0x1ffe), (0x2000, 0x200a), (0x2017, 0x2017),
    (0x202f, 0x202f), (0x203e, 0x203e), (0x205f, 0x205f), (0x3000, 0x3000), (0x309b, 0x309c),
    (0xfc5e, 0xfc63), (0xfdfa, 0xfdfb), (0xfe49, 0xfe4c), (0xfe70, 0xfe70), (0xfe72, 0xfe72),
    (0xfe74, 0xfe74), (0xfe76, 0xfe76), (0xfe78, 0xfe78), (0xfe7a, 0xfe7a), (0xfe7c, 0xfe7c),
    (0xfe7e, 0xfe7e), (0xffe3, 0xffe3)
  ]

/-- The characters from `first` on. Their ASCII parts stand between single spaces in `parts`, and
some are empty. -/
structure AsciiList where
  first : Nat
  parts : String

def asciiLists : List AsciiList :=
  [
    ⟨0xaa, "a"⟩,
    ⟨0xb2, "2 3"⟩,
    ⟨0xb9,
      "1 o  14 12 34  A A A A A A  C E E E E I I I I  N O O O O O   U U U U Y   a a a a "
        ++ "a a  c e e e e i i i i  n o o o o o   u u u u y  y A a A a A a C c C c C c C c D "
        ++ "d   E e E e E e E e E e G g G g G g G g H h   I i I i I i I i I  IJ ij J j K k  L "
        ++ "l L l L l L l   N n N n N n n   O o O o O o   R r R r R r S s S s S s S s T t T t "
        ++ "  U u U u U u U u U u U u W w Y y Y Z z Z z Z z s"⟩,
    ⟨0x1a0, "O o"⟩,
    ⟨0x1af, "U u"⟩,
    ⟨0x1c4, "DZ Dz dz LJ Lj lj NJ Nj nj A a I i O o U u U u U u U u U u  A a A a"⟩,
    ⟨0x1e6, "G g K k O o O o   j DZ Dz dz G g   N n A a"⟩,
    ⟨0x200, "A a A a E e E e I i I i O o O o R r R r U u U u S s T t   H h"⟩,
    ⟨0x226, "A a E e O o O o O o O o Y y"⟩,
    ⟨0x2b0, "h  j r    w y"⟩,
    ⟨0x2e1, "l s x"⟩,
    ⟨0x37e, ";"⟩,
    ⟨0x1d2c, "A  B  D E"⟩,
    ⟨0x1d3c, "O  P R T U W a    b d e    g  k m  o    p t u   v"⟩,
    ⟨0x1d62, "i r u v"⟩,
    ⟨0x1d9c, "c    f"⟩,
    ⟨0x1dbb, "z"⟩,
    ⟨0x1e00,
      "A a B b B b B b C c D d D d D d D d D d E e E e E e E e E e F f G g H h H h H h H "
        ++ "h H h I i I i K k K k K k L l L l L l L l M m M m M m N n N n N n N n O o O o O o "
        ++ "O o P p P p R r R r R r R r S s S s S s S s S s T t T t T t T t U u U u U u U u U "
        ++ "u V v V v W w W w W w W w W w X x X x Y y Z z Z z Z z h t w y a s"⟩,
    ⟨0x1ea0,
      "A a A a A a A a A a A a A a A a A a A a A a A a E e E e E e E e E e E e E e E e I "
        ++ "i I i O o O o O o O o O o O o O o O o O o O o O o O o U u U u U u U u U u U u U u "
        ++ "Y y Y y Y y Y y"⟩,
    ⟨0x1fef, "\x60"⟩,
    ⟨0x2024, ". .. ..."⟩,
    ⟨0x203c, "!!"⟩,
    ⟨0x2047, "?? ?! !?"⟩,
    ⟨0x2070, "0 i"⟩,
    ⟨0x207a, "+  = ( ) n"⟩,
    ⟨0x208a, "+  = ( )  a e o x  h"⟩,
    ⟨0x209a, "p s t"⟩,
    ⟨0x20a8, "Rs"⟩,
    ⟨0x2100,
      "a/c a/s C C  c/o c/u   F g H H H h  I I L l  N No   P Q R R R   SM TEL TM  Z    Z "
        ++ " K A B C  e E F  M o"⟩,
    ⟨0x2139, "i  FAX"⟩,
    ⟨0x2145, "D d e i j"⟩,
    ⟨0x2150,
      "17 19 110 13 23 15 25 35 45 16 56 18 38 58 78 1 I II III IV V VI VII VIII IX X XI "
        ++ "XII L C D M i ii iii iv v vi vii viii ix x xi xii l c d m"⟩,
    ⟨0x2189, "03"⟩,
    ⟨0x2260, "="⟩,
    ⟨0x226e, "< >"⟩,
    ⟨0x2469,
      "10 11 12 13 14 15 16 17 18 19 20 (1) (2) (3) (4) (5) (6) (7) (8) (9) (10) (11) "
        ++ "(12) (13) (14) (15) (16) (17) (18) (19) (20) 1. 2. 3. 4. 5. 6. 7. 8. 9. 10. 11. "
        ++ "12. 13. 14. 15. 16. 17. 18. 19. 20. (a) (b) (c) (d) (e) (f) (g) (h) (i) (j) (k) "
        ++ "(l) (m) (n) (o) (p) (q) (r) (s) (t) (u) (v) (w) (x) (y) (z)"⟩,
    ⟨0x24ea, "0"⟩,
    ⟨0x2a74, "::= == ==="⟩,
    ⟨0x2c7c, "j V"⟩,
    ⟨0x3200,
      "() () () () () () () () () () () () () () () () () () () () () () () () () () () "
        ++ "() () () ()  () () () () () () () () () () () () () () () () () () () () () () () "
        ++ "() () () () () () () () () () () () ()"⟩,
    ⟨0x3250, "PTE 21 22 23 24 25 26 27 28 29 30 31 32 33 34 35"⟩,
    ⟨0x32b1, "36 37 38 39 40 41 42 43 44 45 46 47 48 49 50"⟩,
    ⟨0x32c9, "10 11 12 Hg erg eV LTD"⟩,
    ⟨0x3362, "10 11 12 13 14 15 16 17 18 19 20 21 22 23 24 hPa da AU bar oV pc dm dm2 dm3 IU"⟩,
    ⟨0x3380,
      "pA nA A mA kA KB MB GB cal kcal pF nF F g mg kg Hz kHz MHz GHz THz l ml dl kl fm "
        ++ "nm m mm cm km mm2 cm2 m2 km2 mm3 cm3 m3 km3 ms ms2 Pa kPa MPa GPa rad rads rads2 "
        ++ "ps ns s ms pV nV V mV kV MV pW nW W mW kW MW k M a.m. Bq cc cd Ckg Co. dB Gy ha "
        ++ "HP in KK KM kt lm ln log lx mb mil mol PH p.m. PPM PR sr Sv Wb Vm Am"⟩,
    ⟨0x33e9, "10 11 12 13 14 15 16 17 18 19 20 21 22 23 24 25 26 27 28 29 30 31 gal"⟩,
    ⟨0xa7f2, "C F Q"⟩,
    ⟨0xfb00, "ff fi fl ffi ffl st st"⟩,
    ⟨0xfb29, "+"⟩,
    ⟨0xfe10, ",   : ; ! ?   ..."⟩,
    ⟨0xfe30, "..   _ _ ( ) \x7b \x7d"⟩,
    ⟨0xfe47, "[ ]"⟩,
    ⟨0xfe4d, "_ _ _ ,  .  ; : ? !  ( ) \x7b \x7d   # & * + - < > =  \\ $ % @"⟩,
    ⟨0x107a5, "q"⟩,
    ⟨0x1d49c, "A  C D   G   J K"⟩,
    ⟨0x1d4bb, "f"⟩,
    ⟨0x1d504, "A B"⟩,
    ⟨0x1d538, "A B"⟩,
    ⟨0x1d546, "O"⟩,
    ⟨0x1f100, "0. 0, 1, 2, 3, 4, 5, 6, 7, 8, 9,"⟩,
    ⟨0x1f110,
      "(A) (B) (C) (D) (E) (F) (G) (H) (I) (J) (K) (L) (M) (N) (O) (P) (Q) (R) (S) (T) "
        ++ "(U) (V) (W) (X) (Y) (Z) S C R CD WZ"⟩,
    ⟨0x1f14a, "HV MV SD SS PPV WC"⟩,
    ⟨0x1f16a, "MC MD MR"⟩,
    ⟨0x1f190, "DJ"⟩
  ]

end DiagramRepair.Text
