import SecretRotation.Zone.History
import SecretRotation.Zone.Saving.SouthAmerica

/-!
# Zones of South America

The histories of the zones of South America.
-/

namespace SecretRotation.History

open SavingRules

/-- The histories of the zones of South America. -/
def southAmerica : List (String × History) :=
  [("America/Araguaina",
    .until (.behind 3 12 48 .off) ⟨1914, 1, .on 1, .midnight⟩ <|
    .until (.behind 3 0 0 (.rules brazil)) ⟨1990, 9, .on 17, .midnight⟩ <|
    .until (.behind 3 0 0 .off) ⟨1995, 9, .on 14, .midnight⟩ <|
    .until (.behind 3 0 0 (.rules brazil)) ⟨2003, 9, .on 24, .midnight⟩ <|
    .until (.behind 3 0 0 .off) ⟨2012, 10, .on 21, .midnight⟩ <|
    .until (.behind 3 0 0 (.rules brazil)) ⟨2013, 9, .on 1, .midnight⟩ <|
    .forever (.behind 3 0 0 .off)),
   ("America/Argentina/Buenos_Aires",
    .until (.behind 3 53 48 .off) ⟨1894, 10, .on 31, .midnight⟩ <|
    .until (.behind 4 16 48 .off) ⟨1920, 5, .on 1, .midnight⟩ <|
    .until (.behind 4 0 0 .off) ⟨1930, 12, .on 1, .midnight⟩ <|
    .until (.behind 4 0 0 (.rules argentina)) ⟨1969, 10, .on 5, .midnight⟩ <|
    .until (.behind 3 0 0 (.rules argentina)) ⟨1999, 10, .on 3, .midnight⟩ <|
    .until (.behind 4 0 0 (.rules argentina)) ⟨2000, 3, .on 3, .midnight⟩ <|
    .forever (.behind 3 0 0 (.rules argentina))),
   ("America/Argentina/Catamarca",
    .until (.behind 4 23 8 .off) ⟨1894, 10, .on 31, .midnight⟩ <|
    .until (.behind 4 16 48 .off) ⟨1920, 5, .on 1, .midnight⟩ <|
    .until (.behind 4 0 0 .off) ⟨1930, 12, .on 1, .midnight⟩ <|
    .until (.behind 4 0 0 (.rules argentina)) ⟨1969, 10, .on 5, .midnight⟩ <|
    .until (.behind 3 0 0 (.rules argentina)) ⟨1991, 3, .on 3, .midnight⟩ <|
    .until (.behind 4 0 0 .off) ⟨1991, 10, .on 20, .midnight⟩ <|
    .until (.behind 3 0 0 (.rules argentina)) ⟨1999, 10, .on 3, .midnight⟩ <|
    .until (.behind 4 0 0 (.rules argentina)) ⟨2000, 3, .on 3, .midnight⟩ <|
    .until (.behind 3 0 0 .off) ⟨2004, 6, .on 1, .midnight⟩ <|
    .until (.behind 4 0 0 .off) ⟨2004, 6, .on 20, .midnight⟩ <|
    .until (.behind 3 0 0 (.rules argentina)) ⟨2008, 10, .on 18, .midnight⟩ <|
    .forever (.behind 3 0 0 .off)),
   ("America/Argentina/Cordoba",
    .until (.behind 4 16 48 .off) ⟨1894, 10, .on 31, .midnight⟩ <|
    .until (.behind 4 16 48 .off) ⟨1920, 5, .on 1, .midnight⟩ <|
    .until (.behind 4 0 0 .off) ⟨1930, 12, .on 1, .midnight⟩ <|
    .until (.behind 4 0 0 (.rules argentina)) ⟨1969, 10, .on 5, .midnight⟩ <|
    .until (.behind 3 0 0 (.rules argentina)) ⟨1991, 3, .on 3, .midnight⟩ <|
    .until (.behind 4 0 0 .off) ⟨1991, 10, .on 20, .midnight⟩ <|
    .until (.behind 3 0 0 (.rules argentina)) ⟨1999, 10, .on 3, .midnight⟩ <|
    .until (.behind 4 0 0 (.rules argentina)) ⟨2000, 3, .on 3, .midnight⟩ <|
    .forever (.behind 3 0 0 (.rules argentina))),
   ("America/Argentina/Jujuy",
    .until (.behind 4 21 12 .off) ⟨1894, 10, .on 31, .midnight⟩ <|
    .until (.behind 4 16 48 .off) ⟨1920, 5, .on 1, .midnight⟩ <|
    .until (.behind 4 0 0 .off) ⟨1930, 12, .on 1, .midnight⟩ <|
    .until (.behind 4 0 0 (.rules argentina)) ⟨1969, 10, .on 5, .midnight⟩ <|
    .until (.behind 3 0 0 (.rules argentina)) ⟨1990, 3, .on 4, .midnight⟩ <|
    .until (.behind 4 0 0 .off) ⟨1990, 10, .on 28, .midnight⟩ <|
    .until (.behind 4 0 0 (.on 60)) ⟨1991, 3, .on 17, .midnight⟩ <|
    .until (.behind 4 0 0 .off) ⟨1991, 10, .on 6, .midnight⟩ <|
    .until (.behind 3 0 0 (.on 60)) ⟨1992, 1, .on 1, .midnight⟩ <|
    .until (.behind 3 0 0 (.rules argentina)) ⟨1999, 10, .on 3, .midnight⟩ <|
    .until (.behind 4 0 0 (.rules argentina)) ⟨2000, 3, .on 3, .midnight⟩ <|
    .until (.behind 3 0 0 (.rules argentina)) ⟨2008, 10, .on 18, .midnight⟩ <|
    .forever (.behind 3 0 0 .off)),
   ("America/Argentina/La_Rioja",
    .until (.behind 4 27 24 .off) ⟨1894, 10, .on 31, .midnight⟩ <|
    .until (.behind 4 16 48 .off) ⟨1920, 5, .on 1, .midnight⟩ <|
    .until (.behind 4 0 0 .off) ⟨1930, 12, .on 1, .midnight⟩ <|
    .until (.behind 4 0 0 (.rules argentina)) ⟨1969, 10, .on 5, .midnight⟩ <|
    .until (.behind 3 0 0 (.rules argentina)) ⟨1991, 3, .on 1, .midnight⟩ <|
    .until (.behind 4 0 0 .off) ⟨1991, 5, .on 7, .midnight⟩ <|
    .until (.behind 3 0 0 (.rules argentina)) ⟨1999, 10, .on 3, .midnight⟩ <|
    .until (.behind 4 0 0 (.rules argentina)) ⟨2000, 3, .on 3, .midnight⟩ <|
    .until (.behind 3 0 0 .off) ⟨2004, 6, .on 1, .midnight⟩ <|
    .until (.behind 4 0 0 .off) ⟨2004, 6, .on 20, .midnight⟩ <|
    .until (.behind 3 0 0 (.rules argentina)) ⟨2008, 10, .on 18, .midnight⟩ <|
    .forever (.behind 3 0 0 .off)),
   ("America/Argentina/Mendoza",
    .until (.behind 4 35 16 .off) ⟨1894, 10, .on 31, .midnight⟩ <|
    .until (.behind 4 16 48 .off) ⟨1920, 5, .on 1, .midnight⟩ <|
    .until (.behind 4 0 0 .off) ⟨1930, 12, .on 1, .midnight⟩ <|
    .until (.behind 4 0 0 (.rules argentina)) ⟨1969, 10, .on 5, .midnight⟩ <|
    .until (.behind 3 0 0 (.rules argentina)) ⟨1990, 3, .on 4, .midnight⟩ <|
    .until (.behind 4 0 0 .off) ⟨1990, 10, .on 15, .midnight⟩ <|
    .until (.behind 4 0 0 (.on 60)) ⟨1991, 3, .on 1, .midnight⟩ <|
    .until (.behind 4 0 0 .off) ⟨1991, 10, .on 15, .midnight⟩ <|
    .until (.behind 4 0 0 (.on 60)) ⟨1992, 3, .on 1, .midnight⟩ <|
    .until (.behind 4 0 0 .off) ⟨1992, 10, .on 18, .midnight⟩ <|
    .until (.behind 3 0 0 (.rules argentina)) ⟨1999, 10, .on 3, .midnight⟩ <|
    .until (.behind 4 0 0 (.rules argentina)) ⟨2000, 3, .on 3, .midnight⟩ <|
    .until (.behind 3 0 0 .off) ⟨2004, 5, .on 23, .midnight⟩ <|
    .until (.behind 4 0 0 .off) ⟨2004, 9, .on 26, .midnight⟩ <|
    .until (.behind 3 0 0 (.rules argentina)) ⟨2008, 10, .on 18, .midnight⟩ <|
    .forever (.behind 3 0 0 .off)),
   ("America/Argentina/Rio_Gallegos",
    .until (.behind 4 36 52 .off) ⟨1894, 10, .on 31, .midnight⟩ <|
    .until (.behind 4 16 48 .off) ⟨1920, 5, .on 1, .midnight⟩ <|
    .until (.behind 4 0 0 .off) ⟨1930, 12, .on 1, .midnight⟩ <|
    .until (.behind 4 0 0 (.rules argentina)) ⟨1969, 10, .on 5, .midnight⟩ <|
    .until (.behind 3 0 0 (.rules argentina)) ⟨1999, 10, .on 3, .midnight⟩ <|
    .until (.behind 4 0 0 (.rules argentina)) ⟨2000, 3, .on 3, .midnight⟩ <|
    .until (.behind 3 0 0 .off) ⟨2004, 6, .on 1, .midnight⟩ <|
    .until (.behind 4 0 0 .off) ⟨2004, 6, .on 20, .midnight⟩ <|
    .until (.behind 3 0 0 (.rules argentina)) ⟨2008, 10, .on 18, .midnight⟩ <|
    .forever (.behind 3 0 0 .off)),
   ("America/Argentina/Salta",
    .until (.behind 4 21 40 .off) ⟨1894, 10, .on 31, .midnight⟩ <|
    .until (.behind 4 16 48 .off) ⟨1920, 5, .on 1, .midnight⟩ <|
    .until (.behind 4 0 0 .off) ⟨1930, 12, .on 1, .midnight⟩ <|
    .until (.behind 4 0 0 (.rules argentina)) ⟨1969, 10, .on 5, .midnight⟩ <|
    .until (.behind 3 0 0 (.rules argentina)) ⟨1991, 3, .on 3, .midnight⟩ <|
    .until (.behind 4 0 0 .off) ⟨1991, 10, .on 20, .midnight⟩ <|
    .until (.behind 3 0 0 (.rules argentina)) ⟨1999, 10, .on 3, .midnight⟩ <|
    .until (.behind 4 0 0 (.rules argentina)) ⟨2000, 3, .on 3, .midnight⟩ <|
    .until (.behind 3 0 0 (.rules argentina)) ⟨2008, 10, .on 18, .midnight⟩ <|
    .forever (.behind 3 0 0 .off)),
   ("America/Argentina/San_Juan",
    .until (.behind 4 34 4 .off) ⟨1894, 10, .on 31, .midnight⟩ <|
    .until (.behind 4 16 48 .off) ⟨1920, 5, .on 1, .midnight⟩ <|
    .until (.behind 4 0 0 .off) ⟨1930, 12, .on 1, .midnight⟩ <|
    .until (.behind 4 0 0 (.rules argentina)) ⟨1969, 10, .on 5, .midnight⟩ <|
    .until (.behind 3 0 0 (.rules argentina)) ⟨1991, 3, .on 1, .midnight⟩ <|
    .until (.behind 4 0 0 .off) ⟨1991, 5, .on 7, .midnight⟩ <|
    .until (.behind 3 0 0 (.rules argentina)) ⟨1999, 10, .on 3, .midnight⟩ <|
    .until (.behind 4 0 0 (.rules argentina)) ⟨2000, 3, .on 3, .midnight⟩ <|
    .until (.behind 3 0 0 .off) ⟨2004, 5, .on 31, .midnight⟩ <|
    .until (.behind 4 0 0 .off) ⟨2004, 7, .on 25, .midnight⟩ <|
    .until (.behind 3 0 0 (.rules argentina)) ⟨2008, 10, .on 18, .midnight⟩ <|
    .forever (.behind 3 0 0 .off)),
   ("America/Argentina/San_Luis",
    .until (.behind 4 25 24 .off) ⟨1894, 10, .on 31, .midnight⟩ <|
    .until (.behind 4 16 48 .off) ⟨1920, 5, .on 1, .midnight⟩ <|
    .until (.behind 4 0 0 .off) ⟨1930, 12, .on 1, .midnight⟩ <|
    .until (.behind 4 0 0 (.rules argentina)) ⟨1969, 10, .on 5, .midnight⟩ <|
    .until (.behind 3 0 0 (.rules argentina)) ⟨1990, 1, .on 1, .midnight⟩ <|
    .until (.behind 3 0 0 (.on 60)) ⟨1990, 3, .on 14, .midnight⟩ <|
    .until (.behind 4 0 0 .off) ⟨1990, 10, .on 15, .midnight⟩ <|
    .until (.behind 4 0 0 (.on 60)) ⟨1991, 3, .on 1, .midnight⟩ <|
    .until (.behind 4 0 0 .off) ⟨1991, 6, .on 1, .midnight⟩ <|
    .until (.behind 3 0 0 .off) ⟨1999, 10, .on 3, .midnight⟩ <|
    .until (.behind 4 0 0 (.on 60)) ⟨2000, 3, .on 3, .midnight⟩ <|
    .until (.behind 3 0 0 .off) ⟨2004, 5, .on 31, .midnight⟩ <|
    .until (.behind 4 0 0 .off) ⟨2004, 7, .on 25, .midnight⟩ <|
    .until (.behind 3 0 0 (.rules argentina)) ⟨2008, 1, .on 21, .midnight⟩ <|
    .until (.behind 4 0 0 (.rules sanLuis)) ⟨2009, 10, .on 11, .midnight⟩ <|
    .forever (.behind 3 0 0 .off)),
   ("America/Argentina/Tucuman",
    .until (.behind 4 20 52 .off) ⟨1894, 10, .on 31, .midnight⟩ <|
    .until (.behind 4 16 48 .off) ⟨1920, 5, .on 1, .midnight⟩ <|
    .until (.behind 4 0 0 .off) ⟨1930, 12, .on 1, .midnight⟩ <|
    .until (.behind 4 0 0 (.rules argentina)) ⟨1969, 10, .on 5, .midnight⟩ <|
    .until (.behind 3 0 0 (.rules argentina)) ⟨1991, 3, .on 3, .midnight⟩ <|
    .until (.behind 4 0 0 .off) ⟨1991, 10, .on 20, .midnight⟩ <|
    .until (.behind 3 0 0 (.rules argentina)) ⟨1999, 10, .on 3, .midnight⟩ <|
    .until (.behind 4 0 0 (.rules argentina)) ⟨2000, 3, .on 3, .midnight⟩ <|
    .until (.behind 3 0 0 .off) ⟨2004, 6, .on 1, .midnight⟩ <|
    .until (.behind 4 0 0 .off) ⟨2004, 6, .on 13, .midnight⟩ <|
    .forever (.behind 3 0 0 (.rules argentina))),
   ("America/Argentina/Ushuaia",
    .until (.behind 4 33 12 .off) ⟨1894, 10, .on 31, .midnight⟩ <|
    .until (.behind 4 16 48 .off) ⟨1920, 5, .on 1, .midnight⟩ <|
    .until (.behind 4 0 0 .off) ⟨1930, 12, .on 1, .midnight⟩ <|
    .until (.behind 4 0 0 (.rules argentina)) ⟨1969, 10, .on 5, .midnight⟩ <|
    .until (.behind 3 0 0 (.rules argentina)) ⟨1999, 10, .on 3, .midnight⟩ <|
    .until (.behind 4 0 0 (.rules argentina)) ⟨2000, 3, .on 3, .midnight⟩ <|
    .until (.behind 3 0 0 .off) ⟨2004, 5, .on 30, .midnight⟩ <|
    .until (.behind 4 0 0 .off) ⟨2004, 6, .on 20, .midnight⟩ <|
    .until (.behind 3 0 0 (.rules argentina)) ⟨2008, 10, .on 18, .midnight⟩ <|
    .forever (.behind 3 0 0 .off)),
   ("America/Asuncion",
    .until (.behind 3 50 40 .off) ⟨1890, 1, .on 1, .midnight⟩ <|
    .until (.behind 3 50 40 .off) ⟨1931, 10, .on 10, .midnight⟩ <|
    .until (.behind 4 0 0 .off) ⟨1972, 10, .on 1, .midnight⟩ <|
    .until (.behind 3 0 0 .off) ⟨1974, 4, .on 1, .midnight⟩ <|
    .until (.behind 4 0 0 (.rules paraguay)) ⟨2024, 10, .on 15, .midnight⟩ <|
    .forever (.behind 3 0 0 .off)),
   ("America/Bahia",
    .until (.behind 2 34 4 .off) ⟨1914, 1, .on 1, .midnight⟩ <|
    .until (.behind 3 0 0 (.rules brazil)) ⟨2003, 9, .on 24, .midnight⟩ <|
    .until (.behind 3 0 0 .off) ⟨2011, 10, .on 16, .midnight⟩ <|
    .until (.behind 3 0 0 (.rules brazil)) ⟨2012, 10, .on 21, .midnight⟩ <|
    .forever (.behind 3 0 0 .off)),
   ("America/Belem",
    .until (.behind 3 13 56 .off) ⟨1914, 1, .on 1, .midnight⟩ <|
    .until (.behind 3 0 0 (.rules brazil)) ⟨1988, 9, .on 12, .midnight⟩ <|
    .forever (.behind 3 0 0 .off)),
   ("America/Boa_Vista",
    .until (.behind 4 2 40 .off) ⟨1914, 1, .on 1, .midnight⟩ <|
    .until (.behind 4 0 0 (.rules brazil)) ⟨1988, 9, .on 12, .midnight⟩ <|
    .until (.behind 4 0 0 .off) ⟨1999, 9, .on 30, .midnight⟩ <|
    .until (.behind 4 0 0 (.rules brazil)) ⟨2000, 10, .on 15, .midnight⟩ <|
    .forever (.behind 4 0 0 .off)),
   ("America/Bogota",
    .until (.behind 4 56 16 .off) ⟨1884, 3, .on 13, .midnight⟩ <|
    .until (.behind 4 56 16 .off) ⟨1914, 11, .on 23, .midnight⟩ <|
    .forever (.behind 5 0 0 (.rules colombia))),
   ("America/Campo_Grande",
    .until (.behind 3 38 28 .off) ⟨1914, 1, .on 1, .midnight⟩ <|
    .forever (.behind 4 0 0 (.rules brazil))),
   ("America/Caracas",
    .until (.behind 4 27 44 .off) ⟨1890, 1, .on 1, .midnight⟩ <|
    .until (.behind 4 27 40 .off) ⟨1912, 2, .on 12, .midnight⟩ <|
    .until (.behind 4 30 0 .off) ⟨1965, 1, .on 1, .midnight⟩ <|
    .until (.behind 4 0 0 .off) ⟨2007, 12, .on 9, .wall 3 0⟩ <|
    .until (.behind 4 30 0 .off) ⟨2016, 5, .on 1, .wall 2 30⟩ <|
    .forever (.behind 4 0 0 .off)),
   ("America/Cayenne",
    .until (.behind 3 29 20 .off) ⟨1911, 7, .on 1, .midnight⟩ <|
    .until (.behind 4 0 0 .off) ⟨1967, 10, .on 1, .midnight⟩ <|
    .forever (.behind 3 0 0 .off)),
   ("America/Coyhaique",
    .until (.behind 4 48 16 .off) ⟨1890, 1, .on 1, .midnight⟩ <|
    .until (.behind 4 42 45 .off) ⟨1910, 1, .on 10, .midnight⟩ <|
    .until (.behind 5 0 0 .off) ⟨1916, 7, .on 1, .midnight⟩ <|
    .until (.behind 4 42 45 .off) ⟨1918, 9, .on 10, .midnight⟩ <|
    .until (.behind 4 0 0 .off) ⟨1919, 7, .on 1, .midnight⟩ <|
    .until (.behind 4 42 45 .off) ⟨1927, 9, .on 1, .midnight⟩ <|
    .until (.behind 5 0 0 (.rules chile)) ⟨1932, 9, .on 1, .midnight⟩ <|
    .until (.behind 4 0 0 .off) ⟨1942, 6, .on 1, .midnight⟩ <|
    .until (.behind 5 0 0 .off) ⟨1942, 8, .on 1, .midnight⟩ <|
    .until (.behind 4 0 0 .off) ⟨1946, 8, .on 28, .wall 24 0⟩ <|
    .until (.behind 5 0 0 (.on 60)) ⟨1947, 3, .on 31, .wall 24 0⟩ <|
    .until (.behind 5 0 0 .off) ⟨1947, 5, .on 21, .wall 23 0⟩ <|
    .until (.behind 4 0 0 (.rules chile)) ⟨2025, 3, .on 20, .midnight⟩ <|
    .forever (.behind 3 0 0 .off)),
   ("America/Cuiaba",
    .until (.behind 3 44 20 .off) ⟨1914, 1, .on 1, .midnight⟩ <|
    .until (.behind 4 0 0 (.rules brazil)) ⟨2003, 9, .on 24, .midnight⟩ <|
    .until (.behind 4 0 0 .off) ⟨2004, 10, .on 1, .midnight⟩ <|
    .forever (.behind 4 0 0 (.rules brazil))),
   ("America/Eirunepe",
    .until (.behind 4 39 28 .off) ⟨1914, 1, .on 1, .midnight⟩ <|
    .until (.behind 5 0 0 (.rules brazil)) ⟨1988, 9, .on 12, .midnight⟩ <|
    .until (.behind 5 0 0 .off) ⟨1993, 9, .on 28, .midnight⟩ <|
    .until (.behind 5 0 0 (.rules brazil)) ⟨1994, 9, .on 22, .midnight⟩ <|
    .until (.behind 5 0 0 .off) ⟨2008, 6, .on 24, .midnight⟩ <|
    .until (.behind 4 0 0 .off) ⟨2013, 11, .on 10, .midnight⟩ <|
    .forever (.behind 5 0 0 .off)),
   ("America/Fortaleza",
    .until (.behind 2 34 0 .off) ⟨1914, 1, .on 1, .midnight⟩ <|
    .until (.behind 3 0 0 (.rules brazil)) ⟨1990, 9, .on 17, .midnight⟩ <|
    .until (.behind 3 0 0 .off) ⟨1999, 9, .on 30, .midnight⟩ <|
    .until (.behind 3 0 0 (.rules brazil)) ⟨2000, 10, .on 22, .midnight⟩ <|
    .until (.behind 3 0 0 .off) ⟨2001, 9, .on 13, .midnight⟩ <|
    .until (.behind 3 0 0 (.rules brazil)) ⟨2002, 10, .on 1, .midnight⟩ <|
    .forever (.behind 3 0 0 .off)),
   ("America/Guayaquil",
    .until (.behind 5 19 20 .off) ⟨1890, 1, .on 1, .midnight⟩ <|
    .until (.behind 5 14 0 .off) ⟨1931, 1, .on 1, .midnight⟩ <|
    .forever (.behind 5 0 0 (.rules ecuador))),
   ("America/Guyana",
    .until (.behind 3 52 39 .off) ⟨1911, 8, .on 1, .midnight⟩ <|
    .until (.behind 4 0 0 .off) ⟨1915, 3, .on 1, .midnight⟩ <|
    .until (.behind 3 45 0 .off) ⟨1975, 8, .on 1, .midnight⟩ <|
    .until (.behind 3 0 0 .off) ⟨1992, 3, .on 29, .wall 1 0⟩ <|
    .forever (.behind 4 0 0 .off)),
   ("America/La_Paz",
    .until (.behind 4 32 36 .off) ⟨1890, 1, .on 1, .midnight⟩ <|
    .until (.behind 4 32 36 .off) ⟨1931, 10, .on 15, .midnight⟩ <|
    .until (.behind 4 32 36 (.on 60)) ⟨1932, 3, .on 21, .midnight⟩ <|
    .forever (.behind 4 0 0 .off)),
   ("America/Lima",
    .until (.behind 5 8 12 .off) ⟨1890, 1, .on 1, .midnight⟩ <|
    .until (.behind 5 8 36 .off) ⟨1908, 7, .on 28, .midnight⟩ <|
    .forever (.behind 5 0 0 (.rules peru))),
   ("America/Maceio",
    .until (.behind 2 22 52 .off) ⟨1914, 1, .on 1, .midnight⟩ <|
    .until (.behind 3 0 0 (.rules brazil)) ⟨1990, 9, .on 17, .midnight⟩ <|
    .until (.behind 3 0 0 .off) ⟨1995, 10, .on 13, .midnight⟩ <|
    .until (.behind 3 0 0 (.rules brazil)) ⟨1996, 9, .on 4, .midnight⟩ <|
    .until (.behind 3 0 0 .off) ⟨1999, 9, .on 30, .midnight⟩ <|
    .until (.behind 3 0 0 (.rules brazil)) ⟨2000, 10, .on 22, .midnight⟩ <|
    .until (.behind 3 0 0 .off) ⟨2001, 9, .on 13, .midnight⟩ <|
    .until (.behind 3 0 0 (.rules brazil)) ⟨2002, 10, .on 1, .midnight⟩ <|
    .forever (.behind 3 0 0 .off)),
   ("America/Manaus",
    .until (.behind 4 0 4 .off) ⟨1914, 1, .on 1, .midnight⟩ <|
    .until (.behind 4 0 0 (.rules brazil)) ⟨1988, 9, .on 12, .midnight⟩ <|
    .until (.behind 4 0 0 .off) ⟨1993, 9, .on 28, .midnight⟩ <|
    .until (.behind 4 0 0 (.rules brazil)) ⟨1994, 9, .on 22, .midnight⟩ <|
    .forever (.behind 4 0 0 .off)),
   ("America/Montevideo",
    .until (.behind 3 44 51 .off) ⟨1908, 6, .on 10, .midnight⟩ <|
    .until (.behind 3 44 51 .off) ⟨1920, 5, .on 1, .midnight⟩ <|
    .until (.behind 4 0 0 .off) ⟨1923, 10, .on 1, .midnight⟩ <|
    .until (.behind 3 30 0 (.rules uruguay)) ⟨1942, 12, .on 14, .midnight⟩ <|
    .until (.behind 3 0 0 (.rules uruguay)) ⟨1960, 1, .on 1, .midnight⟩ <|
    .until (.behind 3 0 0 (.rules uruguay)) ⟨1968, 1, .on 1, .midnight⟩ <|
    .until (.behind 3 0 0 (.rules uruguay)) ⟨1970, 1, .on 1, .midnight⟩ <|
    .until (.behind 3 0 0 (.rules uruguay)) ⟨1974, 1, .on 1, .midnight⟩ <|
    .until (.behind 3 0 0 (.rules uruguay)) ⟨1974, 3, .on 10, .midnight⟩ <|
    .until (.behind 3 0 0 (.rules uruguay)) ⟨1974, 12, .on 22, .midnight⟩ <|
    .forever (.behind 3 0 0 (.rules uruguay))),
   ("America/Noronha",
    .until (.behind 2 9 40 .off) ⟨1914, 1, .on 1, .midnight⟩ <|
    .until (.behind 2 0 0 (.rules brazil)) ⟨1990, 9, .on 17, .midnight⟩ <|
    .until (.behind 2 0 0 .off) ⟨1999, 9, .on 30, .midnight⟩ <|
    .until (.behind 2 0 0 (.rules brazil)) ⟨2000, 10, .on 15, .midnight⟩ <|
    .until (.behind 2 0 0 .off) ⟨2001, 9, .on 13, .midnight⟩ <|
    .until (.behind 2 0 0 (.rules brazil)) ⟨2002, 10, .on 1, .midnight⟩ <|
    .forever (.behind 2 0 0 .off)),
   ("America/Paramaribo",
    .until (.behind 3 40 40 .off) ⟨1911, 1, .on 1, .midnight⟩ <|
    .until (.behind 3 40 52 .off) ⟨1935, 1, .on 1, .midnight⟩ <|
    .until (.behind 3 40 36 .off) ⟨1945, 10, .on 1, .midnight⟩ <|
    .until (.behind 3 30 0 .off) ⟨1984, 10, .on 1, .midnight⟩ <|
    .forever (.behind 3 0 0 .off)),
   ("America/Porto_Velho",
    .until (.behind 4 15 36 .off) ⟨1914, 1, .on 1, .midnight⟩ <|
    .until (.behind 4 0 0 (.rules brazil)) ⟨1988, 9, .on 12, .midnight⟩ <|
    .forever (.behind 4 0 0 .off)),
   ("America/Punta_Arenas",
    .until (.behind 4 43 40 .off) ⟨1890, 1, .on 1, .midnight⟩ <|
    .until (.behind 4 42 45 .off) ⟨1910, 1, .on 10, .midnight⟩ <|
    .until (.behind 5 0 0 .off) ⟨1916, 7, .on 1, .midnight⟩ <|
    .until (.behind 4 42 45 .off) ⟨1918, 9, .on 10, .midnight⟩ <|
    .until (.behind 4 0 0 .off) ⟨1919, 7, .on 1, .midnight⟩ <|
    .until (.behind 4 42 45 .off) ⟨1927, 9, .on 1, .midnight⟩ <|
    .until (.behind 5 0 0 (.rules chile)) ⟨1932, 9, .on 1, .midnight⟩ <|
    .until (.behind 4 0 0 .off) ⟨1942, 6, .on 1, .midnight⟩ <|
    .until (.behind 5 0 0 .off) ⟨1942, 8, .on 1, .midnight⟩ <|
    .until (.behind 4 0 0 .off) ⟨1946, 8, .on 28, .wall 24 0⟩ <|
    .until (.behind 5 0 0 (.on 60)) ⟨1947, 3, .on 31, .wall 24 0⟩ <|
    .until (.behind 5 0 0 .off) ⟨1947, 5, .on 21, .wall 23 0⟩ <|
    .until (.behind 4 0 0 (.rules chile)) ⟨2016, 12, .on 4, .midnight⟩ <|
    .forever (.behind 3 0 0 .off)),
   ("America/Recife",
    .until (.behind 2 19 36 .off) ⟨1914, 1, .on 1, .midnight⟩ <|
    .until (.behind 3 0 0 (.rules brazil)) ⟨1990, 9, .on 17, .midnight⟩ <|
    .until (.behind 3 0 0 .off) ⟨1999, 9, .on 30, .midnight⟩ <|
    .until (.behind 3 0 0 (.rules brazil)) ⟨2000, 10, .on 15, .midnight⟩ <|
    .until (.behind 3 0 0 .off) ⟨2001, 9, .on 13, .midnight⟩ <|
    .until (.behind 3 0 0 (.rules brazil)) ⟨2002, 10, .on 1, .midnight⟩ <|
    .forever (.behind 3 0 0 .off)),
   ("America/Rio_Branco",
    .until (.behind 4 31 12 .off) ⟨1914, 1, .on 1, .midnight⟩ <|
    .until (.behind 5 0 0 (.rules brazil)) ⟨1988, 9, .on 12, .midnight⟩ <|
    .until (.behind 5 0 0 .off) ⟨2008, 6, .on 24, .midnight⟩ <|
    .until (.behind 4 0 0 .off) ⟨2013, 11, .on 10, .midnight⟩ <|
    .forever (.behind 5 0 0 .off)),
   ("America/Santarem",
    .until (.behind 3 38 48 .off) ⟨1914, 1, .on 1, .midnight⟩ <|
    .until (.behind 4 0 0 (.rules brazil)) ⟨1988, 9, .on 12, .midnight⟩ <|
    .until (.behind 4 0 0 .off) ⟨2008, 6, .on 24, .midnight⟩ <|
    .forever (.behind 3 0 0 .off)),
   ("America/Santiago",
    .until (.behind 4 42 45 .off) ⟨1890, 1, .on 1, .midnight⟩ <|
    .until (.behind 4 42 45 .off) ⟨1910, 1, .on 10, .midnight⟩ <|
    .until (.behind 5 0 0 .off) ⟨1916, 7, .on 1, .midnight⟩ <|
    .until (.behind 4 42 45 .off) ⟨1918, 9, .on 10, .midnight⟩ <|
    .until (.behind 4 0 0 .off) ⟨1919, 7, .on 1, .midnight⟩ <|
    .until (.behind 4 42 45 .off) ⟨1927, 9, .on 1, .midnight⟩ <|
    .until (.behind 5 0 0 (.rules chile)) ⟨1932, 9, .on 1, .midnight⟩ <|
    .until (.behind 4 0 0 .off) ⟨1942, 6, .on 1, .midnight⟩ <|
    .until (.behind 5 0 0 .off) ⟨1942, 8, .on 1, .midnight⟩ <|
    .until (.behind 4 0 0 .off) ⟨1946, 7, .on 14, .wall 24 0⟩ <|
    .until (.behind 4 0 0 (.on 60)) ⟨1946, 8, .on 28, .wall 24 0⟩ <|
    .until (.behind 5 0 0 (.on 60)) ⟨1947, 3, .on 31, .wall 24 0⟩ <|
    .until (.behind 5 0 0 .off) ⟨1947, 5, .on 21, .wall 23 0⟩ <|
    .forever (.behind 4 0 0 (.rules chile))),
   ("America/Sao_Paulo",
    .until (.behind 3 6 28 .off) ⟨1914, 1, .on 1, .midnight⟩ <|
    .until (.behind 3 0 0 (.rules brazil)) ⟨1963, 10, .on 23, .midnight⟩ <|
    .until (.behind 3 0 0 (.on 60)) ⟨1964, 1, .on 1, .midnight⟩ <|
    .forever (.behind 3 0 0 (.rules brazil)))]

end SecretRotation.History
