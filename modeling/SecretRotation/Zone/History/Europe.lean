import SecretRotation.Zone.History
import SecretRotation.Zone.Saving.Europe

/-!
# Zones of Europe

The histories of the zones of Europe.
-/

namespace SecretRotation.History

open SavingRules

/-- The histories of the zones of Europe. -/
def europe : List (String × History) :=
  [("Europe/Andorra",
    .until (.ahead 0 6 4 .off) ⟨1901, 1, .on 1, .midnight⟩ <|
    .until (.ahead 0 0 0 .off) ⟨1946, 9, .on 30, .midnight⟩ <|
    .until (.ahead 1 0 0 .off) ⟨1985, 3, .on 31, .wall 2 0⟩ <|
    .forever (.ahead 1 0 0 (.rules europeanUnion))),
   ("Europe/Astrakhan",
    .until (.ahead 3 12 12 .off) ⟨1924, 5, .on 1, .midnight⟩ <|
    .until (.ahead 3 0 0 .off) ⟨1930, 6, .on 21, .midnight⟩ <|
    .until (.ahead 4 0 0 (.rules russia)) ⟨1989, 3, .on 26, .standard 2 0⟩ <|
    .until (.ahead 3 0 0 (.rules russia)) ⟨1991, 3, .on 31, .standard 2 0⟩ <|
    .until (.ahead 4 0 0 .off) ⟨1992, 3, .on 29, .standard 2 0⟩ <|
    .until (.ahead 3 0 0 (.rules russia)) ⟨2011, 3, .on 27, .standard 2 0⟩ <|
    .until (.ahead 4 0 0 .off) ⟨2014, 10, .on 26, .standard 2 0⟩ <|
    .until (.ahead 3 0 0 .off) ⟨2016, 3, .on 27, .standard 2 0⟩ <|
    .forever (.ahead 4 0 0 .off)),
   ("Europe/Athens",
    .until (.ahead 1 34 52 .off) ⟨1895, 9, .on 14, .midnight⟩ <|
    .until (.ahead 1 34 52 .off) ⟨1916, 7, .on 28, .wall 0 1⟩ <|
    .until (.ahead 2 0 0 (.rules greece)) ⟨1941, 4, .on 30, .midnight⟩ <|
    .until (.ahead 1 0 0 (.rules greece)) ⟨1944, 4, .on 4, .midnight⟩ <|
    .until (.ahead 2 0 0 (.rules greece)) ⟨1981, 1, .on 1, .midnight⟩ <|
    .forever (.ahead 2 0 0 (.rules europeanUnion))),
   ("Europe/Belgrade",
    .until (.ahead 1 22 0 .off) ⟨1884, 1, .on 1, .midnight⟩ <|
    .until (.ahead 1 0 0 .off) ⟨1941, 4, .on 18, .wall 23 0⟩ <|
    .until (.ahead 1 0 0 (.rules centralEurope)) ⟨1945, 1, .on 1, .midnight⟩ <|
    .until (.ahead 1 0 0 .off) ⟨1945, 5, .on 8, .standard 2 0⟩ <|
    .until (.ahead 1 0 0 (.on 60)) ⟨1945, 9, .on 16, .standard 2 0⟩ <|
    .until (.ahead 1 0 0 .off) ⟨1982, 11, .on 27, .midnight⟩ <|
    .forever (.ahead 1 0 0 (.rules europeanUnion))),
   ("Europe/Berlin",
    .until (.ahead 0 53 28 .off) ⟨1893, 4, .on 1, .midnight⟩ <|
    .until (.ahead 1 0 0 (.rules centralEurope)) ⟨1945, 5, .on 24, .wall 2 0⟩ <|
    .until (.ahead 1 0 0 (.rules sovietZone)) ⟨1946, 1, .on 1, .midnight⟩ <|
    .until (.ahead 1 0 0 (.rules germany)) ⟨1980, 1, .on 1, .midnight⟩ <|
    .forever (.ahead 1 0 0 (.rules europeanUnion))),
   ("Europe/Brussels",
    .until (.ahead 0 17 30 .off) ⟨1880, 1, .on 1, .midnight⟩ <|
    .until (.ahead 0 17 30 .off) ⟨1892, 5, .on 1, ⟨.wall, 1050⟩⟩ <|
    .until (.ahead 0 0 0 .off) ⟨1914, 11, .on 8, .midnight⟩ <|
    .until (.ahead 1 0 0 .off) ⟨1916, 5, .on 1, .midnight⟩ <|
    .until (.ahead 1 0 0 (.rules centralEurope)) ⟨1918, 11, .on 11, .universal 11 0⟩ <|
    .until (.ahead 0 0 0 (.rules belgium)) ⟨1940, 5, .on 20, .standard 2 0⟩ <|
    .until (.ahead 1 0 0 (.rules centralEurope)) ⟨1944, 9, .on 3, .midnight⟩ <|
    .until (.ahead 1 0 0 (.rules belgium)) ⟨1977, 1, .on 1, .midnight⟩ <|
    .forever (.ahead 1 0 0 (.rules europeanUnion))),
   ("Europe/Bucharest",
    .until (.ahead 1 44 24 .off) ⟨1891, 10, .on 1, .midnight⟩ <|
    .until (.ahead 1 44 24 .off) ⟨1931, 7, .on 24, .midnight⟩ <|
    .until (.ahead 2 0 0 (.rules romania)) ⟨1981, 3, .on 29, .standard 2 0⟩ <|
    .until (.ahead 2 0 0 (.rules centralEurope)) ⟨1991, 1, .on 1, .midnight⟩ <|
    .until (.ahead 2 0 0 (.rules romania)) ⟨1994, 1, .on 1, .midnight⟩ <|
    .until (.ahead 2 0 0 (.rules easternEurope)) ⟨1997, 1, .on 1, .midnight⟩ <|
    .forever (.ahead 2 0 0 (.rules europeanUnion))),
   ("Europe/Budapest",
    .until (.ahead 1 16 20 .off) ⟨1890, 11, .on 1, .midnight⟩ <|
    .until (.ahead 1 0 0 (.rules centralEurope)) ⟨1918, 1, .on 1, .midnight⟩ <|
    .until (.ahead 1 0 0 (.rules hungary)) ⟨1941, 4, .on 7, .wall 23 0⟩ <|
    .until (.ahead 1 0 0 (.rules centralEurope)) ⟨1945, 1, .on 1, .midnight⟩ <|
    .until (.ahead 1 0 0 (.rules hungary)) ⟨1984, 1, .on 1, .midnight⟩ <|
    .forever (.ahead 1 0 0 (.rules europeanUnion))),
   ("Europe/Chisinau",
    .until (.ahead 1 55 20 .off) ⟨1880, 1, .on 1, .midnight⟩ <|
    .until (.ahead 1 55 0 .off) ⟨1918, 2, .on 15, .midnight⟩ <|
    .until (.ahead 1 44 24 .off) ⟨1931, 7, .on 24, .midnight⟩ <|
    .until (.ahead 2 0 0 (.rules romania)) ⟨1940, 8, .on 15, .midnight⟩ <|
    .until (.ahead 2 0 0 (.on 60)) ⟨1941, 7, .on 17, .midnight⟩ <|
    .until (.ahead 1 0 0 (.rules centralEurope)) ⟨1944, 8, .on 24, .midnight⟩ <|
    .until (.ahead 3 0 0 (.rules russia)) ⟨1990, 5, .on 6, .wall 2 0⟩ <|
    .until (.ahead 2 0 0 (.rules russia)) ⟨1992, 1, .on 1, .midnight⟩ <|
    .until (.ahead 2 0 0 (.rules easternEurope)) ⟨1997, 1, .on 1, .midnight⟩ <|
    .forever (.ahead 2 0 0 (.rules moldova))),
   ("Europe/Dublin",
    .until (.behind 0 25 21 .off) ⟨1880, 8, .on 2, .midnight⟩ <|
    .until (.behind 0 25 21 .off) ⟨1916, 5, .on 21, .standard 2 0⟩ <|
    .until (.behind 0 25 21 (.on 60)) ⟨1916, 10, .on 1, .standard 2 0⟩ <|
    .until (.ahead 0 0 0 (.rules britain)) ⟨1921, 12, .on 6, .midnight⟩ <|
    .until (.ahead 0 0 0 (.rules britain)) ⟨1940, 2, .on 25, .standard 2 0⟩ <|
    .until (.ahead 0 0 0 (.on 60)) ⟨1946, 10, .on 6, .standard 2 0⟩ <|
    .until (.ahead 0 0 0 .off) ⟨1947, 3, .on 16, .standard 2 0⟩ <|
    .until (.ahead 0 0 0 (.on 60)) ⟨1947, 11, .on 2, .standard 2 0⟩ <|
    .until (.ahead 0 0 0 .off) ⟨1948, 4, .on 18, .standard 2 0⟩ <|
    .until (.ahead 0 0 0 (.rules britain)) ⟨1968, 10, .on 27, .midnight⟩ <|
    .until (.ahead 1 0 0 .off) ⟨1971, 10, .on 31, .universal 2 0⟩ <|
    .until (.ahead 0 0 0 (.rules britain)) ⟨1996, 1, .on 1, .midnight⟩ <|
    .forever (.ahead 0 0 0 (.rules europeanUnion))),
   ("Europe/Gibraltar",
    .until (.behind 0 21 24 .off) ⟨1880, 8, .on 2, .midnight⟩ <|
    .until (.ahead 0 0 0 (.rules britain)) ⟨1957, 4, .on 14, .wall 2 0⟩ <|
    .until (.ahead 1 0 0 .off) ⟨1982, 1, .on 1, .midnight⟩ <|
    .forever (.ahead 1 0 0 (.rules europeanUnion))),
   ("Europe/Helsinki",
    .until (.ahead 1 39 49 .off) ⟨1878, 5, .on 31, .midnight⟩ <|
    .until (.ahead 1 39 49 .off) ⟨1921, 5, .on 1, .midnight⟩ <|
    .until (.ahead 2 0 0 (.rules finland)) ⟨1983, 1, .on 1, .midnight⟩ <|
    .forever (.ahead 2 0 0 (.rules europeanUnion))),
   ("Europe/Istanbul",
    .until (.ahead 1 55 52 .off) ⟨1880, 1, .on 1, .midnight⟩ <|
    .until (.ahead 1 56 56 .off) ⟨1910, 10, .on 1, .midnight⟩ <|
    .until (.ahead 2 0 0 (.rules turkey)) ⟨1978, 6, .on 29, .midnight⟩ <|
    .until (.ahead 3 0 0 (.rules turkey)) ⟨1984, 11, .on 1, .wall 2 0⟩ <|
    .until (.ahead 2 0 0 (.rules turkey)) ⟨2007, 1, .on 1, .midnight⟩ <|
    .until (.ahead 2 0 0 (.rules europeanUnion)) ⟨2011, 3, .on 27, .universal 1 0⟩ <|
    .until (.ahead 2 0 0 .off) ⟨2011, 3, .on 28, .universal 1 0⟩ <|
    .until (.ahead 2 0 0 (.rules europeanUnion)) ⟨2014, 3, .on 30, .universal 1 0⟩ <|
    .until (.ahead 2 0 0 .off) ⟨2014, 3, .on 31, .universal 1 0⟩ <|
    .until (.ahead 2 0 0 (.rules europeanUnion)) ⟨2015, 10, .on 25, .universal 1 0⟩ <|
    .until (.ahead 2 0 0 (.on 60)) ⟨2015, 11, .on 8, .universal 1 0⟩ <|
    .until (.ahead 2 0 0 (.rules europeanUnion)) ⟨2016, 9, .on 7, .midnight⟩ <|
    .forever (.ahead 3 0 0 .off)),
   ("Europe/Kaliningrad",
    .until (.ahead 1 22 0 .off) ⟨1893, 4, .on 1, .midnight⟩ <|
    .until (.ahead 1 0 0 (.rules centralEurope)) ⟨1945, 4, .on 10, .midnight⟩ <|
    .until (.ahead 2 0 0 (.rules poland)) ⟨1946, 4, .on 7, .midnight⟩ <|
    .until (.ahead 3 0 0 (.rules russia)) ⟨1989, 3, .on 26, .standard 2 0⟩ <|
    .until (.ahead 2 0 0 (.rules russia)) ⟨2011, 3, .on 27, .standard 2 0⟩ <|
    .until (.ahead 3 0 0 .off) ⟨2014, 10, .on 26, .standard 2 0⟩ <|
    .forever (.ahead 2 0 0 .off)),
   ("Europe/Kirov",
    .until (.ahead 3 18 48 .off) ⟨1919, 7, .on 1, .universal 0 0⟩ <|
    .until (.ahead 3 0 0 .off) ⟨1930, 6, .on 21, .midnight⟩ <|
    .until (.ahead 4 0 0 (.rules russia)) ⟨1989, 3, .on 26, .standard 2 0⟩ <|
    .until (.ahead 3 0 0 (.rules russia)) ⟨1991, 3, .on 31, .standard 2 0⟩ <|
    .until (.ahead 4 0 0 .off) ⟨1992, 3, .on 29, .standard 2 0⟩ <|
    .until (.ahead 3 0 0 (.rules russia)) ⟨2011, 3, .on 27, .standard 2 0⟩ <|
    .until (.ahead 4 0 0 .off) ⟨2014, 10, .on 26, .standard 2 0⟩ <|
    .forever (.ahead 3 0 0 .off)),
   ("Europe/Kyiv",
    .until (.ahead 2 2 4 .off) ⟨1880, 1, .on 1, .midnight⟩ <|
    .until (.ahead 2 2 4 .off) ⟨1924, 5, .on 2, .midnight⟩ <|
    .until (.ahead 2 0 0 .off) ⟨1930, 6, .on 21, .midnight⟩ <|
    .until (.ahead 3 0 0 .off) ⟨1941, 9, .on 20, .midnight⟩ <|
    .until (.ahead 1 0 0 (.rules centralEurope)) ⟨1943, 11, .on 6, .midnight⟩ <|
    .until (.ahead 3 0 0 (.rules russia)) ⟨1990, 7, .on 1, .wall 2 0⟩ <|
    .until (.ahead 2 0 0 (.on 60)) ⟨1991, 9, .on 29, .wall 3 0⟩ <|
    .until (.ahead 2 0 0 (.rules centralEurope)) ⟨1996, 5, .on 13, .midnight⟩ <|
    .forever (.ahead 2 0 0 (.rules europeanUnion))),
   ("Europe/Lisbon",
    .until (.behind 0 36 45 .off) ⟨1884, 1, .on 1, .midnight⟩ <|
    .until (.behind 0 36 45 .off) ⟨1912, 1, .on 1, .universal 0 0⟩ <|
    .until (.ahead 0 0 0 (.rules portugal)) ⟨1966, 10, .on 2, .standard 2 0⟩ <|
    .until (.ahead 1 0 0 .off) ⟨1976, 9, .on 26, .wall 1 0⟩ <|
    .until (.ahead 0 0 0 (.rules portugal)) ⟨1986, 1, .on 1, .midnight⟩ <|
    .until (.ahead 0 0 0 (.rules europeanUnion)) ⟨1992, 9, .on 27, .universal 1 0⟩ <|
    .until (.ahead 1 0 0 (.rules europeanUnion)) ⟨1996, 3, .on 31, .universal 1 0⟩ <|
    .forever (.ahead 0 0 0 (.rules europeanUnion))),
   ("Europe/London",
    .until (.behind 0 1 15 .off) ⟨1847, 12, .on 1, .midnight⟩ <|
    .until (.ahead 0 0 0 (.rules britain)) ⟨1968, 10, .on 27, .midnight⟩ <|
    .until (.ahead 1 0 0 .off) ⟨1971, 10, .on 31, .universal 2 0⟩ <|
    .until (.ahead 0 0 0 (.rules britain)) ⟨1996, 1, .on 1, .midnight⟩ <|
    .forever (.ahead 0 0 0 (.rules europeanUnion))),
   ("Europe/Madrid",
    .until (.behind 0 14 44 .off) ⟨1901, 1, .on 1, .universal 0 0⟩ <|
    .until (.ahead 0 0 0 (.rules spain)) ⟨1940, 3, .on 16, .wall 23 0⟩ <|
    .until (.ahead 1 0 0 (.rules spain)) ⟨1979, 1, .on 1, .midnight⟩ <|
    .forever (.ahead 1 0 0 (.rules europeanUnion))),
   ("Europe/Malta",
    .until (.ahead 0 58 4 .off) ⟨1893, 11, .on 2, .midnight⟩ <|
    .until (.ahead 1 0 0 (.rules italy)) ⟨1973, 3, .on 31, .midnight⟩ <|
    .until (.ahead 1 0 0 (.rules malta)) ⟨1981, 1, .on 1, .midnight⟩ <|
    .forever (.ahead 1 0 0 (.rules europeanUnion))),
   ("Europe/Minsk",
    .until (.ahead 1 50 16 .off) ⟨1880, 1, .on 1, .midnight⟩ <|
    .until (.ahead 1 50 0 .off) ⟨1924, 5, .on 2, .midnight⟩ <|
    .until (.ahead 2 0 0 .off) ⟨1930, 6, .on 21, .midnight⟩ <|
    .until (.ahead 3 0 0 .off) ⟨1941, 6, .on 28, .midnight⟩ <|
    .until (.ahead 1 0 0 (.rules centralEurope)) ⟨1944, 7, .on 3, .midnight⟩ <|
    .until (.ahead 3 0 0 (.rules russia)) ⟨1990, 1, .on 1, .midnight⟩ <|
    .until (.ahead 3 0 0 .off) ⟨1991, 3, .on 31, .standard 2 0⟩ <|
    .until (.ahead 2 0 0 (.rules russia)) ⟨2011, 3, .on 27, .standard 2 0⟩ <|
    .forever (.ahead 3 0 0 .off)),
   ("Europe/Moscow",
    .until (.ahead 2 30 17 .off) ⟨1880, 1, .on 1, .midnight⟩ <|
    .until (.ahead 2 30 17 .off) ⟨1916, 7, .on 3, .midnight⟩ <|
    .until (.ahead 2 31 19 (.rules russia)) ⟨1919, 7, .on 1, .universal 0 0⟩ <|
    .until (.ahead 3 0 0 (.rules russia)) ⟨1921, 10, .on 1, .midnight⟩ <|
    .until (.ahead 3 0 0 (.rules russia)) ⟨1922, 10, .on 1, .midnight⟩ <|
    .until (.ahead 2 0 0 .off) ⟨1930, 6, .on 21, .midnight⟩ <|
    .until (.ahead 3 0 0 (.rules russia)) ⟨1991, 3, .on 31, .standard 2 0⟩ <|
    .until (.ahead 2 0 0 (.rules russia)) ⟨1992, 1, .on 19, .standard 2 0⟩ <|
    .until (.ahead 3 0 0 (.rules russia)) ⟨2011, 3, .on 27, .standard 2 0⟩ <|
    .until (.ahead 4 0 0 .off) ⟨2014, 10, .on 26, .standard 2 0⟩ <|
    .forever (.ahead 3 0 0 .off)),
   ("Europe/Paris",
    .until (.ahead 0 9 21 .off) ⟨1891, 3, .on 16, .midnight⟩ <|
    .until (.ahead 0 9 21 .off) ⟨1911, 3, .on 11, .midnight⟩ <|
    .until (.ahead 0 0 0 (.rules france)) ⟨1940, 6, .on 14, .wall 23 0⟩ <|
    .until (.ahead 1 0 0 (.rules centralEurope)) ⟨1944, 8, .on 25, .midnight⟩ <|
    .until (.ahead 0 0 0 (.rules france)) ⟨1945, 9, .on 16, .wall 3 0⟩ <|
    .until (.ahead 1 0 0 (.rules france)) ⟨1977, 1, .on 1, .midnight⟩ <|
    .forever (.ahead 1 0 0 (.rules europeanUnion))),
   ("Europe/Prague",
    .until (.ahead 0 57 44 .off) ⟨1850, 1, .on 1, .midnight⟩ <|
    .until (.ahead 0 57 44 .off) ⟨1891, 10, .on 1, .midnight⟩ <|
    .until (.ahead 1 0 0 (.rules centralEurope)) ⟨1945, 5, .on 9, .midnight⟩ <|
    .until (.ahead 1 0 0 (.rules czechia)) ⟨1946, 12, .on 1, .wall 3 0⟩ <|
    .until (.ahead 0 0 0 .off) ⟨1947, 2, .on 23, .wall 2 0⟩ <|
    .until (.ahead 1 0 0 (.rules czechia)) ⟨1979, 1, .on 1, .midnight⟩ <|
    .forever (.ahead 1 0 0 (.rules europeanUnion))),
   ("Europe/Riga",
    .until (.ahead 1 36 34 .off) ⟨1880, 1, .on 1, .midnight⟩ <|
    .until (.ahead 1 36 34 .off) ⟨1918, 4, .on 15, .wall 2 0⟩ <|
    .until (.ahead 1 36 34 (.on 60)) ⟨1918, 9, .on 16, .wall 3 0⟩ <|
    .until (.ahead 1 36 34 .off) ⟨1919, 4, .on 1, .wall 2 0⟩ <|
    .until (.ahead 1 36 34 (.on 60)) ⟨1919, 5, .on 22, .wall 3 0⟩ <|
    .until (.ahead 1 36 34 .off) ⟨1926, 5, .on 11, .midnight⟩ <|
    .until (.ahead 2 0 0 .off) ⟨1940, 8, .on 5, .midnight⟩ <|
    .until (.ahead 3 0 0 .off) ⟨1941, 7, .on 1, .midnight⟩ <|
    .until (.ahead 1 0 0 (.rules centralEurope)) ⟨1944, 10, .on 13, .midnight⟩ <|
    .until (.ahead 3 0 0 (.rules russia)) ⟨1989, 3, .last .sunday, .standard 2 0⟩ <|
    .until (.ahead 2 0 0 (.on 60)) ⟨1989, 9, .last .sunday, .standard 2 0⟩ <|
    .until (.ahead 2 0 0 (.rules latvia)) ⟨1997, 1, .on 21, .midnight⟩ <|
    .until (.ahead 2 0 0 (.rules europeanUnion)) ⟨2000, 2, .on 29, .midnight⟩ <|
    .until (.ahead 2 0 0 .off) ⟨2001, 1, .on 2, .midnight⟩ <|
    .forever (.ahead 2 0 0 (.rules europeanUnion))),
   ("Europe/Rome",
    .until (.ahead 0 49 56 .off) ⟨1866, 12, .on 12, .midnight⟩ <|
    .until (.ahead 0 49 56 .off) ⟨1893, 10, .on 31, .universal 23 0⟩ <|
    .until (.ahead 1 0 0 (.rules italy)) ⟨1943, 9, .on 10, .midnight⟩ <|
    .until (.ahead 1 0 0 (.rules centralEurope)) ⟨1944, 6, .on 4, .midnight⟩ <|
    .until (.ahead 1 0 0 (.rules italy)) ⟨1980, 1, .on 1, .midnight⟩ <|
    .forever (.ahead 1 0 0 (.rules europeanUnion))),
   ("Europe/Samara",
    .until (.ahead 3 20 20 .off) ⟨1919, 7, .on 1, .universal 0 0⟩ <|
    .until (.ahead 3 0 0 .off) ⟨1930, 6, .on 21, .midnight⟩ <|
    .until (.ahead 4 0 0 .off) ⟨1935, 1, .on 27, .midnight⟩ <|
    .until (.ahead 4 0 0 (.rules russia)) ⟨1989, 3, .on 26, .standard 2 0⟩ <|
    .until (.ahead 3 0 0 (.rules russia)) ⟨1991, 3, .on 31, .standard 2 0⟩ <|
    .until (.ahead 2 0 0 (.rules russia)) ⟨1991, 9, .on 29, .standard 2 0⟩ <|
    .until (.ahead 3 0 0 .off) ⟨1991, 10, .on 20, .wall 3 0⟩ <|
    .until (.ahead 4 0 0 (.rules russia)) ⟨2010, 3, .on 28, .standard 2 0⟩ <|
    .until (.ahead 3 0 0 (.rules russia)) ⟨2011, 3, .on 27, .standard 2 0⟩ <|
    .forever (.ahead 4 0 0 .off)),
   ("Europe/Saratov",
    .until (.ahead 3 4 18 .off) ⟨1919, 7, .on 1, .universal 0 0⟩ <|
    .until (.ahead 3 0 0 .off) ⟨1930, 6, .on 21, .midnight⟩ <|
    .until (.ahead 4 0 0 (.rules russia)) ⟨1988, 3, .on 27, .standard 2 0⟩ <|
    .until (.ahead 3 0 0 (.rules russia)) ⟨1991, 3, .on 31, .standard 2 0⟩ <|
    .until (.ahead 4 0 0 .off) ⟨1992, 3, .on 29, .standard 2 0⟩ <|
    .until (.ahead 3 0 0 (.rules russia)) ⟨2011, 3, .on 27, .standard 2 0⟩ <|
    .until (.ahead 4 0 0 .off) ⟨2014, 10, .on 26, .standard 2 0⟩ <|
    .until (.ahead 3 0 0 .off) ⟨2016, 12, .on 4, .standard 2 0⟩ <|
    .forever (.ahead 4 0 0 .off)),
   ("Europe/Simferopol",
    .until (.ahead 2 16 24 .off) ⟨1880, 1, .on 1, .midnight⟩ <|
    .until (.ahead 2 16 0 .off) ⟨1924, 5, .on 2, .midnight⟩ <|
    .until (.ahead 2 0 0 .off) ⟨1930, 6, .on 21, .midnight⟩ <|
    .until (.ahead 3 0 0 .off) ⟨1941, 11, .on 1, .midnight⟩ <|
    .until (.ahead 1 0 0 (.rules centralEurope)) ⟨1944, 4, .on 13, .midnight⟩ <|
    .until (.ahead 3 0 0 (.rules russia)) ⟨1990, 1, .on 1, .midnight⟩ <|
    .until (.ahead 3 0 0 .off) ⟨1990, 7, .on 1, .wall 2 0⟩ <|
    .until (.ahead 2 0 0 .off) ⟨1992, 3, .on 20, .midnight⟩ <|
    .until (.ahead 2 0 0 (.rules centralEurope)) ⟨1994, 5, .on 1, .midnight⟩ <|
    .until (.ahead 3 0 0 (.rules centralEurope)) ⟨1996, 3, .on 31, .standard 0 0⟩ <|
    .until (.ahead 3 0 0 (.on 60)) ⟨1996, 10, .on 27, .standard 3 0⟩ <|
    .until (.ahead 3 0 0 .off) ⟨1997, 3, .last .sunday, .universal 1 0⟩ <|
    .until (.ahead 2 0 0 (.rules europeanUnion)) ⟨2014, 3, .on 30, .wall 2 0⟩ <|
    .until (.ahead 4 0 0 .off) ⟨2014, 10, .on 26, .standard 2 0⟩ <|
    .forever (.ahead 3 0 0 .off)),
   ("Europe/Sofia",
    .until (.ahead 1 33 16 .off) ⟨1880, 1, .on 1, .midnight⟩ <|
    .until (.ahead 1 56 56 .off) ⟨1894, 11, .on 30, .midnight⟩ <|
    .until (.ahead 2 0 0 .off) ⟨1942, 11, .on 2, .wall 3 0⟩ <|
    .until (.ahead 1 0 0 (.rules centralEurope)) ⟨1945, 1, .on 1, .midnight⟩ <|
    .until (.ahead 1 0 0 .off) ⟨1945, 4, .on 2, .wall 3 0⟩ <|
    .until (.ahead 2 0 0 .off) ⟨1979, 3, .on 31, .wall 23 0⟩ <|
    .until (.ahead 2 0 0 (.rules bulgaria)) ⟨1982, 9, .on 26, .wall 3 0⟩ <|
    .until (.ahead 2 0 0 (.rules centralEurope)) ⟨1991, 1, .on 1, .midnight⟩ <|
    .until (.ahead 2 0 0 (.rules easternEurope)) ⟨1997, 1, .on 1, .midnight⟩ <|
    .forever (.ahead 2 0 0 (.rules europeanUnion))),
   ("Europe/Tallinn",
    .until (.ahead 1 39 0 .off) ⟨1880, 1, .on 1, .midnight⟩ <|
    .until (.ahead 1 39 0 .off) ⟨1918, 2, .on 1, .midnight⟩ <|
    .until (.ahead 1 0 0 (.rules centralEurope)) ⟨1919, 7, .on 1, .midnight⟩ <|
    .until (.ahead 1 39 0 .off) ⟨1921, 5, .on 1, .midnight⟩ <|
    .until (.ahead 2 0 0 .off) ⟨1940, 8, .on 6, .midnight⟩ <|
    .until (.ahead 3 0 0 .off) ⟨1941, 9, .on 15, .midnight⟩ <|
    .until (.ahead 1 0 0 (.rules centralEurope)) ⟨1944, 9, .on 22, .midnight⟩ <|
    .until (.ahead 3 0 0 (.rules russia)) ⟨1989, 3, .on 26, .standard 2 0⟩ <|
    .until (.ahead 2 0 0 (.on 60)) ⟨1989, 9, .on 24, .standard 2 0⟩ <|
    .until (.ahead 2 0 0 (.rules centralEurope)) ⟨1998, 9, .on 22, .midnight⟩ <|
    .until (.ahead 2 0 0 (.rules europeanUnion)) ⟨1999, 10, .on 31, .wall 4 0⟩ <|
    .until (.ahead 2 0 0 .off) ⟨2002, 2, .on 21, .midnight⟩ <|
    .forever (.ahead 2 0 0 (.rules europeanUnion))),
   ("Europe/Tirane",
    .until (.ahead 1 19 20 .off) ⟨1914, 1, .on 1, .midnight⟩ <|
    .until (.ahead 1 0 0 .off) ⟨1940, 6, .on 16, .midnight⟩ <|
    .until (.ahead 1 0 0 (.rules albania)) ⟨1984, 7, .on 1, .midnight⟩ <|
    .forever (.ahead 1 0 0 (.rules europeanUnion))),
   ("Europe/Ulyanovsk",
    .until (.ahead 3 13 36 .off) ⟨1919, 7, .on 1, .universal 0 0⟩ <|
    .until (.ahead 3 0 0 .off) ⟨1930, 6, .on 21, .midnight⟩ <|
    .until (.ahead 4 0 0 (.rules russia)) ⟨1989, 3, .on 26, .standard 2 0⟩ <|
    .until (.ahead 3 0 0 (.rules russia)) ⟨1991, 3, .on 31, .standard 2 0⟩ <|
    .until (.ahead 2 0 0 (.rules russia)) ⟨1992, 1, .on 19, .standard 2 0⟩ <|
    .until (.ahead 3 0 0 (.rules russia)) ⟨2011, 3, .on 27, .standard 2 0⟩ <|
    .until (.ahead 4 0 0 .off) ⟨2014, 10, .on 26, .standard 2 0⟩ <|
    .until (.ahead 3 0 0 .off) ⟨2016, 3, .on 27, .standard 2 0⟩ <|
    .forever (.ahead 4 0 0 .off)),
   ("Europe/Vienna",
    .until (.ahead 1 5 21 .off) ⟨1893, 4, .on 1, .midnight⟩ <|
    .until (.ahead 1 0 0 (.rules centralEurope)) ⟨1920, 1, .on 1, .midnight⟩ <|
    .until (.ahead 1 0 0 (.rules austria)) ⟨1940, 4, .on 1, .standard 2 0⟩ <|
    .until (.ahead 1 0 0 (.rules centralEurope)) ⟨1945, 4, .on 2, .standard 2 0⟩ <|
    .until (.ahead 1 0 0 (.on 60)) ⟨1945, 4, .on 12, .standard 2 0⟩ <|
    .until (.ahead 1 0 0 .off) ⟨1946, 1, .on 1, .midnight⟩ <|
    .until (.ahead 1 0 0 (.rules austria)) ⟨1981, 1, .on 1, .midnight⟩ <|
    .forever (.ahead 1 0 0 (.rules europeanUnion))),
   ("Europe/Vilnius",
    .until (.ahead 1 41 16 .off) ⟨1880, 1, .on 1, .midnight⟩ <|
    .until (.ahead 1 24 0 .off) ⟨1917, 1, .on 1, .midnight⟩ <|
    .until (.ahead 1 35 36 .off) ⟨1919, 10, .on 10, .midnight⟩ <|
    .until (.ahead 1 0 0 .off) ⟨1920, 7, .on 12, .midnight⟩ <|
    .until (.ahead 2 0 0 .off) ⟨1920, 10, .on 9, .midnight⟩ <|
    .until (.ahead 1 0 0 .off) ⟨1940, 8, .on 3, .midnight⟩ <|
    .until (.ahead 3 0 0 .off) ⟨1941, 6, .on 24, .midnight⟩ <|
    .until (.ahead 1 0 0 (.rules centralEurope)) ⟨1944, 8, .on 1, .midnight⟩ <|
    .until (.ahead 3 0 0 (.rules russia)) ⟨1989, 3, .on 26, .standard 2 0⟩ <|
    .until (.ahead 2 0 0 (.rules russia)) ⟨1991, 9, .on 29, .standard 2 0⟩ <|
    .until (.ahead 2 0 0 (.rules centralEurope)) ⟨1998, 1, .on 1, .midnight⟩ <|
    .until (.ahead 2 0 0 .off) ⟨1998, 3, .on 29, .universal 1 0⟩ <|
    .until (.ahead 1 0 0 (.rules europeanUnion)) ⟨1999, 10, .on 31, .universal 1 0⟩ <|
    .until (.ahead 2 0 0 .off) ⟨2003, 1, .on 1, .midnight⟩ <|
    .forever (.ahead 2 0 0 (.rules europeanUnion))),
   ("Europe/Volgograd",
    .until (.ahead 2 57 40 .off) ⟨1920, 1, .on 3, .midnight⟩ <|
    .until (.ahead 3 0 0 .off) ⟨1930, 6, .on 21, .midnight⟩ <|
    .until (.ahead 4 0 0 .off) ⟨1961, 11, .on 11, .midnight⟩ <|
    .until (.ahead 4 0 0 (.rules russia)) ⟨1988, 3, .on 27, .standard 2 0⟩ <|
    .until (.ahead 3 0 0 (.rules russia)) ⟨1991, 3, .on 31, .standard 2 0⟩ <|
    .until (.ahead 4 0 0 .off) ⟨1992, 3, .on 29, .standard 2 0⟩ <|
    .until (.ahead 3 0 0 (.rules russia)) ⟨2011, 3, .on 27, .standard 2 0⟩ <|
    .until (.ahead 4 0 0 .off) ⟨2014, 10, .on 26, .standard 2 0⟩ <|
    .until (.ahead 3 0 0 .off) ⟨2018, 10, .on 28, .standard 2 0⟩ <|
    .until (.ahead 4 0 0 .off) ⟨2020, 12, .on 27, .standard 2 0⟩ <|
    .forever (.ahead 3 0 0 .off)),
   ("Europe/Warsaw",
    .until (.ahead 1 24 0 .off) ⟨1880, 1, .on 1, .midnight⟩ <|
    .until (.ahead 1 24 0 .off) ⟨1915, 8, .on 5, .midnight⟩ <|
    .until (.ahead 1 0 0 (.rules centralEurope)) ⟨1918, 9, .on 16, .wall 3 0⟩ <|
    .until (.ahead 2 0 0 (.rules poland)) ⟨1922, 6, .on 1, .midnight⟩ <|
    .until (.ahead 1 0 0 (.rules poland)) ⟨1940, 6, .on 23, .wall 2 0⟩ <|
    .until (.ahead 1 0 0 (.rules centralEurope)) ⟨1944, 10, .on 1, .midnight⟩ <|
    .until (.ahead 1 0 0 (.rules poland)) ⟨1977, 1, .on 1, .midnight⟩ <|
    .until (.ahead 1 0 0 (.rules westernEurope)) ⟨1988, 1, .on 1, .midnight⟩ <|
    .forever (.ahead 1 0 0 (.rules europeanUnion))),
   ("Europe/Zurich",
    .until (.ahead 0 34 8 .off) ⟨1853, 7, .on 16, .midnight⟩ <|
    .until (.ahead 0 29 46 .off) ⟨1894, 6, .on 1, .midnight⟩ <|
    .until (.ahead 1 0 0 (.rules switzerland)) ⟨1981, 1, .on 1, .midnight⟩ <|
    .forever (.ahead 1 0 0 (.rules europeanUnion)))]

end SecretRotation.History
