import SecretRotation.Zone.History
import SecretRotation.Zone.Saving.Africa
import SecretRotation.Zone.Saving.Asia
import SecretRotation.Zone.Saving.Europe

/-!
# Zones of Asia

The histories of the zones of Asia.
-/

namespace SecretRotation.History

open SavingRules

/-- The histories of the zones of Asia. -/
def asia : List (String × History) :=
  [("Asia/Almaty",
    .until (.ahead 5 7 48 .off) ⟨1924, 5, .on 2, .midnight⟩ <|
    .until (.ahead 5 0 0 .off) ⟨1930, 6, .on 21, .midnight⟩ <|
    .until (.ahead 6 0 0 (.rules russia)) ⟨1991, 3, .on 31, .standard 2 0⟩ <|
    .until (.ahead 5 0 0 (.rules russia)) ⟨1992, 1, .on 19, .standard 2 0⟩ <|
    .until (.ahead 6 0 0 (.rules russia)) ⟨2004, 10, .on 31, .standard 2 0⟩ <|
    .until (.ahead 6 0 0 .off) ⟨2024, 3, .on 1, .midnight⟩ <|
    .forever (.ahead 5 0 0 .off)),
   ("Asia/Amman",
    .until (.ahead 2 23 44 .off) ⟨1931, 1, .on 1, .midnight⟩ <|
    .until (.ahead 2 0 0 (.rules jordan)) ⟨2022, 10, .on 28, .standard 0 0⟩ <|
    .forever (.ahead 3 0 0 .off)),
   ("Asia/Anadyr",
    .until (.ahead 11 49 56 .off) ⟨1924, 5, .on 2, .midnight⟩ <|
    .until (.ahead 12 0 0 .off) ⟨1930, 6, .on 21, .midnight⟩ <|
    .until (.ahead 13 0 0 (.rules russia)) ⟨1982, 4, .on 1, .standard 0 0⟩ <|
    .until (.ahead 12 0 0 (.rules russia)) ⟨1991, 3, .on 31, .standard 2 0⟩ <|
    .until (.ahead 11 0 0 (.rules russia)) ⟨1992, 1, .on 19, .standard 2 0⟩ <|
    .until (.ahead 12 0 0 (.rules russia)) ⟨2010, 3, .on 28, .standard 2 0⟩ <|
    .until (.ahead 11 0 0 (.rules russia)) ⟨2011, 3, .on 27, .standard 2 0⟩ <|
    .forever (.ahead 12 0 0 .off)),
   ("Asia/Aqtau",
    .until (.ahead 3 21 4 .off) ⟨1924, 5, .on 2, .midnight⟩ <|
    .until (.ahead 4 0 0 .off) ⟨1930, 6, .on 21, .midnight⟩ <|
    .until (.ahead 5 0 0 .off) ⟨1981, 10, .on 1, .midnight⟩ <|
    .until (.ahead 6 0 0 .off) ⟨1982, 4, .on 1, .midnight⟩ <|
    .until (.ahead 5 0 0 (.rules russia)) ⟨1991, 3, .on 31, .standard 2 0⟩ <|
    .until (.ahead 4 0 0 (.rules russia)) ⟨1992, 1, .on 19, .standard 2 0⟩ <|
    .until (.ahead 5 0 0 (.rules russia)) ⟨1994, 9, .on 25, .standard 2 0⟩ <|
    .until (.ahead 4 0 0 (.rules russia)) ⟨2004, 10, .on 31, .standard 2 0⟩ <|
    .forever (.ahead 5 0 0 .off)),
   ("Asia/Aqtobe",
    .until (.ahead 3 48 40 .off) ⟨1924, 5, .on 2, .midnight⟩ <|
    .until (.ahead 4 0 0 .off) ⟨1930, 6, .on 21, .midnight⟩ <|
    .until (.ahead 5 0 0 .off) ⟨1981, 4, .on 1, .midnight⟩ <|
    .until (.ahead 5 0 0 (.on 60)) ⟨1981, 10, .on 1, .midnight⟩ <|
    .until (.ahead 6 0 0 .off) ⟨1982, 4, .on 1, .midnight⟩ <|
    .until (.ahead 5 0 0 (.rules russia)) ⟨1991, 3, .on 31, .standard 2 0⟩ <|
    .until (.ahead 4 0 0 (.rules russia)) ⟨1992, 1, .on 19, .standard 2 0⟩ <|
    .until (.ahead 5 0 0 (.rules russia)) ⟨2004, 10, .on 31, .standard 2 0⟩ <|
    .forever (.ahead 5 0 0 .off)),
   ("Asia/Ashgabat",
    .until (.ahead 3 53 32 .off) ⟨1924, 5, .on 2, .midnight⟩ <|
    .until (.ahead 4 0 0 .off) ⟨1930, 6, .on 21, .midnight⟩ <|
    .until (.ahead 5 0 0 (.rules russia)) ⟨1991, 3, .on 31, .wall 2 0⟩ <|
    .until (.ahead 4 0 0 (.rules russia)) ⟨1992, 1, .on 19, .wall 2 0⟩ <|
    .forever (.ahead 5 0 0 .off)),
   ("Asia/Atyrau",
    .until (.ahead 3 27 44 .off) ⟨1924, 5, .on 2, .midnight⟩ <|
    .until (.ahead 3 0 0 .off) ⟨1930, 6, .on 21, .midnight⟩ <|
    .until (.ahead 5 0 0 .off) ⟨1981, 10, .on 1, .midnight⟩ <|
    .until (.ahead 6 0 0 .off) ⟨1982, 4, .on 1, .midnight⟩ <|
    .until (.ahead 5 0 0 (.rules russia)) ⟨1991, 3, .on 31, .standard 2 0⟩ <|
    .until (.ahead 4 0 0 (.rules russia)) ⟨1992, 1, .on 19, .standard 2 0⟩ <|
    .until (.ahead 5 0 0 (.rules russia)) ⟨1999, 3, .on 28, .standard 2 0⟩ <|
    .until (.ahead 4 0 0 (.rules russia)) ⟨2004, 10, .on 31, .standard 2 0⟩ <|
    .forever (.ahead 5 0 0 .off)),
   ("Asia/Baghdad",
    .until (.ahead 2 57 40 .off) ⟨1890, 1, .on 1, .midnight⟩ <|
    .until (.ahead 2 57 36 .off) ⟨1918, 1, .on 1, .midnight⟩ <|
    .until (.ahead 3 0 0 .off) ⟨1982, 5, .on 1, .midnight⟩ <|
    .forever (.ahead 3 0 0 (.rules iraq))),
   ("Asia/Baku",
    .until (.ahead 3 19 24 .off) ⟨1924, 5, .on 2, .midnight⟩ <|
    .until (.ahead 3 0 0 .off) ⟨1957, 3, .on 1, .midnight⟩ <|
    .until (.ahead 4 0 0 (.rules russia)) ⟨1991, 3, .on 31, .standard 2 0⟩ <|
    .until (.ahead 3 0 0 (.rules russia)) ⟨1992, 9, .last .sunday, .standard 2 0⟩ <|
    .until (.ahead 4 0 0 .off) ⟨1996, 1, .on 1, .midnight⟩ <|
    .until (.ahead 4 0 0 (.rules europeanUnion)) ⟨1997, 1, .on 1, .midnight⟩ <|
    .forever (.ahead 4 0 0 (.rules azerbaijan))),
   ("Asia/Bangkok",
    .until (.ahead 6 42 4 .off) ⟨1880, 1, .on 1, .midnight⟩ <|
    .until (.ahead 6 42 4 .off) ⟨1920, 4, .on 1, .midnight⟩ <|
    .forever (.ahead 7 0 0 .off)),
   ("Asia/Barnaul",
    .until (.ahead 5 35 0 .off) ⟨1919, 12, .on 10, .midnight⟩ <|
    .until (.ahead 6 0 0 .off) ⟨1930, 6, .on 21, .midnight⟩ <|
    .until (.ahead 7 0 0 (.rules russia)) ⟨1991, 3, .on 31, .standard 2 0⟩ <|
    .until (.ahead 6 0 0 (.rules russia)) ⟨1992, 1, .on 19, .standard 2 0⟩ <|
    .until (.ahead 7 0 0 (.rules russia)) ⟨1995, 5, .on 28, .midnight⟩ <|
    .until (.ahead 6 0 0 (.rules russia)) ⟨2011, 3, .on 27, .standard 2 0⟩ <|
    .until (.ahead 7 0 0 .off) ⟨2014, 10, .on 26, .standard 2 0⟩ <|
    .until (.ahead 6 0 0 .off) ⟨2016, 3, .on 27, .standard 2 0⟩ <|
    .forever (.ahead 7 0 0 .off)),
   ("Asia/Beirut",
    .until (.ahead 2 22 0 .off) ⟨1880, 1, .on 1, .midnight⟩ <|
    .forever (.ahead 2 0 0 (.rules lebanon))),
   ("Asia/Bishkek",
    .until (.ahead 4 58 24 .off) ⟨1924, 5, .on 2, .midnight⟩ <|
    .until (.ahead 5 0 0 .off) ⟨1930, 6, .on 21, .midnight⟩ <|
    .until (.ahead 6 0 0 (.rules russia)) ⟨1991, 3, .on 31, .standard 2 0⟩ <|
    .until (.ahead 5 0 0 (.rules russia)) ⟨1991, 8, .on 31, .wall 2 0⟩ <|
    .until (.ahead 5 0 0 (.rules kyrgyzstan)) ⟨2005, 8, .on 12, .midnight⟩ <|
    .forever (.ahead 6 0 0 .off)),
   ("Asia/Chita",
    .until (.ahead 7 33 52 .off) ⟨1919, 12, .on 15, .midnight⟩ <|
    .until (.ahead 8 0 0 .off) ⟨1930, 6, .on 21, .midnight⟩ <|
    .until (.ahead 9 0 0 (.rules russia)) ⟨1991, 3, .on 31, .standard 2 0⟩ <|
    .until (.ahead 8 0 0 (.rules russia)) ⟨1992, 1, .on 19, .standard 2 0⟩ <|
    .until (.ahead 9 0 0 (.rules russia)) ⟨2011, 3, .on 27, .standard 2 0⟩ <|
    .until (.ahead 10 0 0 .off) ⟨2014, 10, .on 26, .standard 2 0⟩ <|
    .until (.ahead 8 0 0 .off) ⟨2016, 3, .on 27, .wall 2 0⟩ <|
    .forever (.ahead 9 0 0 .off)),
   ("Asia/Colombo",
    .until (.ahead 5 19 24 .off) ⟨1880, 1, .on 1, .midnight⟩ <|
    .until (.ahead 5 19 32 .off) ⟨1906, 1, .on 1, .midnight⟩ <|
    .until (.ahead 5 30 0 .off) ⟨1942, 1, .on 5, .midnight⟩ <|
    .until (.ahead 5 30 0 (.on 30)) ⟨1942, 9, .on 1, .midnight⟩ <|
    .until (.ahead 5 30 0 (.on 60)) ⟨1945, 10, .on 16, .wall 2 0⟩ <|
    .until (.ahead 5 30 0 .off) ⟨1996, 5, .on 25, .midnight⟩ <|
    .until (.ahead 6 30 0 .off) ⟨1996, 10, .on 26, .wall 0 30⟩ <|
    .until (.ahead 6 0 0 .off) ⟨2006, 4, .on 15, .wall 0 30⟩ <|
    .forever (.ahead 5 30 0 .off)),
   ("Asia/Damascus",
    .until (.ahead 2 25 12 .off) ⟨1920, 1, .on 1, .midnight⟩ <|
    .until (.ahead 2 0 0 (.rules syria)) ⟨2022, 10, .on 28, .midnight⟩ <|
    .forever (.ahead 3 0 0 .off)),
   ("Asia/Dhaka",
    .until (.ahead 6 1 40 .off) ⟨1890, 1, .on 1, .midnight⟩ <|
    .until (.ahead 5 53 20 .off) ⟨1941, 10, .on 1, .midnight⟩ <|
    .until (.ahead 6 30 0 .off) ⟨1942, 5, .on 15, .midnight⟩ <|
    .until (.ahead 5 30 0 .off) ⟨1942, 9, .on 1, .midnight⟩ <|
    .until (.ahead 6 30 0 .off) ⟨1951, 9, .on 30, .midnight⟩ <|
    .until (.ahead 6 0 0 .off) ⟨2009, 1, .on 1, .midnight⟩ <|
    .forever (.ahead 6 0 0 (.rules bangladesh))),
   ("Asia/Dili",
    .until (.ahead 8 22 20 .off) ⟨1911, 12, .on 31, .universal 16 0⟩ <|
    .until (.ahead 8 0 0 .off) ⟨1942, 2, .on 21, .wall 23 0⟩ <|
    .until (.ahead 9 0 0 .off) ⟨1976, 5, .on 3, .midnight⟩ <|
    .until (.ahead 8 0 0 .off) ⟨2000, 9, .on 17, .midnight⟩ <|
    .forever (.ahead 9 0 0 .off)),
   ("Asia/Dubai",
    .until (.ahead 3 41 12 .off) ⟨1920, 1, .on 1, .midnight⟩ <|
    .forever (.ahead 4 0 0 .off)),
   ("Asia/Dushanbe",
    .until (.ahead 4 35 12 .off) ⟨1924, 5, .on 2, .midnight⟩ <|
    .until (.ahead 5 0 0 .off) ⟨1930, 6, .on 21, .midnight⟩ <|
    .until (.ahead 6 0 0 (.rules russia)) ⟨1991, 3, .on 31, .standard 2 0⟩ <|
    .until (.ahead 5 0 0 (.on 60)) ⟨1991, 9, .on 9, .standard 2 0⟩ <|
    .forever (.ahead 5 0 0 .off)),
   ("Asia/Famagusta",
    .until (.ahead 2 15 48 .off) ⟨1921, 11, .on 14, .midnight⟩ <|
    .until (.ahead 2 0 0 (.rules cyprus)) ⟨1998, 9, .on 1, .midnight⟩ <|
    .until (.ahead 2 0 0 (.rules europeanUnion)) ⟨2016, 9, .on 8, .midnight⟩ <|
    .until (.ahead 3 0 0 .off) ⟨2017, 10, .on 29, .universal 1 0⟩ <|
    .forever (.ahead 2 0 0 (.rules europeanUnion))),
   ("Asia/Gaza",
    .until (.ahead 2 17 52 .off) ⟨1900, 10, .on 1, .midnight⟩ <|
    .until (.ahead 2 0 0 (.rules israel)) ⟨1948, 5, .on 15, .midnight⟩ <|
    .until (.ahead 2 0 0 (.rules egypt)) ⟨1967, 6, .on 5, .midnight⟩ <|
    .until (.ahead 2 0 0 (.rules israel)) ⟨1996, 1, .on 1, .midnight⟩ <|
    .until (.ahead 2 0 0 (.rules jordan)) ⟨1999, 1, .on 1, .midnight⟩ <|
    .until (.ahead 2 0 0 (.rules palestine)) ⟨2008, 8, .on 29, .midnight⟩ <|
    .until (.ahead 2 0 0 .off) ⟨2008, 9, .on 1, .midnight⟩ <|
    .until (.ahead 2 0 0 (.rules palestine)) ⟨2010, 1, .on 1, .midnight⟩ <|
    .until (.ahead 2 0 0 .off) ⟨2010, 3, .on 27, .wall 0 1⟩ <|
    .until (.ahead 2 0 0 (.rules palestine)) ⟨2011, 8, .on 1, .midnight⟩ <|
    .until (.ahead 2 0 0 .off) ⟨2012, 1, .on 1, .midnight⟩ <|
    .forever (.ahead 2 0 0 (.rules palestine))),
   ("Asia/Hebron",
    .until (.ahead 2 20 23 .off) ⟨1900, 10, .on 1, .midnight⟩ <|
    .until (.ahead 2 0 0 (.rules israel)) ⟨1948, 5, .on 15, .midnight⟩ <|
    .until (.ahead 2 0 0 (.rules egypt)) ⟨1967, 6, .on 5, .midnight⟩ <|
    .until (.ahead 2 0 0 (.rules israel)) ⟨1996, 1, .on 1, .midnight⟩ <|
    .until (.ahead 2 0 0 (.rules jordan)) ⟨1999, 1, .on 1, .midnight⟩ <|
    .forever (.ahead 2 0 0 (.rules palestine))),
   ("Asia/Ho_Chi_Minh",
    .until (.ahead 7 6 30 .off) ⟨1906, 7, .on 1, .midnight⟩ <|
    .until (.ahead 7 6 30 .off) ⟨1911, 5, .on 1, .midnight⟩ <|
    .until (.ahead 7 0 0 .off) ⟨1942, 12, .on 31, .wall 23 0⟩ <|
    .until (.ahead 8 0 0 .off) ⟨1945, 3, .on 14, .wall 23 0⟩ <|
    .until (.ahead 9 0 0 .off) ⟨1945, 9, .on 1, .wall 24 0⟩ <|
    .until (.ahead 7 0 0 .off) ⟨1947, 4, .on 1, .midnight⟩ <|
    .until (.ahead 8 0 0 .off) ⟨1955, 7, .on 1, .wall 1 0⟩ <|
    .until (.ahead 7 0 0 .off) ⟨1959, 12, .on 31, .wall 23 0⟩ <|
    .until (.ahead 8 0 0 .off) ⟨1975, 6, .on 13, .midnight⟩ <|
    .forever (.ahead 7 0 0 .off)),
   ("Asia/Hong_Kong",
    .until (.ahead 7 36 42 .off) ⟨1904, 10, .on 29, .universal 17 0⟩ <|
    .until (.ahead 8 0 0 .off) ⟨1941, 6, .on 15, .wall 3 0⟩ <|
    .until (.ahead 8 0 0 (.on 60)) ⟨1941, 10, .on 1, .wall 4 0⟩ <|
    .until (.ahead 8 0 0 (.on 30)) ⟨1941, 12, .on 25, .midnight⟩ <|
    .until (.ahead 9 0 0 .off) ⟨1945, 11, .on 18, .wall 2 0⟩ <|
    .forever (.ahead 8 0 0 (.rules hongKong))),
   ("Asia/Hovd",
    .until (.ahead 6 6 36 .off) ⟨1905, 8, .on 1, .midnight⟩ <|
    .until (.ahead 6 0 0 .off) ⟨1978, 1, .on 1, .midnight⟩ <|
    .forever (.ahead 7 0 0 (.rules mongolia))),
   ("Asia/Irkutsk",
    .until (.ahead 6 57 5 .off) ⟨1880, 1, .on 1, .midnight⟩ <|
    .until (.ahead 6 57 5 .off) ⟨1920, 1, .on 25, .midnight⟩ <|
    .until (.ahead 7 0 0 .off) ⟨1930, 6, .on 21, .midnight⟩ <|
    .until (.ahead 8 0 0 (.rules russia)) ⟨1991, 3, .on 31, .standard 2 0⟩ <|
    .until (.ahead 7 0 0 (.rules russia)) ⟨1992, 1, .on 19, .standard 2 0⟩ <|
    .until (.ahead 8 0 0 (.rules russia)) ⟨2011, 3, .on 27, .standard 2 0⟩ <|
    .until (.ahead 9 0 0 .off) ⟨2014, 10, .on 26, .standard 2 0⟩ <|
    .forever (.ahead 8 0 0 .off)),
   ("Asia/Jakarta",
    .until (.ahead 7 7 12 .off) ⟨1867, 8, .on 10, .midnight⟩ <|
    .until (.ahead 7 7 12 .off) ⟨1923, 12, .on 31, .universal 16 40⟩ <|
    .until (.ahead 7 20 0 .off) ⟨1932, 11, .on 1, .midnight⟩ <|
    .until (.ahead 7 30 0 .off) ⟨1942, 3, .on 23, .midnight⟩ <|
    .until (.ahead 9 0 0 .off) ⟨1945, 9, .on 23, .midnight⟩ <|
    .until (.ahead 7 30 0 .off) ⟨1948, 5, .on 1, .midnight⟩ <|
    .until (.ahead 8 0 0 .off) ⟨1950, 5, .on 1, .midnight⟩ <|
    .until (.ahead 7 30 0 .off) ⟨1964, 1, .on 1, .midnight⟩ <|
    .forever (.ahead 7 0 0 .off)),
   ("Asia/Jayapura",
    .until (.ahead 9 22 48 .off) ⟨1932, 11, .on 1, .midnight⟩ <|
    .until (.ahead 9 0 0 .off) ⟨1944, 9, .on 1, .midnight⟩ <|
    .until (.ahead 9 30 0 .off) ⟨1964, 1, .on 1, .midnight⟩ <|
    .forever (.ahead 9 0 0 .off)),
   ("Asia/Jerusalem",
    .until (.ahead 2 20 54 .off) ⟨1880, 1, .on 1, .midnight⟩ <|
    .until (.ahead 2 20 40 .off) ⟨1918, 1, .on 1, .midnight⟩ <|
    .forever (.ahead 2 0 0 (.rules israel))),
   ("Asia/Kabul",
    .until (.ahead 4 36 48 .off) ⟨1890, 1, .on 1, .midnight⟩ <|
    .until (.ahead 4 0 0 .off) ⟨1945, 1, .on 1, .midnight⟩ <|
    .forever (.ahead 4 30 0 .off)),
   ("Asia/Kamchatka",
    .until (.ahead 10 34 36 .off) ⟨1922, 11, .on 10, .midnight⟩ <|
    .until (.ahead 11 0 0 .off) ⟨1930, 6, .on 21, .midnight⟩ <|
    .until (.ahead 12 0 0 (.rules russia)) ⟨1991, 3, .on 31, .standard 2 0⟩ <|
    .until (.ahead 11 0 0 (.rules russia)) ⟨1992, 1, .on 19, .standard 2 0⟩ <|
    .until (.ahead 12 0 0 (.rules russia)) ⟨2010, 3, .on 28, .standard 2 0⟩ <|
    .until (.ahead 11 0 0 (.rules russia)) ⟨2011, 3, .on 27, .standard 2 0⟩ <|
    .forever (.ahead 12 0 0 .off)),
   ("Asia/Karachi",
    .until (.ahead 4 28 12 .off) ⟨1907, 1, .on 1, .midnight⟩ <|
    .until (.ahead 5 30 0 .off) ⟨1942, 9, .on 1, .midnight⟩ <|
    .until (.ahead 5 30 0 (.on 60)) ⟨1945, 10, .on 15, .midnight⟩ <|
    .until (.ahead 5 30 0 .off) ⟨1951, 9, .on 30, .midnight⟩ <|
    .until (.ahead 5 0 0 .off) ⟨1971, 3, .on 26, .midnight⟩ <|
    .forever (.ahead 5 0 0 (.rules pakistan))),
   ("Asia/Kathmandu",
    .until (.ahead 5 41 16 .off) ⟨1920, 1, .on 1, .midnight⟩ <|
    .until (.ahead 5 30 0 .off) ⟨1986, 1, .on 1, .midnight⟩ <|
    .forever (.ahead 5 45 0 .off)),
   ("Asia/Khandyga",
    .until (.ahead 9 2 13 .off) ⟨1919, 12, .on 15, .midnight⟩ <|
    .until (.ahead 8 0 0 .off) ⟨1930, 6, .on 21, .midnight⟩ <|
    .until (.ahead 9 0 0 (.rules russia)) ⟨1991, 3, .on 31, .standard 2 0⟩ <|
    .until (.ahead 8 0 0 (.rules russia)) ⟨1992, 1, .on 19, .standard 2 0⟩ <|
    .until (.ahead 9 0 0 (.rules russia)) ⟨2004, 1, .on 1, .midnight⟩ <|
    .until (.ahead 10 0 0 (.rules russia)) ⟨2011, 3, .on 27, .standard 2 0⟩ <|
    .until (.ahead 11 0 0 .off) ⟨2011, 9, .on 13, .standard 0 0⟩ <|
    .until (.ahead 10 0 0 .off) ⟨2014, 10, .on 26, .standard 2 0⟩ <|
    .forever (.ahead 9 0 0 .off)),
   ("Asia/Kolkata",
    .until (.ahead 5 53 28 .off) ⟨1854, 6, .on 28, .midnight⟩ <|
    .until (.ahead 5 53 20 .off) ⟨1870, 1, .on 1, .midnight⟩ <|
    .until (.ahead 5 21 10 .off) ⟨1906, 1, .on 1, .midnight⟩ <|
    .until (.ahead 5 30 0 .off) ⟨1941, 10, .on 1, .midnight⟩ <|
    .until (.ahead 5 30 0 (.on 60)) ⟨1942, 5, .on 15, .midnight⟩ <|
    .until (.ahead 5 30 0 .off) ⟨1942, 9, .on 1, .midnight⟩ <|
    .until (.ahead 5 30 0 (.on 60)) ⟨1945, 10, .on 15, .midnight⟩ <|
    .forever (.ahead 5 30 0 .off)),
   ("Asia/Krasnoyarsk",
    .until (.ahead 6 11 26 .off) ⟨1920, 1, .on 6, .midnight⟩ <|
    .until (.ahead 6 0 0 .off) ⟨1930, 6, .on 21, .midnight⟩ <|
    .until (.ahead 7 0 0 (.rules russia)) ⟨1991, 3, .on 31, .standard 2 0⟩ <|
    .until (.ahead 6 0 0 (.rules russia)) ⟨1992, 1, .on 19, .standard 2 0⟩ <|
    .until (.ahead 7 0 0 (.rules russia)) ⟨2011, 3, .on 27, .standard 2 0⟩ <|
    .until (.ahead 8 0 0 .off) ⟨2014, 10, .on 26, .standard 2 0⟩ <|
    .forever (.ahead 7 0 0 .off)),
   ("Asia/Kuching",
    .until (.ahead 7 21 20 .off) ⟨1926, 3, .on 1, .midnight⟩ <|
    .until (.ahead 7 30 0 .off) ⟨1933, 1, .on 1, .midnight⟩ <|
    .until (.ahead 8 0 0 (.rules northBorneo)) ⟨1942, 2, .on 16, .midnight⟩ <|
    .until (.ahead 9 0 0 .off) ⟨1945, 9, .on 12, .midnight⟩ <|
    .forever (.ahead 8 0 0 .off)),
   ("Asia/Macau",
    .until (.ahead 7 34 10 .off) ⟨1904, 10, .on 30, .midnight⟩ <|
    .until (.ahead 8 0 0 .off) ⟨1941, 12, .on 21, .wall 23 0⟩ <|
    .until (.ahead 9 0 0 (.rules macau)) ⟨1945, 9, .on 30, .wall 24 0⟩ <|
    .forever (.ahead 8 0 0 (.rules macau))),
   ("Asia/Magadan",
    .until (.ahead 10 3 12 .off) ⟨1924, 5, .on 2, .midnight⟩ <|
    .until (.ahead 10 0 0 .off) ⟨1930, 6, .on 21, .midnight⟩ <|
    .until (.ahead 11 0 0 (.rules russia)) ⟨1991, 3, .on 31, .standard 2 0⟩ <|
    .until (.ahead 10 0 0 (.rules russia)) ⟨1992, 1, .on 19, .standard 2 0⟩ <|
    .until (.ahead 11 0 0 (.rules russia)) ⟨2011, 3, .on 27, .standard 2 0⟩ <|
    .until (.ahead 12 0 0 .off) ⟨2014, 10, .on 26, .standard 2 0⟩ <|
    .until (.ahead 10 0 0 .off) ⟨2016, 4, .on 24, .standard 2 0⟩ <|
    .forever (.ahead 11 0 0 .off)),
   ("Asia/Makassar",
    .until (.ahead 7 57 36 .off) ⟨1920, 1, .on 1, .midnight⟩ <|
    .until (.ahead 7 57 36 .off) ⟨1932, 11, .on 1, .midnight⟩ <|
    .until (.ahead 8 0 0 .off) ⟨1942, 2, .on 9, .midnight⟩ <|
    .until (.ahead 9 0 0 .off) ⟨1945, 9, .on 23, .midnight⟩ <|
    .forever (.ahead 8 0 0 .off)),
   ("Asia/Manila",
    .until (.behind 15 56 8 .off) ⟨1844, 12, .on 31, .midnight⟩ <|
    .until (.ahead 8 3 52 .off) ⟨1899, 9, .on 6, .universal 4 0⟩ <|
    .until (.ahead 8 0 0 (.rules philippines)) ⟨1942, 2, .on 11, .wall 24 0⟩ <|
    .until (.ahead 9 0 0 .off) ⟨1945, 3, .on 4, .midnight⟩ <|
    .forever (.ahead 8 0 0 (.rules philippines))),
   ("Asia/Nicosia",
    .until (.ahead 2 13 28 .off) ⟨1921, 11, .on 14, .midnight⟩ <|
    .until (.ahead 2 0 0 (.rules cyprus)) ⟨1998, 9, .on 1, .midnight⟩ <|
    .forever (.ahead 2 0 0 (.rules europeanUnion))),
   ("Asia/Novokuznetsk",
    .until (.ahead 5 48 48 .off) ⟨1924, 5, .on 1, .midnight⟩ <|
    .until (.ahead 6 0 0 .off) ⟨1930, 6, .on 21, .midnight⟩ <|
    .until (.ahead 7 0 0 (.rules russia)) ⟨1991, 3, .on 31, .standard 2 0⟩ <|
    .until (.ahead 6 0 0 (.rules russia)) ⟨1992, 1, .on 19, .standard 2 0⟩ <|
    .until (.ahead 7 0 0 (.rules russia)) ⟨2010, 3, .on 28, .standard 2 0⟩ <|
    .until (.ahead 6 0 0 (.rules russia)) ⟨2011, 3, .on 27, .standard 2 0⟩ <|
    .forever (.ahead 7 0 0 .off)),
   ("Asia/Novosibirsk",
    .until (.ahead 5 31 40 .off) ⟨1919, 12, .on 14, .wall 6 0⟩ <|
    .until (.ahead 6 0 0 .off) ⟨1930, 6, .on 21, .midnight⟩ <|
    .until (.ahead 7 0 0 (.rules russia)) ⟨1991, 3, .on 31, .standard 2 0⟩ <|
    .until (.ahead 6 0 0 (.rules russia)) ⟨1992, 1, .on 19, .standard 2 0⟩ <|
    .until (.ahead 7 0 0 (.rules russia)) ⟨1993, 5, .on 23, .midnight⟩ <|
    .until (.ahead 6 0 0 (.rules russia)) ⟨2011, 3, .on 27, .standard 2 0⟩ <|
    .until (.ahead 7 0 0 .off) ⟨2014, 10, .on 26, .standard 2 0⟩ <|
    .until (.ahead 6 0 0 .off) ⟨2016, 7, .on 24, .standard 2 0⟩ <|
    .forever (.ahead 7 0 0 .off)),
   ("Asia/Omsk",
    .until (.ahead 4 53 30 .off) ⟨1919, 11, .on 14, .midnight⟩ <|
    .until (.ahead 5 0 0 .off) ⟨1930, 6, .on 21, .midnight⟩ <|
    .until (.ahead 6 0 0 (.rules russia)) ⟨1991, 3, .on 31, .standard 2 0⟩ <|
    .until (.ahead 5 0 0 (.rules russia)) ⟨1992, 1, .on 19, .standard 2 0⟩ <|
    .until (.ahead 6 0 0 (.rules russia)) ⟨2011, 3, .on 27, .standard 2 0⟩ <|
    .until (.ahead 7 0 0 .off) ⟨2014, 10, .on 26, .standard 2 0⟩ <|
    .forever (.ahead 6 0 0 .off)),
   ("Asia/Oral",
    .until (.ahead 3 25 24 .off) ⟨1924, 5, .on 2, .midnight⟩ <|
    .until (.ahead 3 0 0 .off) ⟨1930, 6, .on 21, .midnight⟩ <|
    .until (.ahead 5 0 0 .off) ⟨1981, 4, .on 1, .midnight⟩ <|
    .until (.ahead 5 0 0 (.on 60)) ⟨1981, 10, .on 1, .midnight⟩ <|
    .until (.ahead 6 0 0 .off) ⟨1982, 4, .on 1, .midnight⟩ <|
    .until (.ahead 5 0 0 (.rules russia)) ⟨1989, 3, .on 26, .standard 2 0⟩ <|
    .until (.ahead 4 0 0 (.rules russia)) ⟨1992, 1, .on 19, .standard 2 0⟩ <|
    .until (.ahead 5 0 0 (.rules russia)) ⟨1992, 3, .on 29, .standard 2 0⟩ <|
    .until (.ahead 4 0 0 (.rules russia)) ⟨2004, 10, .on 31, .standard 2 0⟩ <|
    .forever (.ahead 5 0 0 .off)),
   ("Asia/Pontianak",
    .until (.ahead 7 17 20 .off) ⟨1908, 5, .on 1, .midnight⟩ <|
    .until (.ahead 7 17 20 .off) ⟨1932, 11, .on 1, .midnight⟩ <|
    .until (.ahead 7 30 0 .off) ⟨1942, 1, .on 29, .midnight⟩ <|
    .until (.ahead 9 0 0 .off) ⟨1945, 9, .on 23, .midnight⟩ <|
    .until (.ahead 7 30 0 .off) ⟨1948, 5, .on 1, .midnight⟩ <|
    .until (.ahead 8 0 0 .off) ⟨1950, 5, .on 1, .midnight⟩ <|
    .until (.ahead 7 30 0 .off) ⟨1964, 1, .on 1, .midnight⟩ <|
    .until (.ahead 8 0 0 .off) ⟨1988, 1, .on 1, .midnight⟩ <|
    .forever (.ahead 7 0 0 .off)),
   ("Asia/Pyongyang",
    .until (.ahead 8 23 0 .off) ⟨1908, 4, .on 1, .midnight⟩ <|
    .until (.ahead 8 30 0 .off) ⟨1912, 1, .on 1, .midnight⟩ <|
    .until (.ahead 9 0 0 .off) ⟨1945, 8, .on 24, .midnight⟩ <|
    .until (.ahead 9 0 0 .off) ⟨2015, 8, .on 15, .midnight⟩ <|
    .until (.ahead 8 30 0 .off) ⟨2018, 5, .on 4, .wall 23 30⟩ <|
    .forever (.ahead 9 0 0 .off)),
   ("Asia/Qatar",
    .until (.ahead 3 26 8 .off) ⟨1920, 1, .on 1, .midnight⟩ <|
    .until (.ahead 4 0 0 .off) ⟨1972, 6, .on 1, .midnight⟩ <|
    .forever (.ahead 3 0 0 .off)),
   ("Asia/Qostanay",
    .until (.ahead 4 14 28 .off) ⟨1924, 5, .on 2, .midnight⟩ <|
    .until (.ahead 4 0 0 .off) ⟨1930, 6, .on 21, .midnight⟩ <|
    .until (.ahead 5 0 0 .off) ⟨1981, 4, .on 1, .midnight⟩ <|
    .until (.ahead 5 0 0 (.on 60)) ⟨1981, 10, .on 1, .midnight⟩ <|
    .until (.ahead 6 0 0 .off) ⟨1982, 4, .on 1, .midnight⟩ <|
    .until (.ahead 5 0 0 (.rules russia)) ⟨1991, 3, .on 31, .standard 2 0⟩ <|
    .until (.ahead 4 0 0 (.rules russia)) ⟨1992, 1, .on 19, .standard 2 0⟩ <|
    .until (.ahead 5 0 0 (.rules russia)) ⟨2004, 10, .on 31, .standard 2 0⟩ <|
    .until (.ahead 6 0 0 .off) ⟨2024, 3, .on 1, .midnight⟩ <|
    .forever (.ahead 5 0 0 .off)),
   ("Asia/Qyzylorda",
    .until (.ahead 4 21 52 .off) ⟨1924, 5, .on 2, .midnight⟩ <|
    .until (.ahead 4 0 0 .off) ⟨1930, 6, .on 21, .midnight⟩ <|
    .until (.ahead 5 0 0 .off) ⟨1981, 4, .on 1, .midnight⟩ <|
    .until (.ahead 5 0 0 (.on 60)) ⟨1981, 10, .on 1, .midnight⟩ <|
    .until (.ahead 6 0 0 .off) ⟨1982, 4, .on 1, .midnight⟩ <|
    .until (.ahead 5 0 0 (.rules russia)) ⟨1991, 3, .on 31, .standard 2 0⟩ <|
    .until (.ahead 4 0 0 (.rules russia)) ⟨1991, 9, .on 29, .standard 2 0⟩ <|
    .until (.ahead 5 0 0 (.rules russia)) ⟨1992, 1, .on 19, .standard 2 0⟩ <|
    .until (.ahead 6 0 0 (.rules russia)) ⟨1992, 3, .on 29, .standard 2 0⟩ <|
    .until (.ahead 5 0 0 (.rules russia)) ⟨2004, 10, .on 31, .standard 2 0⟩ <|
    .until (.ahead 6 0 0 .off) ⟨2018, 12, .on 21, .midnight⟩ <|
    .forever (.ahead 5 0 0 .off)),
   ("Asia/Riyadh",
    .until (.ahead 3 6 52 .off) ⟨1947, 3, .on 14, .midnight⟩ <|
    .forever (.ahead 3 0 0 .off)),
   ("Asia/Sakhalin",
    .until (.ahead 9 30 48 .off) ⟨1905, 8, .on 23, .midnight⟩ <|
    .until (.ahead 9 0 0 .off) ⟨1945, 8, .on 25, .midnight⟩ <|
    .until (.ahead 11 0 0 (.rules russia)) ⟨1991, 3, .on 31, .standard 2 0⟩ <|
    .until (.ahead 10 0 0 (.rules russia)) ⟨1992, 1, .on 19, .standard 2 0⟩ <|
    .until (.ahead 11 0 0 (.rules russia)) ⟨1997, 3, .last .sunday, .standard 2 0⟩ <|
    .until (.ahead 10 0 0 (.rules russia)) ⟨2011, 3, .on 27, .standard 2 0⟩ <|
    .until (.ahead 11 0 0 .off) ⟨2014, 10, .on 26, .standard 2 0⟩ <|
    .until (.ahead 10 0 0 .off) ⟨2016, 3, .on 27, .standard 2 0⟩ <|
    .forever (.ahead 11 0 0 .off)),
   ("Asia/Samarkand",
    .until (.ahead 4 27 53 .off) ⟨1924, 5, .on 2, .midnight⟩ <|
    .until (.ahead 4 0 0 .off) ⟨1930, 6, .on 21, .midnight⟩ <|
    .until (.ahead 5 0 0 .off) ⟨1981, 4, .on 1, .midnight⟩ <|
    .until (.ahead 5 0 0 (.on 60)) ⟨1981, 10, .on 1, .midnight⟩ <|
    .until (.ahead 6 0 0 .off) ⟨1982, 4, .on 1, .midnight⟩ <|
    .until (.ahead 5 0 0 (.rules russia)) ⟨1992, 1, .on 1, .midnight⟩ <|
    .forever (.ahead 5 0 0 .off)),
   ("Asia/Seoul",
    .until (.ahead 8 27 52 .off) ⟨1908, 4, .on 1, .midnight⟩ <|
    .until (.ahead 8 30 0 .off) ⟨1912, 1, .on 1, .midnight⟩ <|
    .until (.ahead 9 0 0 .off) ⟨1945, 9, .on 8, .midnight⟩ <|
    .until (.ahead 9 0 0 (.rules korea)) ⟨1954, 3, .on 21, .midnight⟩ <|
    .until (.ahead 8 30 0 (.rules korea)) ⟨1961, 8, .on 10, .midnight⟩ <|
    .forever (.ahead 9 0 0 (.rules korea))),
   ("Asia/Shanghai",
    .until (.ahead 8 5 43 .off) ⟨1901, 1, .on 1, .midnight⟩ <|
    .until (.ahead 8 0 0 (.rules shanghai)) ⟨1949, 5, .on 28, .midnight⟩ <|
    .forever (.ahead 8 0 0 (.rules china))),
   ("Asia/Singapore",
    .until (.ahead 6 55 25 .off) ⟨1901, 1, .on 1, .midnight⟩ <|
    .until (.ahead 6 55 25 .off) ⟨1905, 6, .on 1, .midnight⟩ <|
    .until (.ahead 7 0 0 .off) ⟨1933, 1, .on 1, .midnight⟩ <|
    .until (.ahead 7 0 0 (.on 20)) ⟨1936, 1, .on 1, .midnight⟩ <|
    .until (.ahead 7 20 0 .off) ⟨1941, 9, .on 1, .midnight⟩ <|
    .until (.ahead 7 30 0 .off) ⟨1942, 2, .on 16, .midnight⟩ <|
    .until (.ahead 9 0 0 .off) ⟨1945, 9, .on 12, .midnight⟩ <|
    .until (.ahead 7 30 0 .off) ⟨1981, 12, .on 31, .universal 16 0⟩ <|
    .forever (.ahead 8 0 0 .off)),
   ("Asia/Srednekolymsk",
    .until (.ahead 10 14 52 .off) ⟨1924, 5, .on 2, .midnight⟩ <|
    .until (.ahead 10 0 0 .off) ⟨1930, 6, .on 21, .midnight⟩ <|
    .until (.ahead 11 0 0 (.rules russia)) ⟨1991, 3, .on 31, .standard 2 0⟩ <|
    .until (.ahead 10 0 0 (.rules russia)) ⟨1992, 1, .on 19, .standard 2 0⟩ <|
    .until (.ahead 11 0 0 (.rules russia)) ⟨2011, 3, .on 27, .standard 2 0⟩ <|
    .until (.ahead 12 0 0 .off) ⟨2014, 10, .on 26, .standard 2 0⟩ <|
    .forever (.ahead 11 0 0 .off)),
   ("Asia/Taipei",
    .until (.ahead 8 6 0 .off) ⟨1896, 1, .on 1, .midnight⟩ <|
    .until (.ahead 8 0 0 .off) ⟨1937, 10, .on 1, .midnight⟩ <|
    .until (.ahead 9 0 0 .off) ⟨1945, 9, .on 21, .wall 1 0⟩ <|
    .forever (.ahead 8 0 0 (.rules taiwan))),
   ("Asia/Tashkent",
    .until (.ahead 4 37 11 .off) ⟨1924, 5, .on 2, .midnight⟩ <|
    .until (.ahead 5 0 0 .off) ⟨1930, 6, .on 21, .midnight⟩ <|
    .until (.ahead 6 0 0 (.rules russia)) ⟨1991, 3, .on 31, .wall 2 0⟩ <|
    .until (.ahead 5 0 0 (.rules russia)) ⟨1992, 1, .on 1, .midnight⟩ <|
    .forever (.ahead 5 0 0 .off)),
   ("Asia/Tbilisi",
    .until (.ahead 2 59 11 .off) ⟨1880, 1, .on 1, .midnight⟩ <|
    .until (.ahead 2 59 11 .off) ⟨1924, 5, .on 2, .midnight⟩ <|
    .until (.ahead 3 0 0 .off) ⟨1957, 3, .on 1, .midnight⟩ <|
    .until (.ahead 4 0 0 (.rules russia)) ⟨1991, 3, .on 31, .standard 2 0⟩ <|
    .until (.ahead 3 0 0 (.rules russia)) ⟨1992, 1, .on 1, .midnight⟩ <|
    .until (.ahead 3 0 0 (.rules easternEurope)) ⟨1994, 9, .last .sunday, .midnight⟩ <|
    .until (.ahead 4 0 0 (.rules easternEurope)) ⟨1996, 10, .last .sunday, .midnight⟩ <|
    .until (.ahead 4 0 0 (.on 60)) ⟨1997, 3, .last .sunday, .midnight⟩ <|
    .until (.ahead 4 0 0 (.rules easternEurope)) ⟨2004, 6, .on 27, .midnight⟩ <|
    .until (.ahead 3 0 0 (.rules russia)) ⟨2005, 3, .last .sunday, .wall 2 0⟩ <|
    .forever (.ahead 4 0 0 .off)),
   ("Asia/Tehran",
    .until (.ahead 3 25 44 .off) ⟨1916, 1, .on 1, .midnight⟩ <|
    .until (.ahead 3 25 44 .off) ⟨1935, 6, .on 13, .midnight⟩ <|
    .until (.ahead 3 30 0 (.rules iran)) ⟨1977, 10, .on 20, .wall 24 0⟩ <|
    .until (.ahead 4 0 0 (.rules iran)) ⟨1978, 11, .on 10, .wall 24 0⟩ <|
    .forever (.ahead 3 30 0 (.rules iran))),
   ("Asia/Thimphu",
    .until (.ahead 5 58 36 .off) ⟨1947, 8, .on 15, .midnight⟩ <|
    .until (.ahead 5 30 0 .off) ⟨1987, 10, .on 1, .midnight⟩ <|
    .forever (.ahead 6 0 0 .off)),
   ("Asia/Tokyo",
    .until (.ahead 9 18 59 .off) ⟨1887, 12, .on 31, .universal 15 0⟩ <|
    .forever (.ahead 9 0 0 (.rules japan))),
   ("Asia/Tomsk",
    .until (.ahead 5 39 51 .off) ⟨1919, 12, .on 22, .midnight⟩ <|
    .until (.ahead 6 0 0 .off) ⟨1930, 6, .on 21, .midnight⟩ <|
    .until (.ahead 7 0 0 (.rules russia)) ⟨1991, 3, .on 31, .standard 2 0⟩ <|
    .until (.ahead 6 0 0 (.rules russia)) ⟨1992, 1, .on 19, .standard 2 0⟩ <|
    .until (.ahead 7 0 0 (.rules russia)) ⟨2002, 5, .on 1, .wall 3 0⟩ <|
    .until (.ahead 6 0 0 (.rules russia)) ⟨2011, 3, .on 27, .standard 2 0⟩ <|
    .until (.ahead 7 0 0 .off) ⟨2014, 10, .on 26, .standard 2 0⟩ <|
    .until (.ahead 6 0 0 .off) ⟨2016, 5, .on 29, .standard 2 0⟩ <|
    .forever (.ahead 7 0 0 .off)),
   ("Asia/Ulaanbaatar",
    .until (.ahead 7 7 32 .off) ⟨1905, 8, .on 1, .midnight⟩ <|
    .until (.ahead 7 0 0 .off) ⟨1978, 1, .on 1, .midnight⟩ <|
    .forever (.ahead 8 0 0 (.rules mongolia))),
   ("Asia/Urumqi",
    .until (.ahead 5 50 20 .off) ⟨1928, 1, .on 1, .midnight⟩ <|
    .forever (.ahead 6 0 0 .off)),
   ("Asia/Ust-Nera",
    .until (.ahead 9 32 54 .off) ⟨1919, 12, .on 15, .midnight⟩ <|
    .until (.ahead 8 0 0 .off) ⟨1930, 6, .on 21, .midnight⟩ <|
    .until (.ahead 9 0 0 (.rules russia)) ⟨1981, 4, .on 1, .midnight⟩ <|
    .until (.ahead 11 0 0 (.rules russia)) ⟨1991, 3, .on 31, .standard 2 0⟩ <|
    .until (.ahead 10 0 0 (.rules russia)) ⟨1992, 1, .on 19, .standard 2 0⟩ <|
    .until (.ahead 11 0 0 (.rules russia)) ⟨2011, 3, .on 27, .standard 2 0⟩ <|
    .until (.ahead 12 0 0 .off) ⟨2011, 9, .on 13, .standard 0 0⟩ <|
    .until (.ahead 11 0 0 .off) ⟨2014, 10, .on 26, .standard 2 0⟩ <|
    .forever (.ahead 10 0 0 .off)),
   ("Asia/Vladivostok",
    .until (.ahead 8 47 31 .off) ⟨1922, 11, .on 15, .midnight⟩ <|
    .until (.ahead 9 0 0 .off) ⟨1930, 6, .on 21, .midnight⟩ <|
    .until (.ahead 10 0 0 (.rules russia)) ⟨1991, 3, .on 31, .standard 2 0⟩ <|
    .until (.ahead 9 0 0 (.rules russia)) ⟨1992, 1, .on 19, .standard 2 0⟩ <|
    .until (.ahead 10 0 0 (.rules russia)) ⟨2011, 3, .on 27, .standard 2 0⟩ <|
    .until (.ahead 11 0 0 .off) ⟨2014, 10, .on 26, .standard 2 0⟩ <|
    .forever (.ahead 10 0 0 .off)),
   ("Asia/Yakutsk",
    .until (.ahead 8 38 58 .off) ⟨1919, 12, .on 15, .midnight⟩ <|
    .until (.ahead 8 0 0 .off) ⟨1930, 6, .on 21, .midnight⟩ <|
    .until (.ahead 9 0 0 (.rules russia)) ⟨1991, 3, .on 31, .standard 2 0⟩ <|
    .until (.ahead 8 0 0 (.rules russia)) ⟨1992, 1, .on 19, .standard 2 0⟩ <|
    .until (.ahead 9 0 0 (.rules russia)) ⟨2011, 3, .on 27, .standard 2 0⟩ <|
    .until (.ahead 10 0 0 .off) ⟨2014, 10, .on 26, .standard 2 0⟩ <|
    .forever (.ahead 9 0 0 .off)),
   ("Asia/Yangon",
    .until (.ahead 6 24 47 .off) ⟨1880, 1, .on 1, .midnight⟩ <|
    .until (.ahead 6 24 47 .off) ⟨1920, 1, .on 1, .midnight⟩ <|
    .until (.ahead 6 30 0 .off) ⟨1942, 5, .on 1, .midnight⟩ <|
    .until (.ahead 9 0 0 .off) ⟨1945, 5, .on 3, .midnight⟩ <|
    .forever (.ahead 6 30 0 .off)),
   ("Asia/Yekaterinburg",
    .until (.ahead 4 2 33 .off) ⟨1916, 7, .on 3, .midnight⟩ <|
    .until (.ahead 3 45 5 .off) ⟨1919, 7, .on 15, .wall 4 0⟩ <|
    .until (.ahead 4 0 0 .off) ⟨1930, 6, .on 21, .midnight⟩ <|
    .until (.ahead 5 0 0 (.rules russia)) ⟨1991, 3, .on 31, .standard 2 0⟩ <|
    .until (.ahead 4 0 0 (.rules russia)) ⟨1992, 1, .on 19, .standard 2 0⟩ <|
    .until (.ahead 5 0 0 (.rules russia)) ⟨2011, 3, .on 27, .standard 2 0⟩ <|
    .until (.ahead 6 0 0 .off) ⟨2014, 10, .on 26, .standard 2 0⟩ <|
    .forever (.ahead 5 0 0 .off)),
   ("Asia/Yerevan",
    .until (.ahead 2 58 0 .off) ⟨1924, 5, .on 2, .midnight⟩ <|
    .until (.ahead 3 0 0 .off) ⟨1957, 3, .on 1, .midnight⟩ <|
    .until (.ahead 4 0 0 (.rules russia)) ⟨1991, 3, .on 31, .standard 2 0⟩ <|
    .until (.ahead 3 0 0 (.rules russia)) ⟨1995, 9, .on 24, .standard 2 0⟩ <|
    .until (.ahead 4 0 0 .off) ⟨1997, 1, .on 1, .midnight⟩ <|
    .until (.ahead 4 0 0 (.rules russia)) ⟨2011, 1, .on 1, .midnight⟩ <|
    .forever (.ahead 4 0 0 (.rules armenia)))]

end SecretRotation.History
