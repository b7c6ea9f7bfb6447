import SecretRotation.Zone.History
import SecretRotation.Zone.Saving.CentralAmerica
import SecretRotation.Zone.Saving.NorthAmerica

/-!
# Zones of Central America

The histories of the zones of Mexico, Central America and the Caribbean.
-/

namespace SecretRotation.History

open SavingRules

/-- The histories of the zones of Mexico, Central America and the Caribbean. -/
def centralAmerica : List (String × History) :=
  [("America/Bahia_Banderas",
    .until (.behind 7 1 0 .off) ⟨1922, 1, .on 1, .universal 7 0⟩ <|
    .until (.behind 7 0 0 .off) ⟨1927, 6, .on 10, .midnight⟩ <|
    .until (.behind 6 0 0 .off) ⟨1930, 11, .on 15, .midnight⟩ <|
    .until (.behind 7 0 0 (.rules mexico)) ⟨1932, 4, .on 1, .midnight⟩ <|
    .until (.behind 6 0 0 .off) ⟨1942, 4, .on 24, .midnight⟩ <|
    .until (.behind 7 0 0 .off) ⟨1970, 1, .on 1, .midnight⟩ <|
    .until (.behind 7 0 0 (.rules mexico)) ⟨2010, 4, .on 4, .wall 2 0⟩ <|
    .forever (.behind 6 0 0 (.rules mexico))),
   ("America/Barbados",
    .until (.behind 3 58 29 .off) ⟨1911, 8, .on 28, .midnight⟩ <|
    .until (.behind 4 0 0 (.rules barbados)) ⟨1944, 1, .on 1, .midnight⟩ <|
    .until (.behind 4 0 0 (.rules barbados)) ⟨1945, 1, .on 1, .midnight⟩ <|
    .forever (.behind 4 0 0 (.rules barbados))),
   ("America/Belize",
    .until (.behind 5 52 48 .off) ⟨1912, 4, .on 1, .midnight⟩ <|
    .forever (.behind 6 0 0 (.rules belize))),
   ("America/Cancun",
    .until (.behind 5 47 4 .off) ⟨1922, 1, .on 1, .universal 6 0⟩ <|
    .until (.behind 6 0 0 .off) ⟨1981, 12, .on 26, .wall 2 0⟩ <|
    .until (.behind 5 0 0 .off) ⟨1983, 1, .on 4, .midnight⟩ <|
    .until (.behind 6 0 0 (.rules mexico)) ⟨1997, 10, .on 26, .wall 2 0⟩ <|
    .until (.behind 5 0 0 (.rules mexico)) ⟨1998, 8, .on 2, .wall 2 0⟩ <|
    .until (.behind 6 0 0 (.rules mexico)) ⟨2015, 2, .on 1, .wall 2 0⟩ <|
    .forever (.behind 5 0 0 .off)),
   ("America/Chihuahua",
    .until (.behind 7 4 20 .off) ⟨1922, 1, .on 1, .universal 7 0⟩ <|
    .until (.behind 7 0 0 .off) ⟨1927, 6, .on 10, .midnight⟩ <|
    .until (.behind 6 0 0 .off) ⟨1930, 11, .on 15, .midnight⟩ <|
    .until (.behind 7 0 0 (.rules mexico)) ⟨1932, 4, .on 1, .midnight⟩ <|
    .until (.behind 6 0 0 .off) ⟨1996, 1, .on 1, .midnight⟩ <|
    .until (.behind 6 0 0 (.rules mexico)) ⟨1998, 1, .on 1, .midnight⟩ <|
    .until (.behind 6 0 0 .off) ⟨1998, 4, .onOrAfter .sunday 1, .wall 3 0⟩ <|
    .until (.behind 7 0 0 (.rules mexico)) ⟨2022, 10, .on 30, .wall 2 0⟩ <|
    .forever (.behind 6 0 0 .off)),
   ("America/Ciudad_Juarez",
    .until (.behind 7 5 56 .off) ⟨1922, 1, .on 1, .universal 7 0⟩ <|
    .until (.behind 7 0 0 .off) ⟨1927, 6, .on 10, .midnight⟩ <|
    .until (.behind 6 0 0 .off) ⟨1930, 11, .on 15, .midnight⟩ <|
    .until (.behind 7 0 0 (.rules mexico)) ⟨1932, 4, .on 1, .midnight⟩ <|
    .until (.behind 6 0 0 .off) ⟨1996, 1, .on 1, .midnight⟩ <|
    .until (.behind 6 0 0 (.rules mexico)) ⟨1998, 1, .on 1, .midnight⟩ <|
    .until (.behind 6 0 0 .off) ⟨1998, 4, .onOrAfter .sunday 1, .wall 3 0⟩ <|
    .until (.behind 7 0 0 (.rules mexico)) ⟨2010, 1, .on 1, .midnight⟩ <|
    .until (.behind 7 0 0 (.rules unitedStates)) ⟨2022, 10, .on 30, .wall 2 0⟩ <|
    .until (.behind 6 0 0 .off) ⟨2022, 11, .on 30, .midnight⟩ <|
    .forever (.behind 7 0 0 (.rules unitedStates))),
   ("America/Costa_Rica",
    .until (.behind 5 36 13 .off) ⟨1890, 1, .on 1, .midnight⟩ <|
    .until (.behind 5 36 13 .off) ⟨1921, 1, .on 15, .midnight⟩ <|
    .forever (.behind 6 0 0 (.rules costaRica))),
   ("America/El_Salvador",
    .until (.behind 5 56 48 .off) ⟨1921, 1, .on 1, .midnight⟩ <|
    .forever (.behind 6 0 0 (.rules elSalvador))),
   ("America/Grand_Turk",
    .until (.behind 4 44 32 .off) ⟨1890, 1, .on 1, .midnight⟩ <|
    .until (.behind 5 7 10 .off) ⟨1912, 2, .on 1, .midnight⟩ <|
    .until (.behind 5 0 0 .off) ⟨1979, 1, .on 1, .midnight⟩ <|
    .until (.behind 5 0 0 (.rules unitedStates)) ⟨2015, 3, .on 8, .wall 2 0⟩ <|
    .until (.behind 4 0 0 .off) ⟨2018, 3, .on 11, .wall 3 0⟩ <|
    .forever (.behind 5 0 0 (.rules unitedStates))),
   ("America/Guatemala",
    .until (.behind 6 2 4 .off) ⟨1918, 10, .on 5, .midnight⟩ <|
    .forever (.behind 6 0 0 (.rules guatemala))),
   ("America/Havana",
    .until (.behind 5 29 28 .off) ⟨1890, 1, .on 1, .midnight⟩ <|
    .until (.behind 5 29 36 .off) ⟨1925, 7, .on 19, .wall 12 0⟩ <|
    .forever (.behind 5 0 0 (.rules cuba))),
   ("America/Hermosillo",
    .until (.behind 7 23 52 .off) ⟨1922, 1, .on 1, .universal 7 0⟩ <|
    .until (.behind 7 0 0 .off) ⟨1927, 6, .on 10, .midnight⟩ <|
    .until (.behind 6 0 0 .off) ⟨1930, 11, .on 15, .midnight⟩ <|
    .until (.behind 7 0 0 (.rules mexico)) ⟨1932, 4, .on 1, .midnight⟩ <|
    .until (.behind 6 0 0 .off) ⟨1942, 4, .on 24, .midnight⟩ <|
    .until (.behind 7 0 0 .off) ⟨1996, 1, .on 1, .midnight⟩ <|
    .until (.behind 7 0 0 (.rules mexico)) ⟨1999, 1, .on 1, .midnight⟩ <|
    .forever (.behind 7 0 0 .off)),
   ("America/Jamaica",
    .until (.behind 5 7 10 .off) ⟨1890, 1, .on 1, .midnight⟩ <|
    .until (.behind 5 7 10 .off) ⟨1912, 2, .on 1, .midnight⟩ <|
    .until (.behind 5 0 0 .off) ⟨1974, 1, .on 1, .midnight⟩ <|
    .until (.behind 5 0 0 (.rules unitedStates)) ⟨1984, 1, .on 1, .midnight⟩ <|
    .forever (.behind 5 0 0 .off)),
   ("America/Managua",
    .until (.behind 5 45 8 .off) ⟨1890, 1, .on 1, .midnight⟩ <|
    .until (.behind 5 45 12 .off) ⟨1934, 6, .on 23, .midnight⟩ <|
    .until (.behind 6 0 0 .off) ⟨1973, 5, .on 1, .midnight⟩ <|
    .until (.behind 5 0 0 .off) ⟨1975, 2, .on 16, .midnight⟩ <|
    .until (.behind 6 0 0 (.rules nicaragua)) ⟨1992, 1, .on 1, .wall 4 0⟩ <|
    .until (.behind 5 0 0 .off) ⟨1992, 9, .on 24, .midnight⟩ <|
    .until (.behind 6 0 0 .off) ⟨1993, 1, .on 1, .midnight⟩ <|
    .until (.behind 5 0 0 .off) ⟨1997, 1, .on 1, .midnight⟩ <|
    .forever (.behind 6 0 0 (.rules nicaragua))),
   ("America/Martinique",
    .until (.behind 4 4 20 .off) ⟨1890, 1, .on 1, .midnight⟩ <|
    .until (.behind 4 4 20 .off) ⟨1911, 5, .on 1, .midnight⟩ <|
    .until (.behind 4 0 0 .off) ⟨1980, 4, .on 6, .midnight⟩ <|
    .until (.behind 4 0 0 (.on 60)) ⟨1980, 9, .on 28, .midnight⟩ <|
    .forever (.behind 4 0 0 .off)),
   ("America/Matamoros",
    .until (.behind 6 30 0 .off) ⟨1922, 1, .on 1, .universal 6 0⟩ <|
    .until (.behind 6 0 0 .off) ⟨1988, 1, .on 1, .midnight⟩ <|
    .until (.behind 6 0 0 (.rules unitedStates)) ⟨1989, 1, .on 1, .midnight⟩ <|
    .until (.behind 6 0 0 (.rules mexico)) ⟨2010, 1, .on 1, .midnight⟩ <|
    .forever (.behind 6 0 0 (.rules unitedStates))),
   ("America/Mazatlan",
    .until (.behind 7 5 40 .off) ⟨1922, 1, .on 1, .universal 7 0⟩ <|
    .until (.behind 7 0 0 .off) ⟨1927, 6, .on 10, .midnight⟩ <|
    .until (.behind 6 0 0 .off) ⟨1930, 11, .on 15, .midnight⟩ <|
    .until (.behind 7 0 0 (.rules mexico)) ⟨1932, 4, .on 1, .midnight⟩ <|
    .until (.behind 6 0 0 .off) ⟨1942, 4, .on 24, .midnight⟩ <|
    .until (.behind 7 0 0 .off) ⟨1970, 1, .on 1, .midnight⟩ <|
    .forever (.behind 7 0 0 (.rules mexico))),
   ("America/Merida",
    .until (.behind 5 58 28 .off) ⟨1922, 1, .on 1, .universal 6 0⟩ <|
    .until (.behind 6 0 0 .off) ⟨1981, 12, .on 26, .wall 2 0⟩ <|
    .until (.behind 5 0 0 .off) ⟨1982, 11, .on 2, .wall 2 0⟩ <|
    .forever (.behind 6 0 0 (.rules mexico))),
   ("America/Mexico_City",
    .until (.behind 6 36 36 .off) ⟨1922, 1, .on 1, .universal 7 0⟩ <|
    .until (.behind 7 0 0 .off) ⟨1927, 6, .on 10, .midnight⟩ <|
    .until (.behind 6 0 0 .off) ⟨1930, 11, .on 15, .midnight⟩ <|
    .until (.behind 7 0 0 (.rules mexico)) ⟨1932, 4, .on 1, .midnight⟩ <|
    .until (.behind 6 0 0 (.rules mexico)) ⟨2001, 9, .on 30, .wall 2 0⟩ <|
    .until (.behind 6 0 0 .off) ⟨2002, 2, .on 20, .midnight⟩ <|
    .forever (.behind 6 0 0 (.rules mexico))),
   ("America/Monterrey",
    .until (.behind 6 41 16 .off) ⟨1922, 1, .on 1, .universal 6 0⟩ <|
    .until (.behind 7 0 0 .off) ⟨1927, 6, .on 10, .midnight⟩ <|
    .until (.behind 6 0 0 .off) ⟨1930, 11, .on 15, .midnight⟩ <|
    .until (.behind 7 0 0 (.rules mexico)) ⟨1932, 4, .on 1, .midnight⟩ <|
    .until (.behind 6 0 0 .off) ⟨1988, 1, .on 1, .midnight⟩ <|
    .until (.behind 6 0 0 (.rules unitedStates)) ⟨1989, 1, .on 1, .midnight⟩ <|
    .forever (.behind 6 0 0 (.rules mexico))),
   ("America/Ojinaga",
    .until (.behind 6 57 40 .off) ⟨1922, 1, .on 1, .universal 7 0⟩ <|
    .until (.behind 7 0 0 .off) ⟨1927, 6, .on 10, .midnight⟩ <|
    .until (.behind 6 0 0 .off) ⟨1930, 11, .on 15, .midnight⟩ <|
    .until (.behind 7 0 0 (.rules mexico)) ⟨1932, 4, .on 1, .midnight⟩ <|
    .until (.behind 6 0 0 .off) ⟨1996, 1, .on 1, .midnight⟩ <|
    .until (.behind 6 0 0 (.rules mexico)) ⟨1998, 1, .on 1, .midnight⟩ <|
    .until (.behind 6 0 0 .off) ⟨1998, 4, .onOrAfter .sunday 1, .wall 3 0⟩ <|
    .until (.behind 7 0 0 (.rules mexico)) ⟨2010, 1, .on 1, .midnight⟩ <|
    .until (.behind 7 0 0 (.rules unitedStates)) ⟨2022, 10, .on 30, .wall 2 0⟩ <|
    .until (.behind 6 0 0 .off) ⟨2022, 11, .on 30, .midnight⟩ <|
    .forever (.behind 6 0 0 (.rules unitedStates))),
   ("America/Panama",
    .until (.behind 5 18 8 .off) ⟨1890, 1, .on 1, .midnight⟩ <|
    .until (.behind 5 19 36 .off) ⟨1908, 4, .on 22, .midnight⟩ <|
    .forever (.behind 5 0 0 .off)),
   ("America/Port-au-Prince",
    .until (.behind 4 49 20 .off) ⟨1890, 1, .on 1, .midnight⟩ <|
    .until (.behind 4 49 0 .off) ⟨1917, 1, .on 24, .wall 12 0⟩ <|
    .forever (.behind 5 0 0 (.rules haiti))),
   ("America/Puerto_Rico",
    .until (.behind 4 24 25 .off) ⟨1899, 3, .on 28, .wall 12 0⟩ <|
    .until (.behind 4 0 0 .off) ⟨1942, 5, .on 3, .midnight⟩ <|
    .until (.behind 4 0 0 (.rules unitedStates)) ⟨1946, 1, .on 1, .midnight⟩ <|
    .forever (.behind 4 0 0 .off)),
   ("America/Santo_Domingo",
    .until (.behind 4 39 36 .off) ⟨1890, 1, .on 1, .midnight⟩ <|
    .until (.behind 4 40 0 .off) ⟨1933, 4, .on 1, .wall 12 0⟩ <|
    .until (.behind 5 0 0 (.rules dominicanRepublic)) ⟨1974, 10, .on 27, .midnight⟩ <|
    .until (.behind 4 0 0 .off) ⟨2000, 10, .on 29, .wall 2 0⟩ <|
    .until (.behind 5 0 0 (.rules unitedStates)) ⟨2000, 12, .on 3, .wall 1 0⟩ <|
    .forever (.behind 4 0 0 .off)),
   ("America/Tegucigalpa",
    .until (.behind 5 48 52 .off) ⟨1921, 4, .on 1, .midnight⟩ <|
    .forever (.behind 6 0 0 (.rules honduras))),
   ("America/Tijuana",
    .until (.behind 7 48 4 .off) ⟨1922, 1, .on 1, .universal 7 0⟩ <|
    .until (.behind 7 0 0 .off) ⟨1924, 1, .on 1, .midnight⟩ <|
    .until (.behind 8 0 0 .off) ⟨1927, 6, .on 10, .midnight⟩ <|
    .until (.behind 7 0 0 .off) ⟨1930, 11, .on 15, .midnight⟩ <|
    .until (.behind 8 0 0 .off) ⟨1931, 4, .on 1, .midnight⟩ <|
    .until (.behind 8 0 0 (.on 60)) ⟨1931, 9, .on 30, .midnight⟩ <|
    .until (.behind 8 0 0 .off) ⟨1942, 4, .on 24, .midnight⟩ <|
    .until (.behind 8 0 0 (.on 60)) ⟨1945, 8, .on 14, .universal 23 0⟩ <|
    .until (.behind 8 0 0 (.on 60)) ⟨1945, 11, .on 15, .midnight⟩ <|
    .until (.behind 8 0 0 .off) ⟨1948, 4, .on 5, .midnight⟩ <|
    .until (.behind 8 0 0 (.on 60)) ⟨1949, 1, .on 14, .midnight⟩ <|
    .until (.behind 8 0 0 .off) ⟨1950, 5, .on 1, .midnight⟩ <|
    .until (.behind 8 0 0 (.on 60)) ⟨1950, 9, .on 24, .midnight⟩ <|
    .until (.behind 8 0 0 .off) ⟨1951, 4, .on 29, .wall 2 0⟩ <|
    .until (.behind 8 0 0 (.on 60)) ⟨1951, 9, .on 30, .wall 2 0⟩ <|
    .until (.behind 8 0 0 .off) ⟨1952, 4, .on 27, .wall 2 0⟩ <|
    .until (.behind 8 0 0 (.on 60)) ⟨1952, 9, .on 28, .wall 2 0⟩ <|
    .until (.behind 8 0 0 .off) ⟨1954, 1, .on 1, .midnight⟩ <|
    .until (.behind 8 0 0 (.rules california)) ⟨1961, 1, .on 1, .midnight⟩ <|
    .until (.behind 8 0 0 .off) ⟨1976, 1, .on 1, .midnight⟩ <|
    .until (.behind 8 0 0 (.rules unitedStates)) ⟨1996, 1, .on 1, .midnight⟩ <|
    .until (.behind 8 0 0 (.rules mexico)) ⟨2001, 1, .on 1, .midnight⟩ <|
    .until (.behind 8 0 0 (.rules unitedStates)) ⟨2002, 2, .on 20, .midnight⟩ <|
    .until (.behind 8 0 0 (.rules mexico)) ⟨2010, 1, .on 1, .midnight⟩ <|
    .forever (.behind 8 0 0 (.rules unitedStates)))]

end SecretRotation.History
