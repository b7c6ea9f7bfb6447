import SecretRotation.Zone.History
import SecretRotation.Zone.Saving.Europe
import SecretRotation.Zone.Saving.NorthAmerica

/-!
# Zones of North America

The histories of the zones of the United States, Canada and Greenland.
-/

namespace SecretRotation.History

open SavingRules

/-- The histories of the zones of the United States, Canada and Greenland. -/
def northAmerica : List (String × History) :=
  [("America/Adak",
    .until (.ahead 12 13 22 .off) ⟨1867, 10, .on 19, ⟨.wall, 45875⟩⟩ <|
    .until (.behind 11 46 38 .off) ⟨1900, 8, .on 20, .wall 12 0⟩ <|
    .until (.behind 11 0 0 .off) ⟨1942, 1, .on 1, .midnight⟩ <|
    .until (.behind 11 0 0 (.rules unitedStates)) ⟨1946, 1, .on 1, .midnight⟩ <|
    .until (.behind 11 0 0 .off) ⟨1967, 4, .on 1, .midnight⟩ <|
    .until (.behind 11 0 0 .off) ⟨1969, 1, .on 1, .midnight⟩ <|
    .until (.behind 11 0 0 (.rules unitedStates)) ⟨1983, 10, .on 30, .wall 2 0⟩ <|
    .until (.behind 10 0 0 (.rules unitedStates)) ⟨1983, 11, .on 30, .midnight⟩ <|
    .forever (.behind 10 0 0 (.rules unitedStates))),
   ("America/Anchorage",
    .until (.ahead 14 0 24 .off) ⟨1867, 10, .on 19, ⟨.wall, 52297⟩⟩ <|
    .until (.behind 9 59 36 .off) ⟨1900, 8, .on 20, .wall 12 0⟩ <|
    .until (.behind 10 0 0 .off) ⟨1942, 1, .on 1, .midnight⟩ <|
    .until (.behind 10 0 0 (.rules unitedStates)) ⟨1967, 4, .on 1, .midnight⟩ <|
    .until (.behind 10 0 0 .off) ⟨1969, 1, .on 1, .midnight⟩ <|
    .until (.behind 10 0 0 (.rules unitedStates)) ⟨1983, 10, .on 30, .wall 2 0⟩ <|
    .until (.behind 9 0 0 (.rules unitedStates)) ⟨1983, 11, .on 30, .midnight⟩ <|
    .forever (.behind 9 0 0 (.rules unitedStates))),
   ("America/Boise",
    .until (.behind 7 44 49 .off) ⟨1883, 11, .on 18, .universal 20 0⟩ <|
    .until (.behind 8 0 0 (.rules unitedStates)) ⟨1923, 5, .on 13, .wall 2 0⟩ <|
    .until (.behind 7 0 0 (.rules unitedStates)) ⟨1974, 1, .on 1, .midnight⟩ <|
    .until (.behind 7 0 0 .off) ⟨1974, 2, .on 3, .wall 2 0⟩ <|
    .forever (.behind 7 0 0 (.rules unitedStates))),
   ("America/Cambridge_Bay",
    .until (.ahead 0 0 0 .off) ⟨1920, 1, .on 1, .midnight⟩ <|
    .until (.behind 7 0 0 (.rules northwestTerritories)) ⟨1999, 10, .on 31, .wall 2 0⟩ <|
    .until (.behind 6 0 0 (.rules canada)) ⟨2000, 10, .on 29, .wall 2 0⟩ <|
    .until (.behind 5 0 0 .off) ⟨2000, 11, .on 5, .midnight⟩ <|
    .until (.behind 6 0 0 .off) ⟨2001, 4, .on 1, .wall 3 0⟩ <|
    .forever (.behind 7 0 0 (.rules canada))),
   ("America/Chicago",
    .until (.behind 5 50 36 .off) ⟨1883, 11, .on 18, .universal 18 0⟩ <|
    .until (.behind 6 0 0 (.rules unitedStates)) ⟨1920, 1, .on 1, .midnight⟩ <|
    .until (.behind 6 0 0 (.rules chicago)) ⟨1936, 3, .on 1, .wall 2 0⟩ <|
    .until (.behind 5 0 0 .off) ⟨1936, 11, .on 15, .wall 2 0⟩ <|
    .until (.behind 6 0 0 (.rules chicago)) ⟨1942, 1, .on 1, .midnight⟩ <|
    .until (.behind 6 0 0 (.rules unitedStates)) ⟨1946, 1, .on 1, .midnight⟩ <|
    .until (.behind 6 0 0 (.rules chicago)) ⟨1967, 1, .on 1, .midnight⟩ <|
    .forever (.behind 6 0 0 (.rules unitedStates))),
   ("America/Danmarkshavn",
    .until (.behind 1 14 40 .off) ⟨1916, 7, .on 28, .midnight⟩ <|
    .until (.behind 3 0 0 .off) ⟨1980, 4, .on 6, .wall 2 0⟩ <|
    .until (.behind 3 0 0 (.rules europeanUnion)) ⟨1996, 1, .on 1, .midnight⟩ <|
    .forever (.ahead 0 0 0 .off)),
   ("America/Dawson",
    .until (.behind 9 17 40 .off) ⟨1900, 8, .on 20, .midnight⟩ <|
    .until (.behind 9 0 0 (.rules northwestTerritories)) ⟨1965, 1, .on 1, .midnight⟩ <|
    .until (.behind 9 0 0 (.rules yukon)) ⟨1973, 10, .on 28, .midnight⟩ <|
    .until (.behind 8 0 0 .off) ⟨1980, 1, .on 1, .midnight⟩ <|
    .until (.behind 8 0 0 (.rules canada)) ⟨2020, 11, .on 1, .midnight⟩ <|
    .forever (.behind 7 0 0 .off)),
   ("America/Dawson_Creek",
    .until (.behind 8 0 56 .off) ⟨1884, 1, .on 1, .midnight⟩ <|
    .until (.behind 8 0 0 (.rules canada)) ⟨1947, 1, .on 1, .midnight⟩ <|
    .until (.behind 8 0 0 (.rules vancouver)) ⟨1972, 8, .on 30, .wall 2 0⟩ <|
    .forever (.behind 7 0 0 .off)),
   ("America/Denver",
    .until (.behind 6 59 56 .off) ⟨1883, 11, .on 18, .universal 19 0⟩ <|
    .until (.behind 7 0 0 (.rules unitedStates)) ⟨1920, 1, .on 1, .midnight⟩ <|
    .until (.behind 7 0 0 (.rules denver)) ⟨1942, 1, .on 1, .midnight⟩ <|
    .until (.behind 7 0 0 (.rules unitedStates)) ⟨1946, 1, .on 1, .midnight⟩ <|
    .until (.behind 7 0 0 (.rules denver)) ⟨1967, 1, .on 1, .midnight⟩ <|
    .forever (.behind 7 0 0 (.rules unitedStates))),
   ("America/Detroit",
    .until (.behind 5 32 11 .off) ⟨1905, 1, .on 1, .midnight⟩ <|
    .until (.behind 6 0 0 .off) ⟨1915, 5, .on 15, .wall 2 0⟩ <|
    .until (.behind 5 0 0 .off) ⟨1942, 1, .on 1, .midnight⟩ <|
    .until (.behind 5 0 0 (.rules unitedStates)) ⟨1946, 1, .on 1, .midnight⟩ <|
    .until (.behind 5 0 0 (.rules detroit)) ⟨1967, 6, .on 14, .wall 0 1⟩ <|
    .until (.behind 5 0 0 (.rules unitedStates)) ⟨1969, 1, .on 1, .midnight⟩ <|
    .until (.behind 5 0 0 .off) ⟨1973, 1, .on 1, .midnight⟩ <|
    .until (.behind 5 0 0 (.rules unitedStates)) ⟨1975, 1, .on 1, .midnight⟩ <|
    .until (.behind 5 0 0 .off) ⟨1975, 4, .on 27, .wall 2 0⟩ <|
    .forever (.behind 5 0 0 (.rules unitedStates))),
   ("America/Edmonton",
    .until (.behind 7 33 52 .off) ⟨1906, 9, .on 1, .midnight⟩ <|
    .until (.behind 7 0 0 (.rules edmonton)) ⟨1987, 1, .on 1, .midnight⟩ <|
    .forever (.behind 7 0 0 (.rules canada))),
   ("America/Fort_Nelson",
    .until (.behind 8 10 47 .off) ⟨1884, 1, .on 1, .midnight⟩ <|
    .until (.behind 8 0 0 (.rules vancouver)) ⟨1946, 1, .on 1, .midnight⟩ <|
    .until (.behind 8 0 0 .off) ⟨1947, 1, .on 1, .midnight⟩ <|
    .until (.behind 8 0 0 (.rules vancouver)) ⟨1987, 1, .on 1, .midnight⟩ <|
    .until (.behind 8 0 0 (.rules canada)) ⟨2015, 3, .on 8, .wall 2 0⟩ <|
    .forever (.behind 7 0 0 .off)),
   ("America/Glace_Bay",
    .until (.behind 3 59 48 .off) ⟨1902, 6, .on 15, .midnight⟩ <|
    .until (.behind 4 0 0 (.rules canada)) ⟨1953, 1, .on 1, .midnight⟩ <|
    .until (.behind 4 0 0 (.rules halifax)) ⟨1954, 1, .on 1, .midnight⟩ <|
    .until (.behind 4 0 0 .off) ⟨1972, 1, .on 1, .midnight⟩ <|
    .until (.behind 4 0 0 (.rules halifax)) ⟨1974, 1, .on 1, .midnight⟩ <|
    .forever (.behind 4 0 0 (.rules canada))),
   ("America/Goose_Bay",
    .until (.behind 4 1 40 .off) ⟨1884, 1, .on 1, .midnight⟩ <|
    .until (.behind 3 30 52 .off) ⟨1918, 1, .on 1, .midnight⟩ <|
    .until (.behind 3 30 52 (.rules canada)) ⟨1919, 1, .on 1, .midnight⟩ <|
    .until (.behind 3 30 52 .off) ⟨1935, 3, .on 30, .midnight⟩ <|
    .until (.behind 3 30 0 .off) ⟨1936, 1, .on 1, .midnight⟩ <|
    .until (.behind 3 30 0 (.rules newfoundland)) ⟨1942, 5, .on 11, .midnight⟩ <|
    .until (.behind 3 30 0 (.rules canada)) ⟨1946, 1, .on 1, .midnight⟩ <|
    .until (.behind 3 30 0 (.rules newfoundland)) ⟨1966, 3, .on 15, .wall 2 0⟩ <|
    .until (.behind 4 0 0 (.rules newfoundland)) ⟨2011, 11, .on 1, .midnight⟩ <|
    .forever (.behind 4 0 0 (.rules canada))),
   ("America/Halifax",
    .until (.behind 4 14 24 .off) ⟨1902, 6, .on 15, .midnight⟩ <|
    .until (.behind 4 0 0 (.rules halifax)) ⟨1918, 1, .on 1, .midnight⟩ <|
    .until (.behind 4 0 0 (.rules canada)) ⟨1919, 1, .on 1, .midnight⟩ <|
    .until (.behind 4 0 0 (.rules halifax)) ⟨1942, 2, .on 9, .standard 2 0⟩ <|
    .until (.behind 4 0 0 (.rules canada)) ⟨1946, 1, .on 1, .midnight⟩ <|
    .until (.behind 4 0 0 (.rules halifax)) ⟨1974, 1, .on 1, .midnight⟩ <|
    .forever (.behind 4 0 0 (.rules canada))),
   ("America/Indiana/Indianapolis",
    .until (.behind 5 44 38 .off) ⟨1883, 11, .on 18, .universal 18 0⟩ <|
    .until (.behind 6 0 0 (.rules unitedStates)) ⟨1920, 1, .on 1, .midnight⟩ <|
    .until (.behind 6 0 0 (.rules indianapolis)) ⟨1942, 1, .on 1, .midnight⟩ <|
    .until (.behind 6 0 0 (.rules unitedStates)) ⟨1946, 1, .on 1, .midnight⟩ <|
    .until (.behind 6 0 0 (.rules indianapolis)) ⟨1955, 4, .on 24, .wall 2 0⟩ <|
    .until (.behind 5 0 0 .off) ⟨1957, 9, .on 29, .wall 2 0⟩ <|
    .until (.behind 6 0 0 .off) ⟨1958, 4, .on 27, .wall 2 0⟩ <|
    .until (.behind 5 0 0 .off) ⟨1969, 1, .on 1, .midnight⟩ <|
    .until (.behind 5 0 0 (.rules unitedStates)) ⟨1971, 1, .on 1, .midnight⟩ <|
    .until (.behind 5 0 0 .off) ⟨2006, 1, .on 1, .midnight⟩ <|
    .forever (.behind 5 0 0 (.rules unitedStates))),
   ("America/Indiana/Knox",
    .until (.behind 5 46 30 .off) ⟨1883, 11, .on 18, .universal 18 0⟩ <|
    .until (.behind 6 0 0 (.rules unitedStates)) ⟨1947, 1, .on 1, .midnight⟩ <|
    .until (.behind 6 0 0 (.rules starkeCounty)) ⟨1962, 4, .on 29, .wall 2 0⟩ <|
    .until (.behind 5 0 0 .off) ⟨1963, 10, .on 27, .wall 2 0⟩ <|
    .until (.behind 6 0 0 (.rules unitedStates)) ⟨1991, 10, .on 27, .wall 2 0⟩ <|
    .until (.behind 5 0 0 .off) ⟨2006, 4, .on 2, .wall 2 0⟩ <|
    .forever (.behind 6 0 0 (.rules unitedStates))),
   ("America/Indiana/Marengo",
    .until (.behind 5 45 23 .off) ⟨1883, 11, .on 18, .universal 18 0⟩ <|
    .until (.behind 6 0 0 (.rules unitedStates)) ⟨1951, 1, .on 1, .midnight⟩ <|
    .until (.behind 6 0 0 (.rules marengo)) ⟨1961, 4, .on 30, .wall 2 0⟩ <|
    .until (.behind 5 0 0 .off) ⟨1969, 1, .on 1, .midnight⟩ <|
    .until (.behind 5 0 0 (.rules unitedStates)) ⟨1974, 1, .on 6, .wall 2 0⟩ <|
    .until (.behind 6 0 0 (.on 60)) ⟨1974, 10, .on 27, .wall 2 0⟩ <|
    .until (.behind 5 0 0 (.rules unitedStates)) ⟨1976, 1, .on 1, .midnight⟩ <|
    .until (.behind 5 0 0 .off) ⟨2006, 1, .on 1, .midnight⟩ <|
    .forever (.behind 5 0 0 (.rules unitedStates))),
   ("America/Indiana/Petersburg",
    .until (.behind 5 49 7 .off) ⟨1883, 11, .on 18, .universal 18 0⟩ <|
    .until (.behind 6 0 0 (.rules unitedStates)) ⟨1955, 1, .on 1, .midnight⟩ <|
    .until (.behind 6 0 0 (.rules pikeCounty)) ⟨1965, 4, .on 25, .wall 2 0⟩ <|
    .until (.behind 5 0 0 .off) ⟨1966, 10, .on 30, .wall 2 0⟩ <|
    .until (.behind 6 0 0 (.rules unitedStates)) ⟨1977, 10, .on 30, .wall 2 0⟩ <|
    .until (.behind 5 0 0 .off) ⟨2006, 4, .on 2, .wall 2 0⟩ <|
    .until (.behind 6 0 0 (.rules unitedStates)) ⟨2007, 11, .on 4, .wall 2 0⟩ <|
    .forever (.behind 5 0 0 (.rules unitedStates))),
   ("America/Indiana/Tell_City",
    .until (.behind 5 47 3 .off) ⟨1883, 11, .on 18, .universal 18 0⟩ <|
    .until (.behind 6 0 0 (.rules unitedStates)) ⟨1946, 1, .on 1, .midnight⟩ <|
    .until (.behind 6 0 0 (.rules perryCounty)) ⟨1964, 4, .on 26, .wall 2 0⟩ <|
    .until (.behind 5 0 0 .off) ⟨1967, 10, .on 29, .wall 2 0⟩ <|
    .until (.behind 6 0 0 (.rules unitedStates)) ⟨1969, 4, .on 27, .wall 2 0⟩ <|
    .until (.behind 5 0 0 (.rules unitedStates)) ⟨1971, 1, .on 1, .midnight⟩ <|
    .until (.behind 5 0 0 .off) ⟨2006, 4, .on 2, .wall 2 0⟩ <|
    .forever (.behind 6 0 0 (.rules unitedStates))),
   ("America/Indiana/Vevay",
    .until (.behind 5 40 16 .off) ⟨1883, 11, .on 18, .universal 18 0⟩ <|
    .until (.behind 6 0 0 (.rules unitedStates)) ⟨1954, 4, .on 25, .wall 2 0⟩ <|
    .until (.behind 5 0 0 .off) ⟨1969, 1, .on 1, .midnight⟩ <|
    .until (.behind 5 0 0 (.rules unitedStates)) ⟨1973, 1, .on 1, .midnight⟩ <|
    .until (.behind 5 0 0 .off) ⟨2006, 1, .on 1, .midnight⟩ <|
    .forever (.behind 5 0 0 (.rules unitedStates))),
   ("America/Indiana/Vincennes",
    .until (.behind 5 50 7 .off) ⟨1883, 11, .on 18, .universal 18 0⟩ <|
    .until (.behind 6 0 0 (.rules unitedStates)) ⟨1946, 1, .on 1, .midnight⟩ <|
    .until (.behind 6 0 0 (.rules vincennes)) ⟨1964, 4, .on 26, .wall 2 0⟩ <|
    .until (.behind 5 0 0 .off) ⟨1969, 1, .on 1, .midnight⟩ <|
    .until (.behind 5 0 0 (.rules unitedStates)) ⟨1971, 1, .on 1, .midnight⟩ <|
    .until (.behind 5 0 0 .off) ⟨2006, 4, .on 2, .wall 2 0⟩ <|
    .until (.behind 6 0 0 (.rules unitedStates)) ⟨2007, 11, .on 4, .wall 2 0⟩ <|
    .forever (.behind 5 0 0 (.rules unitedStates))),
   ("America/Indiana/Winamac",
    .until (.behind 5 46 25 .off) ⟨1883, 11, .on 18, .universal 18 0⟩ <|
    .until (.behind 6 0 0 (.rules unitedStates)) ⟨1946, 1, .on 1, .midnight⟩ <|
    .until (.behind 6 0 0 (.rules pulaskiCounty)) ⟨1961, 4, .on 30, .wall 2 0⟩ <|
    .until (.behind 5 0 0 .off) ⟨1969, 1, .on 1, .midnight⟩ <|
    .until (.behind 5 0 0 (.rules unitedStates)) ⟨1971, 1, .on 1, .midnight⟩ <|
    .until (.behind 5 0 0 .off) ⟨2006, 4, .on 2, .wall 2 0⟩ <|
    .until (.behind 6 0 0 (.rules unitedStates)) ⟨2007, 3, .on 11, .wall 2 0⟩ <|
    .forever (.behind 5 0 0 (.rules unitedStates))),
   ("America/Inuvik",
    .until (.ahead 0 0 0 .off) ⟨1953, 1, .on 1, .midnight⟩ <|
    .until (.behind 8 0 0 (.rules northwestTerritories)) ⟨1979, 4, .last .sunday, .wall 2 0⟩ <|
    .until (.behind 7 0 0 (.rules northwestTerritories)) ⟨1980, 1, .on 1, .midnight⟩ <|
    .forever (.behind 7 0 0 (.rules canada))),
   ("America/Iqaluit",
    .until (.ahead 0 0 0 .off) ⟨1942, 8, .on 1, .midnight⟩ <|
    .until (.behind 5 0 0 (.rules northwestTerritories)) ⟨1999, 10, .on 31, .wall 2 0⟩ <|
    .until (.behind 6 0 0 (.rules canada)) ⟨2000, 10, .on 29, .wall 2 0⟩ <|
    .forever (.behind 5 0 0 (.rules canada))),
   ("America/Juneau",
    .until (.ahead 15 2 19 .off) ⟨1867, 10, .on 19, ⟨.wall, 56012⟩⟩ <|
    .until (.behind 8 57 41 .off) ⟨1900, 8, .on 20, .wall 12 0⟩ <|
    .until (.behind 8 0 0 .off) ⟨1942, 1, .on 1, .midnight⟩ <|
    .until (.behind 8 0 0 (.rules unitedStates)) ⟨1946, 1, .on 1, .midnight⟩ <|
    .until (.behind 8 0 0 .off) ⟨1969, 1, .on 1, .midnight⟩ <|
    .until (.behind 8 0 0 (.rules unitedStates)) ⟨1980, 4, .on 27, .wall 2 0⟩ <|
    .until (.behind 9 0 0 (.rules unitedStates)) ⟨1980, 10, .on 26, .wall 2 0⟩ <|
    .until (.behind 8 0 0 (.rules unitedStates)) ⟨1983, 10, .on 30, .wall 2 0⟩ <|
    .until (.behind 9 0 0 (.rules unitedStates)) ⟨1983, 11, .on 30, .midnight⟩ <|
    .forever (.behind 9 0 0 (.rules unitedStates))),
   ("America/Kentucky/Louisville",
    .until (.behind 5 43 2 .off) ⟨1883, 11, .on 18, .universal 18 0⟩ <|
    .until (.behind 6 0 0 (.rules unitedStates)) ⟨1921, 1, .on 1, .midnight⟩ <|
    .until (.behind 6 0 0 (.rules louisville)) ⟨1942, 1, .on 1, .midnight⟩ <|
    .until (.behind 6 0 0 (.rules unitedStates)) ⟨1946, 1, .on 1, .midnight⟩ <|
    .until (.behind 6 0 0 (.rules louisville)) ⟨1961, 7, .on 23, .wall 2 0⟩ <|
    .until (.behind 5 0 0 .off) ⟨1968, 1, .on 1, .midnight⟩ <|
    .until (.behind 5 0 0 (.rules unitedStates)) ⟨1974, 1, .on 6, .wall 2 0⟩ <|
    .until (.behind 6 0 0 (.on 60)) ⟨1974, 10, .on 27, .wall 2 0⟩ <|
    .forever (.behind 5 0 0 (.rules unitedStates))),
   ("America/Kentucky/Monticello",
    .until (.behind 5 39 24 .off) ⟨1883, 11, .on 18, .universal 18 0⟩ <|
    .until (.behind 6 0 0 (.rules unitedStates)) ⟨1946, 1, .on 1, .midnight⟩ <|
    .until (.behind 6 0 0 .off) ⟨1968, 1, .on 1, .midnight⟩ <|
    .until (.behind 6 0 0 (.rules unitedStates)) ⟨2000, 10, .on 29, .wall 2 0⟩ <|
    .forever (.behind 5 0 0 (.rules unitedStates))),
   ("America/Los_Angeles",
    .until (.behind 7 52 58 .off) ⟨1883, 11, .on 18, .universal 20 0⟩ <|
    .until (.behind 8 0 0 (.rules unitedStates)) ⟨1946, 1, .on 1, .midnight⟩ <|
    .until (.behind 8 0 0 (.rules california)) ⟨1967, 1, .on 1, .midnight⟩ <|
    .forever (.behind 8 0 0 (.rules unitedStates))),
   ("America/Menominee",
    .until (.behind 5 50 27 .off) ⟨1885, 9, .on 18, .wall 12 0⟩ <|
    .until (.behind 6 0 0 (.rules unitedStates)) ⟨1946, 1, .on 1, .midnight⟩ <|
    .until (.behind 6 0 0 (.rules menominee)) ⟨1969, 4, .on 27, .wall 2 0⟩ <|
    .until (.behind 5 0 0 .off) ⟨1973, 4, .on 29, .wall 2 0⟩ <|
    .forever (.behind 6 0 0 (.rules unitedStates))),
   ("America/Metlakatla",
    .until (.ahead 15 13 42 .off) ⟨1867, 10, .on 19, ⟨.wall, 56695⟩⟩ <|
    .until (.behind 8 46 18 .off) ⟨1900, 8, .on 20, .wall 12 0⟩ <|
    .until (.behind 8 0 0 .off) ⟨1942, 1, .on 1, .midnight⟩ <|
    .until (.behind 8 0 0 (.rules unitedStates)) ⟨1946, 1, .on 1, .midnight⟩ <|
    .until (.behind 8 0 0 .off) ⟨1969, 1, .on 1, .midnight⟩ <|
    .until (.behind 8 0 0 (.rules unitedStates)) ⟨1983, 10, .on 30, .wall 2 0⟩ <|
    .until (.behind 8 0 0 .off) ⟨2015, 11, .on 1, .wall 2 0⟩ <|
    .until (.behind 9 0 0 (.rules unitedStates)) ⟨2018, 11, .on 4, .wall 2 0⟩ <|
    .until (.behind 8 0 0 .off) ⟨2019, 1, .on 20, .wall 2 0⟩ <|
    .forever (.behind 9 0 0 (.rules unitedStates))),
   ("America/Miquelon",
    .until (.behind 3 44 40 .off) ⟨1911, 6, .on 15, .midnight⟩ <|
    .until (.behind 4 0 0 .off) ⟨1980, 5, .on 1, .midnight⟩ <|
    .until (.behind 3 0 0 .off) ⟨1987, 1, .on 1, .midnight⟩ <|
    .forever (.behind 3 0 0 (.rules canada))),
   ("America/Moncton",
    .until (.behind 4 19 8 .off) ⟨1883, 12, .on 9, .midnight⟩ <|
    .until (.behind 5 0 0 .off) ⟨1902, 6, .on 15, .midnight⟩ <|
    .until (.behind 4 0 0 (.rules canada)) ⟨1933, 1, .on 1, .midnight⟩ <|
    .until (.behind 4 0 0 (.rules moncton)) ⟨1942, 1, .on 1, .midnight⟩ <|
    .until (.behind 4 0 0 (.rules canada)) ⟨1946, 1, .on 1, .midnight⟩ <|
    .until (.behind 4 0 0 (.rules moncton)) ⟨1973, 1, .on 1, .midnight⟩ <|
    .until (.behind 4 0 0 (.rules canada)) ⟨1993, 1, .on 1, .midnight⟩ <|
    .until (.behind 4 0 0 (.rules moncton)) ⟨2007, 1, .on 1, .midnight⟩ <|
    .forever (.behind 4 0 0 (.rules canada))),
   ("America/New_York",
    .until (.behind 4 56 2 .off) ⟨1883, 11, .on 18, .universal 17 0⟩ <|
    .until (.behind 5 0 0 (.rules unitedStates)) ⟨1920, 1, .on 1, .midnight⟩ <|
    .until (.behind 5 0 0 (.rules newYork)) ⟨1942, 1, .on 1, .midnight⟩ <|
    .until (.behind 5 0 0 (.rules unitedStates)) ⟨1946, 1, .on 1, .midnight⟩ <|
    .until (.behind 5 0 0 (.rules newYork)) ⟨1967, 1, .on 1, .midnight⟩ <|
    .forever (.behind 5 0 0 (.rules unitedStates))),
   ("America/Nome",
    .until (.ahead 12 58 22 .off) ⟨1867, 10, .on 19, ⟨.wall, 48575⟩⟩ <|
    .until (.behind 11 1 38 .off) ⟨1900, 8, .on 20, .wall 12 0⟩ <|
    .until (.behind 11 0 0 .off) ⟨1942, 1, .on 1, .midnight⟩ <|
    .until (.behind 11 0 0 (.rules unitedStates)) ⟨1946, 1, .on 1, .midnight⟩ <|
    .until (.behind 11 0 0 .off) ⟨1967, 4, .on 1, .midnight⟩ <|
    .until (.behind 11 0 0 .off) ⟨1969, 1, .on 1, .midnight⟩ <|
    .until (.behind 11 0 0 (.rules unitedStates)) ⟨1983, 10, .on 30, .wall 2 0⟩ <|
    .until (.behind 9 0 0 (.rules unitedStates)) ⟨1983, 11, .on 30, .midnight⟩ <|
    .forever (.behind 9 0 0 (.rules unitedStates))),
   ("America/North_Dakota/Beulah",
    .until (.behind 6 47 7 .off) ⟨1883, 11, .on 18, .universal 19 0⟩ <|
    .until (.behind 7 0 0 (.rules unitedStates)) ⟨2010, 11, .on 7, .wall 2 0⟩ <|
    .forever (.behind 6 0 0 (.rules unitedStates))),
   ("America/North_Dakota/Center",
    .until (.behind 6 45 12 .off) ⟨1883, 11, .on 18, .universal 19 0⟩ <|
    .until (.behind 7 0 0 (.rules unitedStates)) ⟨1992, 10, .on 25, .wall 2 0⟩ <|
    .forever (.behind 6 0 0 (.rules unitedStates))),
   ("America/North_Dakota/New_Salem",
    .until (.behind 6 45 39 .off) ⟨1883, 11, .on 18, .universal 19 0⟩ <|
    .until (.behind 7 0 0 (.rules unitedStates)) ⟨2003, 10, .on 26, .wall 2 0⟩ <|
    .forever (.behind 6 0 0 (.rules unitedStates))),
   ("America/Nuuk",
    .until (.behind 3 26 56 .off) ⟨1916, 7, .on 28, .midnight⟩ <|
    .until (.behind 3 0 0 .off) ⟨1980, 4, .on 6, .wall 2 0⟩ <|
    .until (.behind 3 0 0 (.rules europeanUnion)) ⟨2023, 3, .on 26, .universal 1 0⟩ <|
    .until (.behind 2 0 0 .off) ⟨2023, 10, .on 29, .universal 1 0⟩ <|
    .forever (.behind 2 0 0 (.rules europeanUnion))),
   ("America/Phoenix",
    .until (.behind 7 28 18 .off) ⟨1883, 11, .on 18, .universal 19 0⟩ <|
    .until (.behind 7 0 0 (.rules unitedStates)) ⟨1944, 1, .on 1, .wall 0 1⟩ <|
    .until (.behind 7 0 0 .off) ⟨1944, 4, .on 1, .wall 0 1⟩ <|
    .until (.behind 7 0 0 (.rules unitedStates)) ⟨1944, 10, .on 1, .wall 0 1⟩ <|
    .until (.behind 7 0 0 .off) ⟨1967, 1, .on 1, .midnight⟩ <|
    .until (.behind 7 0 0 (.rules unitedStates)) ⟨1968, 3, .on 21, .midnight⟩ <|
    .forever (.behind 7 0 0 .off)),
   ("America/Rankin_Inlet",
    .until (.ahead 0 0 0 .off) ⟨1957, 1, .on 1, .midnight⟩ <|
    .until (.behind 6 0 0 (.rules northwestTerritories)) ⟨2000, 10, .on 29, .wall 2 0⟩ <|
    .until (.behind 5 0 0 .off) ⟨2001, 4, .on 1, .wall 3 0⟩ <|
    .forever (.behind 6 0 0 (.rules canada))),
   ("America/Regina",
    .until (.behind 6 58 36 .off) ⟨1905, 9, .on 1, .midnight⟩ <|
    .until (.behind 7 0 0 (.rules regina)) ⟨1960, 4, .last .sunday, .wall 2 0⟩ <|
    .forever (.behind 6 0 0 .off)),
   ("America/Resolute",
    .until (.ahead 0 0 0 .off) ⟨1947, 8, .on 31, .midnight⟩ <|
    .until (.behind 6 0 0 (.rules northwestTerritories)) ⟨2000, 10, .on 29, .wall 2 0⟩ <|
    .until (.behind 5 0 0 .off) ⟨2001, 4, .on 1, .wall 3 0⟩ <|
    .until (.behind 6 0 0 (.rules canada)) ⟨2006, 10, .on 29, .wall 2 0⟩ <|
    .until (.behind 5 0 0 .off) ⟨2007, 3, .on 11, .wall 3 0⟩ <|
    .forever (.behind 6 0 0 (.rules canada))),
   ("America/Scoresbysund",
    .until (.behind 1 27 52 .off) ⟨1916, 7, .on 28, .midnight⟩ <|
    .until (.behind 2 0 0 .off) ⟨1980, 4, .on 6, .wall 2 0⟩ <|
    .until (.behind 2 0 0 (.rules centralEurope)) ⟨1981, 3, .on 29, .midnight⟩ <|
    .until (.behind 1 0 0 (.rules europeanUnion)) ⟨2024, 3, .on 31, .midnight⟩ <|
    .forever (.behind 2 0 0 (.rules europeanUnion))),
   ("America/Sitka",
    .until (.ahead 14 58 47 .off) ⟨1867, 10, .on 19, .wall 15 30⟩ <|
    .until (.behind 9 1 13 .off) ⟨1900, 8, .on 20, .wall 12 0⟩ <|
    .until (.behind 8 0 0 .off) ⟨1942, 1, .on 1, .midnight⟩ <|
    .until (.behind 8 0 0 (.rules unitedStates)) ⟨1946, 1, .on 1, .midnight⟩ <|
    .until (.behind 8 0 0 .off) ⟨1969, 1, .on 1, .midnight⟩ <|
    .until (.behind 8 0 0 (.rules unitedStates)) ⟨1983, 10, .on 30, .wall 2 0⟩ <|
    .until (.behind 9 0 0 (.rules unitedStates)) ⟨1983, 11, .on 30, .midnight⟩ <|
    .forever (.behind 9 0 0 (.rules unitedStates))),
   ("America/St_Johns",
    .until (.behind 3 30 52 .off) ⟨1884, 1, .on 1, .midnight⟩ <|
    .until (.behind 3 30 52 (.rules newfoundland)) ⟨1918, 1, .on 1, .midnight⟩ <|
    .until (.behind 3 30 52 (.rules canada)) ⟨1919, 1, .on 1, .midnight⟩ <|
    .until (.behind 3 30 52 (.rules newfoundland)) ⟨1935, 3, .on 30, .midnight⟩ <|
    .until (.behind 3 30 0 (.rules newfoundland)) ⟨1942, 5, .on 11, .midnight⟩ <|
    .until (.behind 3 30 0 (.rules canada)) ⟨1946, 1, .on 1, .midnight⟩ <|
    .until (.behind 3 30 0 (.rules newfoundland)) ⟨2011, 11, .on 1, .midnight⟩ <|
    .forever (.behind 3 30 0 (.rules canada))),
   ("America/Swift_Current",
    .until (.behind 7 11 20 .off) ⟨1905, 9, .on 1, .midnight⟩ <|
    .until (.behind 7 0 0 (.rules canada)) ⟨1946, 4, .last .sunday, .wall 2 0⟩ <|
    .until (.behind 7 0 0 (.rules regina)) ⟨1950, 1, .on 1, .midnight⟩ <|
    .until (.behind 7 0 0 (.rules swiftCurrent)) ⟨1972, 4, .last .sunday, .wall 2 0⟩ <|
    .forever (.behind 6 0 0 .off)),
   ("America/Thule",
    .until (.behind 4 35 8 .off) ⟨1916, 7, .on 28, .midnight⟩ <|
    .forever (.behind 4 0 0 (.rules thule))),
   ("America/Toronto",
    .until (.behind 5 17 32 .off) ⟨1895, 1, .on 1, .midnight⟩ <|
    .until (.behind 5 0 0 (.rules canada)) ⟨1919, 1, .on 1, .midnight⟩ <|
    .until (.behind 5 0 0 (.rules toronto)) ⟨1942, 2, .on 9, .standard 2 0⟩ <|
    .until (.behind 5 0 0 (.rules canada)) ⟨1946, 1, .on 1, .midnight⟩ <|
    .until (.behind 5 0 0 (.rules toronto)) ⟨1974, 1, .on 1, .midnight⟩ <|
    .forever (.behind 5 0 0 (.rules canada))),
   ("America/Vancouver",
    .until (.behind 8 12 28 .off) ⟨1884, 1, .on 1, .midnight⟩ <|
    .until (.behind 8 0 0 (.rules vancouver)) ⟨1987, 1, .on 1, .midnight⟩ <|
    .forever (.behind 8 0 0 (.rules canada))),
   ("America/Whitehorse",
    .until (.behind 9 0 12 .off) ⟨1900, 8, .on 20, .midnight⟩ <|
    .until (.behind 9 0 0 (.rules northwestTerritories)) ⟨1965, 1, .on 1, .midnight⟩ <|
    .until (.behind 9 0 0 (.rules yukon)) ⟨1966, 2, .on 27, .midnight⟩ <|
    .until (.behind 8 0 0 .off) ⟨1980, 1, .on 1, .midnight⟩ <|
    .until (.behind 8 0 0 (.rules canada)) ⟨2020, 11, .on 1, .midnight⟩ <|
    .forever (.behind 7 0 0 .off)),
   ("America/Winnipeg",
    .until (.behind 6 28 36 .off) ⟨1887, 7, .on 16, .midnight⟩ <|
    .until (.behind 6 0 0 (.rules winnipeg)) ⟨2006, 1, .on 1, .midnight⟩ <|
    .forever (.behind 6 0 0 (.rules canada))),
   ("America/Yakutat",
    .until (.ahead 14 41 5 .off) ⟨1867, 10, .on 19, ⟨.wall, 54738⟩⟩ <|
    .until (.behind 9 18 55 .off) ⟨1900, 8, .on 20, .wall 12 0⟩ <|
    .until (.behind 9 0 0 .off) ⟨1942, 1, .on 1, .midnight⟩ <|
    .until (.behind 9 0 0 (.rules unitedStates)) ⟨1946, 1, .on 1, .midnight⟩ <|
    .until (.behind 9 0 0 .off) ⟨1969, 1, .on 1, .midnight⟩ <|
    .until (.behind 9 0 0 (.rules unitedStates)) ⟨1983, 11, .on 30, .midnight⟩ <|
    .forever (.behind 9 0 0 (.rules unitedStates)))]

end SecretRotation.History
