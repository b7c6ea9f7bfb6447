import SecretRotation.Zone.History
import SecretRotation.Zone.Saving.Africa
import SecretRotation.Zone.Saving.Australasia
import SecretRotation.Zone.Saving.CentralAmerica
import SecretRotation.Zone.Saving.Europe
import SecretRotation.Zone.Saving.NorthAmerica
import SecretRotation.Zone.Saving.SouthAmerica

/-!
# Zones of islands

The histories of the zones of islands in the Atlantic, the Indian Ocean and the Pacific.
-/

namespace SecretRotation.History

open SavingRules

/-- The histories of the zones of islands in the Atlantic, the Indian Ocean and the Pacific. -/
def ocean : List (String × History) :=
  [("Atlantic/Azores",
    .until (.behind 1 42 40 .off) ⟨1884, 1, .on 1, .midnight⟩ <|
    .until (.behind 1 54 32 .off) ⟨1912, 1, .on 1, .universal 2 0⟩ <|
    .until (.behind 2 0 0 (.rules portugal)) ⟨1942, 4, .on 25, .standard 22 0⟩ <|
    .until (.behind 2 0 0 (.rules portugal)) ⟨1942, 8, .on 15, .standard 22 0⟩ <|
    .until (.behind 2 0 0 (.rules portugal)) ⟨1943, 4, .on 17, .standard 22 0⟩ <|
    .until (.behind 2 0 0 (.rules portugal)) ⟨1943, 8, .on 28, .standard 22 0⟩ <|
    .until (.behind 2 0 0 (.rules portugal)) ⟨1944, 4, .on 22, .standard 22 0⟩ <|
    .until (.behind 2 0 0 (.rules portugal)) ⟨1944, 8, .on 26, .standard 22 0⟩ <|
    .until (.behind 2 0 0 (.rules portugal)) ⟨1945, 4, .on 21, .standard 22 0⟩ <|
    .until (.behind 2 0 0 (.rules portugal)) ⟨1945, 8, .on 25, .standard 22 0⟩ <|
    .until (.behind 2 0 0 (.rules portugal)) ⟨1966, 10, .on 2, .standard 2 0⟩ <|
    .until (.behind 1 0 0 .off) ⟨1982, 3, .on 28, .standard 0 0⟩ <|
    .until (.behind 1 0 0 (.rules portugal)) ⟨1986, 1, .on 1, .midnight⟩ <|
    .until (.behind 1 0 0 (.rules europeanUnion)) ⟨1992, 12, .on 27, .standard 1 0⟩ <|
    .until (.ahead 0 0 0 (.rules europeanUnion)) ⟨1993, 6, .on 17, .universal 1 0⟩ <|
    .forever (.behind 1 0 0 (.rules europeanUnion))),
   ("Atlantic/Bermuda",
    .until (.behind 4 19 18 .off) ⟨1890, 1, .on 1, .midnight⟩ <|
    .until (.behind 4 19 18 (.rules bermuda)) ⟨1930, 1, .on 1, .wall 2 0⟩ <|
    .until (.behind 4 0 0 (.rules bermuda)) ⟨1974, 4, .on 28, .wall 2 0⟩ <|
    .until (.behind 4 0 0 (.rules canada)) ⟨1976, 1, .on 1, .midnight⟩ <|
    .forever (.behind 4 0 0 (.rules unitedStates))),
   ("Atlantic/Canary",
    .until (.behind 1 1 36 .off) ⟨1922, 3, .on 1, .midnight⟩ <|
    .until (.behind 1 0 0 .off) ⟨1946, 9, .on 30, .wall 1 0⟩ <|
    .until (.ahead 0 0 0 .off) ⟨1980, 4, .on 6, .standard 0 0⟩ <|
    .until (.ahead 0 0 0 (.on 60)) ⟨1980, 9, .on 28, .universal 1 0⟩ <|
    .forever (.ahead 0 0 0 (.rules europeanUnion))),
   ("Atlantic/Cape_Verde",
    .until (.behind 1 34 4 .off) ⟨1912, 1, .on 1, .universal 2 0⟩ <|
    .until (.behind 2 0 0 .off) ⟨1942, 9, .on 1, .midnight⟩ <|
    .until (.behind 2 0 0 (.on 60)) ⟨1945, 10, .on 15, .midnight⟩ <|
    .until (.behind 2 0 0 .off) ⟨1975, 11, .on 25, .wall 2 0⟩ <|
    .forever (.behind 1 0 0 .off)),
   ("Atlantic/Faroe",
    .until (.behind 0 27 4 .off) ⟨1908, 1, .on 11, .midnight⟩ <|
    .until (.ahead 0 0 0 .off) ⟨1981, 1, .on 1, .midnight⟩ <|
    .forever (.ahead 0 0 0 (.rules europeanUnion))),
   ("Atlantic/Madeira",
    .until (.behind 1 7 36 .off) ⟨1884, 1, .on 1, .midnight⟩ <|
    .until (.behind 1 7 36 .off) ⟨1912, 1, .on 1, .universal 1 0⟩ <|
    .until (.behind 1 0 0 (.rules portugal)) ⟨1942, 4, .on 25, .standard 22 0⟩ <|
    .until (.behind 1 0 0 (.rules portugal)) ⟨1942, 8, .on 15, .standard 22 0⟩ <|
    .until (.behind 1 0 0 (.rules portugal)) ⟨1943, 4, .on 17, .standard 22 0⟩ <|
    .until (.behind 1 0 0 (.rules portugal)) ⟨1943, 8, .on 28, .standard 22 0⟩ <|
    .until (.behind 1 0 0 (.rules portugal)) ⟨1944, 4, .on 22, .standard 22 0⟩ <|
    .until (.behind 1 0 0 (.rules portugal)) ⟨1944, 8, .on 26, .standard 22 0⟩ <|
    .until (.behind 1 0 0 (.rules portugal)) ⟨1945, 4, .on 21, .standard 22 0⟩ <|
    .until (.behind 1 0 0 (.rules portugal)) ⟨1945, 8, .on 25, .standard 22 0⟩ <|
    .until (.behind 1 0 0 (.rules portugal)) ⟨1966, 10, .on 2, .standard 2 0⟩ <|
    .until (.ahead 0 0 0 .off) ⟨1982, 4, .on 4, .midnight⟩ <|
    .until (.ahead 0 0 0 (.rules portugal)) ⟨1986, 7, .on 31, .midnight⟩ <|
    .forever (.ahead 0 0 0 (.rules europeanUnion))),
   ("Atlantic/South_Georgia",
    .until (.behind 2 26 8 .off) ⟨1890, 1, .on 1, .midnight⟩ <|
    .forever (.behind 2 0 0 .off)),
   ("Atlantic/Stanley",
    .until (.behind 3 51 24 .off) ⟨1890, 1, .on 1, .midnight⟩ <|
    .until (.behind 3 51 24 .off) ⟨1912, 3, .on 12, .midnight⟩ <|
    .until (.behind 4 0 0 (.rules falklands)) ⟨1983, 5, .on 1, .midnight⟩ <|
    .until (.behind 3 0 0 (.rules falklands)) ⟨1985, 9, .on 15, .midnight⟩ <|
    .until (.behind 4 0 0 (.rules falklands)) ⟨2010, 9, .on 5, .wall 2 0⟩ <|
    .forever (.behind 3 0 0 .off)),
   ("Indian/Chagos",
    .until (.ahead 4 49 40 .off) ⟨1907, 1, .on 1, .midnight⟩ <|
    .until (.ahead 5 0 0 .off) ⟨1996, 1, .on 1, .midnight⟩ <|
    .forever (.ahead 6 0 0 .off)),
   ("Indian/Maldives",
    .until (.ahead 4 54 0 .off) ⟨1880, 1, .on 1, .midnight⟩ <|
    .until (.ahead 4 54 0 .off) ⟨1960, 1, .on 1, .midnight⟩ <|
    .forever (.ahead 5 0 0 .off)),
   ("Indian/Mauritius",
    .until (.ahead 3 50 0 .off) ⟨1907, 1, .on 1, .midnight⟩ <|
    .forever (.ahead 4 0 0 (.rules mauritius))),
   ("Pacific/Apia",
    .until (.ahead 12 33 4 .off) ⟨1892, 7, .on 5, .midnight⟩ <|
    .until (.behind 11 26 56 .off) ⟨1911, 1, .on 1, .midnight⟩ <|
    .until (.behind 11 30 0 .off) ⟨1950, 1, .on 1, .midnight⟩ <|
    .until (.behind 11 0 0 (.rules samoa)) ⟨2011, 12, .on 29, .wall 24 0⟩ <|
    .forever (.ahead 13 0 0 (.rules samoa))),
   ("Pacific/Auckland",
    .until (.ahead 11 39 4 .off) ⟨1868, 11, .on 2, .midnight⟩ <|
    .until (.ahead 11 30 0 (.rules newZealand)) ⟨1946, 1, .on 1, .midnight⟩ <|
    .forever (.ahead 12 0 0 (.rules newZealand))),
   ("Pacific/Bougainville",
    .until (.ahead 10 22 16 .off) ⟨1880, 1, .on 1, .midnight⟩ <|
    .until (.ahead 9 48 32 .off) ⟨1895, 1, .on 1, .midnight⟩ <|
    .until (.ahead 10 0 0 .off) ⟨1942, 7, .on 1, .midnight⟩ <|
    .until (.ahead 9 0 0 .off) ⟨1945, 8, .on 21, .midnight⟩ <|
    .until (.ahead 10 0 0 .off) ⟨2014, 12, .on 28, .wall 2 0⟩ <|
    .forever (.ahead 11 0 0 .off)),
   ("Pacific/Chatham",
    .until (.ahead 12 13 48 .off) ⟨1868, 11, .on 2, .midnight⟩ <|
    .until (.ahead 12 15 0 .off) ⟨1946, 1, .on 1, .midnight⟩ <|
    .forever (.ahead 12 45 0 (.rules chatham))),
   ("Pacific/Easter",
    .until (.behind 7 17 28 .off) ⟨1890, 1, .on 1, .midnight⟩ <|
    .until (.behind 7 17 28 .off) ⟨1932, 9, .on 1, .midnight⟩ <|
    .until (.behind 7 0 0 (.rules chile)) ⟨1982, 3, .on 14, .universal 3 0⟩ <|
    .forever (.behind 6 0 0 (.rules chile))),
   ("Pacific/Efate",
    .until (.ahead 11 13 16 .off) ⟨1912, 1, .on 13, .midnight⟩ <|
    .forever (.ahead 11 0 0 (.rules vanuatu))),
   ("Pacific/Fakaofo",
    .until (.behind 11 24 56 .off) ⟨1901, 1, .on 1, .midnight⟩ <|
    .until (.behind 11 0 0 .off) ⟨2011, 12, .on 30, .midnight⟩ <|
    .forever (.ahead 13 0 0 .off)),
   ("Pacific/Fiji",
    .until (.ahead 11 55 44 .off) ⟨1915, 10, .on 26, .midnight⟩ <|
    .forever (.ahead 12 0 0 (.rules fiji))),
   ("Pacific/Galapagos",
    .until (.behind 5 58 24 .off) ⟨1931, 1, .on 1, .midnight⟩ <|
    .until (.behind 5 0 0 .off) ⟨1986, 1, .on 1, .midnight⟩ <|
    .forever (.behind 6 0 0 (.rules ecuador))),
   ("Pacific/Gambier",
    .until (.behind 8 59 48 .off) ⟨1912, 10, .on 1, .midnight⟩ <|
    .forever (.behind 9 0 0 .off)),
   ("Pacific/Guadalcanal",
    .until (.ahead 10 39 48 .off) ⟨1912, 10, .on 1, .midnight⟩ <|
    .forever (.ahead 11 0 0 .off)),
   ("Pacific/Guam",
    .until (.behind 14 21 0 .off) ⟨1844, 12, .on 31, .midnight⟩ <|
    .until (.ahead 9 39 0 .off) ⟨1901, 1, .on 1, .midnight⟩ <|
    .until (.ahead 10 0 0 .off) ⟨1941, 12, .on 10, .midnight⟩ <|
    .until (.ahead 9 0 0 .off) ⟨1944, 7, .on 31, .midnight⟩ <|
    .until (.ahead 10 0 0 (.rules guam)) ⟨2000, 12, .on 23, .midnight⟩ <|
    .forever (.ahead 10 0 0 .off)),
   ("Pacific/Honolulu",
    .until (.behind 10 31 26 .off) ⟨1896, 1, .on 13, .wall 12 0⟩ <|
    .until (.behind 10 30 0 .off) ⟨1933, 4, .on 30, .wall 2 0⟩ <|
    .until (.behind 10 30 0 (.on 60)) ⟨1933, 5, .on 21, .wall 12 0⟩ <|
    .until (.behind 10 30 0 (.rules unitedStates)) ⟨1947, 6, .on 8, .wall 2 0⟩ <|
    .forever (.behind 10 0 0 .off)),
   ("Pacific/Kanton",
    .until (.ahead 0 0 0 .off) ⟨1937, 8, .on 31, .midnight⟩ <|
    .until (.behind 12 0 0 .off) ⟨1979, 10, .on 1, .midnight⟩ <|
    .until (.behind 11 0 0 .off) ⟨1994, 12, .on 31, .midnight⟩ <|
    .forever (.ahead 13 0 0 .off)),
   ("Pacific/Kiritimati",
    .until (.behind 10 29 20 .off) ⟨1901, 1, .on 1, .midnight⟩ <|
    .until (.behind 10 40 0 .off) ⟨1979, 10, .on 1, .midnight⟩ <|
    .until (.behind 10 0 0 .off) ⟨1994, 12, .on 31, .midnight⟩ <|
    .forever (.ahead 14 0 0 .off)),
   ("Pacific/Kosrae",
    .until (.behind 13 8 4 .off) ⟨1844, 12, .on 31, .midnight⟩ <|
    .until (.ahead 10 51 56 .off) ⟨1901, 1, .on 1, .midnight⟩ <|
    .until (.ahead 11 0 0 .off) ⟨1914, 10, .on 1, .midnight⟩ <|
    .until (.ahead 9 0 0 .off) ⟨1919, 2, .on 1, .midnight⟩ <|
    .until (.ahead 11 0 0 .off) ⟨1937, 1, .on 1, .midnight⟩ <|
    .until (.ahead 10 0 0 .off) ⟨1941, 4, .on 1, .midnight⟩ <|
    .until (.ahead 9 0 0 .off) ⟨1945, 8, .on 1, .midnight⟩ <|
    .until (.ahead 11 0 0 .off) ⟨1969, 10, .on 1, .midnight⟩ <|
    .until (.ahead 12 0 0 .off) ⟨1999, 1, .on 1, .midnight⟩ <|
    .forever (.ahead 11 0 0 .off)),
   ("Pacific/Kwajalein",
    .until (.ahead 11 9 20 .off) ⟨1901, 1, .on 1, .midnight⟩ <|
    .until (.ahead 11 0 0 .off) ⟨1937, 1, .on 1, .midnight⟩ <|
    .until (.ahead 10 0 0 .off) ⟨1941, 4, .on 1, .midnight⟩ <|
    .until (.ahead 9 0 0 .off) ⟨1944, 2, .on 6, .midnight⟩ <|
    .until (.ahead 11 0 0 .off) ⟨1969, 10, .on 1, .midnight⟩ <|
    .until (.behind 12 0 0 .off) ⟨1993, 8, .on 20, .wall 24 0⟩ <|
    .forever (.ahead 12 0 0 .off)),
   ("Pacific/Marquesas",
    .until (.behind 9 18 0 .off) ⟨1912, 10, .on 1, .midnight⟩ <|
    .forever (.behind 9 30 0 .off)),
   ("Pacific/Nauru",
    .until (.ahead 11 7 40 .off) ⟨1921, 1, .on 15, .midnight⟩ <|
    .until (.ahead 11 30 0 .off) ⟨1942, 8, .on 29, .midnight⟩ <|
    .until (.ahead 9 0 0 .off) ⟨1945, 9, .on 8, .midnight⟩ <|
    .until (.ahead 11 30 0 .off) ⟨1979, 2, .on 10, .wall 2 0⟩ <|
    .forever (.ahead 12 0 0 .off)),
   ("Pacific/Niue",
    .until (.behind 11 19 40 .off) ⟨1952, 10, .on 16, .midnight⟩ <|
    .until (.behind 11 20 0 .off) ⟨1964, 7, .on 1, .midnight⟩ <|
    .forever (.behind 11 0 0 .off)),
   ("Pacific/Norfolk",
    .until (.ahead 11 11 52 .off) ⟨1901, 1, .on 1, .midnight⟩ <|
    .until (.ahead 11 12 0 .off) ⟨1951, 1, .on 1, .midnight⟩ <|
    .until (.ahead 11 30 0 .off) ⟨1974, 10, .on 27, .standard 2 0⟩ <|
    .until (.ahead 11 30 0 (.on 60)) ⟨1975, 3, .on 2, .standard 2 0⟩ <|
    .until (.ahead 11 30 0 .off) ⟨2015, 10, .on 4, .standard 2 0⟩ <|
    .until (.ahead 11 0 0 .off) ⟨2019, 7, .on 1, .midnight⟩ <|
    .forever (.ahead 11 0 0 (.rules newSouthWales))),
   ("Pacific/Noumea",
    .until (.ahead 11 5 48 .off) ⟨1912, 1, .on 13, .midnight⟩ <|
    .forever (.ahead 11 0 0 (.rules newCaledonia))),
   ("Pacific/Pago_Pago",
    .until (.ahead 12 37 12 .off) ⟨1892, 7, .on 5, .midnight⟩ <|
    .until (.behind 11 22 48 .off) ⟨1911, 1, .on 1, .midnight⟩ <|
    .forever (.behind 11 0 0 .off)),
   ("Pacific/Palau",
    .until (.behind 15 2 4 .off) ⟨1844, 12, .on 31, .midnight⟩ <|
    .until (.ahead 8 57 56 .off) ⟨1901, 1, .on 1, .midnight⟩ <|
    .forever (.ahead 9 0 0 .off)),
   ("Pacific/Pitcairn",
    .until (.behind 8 40 20 .off) ⟨1901, 1, .on 1, .midnight⟩ <|
    .until (.behind 8 30 0 .off) ⟨1998, 4, .on 27, .midnight⟩ <|
    .forever (.behind 8 0 0 .off)),
   ("Pacific/Port_Moresby",
    .until (.ahead 9 48 40 .off) ⟨1880, 1, .on 1, .midnight⟩ <|
    .until (.ahead 9 48 32 .off) ⟨1895, 1, .on 1, .midnight⟩ <|
    .forever (.ahead 10 0 0 .off)),
   ("Pacific/Rarotonga",
    .until (.ahead 13 20 56 .off) ⟨1899, 12, .on 26, .midnight⟩ <|
    .until (.behind 10 39 4 .off) ⟨1952, 10, .on 16, .midnight⟩ <|
    .until (.behind 10 30 0 .off) ⟨1978, 11, .on 12, .midnight⟩ <|
    .forever (.behind 10 0 0 (.rules cookIslands))),
   ("Pacific/Tahiti",
    .until (.behind 9 58 16 .off) ⟨1912, 10, .on 1, .midnight⟩ <|
    .forever (.behind 10 0 0 .off)),
   ("Pacific/Tarawa",
    .until (.ahead 11 32 4 .off) ⟨1901, 1, .on 1, .midnight⟩ <|
    .forever (.ahead 12 0 0 .off)),
   ("Pacific/Tongatapu",
    .until (.ahead 12 19 12 .off) ⟨1945, 9, .on 10, .midnight⟩ <|
    .until (.ahead 12 20 0 .off) ⟨1961, 1, .on 1, .midnight⟩ <|
    .until (.ahead 13 0 0 .off) ⟨1999, 1, .on 1, .midnight⟩ <|
    .forever (.ahead 13 0 0 (.rules tonga)))]

end SecretRotation.History
