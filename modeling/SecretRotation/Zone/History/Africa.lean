import SecretRotation.Zone.History
import SecretRotation.Zone.Saving.Africa
import SecretRotation.Zone.Saving.Europe

/-!
# Zones of Africa

The histories of the zones of Africa.
-/

namespace SecretRotation.History

open SavingRules

/-- The histories of the zones of Africa. -/
def africa : List (String × History) :=
  [("Africa/Abidjan",
    .until (.behind 0 16 8 .off) ⟨1912, 1, .on 1, .midnight⟩ <|
    .forever (.ahead 0 0 0 .off)),
   ("Africa/Algiers",
    .until (.ahead 0 12 12 .off) ⟨1891, 3, .on 16, .midnight⟩ <|
    .until (.ahead 0 9 21 .off) ⟨1911, 3, .on 11, .midnight⟩ <|
    .until (.ahead 0 0 0 (.rules algeria)) ⟨1940, 2, .on 25, .wall 2 0⟩ <|
    .until (.ahead 1 0 0 (.rules algeria)) ⟨1946, 10, .on 7, .midnight⟩ <|
    .until (.ahead 0 0 0 .off) ⟨1956, 1, .on 29, .midnight⟩ <|
    .until (.ahead 1 0 0 .off) ⟨1963, 4, .on 14, .midnight⟩ <|
    .until (.ahead 0 0 0 (.rules algeria)) ⟨1977, 10, .on 21, .midnight⟩ <|
    .until (.ahead 1 0 0 (.rules algeria)) ⟨1979, 10, .on 26, .midnight⟩ <|
    .until (.ahead 0 0 0 (.rules algeria)) ⟨1981, 5, .on 1, .midnight⟩ <|
    .forever (.ahead 1 0 0 .off)),
   ("Africa/Bissau",
    .until (.behind 1 2 20 .off) ⟨1912, 1, .on 1, .universal 1 0⟩ <|
    .until (.behind 1 0 0 .off) ⟨1975, 1, .on 1, .midnight⟩ <|
    .forever (.ahead 0 0 0 .off)),
   ("Africa/Cairo",
    .until (.ahead 2 5 9 .off) ⟨1900, 10, .on 1, .midnight⟩ <|
    .forever (.ahead 2 0 0 (.rules egypt))),
   ("Africa/Casablanca",
    .until (.behind 0 30 20 .off) ⟨1913, 10, .on 26, .midnight⟩ <|
    .until (.ahead 0 0 0 (.rules morocco)) ⟨1984, 3, .on 16, .midnight⟩ <|
    .until (.ahead 1 0 0 .off) ⟨1986, 1, .on 1, .midnight⟩ <|
    .until (.ahead 0 0 0 (.rules morocco)) ⟨2018, 10, .on 28, .wall 3 0⟩ <|
    .forever (.ahead 0 0 0 (.rules morocco))),
   ("Africa/Ceuta",
    .until (.behind 0 21 16 .off) ⟨1901, 1, .on 1, .universal 0 0⟩ <|
    .until (.ahead 0 0 0 .off) ⟨1918, 5, .on 6, .wall 23 0⟩ <|
    .until (.ahead 0 0 0 (.on 60)) ⟨1918, 10, .on 7, .wall 23 0⟩ <|
    .until (.ahead 0 0 0 .off) ⟨1924, 1, .on 1, .midnight⟩ <|
    .until (.ahead 0 0 0 (.rules spain)) ⟨1929, 1, .on 1, .midnight⟩ <|
    .until (.ahead 0 0 0 .off) ⟨1967, 1, .on 1, .midnight⟩ <|
    .until (.ahead 0 0 0 (.rules spanishAfrica)) ⟨1984, 3, .on 16, .midnight⟩ <|
    .until (.ahead 1 0 0 .off) ⟨1986, 1, .on 1, .midnight⟩ <|
    .forever (.ahead 1 0 0 (.rules europeanUnion))),
   ("Africa/El_Aaiun",
    .until (.behind 0 52 48 .off) ⟨1934, 1, .on 1, .midnight⟩ <|
    .until (.behind 1 0 0 .off) ⟨1976, 4, .on 14, .midnight⟩ <|
    .until (.ahead 0 0 0 (.rules morocco)) ⟨2018, 10, .on 28, .wall 3 0⟩ <|
    .forever (.ahead 0 0 0 (.rules morocco))),
   ("Africa/Johannesburg",
    .until (.ahead 1 52 0 .off) ⟨1892, 2, .on 8, .midnight⟩ <|
    .until (.ahead 1 30 0 .off) ⟨1903, 3, .on 1, .midnight⟩ <|
    .forever (.ahead 2 0 0 (.rules southAfrica))),
   ("Africa/Juba",
    .until (.ahead 2 6 28 .off) ⟨1931, 1, .on 1, .midnight⟩ <|
    .until (.ahead 2 0 0 (.rules sudan)) ⟨2000, 1, .on 15, .wall 12 0⟩ <|
    .until (.ahead 3 0 0 .off) ⟨2021, 2, .on 1, .midnight⟩ <|
    .forever (.ahead 2 0 0 .off)),
   ("Africa/Khartoum",
    .until (.ahead 2 10 8 .off) ⟨1931, 1, .on 1, .midnight⟩ <|
    .until (.ahead 2 0 0 (.rules sudan)) ⟨2000, 1, .on 15, .wall 12 0⟩ <|
    .until (.ahead 3 0 0 .off) ⟨2017, 11, .on 1, .midnight⟩ <|
    .forever (.ahead 2 0 0 .off)),
   ("Africa/Lagos",
    .until (.ahead 0 13 35 .off) ⟨1905, 7, .on 1, .midnight⟩ <|
    .until (.ahead 0 0 0 .off) ⟨1908, 7, .on 1, .midnight⟩ <|
    .until (.ahead 0 13 35 .off) ⟨1914, 1, .on 1, .midnight⟩ <|
    .until (.ahead 0 30 0 .off) ⟨1919, 9, .on 1, .midnight⟩ <|
    .forever (.ahead 1 0 0 .off)),
   ("Africa/Maputo",
    .until (.ahead 2 10 18 .off) ⟨1909, 1, .on 1, .midnight⟩ <|
    .forever (.ahead 2 0 0 .off)),
   ("Africa/Monrovia",
    .until (.behind 0 43 8 .off) ⟨1882, 1, .on 1, .midnight⟩ <|
    .until (.behind 0 43 8 .off) ⟨1919, 3, .on 1, .midnight⟩ <|
    .until (.behind 0 44 30 .off) ⟨1972, 1, .on 7, .midnight⟩ <|
    .forever (.ahead 0 0 0 .off)),
   ("Africa/Nairobi",
    .until (.ahead 2 27 16 .off) ⟨1908, 5, .on 1, .midnight⟩ <|
    .until (.ahead 2 30 0 .off) ⟨1928, 6, .on 30, .wall 24 0⟩ <|
    .until (.ahead 3 0 0 .off) ⟨1930, 1, .on 4, .wall 24 0⟩ <|
    .until (.ahead 2 30 0 .off) ⟨1936, 12, .on 31, .wall 24 0⟩ <|
    .until (.ahead 2 45 0 .off) ⟨1942, 7, .on 31, .wall 24 0⟩ <|
    .forever (.ahead 3 0 0 .off)),
   ("Africa/Ndjamena",
    .until (.ahead 1 0 12 .off) ⟨1912, 1, .on 1, .midnight⟩ <|
    .until (.ahead 1 0 0 .off) ⟨1979, 10, .on 14, .midnight⟩ <|
    .until (.ahead 1 0 0 (.on 60)) ⟨1980, 3, .on 8, .midnight⟩ <|
    .forever (.ahead 1 0 0 .off)),
   ("Africa/Sao_Tome",
    .until (.ahead 0 26 56 .off) ⟨1884, 1, .on 1, .midnight⟩ <|
    .until (.behind 0 36 45 .off) ⟨1912, 1, .on 1, .universal 0 0⟩ <|
    .until (.ahead 0 0 0 .off) ⟨2018, 1, .on 1, .wall 1 0⟩ <|
    .until (.ahead 1 0 0 .off) ⟨2019, 1, .on 1, .wall 2 0⟩ <|
    .forever (.ahead 0 0 0 .off)),
   ("Africa/Tripoli",
    .until (.ahead 0 52 44 .off) ⟨1920, 1, .on 1, .midnight⟩ <|
    .until (.ahead 1 0 0 (.rules libya)) ⟨1959, 1, .on 1, .midnight⟩ <|
    .until (.ahead 2 0 0 .off) ⟨1982, 1, .on 1, .midnight⟩ <|
    .until (.ahead 1 0 0 (.rules libya)) ⟨1990, 5, .on 4, .midnight⟩ <|
    .until (.ahead 2 0 0 .off) ⟨1996, 9, .on 30, .midnight⟩ <|
    .until (.ahead 1 0 0 (.rules libya)) ⟨1997, 10, .on 4, .midnight⟩ <|
    .until (.ahead 2 0 0 .off) ⟨2012, 11, .on 10, .wall 2 0⟩ <|
    .until (.ahead 1 0 0 (.rules libya)) ⟨2013, 10, .on 25, .wall 2 0⟩ <|
    .forever (.ahead 2 0 0 .off)),
   ("Africa/Tunis",
    .until (.ahead 0 40 44 .off) ⟨1881, 5, .on 12, .midnight⟩ <|
    .until (.ahead 0 9 21 .off) ⟨1911, 3, .on 11, .midnight⟩ <|
    .forever (.ahead 1 0 0 (.rules tunisia))),
   ("Africa/Windhoek",
    .until (.ahead 1 8 24 .off) ⟨1892, 2, .on 8, .midnight⟩ <|
    .until (.ahead 1 30 0 .off) ⟨1903, 3, .on 1, .midnight⟩ <|
    .until (.ahead 2 0 0 .off) ⟨1942, 9, .on 20, .wall 2 0⟩ <|
    .until (.ahead 2 0 0 (.on 60)) ⟨1943, 3, .on 21, .wall 2 0⟩ <|
    .until (.ahead 2 0 0 .off) ⟨1990, 3, .on 21, .midnight⟩ <|
    .until (.ahead 2 0 0 .off) ⟨1994, 3, .on 21, .midnight⟩ <|
    .until (.ahead 1 0 0 (.rules namibia)) ⟨2017, 10, .on 24, .midnight⟩ <|
    .forever (.ahead 2 0 0 .off))]

end SecretRotation.History
