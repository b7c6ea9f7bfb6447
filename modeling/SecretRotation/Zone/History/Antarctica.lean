import SecretRotation.Zone.History
import SecretRotation.Zone.Saving.Australasia
import SecretRotation.Zone.Saving.SouthAmerica

/-!
# Zones of Antarctica

The histories of the zones of Antarctica. Stations had no clocks before they were built.
-/

namespace SecretRotation.History

open SavingRules

/-- The histories of the zones of Antarctica. Stations had no clocks before they were built. -/
def antarctica : List (String × History) :=
  [("Antarctica/Casey",
    .until (.ahead 0 0 0 .off) ⟨1969, 1, .on 1, .midnight⟩ <|
    .until (.ahead 8 0 0 .off) ⟨2009, 10, .on 18, .wall 2 0⟩ <|
    .until (.ahead 11 0 0 .off) ⟨2010, 3, .on 5, .wall 2 0⟩ <|
    .until (.ahead 8 0 0 .off) ⟨2011, 10, .on 28, .wall 2 0⟩ <|
    .until (.ahead 11 0 0 .off) ⟨2012, 2, .on 21, .universal 17 0⟩ <|
    .until (.ahead 8 0 0 .off) ⟨2016, 10, .on 22, .midnight⟩ <|
    .until (.ahead 11 0 0 .off) ⟨2018, 3, .on 11, .wall 4 0⟩ <|
    .until (.ahead 8 0 0 .off) ⟨2018, 10, .on 7, .wall 4 0⟩ <|
    .until (.ahead 11 0 0 .off) ⟨2019, 3, .on 17, .wall 3 0⟩ <|
    .until (.ahead 8 0 0 .off) ⟨2019, 10, .on 4, .wall 3 0⟩ <|
    .until (.ahead 11 0 0 .off) ⟨2020, 3, .on 8, .wall 3 0⟩ <|
    .until (.ahead 8 0 0 .off) ⟨2020, 10, .on 4, .wall 0 1⟩ <|
    .until (.ahead 11 0 0 .off) ⟨2021, 3, .on 14, .midnight⟩ <|
    .until (.ahead 8 0 0 .off) ⟨2021, 10, .on 3, .wall 0 1⟩ <|
    .until (.ahead 11 0 0 .off) ⟨2022, 3, .on 13, .midnight⟩ <|
    .until (.ahead 8 0 0 .off) ⟨2022, 10, .on 2, .wall 0 1⟩ <|
    .until (.ahead 11 0 0 .off) ⟨2023, 3, .on 9, .wall 3 0⟩ <|
    .forever (.ahead 8 0 0 .off)),
   ("Antarctica/Davis",
    .until (.ahead 0 0 0 .off) ⟨1957, 1, .on 13, .midnight⟩ <|
    .until (.ahead 7 0 0 .off) ⟨1964, 11, .on 1, .midnight⟩ <|
    .until (.ahead 0 0 0 .off) ⟨1969, 2, .on 1, .midnight⟩ <|
    .until (.ahead 7 0 0 .off) ⟨2009, 10, .on 18, .wall 2 0⟩ <|
    .until (.ahead 5 0 0 .off) ⟨2010, 3, .on 10, .universal 20 0⟩ <|
    .until (.ahead 7 0 0 .off) ⟨2011, 10, .on 28, .wall 2 0⟩ <|
    .until (.ahead 5 0 0 .off) ⟨2012, 2, .on 21, .universal 20 0⟩ <|
    .forever (.ahead 7 0 0 .off)),
   ("Antarctica/Macquarie",
    .until (.ahead 0 0 0 .off) ⟨1899, 11, .on 1, .midnight⟩ <|
    .until (.ahead 10 0 0 .off) ⟨1916, 10, .on 1, .wall 2 0⟩ <|
    .until (.ahead 10 0 0 (.on 60)) ⟨1917, 2, .on 1, .midnight⟩ <|
    .until (.ahead 10 0 0 (.rules allAustralia)) ⟨1919, 4, .on 1, .standard 0 0⟩ <|
    .until (.ahead 0 0 0 .off) ⟨1948, 3, .on 25, .midnight⟩ <|
    .until (.ahead 10 0 0 (.rules allAustralia)) ⟨1967, 1, .on 1, .midnight⟩ <|
    .until (.ahead 10 0 0 (.rules tasmania)) ⟨2010, 1, .on 1, .midnight⟩ <|
    .until (.ahead 10 0 0 (.on 60)) ⟨2011, 1, .on 1, .midnight⟩ <|
    .forever (.ahead 10 0 0 (.rules tasmania))),
   ("Antarctica/Mawson",
    .until (.ahead 0 0 0 .off) ⟨1954, 2, .on 13, .midnight⟩ <|
    .until (.ahead 6 0 0 .off) ⟨2009, 10, .on 18, .wall 2 0⟩ <|
    .forever (.ahead 5 0 0 .off)),
   ("Antarctica/Palmer",
    .until (.ahead 0 0 0 .off) ⟨1965, 1, .on 1, .midnight⟩ <|
    .until (.behind 4 0 0 (.rules argentina)) ⟨1969, 10, .on 5, .midnight⟩ <|
    .until (.behind 3 0 0 (.rules argentina)) ⟨1982, 5, .on 1, .midnight⟩ <|
    .until (.behind 4 0 0 (.rules chile)) ⟨2016, 12, .on 4, .midnight⟩ <|
    .forever (.behind 3 0 0 .off)),
   ("Antarctica/Rothera",
    .until (.ahead 0 0 0 .off) ⟨1976, 12, .on 1, .midnight⟩ <|
    .forever (.behind 3 0 0 .off)),
   ("Antarctica/Troll",
    .until (.ahead 0 0 0 .off) ⟨2005, 2, .on 12, .midnight⟩ <|
    .forever (.ahead 0 0 0 (.rules troll))),
   ("Antarctica/Vostok",
    .until (.ahead 0 0 0 .off) ⟨1957, 12, .on 16, .midnight⟩ <|
    .until (.ahead 7 0 0 .off) ⟨1994, 2, .on 1, .midnight⟩ <|
    .until (.ahead 0 0 0 .off) ⟨1994, 11, .on 1, .midnight⟩ <|
    .until (.ahead 7 0 0 .off) ⟨2023, 12, .on 18, .wall 2 0⟩ <|
    .forever (.ahead 5 0 0 .off))]

end SecretRotation.History
