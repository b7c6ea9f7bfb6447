import SecretRotation.Zone.History
import SecretRotation.Zone.Saving.Australasia

/-!
# Zones of Australia

The histories of the zones of Australia.
-/

namespace SecretRotation.History

open SavingRules

/-- The histories of the zones of Australia. -/
def australia : List (String × History) :=
  [("Australia/Adelaide",
    .until (.ahead 9 14 20 .off) ⟨1895, 2, .on 1, .midnight⟩ <|
    .until (.ahead 9 0 0 .off) ⟨1899, 5, .on 1, .midnight⟩ <|
    .until (.ahead 9 30 0 (.rules allAustralia)) ⟨1971, 1, .on 1, .midnight⟩ <|
    .forever (.ahead 9 30 0 (.rules southAustralia))),
   ("Australia/Brisbane",
    .until (.ahead 10 12 8 .off) ⟨1895, 1, .on 1, .midnight⟩ <|
    .until (.ahead 10 0 0 (.rules allAustralia)) ⟨1971, 1, .on 1, .midnight⟩ <|
    .forever (.ahead 10 0 0 (.rules queensland))),
   ("Australia/Broken_Hill",
    .until (.ahead 9 25 48 .off) ⟨1895, 2, .on 1, .midnight⟩ <|
    .until (.ahead 10 0 0 .off) ⟨1896, 8, .on 23, .midnight⟩ <|
    .until (.ahead 9 0 0 .off) ⟨1899, 5, .on 1, .midnight⟩ <|
    .until (.ahead 9 30 0 (.rules allAustralia)) ⟨1971, 1, .on 1, .midnight⟩ <|
    .until (.ahead 9 30 0 (.rules newSouthWales)) ⟨2000, 1, .on 1, .midnight⟩ <|
    .forever (.ahead 9 30 0 (.rules southAustralia))),
   ("Australia/Darwin",
    .until (.ahead 8 43 20 .off) ⟨1895, 2, .on 1, .midnight⟩ <|
    .until (.ahead 9 0 0 .off) ⟨1899, 5, .on 1, .midnight⟩ <|
    .forever (.ahead 9 30 0 (.rules allAustralia))),
   ("Australia/Eucla",
    .until (.ahead 8 35 28 .off) ⟨1895, 12, .on 1, .midnight⟩ <|
    .until (.ahead 8 45 0 (.rules allAustralia)) ⟨1943, 7, .on 1, .midnight⟩ <|
    .forever (.ahead 8 45 0 (.rules westernAustralia))),
   ("Australia/Hobart",
    .until (.ahead 9 49 16 .off) ⟨1895, 9, .on 1, .midnight⟩ <|
    .until (.ahead 10 0 0 (.rules tasmania)) ⟨1919, 10, .on 24, .midnight⟩ <|
    .until (.ahead 10 0 0 (.rules allAustralia)) ⟨1967, 1, .on 1, .midnight⟩ <|
    .forever (.ahead 10 0 0 (.rules tasmania))),
   ("Australia/Lindeman",
    .until (.ahead 9 55 56 .off) ⟨1895, 1, .on 1, .midnight⟩ <|
    .until (.ahead 10 0 0 (.rules allAustralia)) ⟨1971, 1, .on 1, .midnight⟩ <|
    .until (.ahead 10 0 0 (.rules queensland)) ⟨1992, 7, .on 1, .midnight⟩ <|
    .forever (.ahead 10 0 0 (.rules whitsundays))),
   ("Australia/Lord_Howe",
    .until (.ahead 10 36 20 .off) ⟨1895, 2, .on 1, .midnight⟩ <|
    .until (.ahead 10 0 0 .off) ⟨1981, 3, .on 1, .midnight⟩ <|
    .until (.ahead 10 30 0 (.rules lordHowe)) ⟨1985, 7, .on 1, .midnight⟩ <|
    .forever (.ahead 10 30 0 (.rules lordHowe))),
   ("Australia/Melbourne",
    .until (.ahead 9 39 52 .off) ⟨1895, 2, .on 1, .midnight⟩ <|
    .until (.ahead 10 0 0 (.rules allAustralia)) ⟨1971, 1, .on 1, .midnight⟩ <|
    .forever (.ahead 10 0 0 (.rules victoria))),
   ("Australia/Perth",
    .until (.ahead 7 43 24 .off) ⟨1895, 12, .on 1, .midnight⟩ <|
    .until (.ahead 8 0 0 (.rules allAustralia)) ⟨1943, 7, .on 1, .midnight⟩ <|
    .forever (.ahead 8 0 0 (.rules westernAustralia))),
   ("Australia/Sydney",
    .until (.ahead 10 4 52 .off) ⟨1895, 2, .on 1, .midnight⟩ <|
    .until (.ahead 10 0 0 (.rules allAustralia)) ⟨1971, 1, .on 1, .midnight⟩ <|
    .forever (.ahead 10 0 0 (.rules newSouthWales)))]

end SecretRotation.History
