import SecretRotation.Zone.History

/-!
# Zones of fixed offset

Zones whose clocks never change: universal time, and whole hours ahead of it or behind it. Their names count the hours
the other way round, so that a zone with a plus is behind.
-/

namespace SecretRotation.History

/-- The zones of fixed offset. -/
def universal : List (String × History) :=
  [("Etc/GMT", .forever (.ahead 0 0 0 .off)),
   ("Etc/GMT+1", .forever (.behind 1 0 0 .off)),
   ("Etc/GMT+10", .forever (.behind 10 0 0 .off)),
   ("Etc/GMT+11", .forever (.behind 11 0 0 .off)),
   ("Etc/GMT+12", .forever (.behind 12 0 0 .off)),
   ("Etc/GMT+2", .forever (.behind 2 0 0 .off)),
   ("Etc/GMT+3", .forever (.behind 3 0 0 .off)),
   ("Etc/GMT+4", .forever (.behind 4 0 0 .off)),
   ("Etc/GMT+5", .forever (.behind 5 0 0 .off)),
   ("Etc/GMT+6", .forever (.behind 6 0 0 .off)),
   ("Etc/GMT+7", .forever (.behind 7 0 0 .off)),
   ("Etc/GMT+8", .forever (.behind 8 0 0 .off)),
   ("Etc/GMT+9", .forever (.behind 9 0 0 .off)),
   ("Etc/GMT-1", .forever (.ahead 1 0 0 .off)),
   ("Etc/GMT-10", .forever (.ahead 10 0 0 .off)),
   ("Etc/GMT-11", .forever (.ahead 11 0 0 .off)),
   ("Etc/GMT-12", .forever (.ahead 12 0 0 .off)),
   ("Etc/GMT-13", .forever (.ahead 13 0 0 .off)),
   ("Etc/GMT-14", .forever (.ahead 14 0 0 .off)),
   ("Etc/GMT-2", .forever (.ahead 2 0 0 .off)),
   ("Etc/GMT-3", .forever (.ahead 3 0 0 .off)),
   ("Etc/GMT-4", .forever (.ahead 4 0 0 .off)),
   ("Etc/GMT-5", .forever (.ahead 5 0 0 .off)),
   ("Etc/GMT-6", .forever (.ahead 6 0 0 .off)),
   ("Etc/GMT-7", .forever (.ahead 7 0 0 .off)),
   ("Etc/GMT-8", .forever (.ahead 8 0 0 .off)),
   ("Etc/GMT-9", .forever (.ahead 9 0 0 .off)),
   ("Etc/UTC", .forever (.ahead 0 0 0 .off))]

end SecretRotation.History
