import SecretRotation.Zone.Saving

/-!
# Saving rules of Central America

Summer time in Mexico, in the states of Central America and on the islands of the Caribbean. Each rule has its first
and last year, the month, the day and the time of its switch, and the minutes that clocks are ahead from then on.
-/

namespace SecretRotation.SavingRules

/-- Summer time in Mexico, from 1931 to 2022. -/
def mexico : List SavingRule :=
  [⟨1931, 1931, 4, .on 30, .midnight, 60⟩, ⟨1931, 1931, 10, .on 1, .midnight, 0⟩,
   ⟨1939, 1939, 2, .on 5, .midnight, 60⟩, ⟨1939, 1939, 6, .on 25, .midnight, 0⟩,
   ⟨1940, 1940, 12, .on 9, .midnight, 60⟩, ⟨1941, 1941, 4, .on 1, .midnight, 0⟩,
   ⟨1943, 1943, 12, .on 16, .midnight, 60⟩, ⟨1944, 1944, 5, .on 1, .midnight, 0⟩,
   ⟨1950, 1950, 2, .on 12, .midnight, 60⟩, ⟨1950, 1950, 7, .on 30, .midnight, 0⟩,
   ⟨1996, 2000, 4, .onOrAfter .sunday 1, .wall 2 0, 60⟩, ⟨1996, 2000, 10, .last .sunday, .wall 2 0, 0⟩,
   ⟨2001, 2001, 5, .onOrAfter .sunday 1, .wall 2 0, 60⟩, ⟨2001, 2001, 9, .last .sunday, .wall 2 0, 0⟩,
   ⟨2002, 2022, 4, .onOrAfter .sunday 1, .wall 2 0, 60⟩, ⟨2002, 2022, 10, .last .sunday, .wall 2 0, 0⟩]

/-- Summer time in Barbados, from 1942 to 1980. -/
def barbados : List SavingRule :=
  [⟨1942, 1942, 4, .on 19, .universal 5 0, 60⟩, ⟨1942, 1942, 8, .on 31, .universal 6 0, 0⟩,
   ⟨1943, 1943, 5, .on 2, .universal 5 0, 60⟩, ⟨1943, 1943, 9, .on 5, .universal 6 0, 0⟩,
   ⟨1944, 1944, 4, .on 10, .universal 5 0, 30⟩, ⟨1944, 1944, 9, .on 10, .universal 6 0, 0⟩,
   ⟨1977, 1977, 6, .on 12, .wall 2 0, 60⟩, ⟨1977, 1978, 10, .onOrAfter .sunday 1, .wall 2 0, 0⟩,
   ⟨1978, 1980, 4, .onOrAfter .sunday 15, .wall 2 0, 60⟩, ⟨1979, 1979, 9, .on 30, .wall 2 0, 0⟩,
   ⟨1980, 1980, 9, .on 25, .wall 2 0, 0⟩]

/-- Summer time in Belize, from 1918 to 1983. -/
def belize : List SavingRule :=
  [⟨1918, 1941, 10, .onOrAfter .saturday 1, .wall 24 0, 30⟩, ⟨1919, 1942, 2, .onOrAfter .saturday 8, .wall 24 0, 0⟩,
   ⟨1942, 1942, 6, .on 27, .wall 24 0, 60⟩, ⟨1945, 1945, 8, .on 14, .universal 23 0, 60⟩,
   ⟨1945, 1945, 12, .on 15, .wall 24 0, 0⟩, ⟨1947, 1967, 10, .onOrAfter .saturday 1, .wall 24 0, 30⟩,
   ⟨1948, 1968, 2, .onOrAfter .saturday 8, .wall 24 0, 0⟩, ⟨1973, 1973, 12, .on 5, .midnight, 60⟩,
   ⟨1974, 1974, 2, .on 9, .midnight, 0⟩, ⟨1982, 1982, 12, .on 18, .midnight, 60⟩,
   ⟨1983, 1983, 2, .on 12, .midnight, 0⟩]

/-- Summer time in Bermuda, from 1917 to 1956. -/
def bermuda : List SavingRule :=
  [⟨1917, 1917, 4, .on 5, .wall 24 0, 60⟩, ⟨1917, 1917, 9, .on 30, .wall 24 0, 0⟩,
   ⟨1918, 1918, 4, .on 13, .wall 24 0, 60⟩, ⟨1918, 1918, 9, .on 15, .wall 24 0, 0⟩,
   ⟨1942, 1942, 1, .on 11, .wall 2 0, 60⟩, ⟨1942, 1942, 10, .on 18, .wall 2 0, 0⟩,
   ⟨1943, 1943, 3, .on 21, .wall 2 0, 60⟩, ⟨1943, 1943, 10, .on 31, .wall 2 0, 0⟩,
   ⟨1944, 1945, 3, .onOrAfter .sunday 8, .wall 2 0, 60⟩, ⟨1944, 1945, 11, .onOrAfter .sunday 1, .wall 2 0, 0⟩,
   ⟨1947, 1947, 5, .onOrAfter .sunday 15, .wall 2 0, 60⟩, ⟨1947, 1947, 9, .onOrAfter .sunday 8, .wall 2 0, 0⟩,
   ⟨1948, 1952, 5, .onOrAfter .sunday 22, .wall 2 0, 60⟩, ⟨1948, 1952, 9, .onOrAfter .sunday 1, .wall 2 0, 0⟩,
   ⟨1956, 1956, 5, .onOrAfter .sunday 22, .wall 2 0, 60⟩, ⟨1956, 1956, 10, .last .sunday, .wall 2 0, 0⟩]

/-- Summer time in Costa Rica, from 1979 to 1992. -/
def costaRica : List SavingRule :=
  [⟨1979, 1980, 2, .last .sunday, .midnight, 60⟩, ⟨1979, 1980, 6, .onOrAfter .sunday 1, .midnight, 0⟩,
   ⟨1991, 1992, 1, .onOrAfter .saturday 15, .midnight, 60⟩, ⟨1991, 1991, 7, .on 1, .midnight, 0⟩,
   ⟨1992, 1992, 3, .on 15, .midnight, 0⟩]

/-- Summer time in Cuba, since 1928. -/
def cuba : List SavingRule :=
  [⟨1928, 1928, 6, .on 10, .midnight, 60⟩, ⟨1928, 1928, 10, .on 10, .midnight, 0⟩,
   ⟨1940, 1942, 6, .onOrAfter .sunday 1, .midnight, 60⟩, ⟨1940, 1942, 9, .onOrAfter .sunday 1, .midnight, 0⟩,
   ⟨1945, 1946, 6, .onOrAfter .sunday 1, .midnight, 60⟩, ⟨1945, 1946, 9, .onOrAfter .sunday 1, .midnight, 0⟩,
   ⟨1965, 1965, 6, .on 1, .midnight, 60⟩, ⟨1965, 1965, 9, .on 30, .midnight, 0⟩,
   ⟨1966, 1966, 5, .on 29, .midnight, 60⟩, ⟨1966, 1966, 10, .on 2, .midnight, 0⟩,
   ⟨1967, 1967, 4, .on 8, .midnight, 60⟩, ⟨1967, 1968, 9, .onOrAfter .sunday 8, .midnight, 0⟩,
   ⟨1968, 1968, 4, .on 14, .midnight, 60⟩, ⟨1969, 1977, 4, .last .sunday, .midnight, 60⟩,
   ⟨1969, 1971, 10, .last .sunday, .midnight, 0⟩, ⟨1972, 1974, 10, .on 8, .midnight, 0⟩,
   ⟨1975, 1977, 10, .last .sunday, .midnight, 0⟩, ⟨1978, 1978, 5, .on 7, .midnight, 60⟩,
   ⟨1978, 1990, 10, .onOrAfter .sunday 8, .midnight, 0⟩, ⟨1979, 1980, 3, .onOrAfter .sunday 15, .midnight, 60⟩,
   ⟨1981, 1985, 5, .onOrAfter .sunday 5, .midnight, 60⟩, ⟨1986, 1989, 3, .onOrAfter .sunday 14, .midnight, 60⟩,
   ⟨1990, 1997, 4, .onOrAfter .sunday 1, .midnight, 60⟩, ⟨1991, 1995, 10, .onOrAfter .sunday 8, .standard 0 0, 0⟩,
   ⟨1996, 1996, 10, .on 6, .standard 0 0, 0⟩, ⟨1997, 1997, 10, .on 12, .standard 0 0, 0⟩,
   ⟨1998, 1999, 3, .last .sunday, .standard 0 0, 60⟩, ⟨1998, 2003, 10, .last .sunday, .standard 0 0, 0⟩,
   ⟨2000, 2003, 4, .onOrAfter .sunday 1, .standard 0 0, 60⟩, ⟨2004, 2004, 3, .last .sunday, .standard 0 0, 60⟩,
   ⟨2006, 2010, 10, .last .sunday, .standard 0 0, 0⟩, ⟨2007, 2007, 3, .onOrAfter .sunday 8, .standard 0 0, 60⟩,
   ⟨2008, 2008, 3, .onOrAfter .sunday 15, .standard 0 0, 60⟩, ⟨2009, 2010, 3, .onOrAfter .sunday 8, .standard 0 0, 60⟩,
   ⟨2011, 2011, 3, .onOrAfter .sunday 15, .standard 0 0, 60⟩, ⟨2011, 2011, 11, .on 13, .standard 0 0, 0⟩,
   ⟨2012, 2012, 4, .on 1, .standard 0 0, 60⟩, ⟨2012, 2099, 11, .onOrAfter .sunday 1, .standard 0 0, 0⟩,
   ⟨2013, 2099, 3, .onOrAfter .sunday 8, .standard 0 0, 60⟩]

/-- Summer time in the Dominican Republic, from 1966 to 1974. -/
def dominicanRepublic : List SavingRule :=
  [⟨1966, 1966, 10, .on 30, .midnight, 60⟩, ⟨1967, 1967, 2, .on 28, .midnight, 0⟩,
   ⟨1969, 1973, 10, .last .sunday, .midnight, 30⟩, ⟨1970, 1970, 2, .on 21, .midnight, 0⟩,
   ⟨1971, 1971, 1, .on 20, .midnight, 0⟩, ⟨1972, 1974, 1, .on 21, .midnight, 0⟩]

/-- Summer time in El Salvador, from 1987 to 1988. -/
def elSalvador : List SavingRule :=
  [⟨1987, 1988, 5, .onOrAfter .sunday 1, .midnight, 60⟩, ⟨1987, 1988, 9, .last .sunday, .midnight, 0⟩]

/-- Summer time in Guatemala, from 1973 to 2006. -/
def guatemala : List SavingRule :=
  [⟨1973, 1973, 11, .on 25, .midnight, 60⟩, ⟨1974, 1974, 2, .on 24, .midnight, 0⟩,
   ⟨1983, 1983, 5, .on 21, .midnight, 60⟩, ⟨1983, 1983, 9, .on 22, .midnight, 0⟩,
   ⟨1991, 1991, 3, .on 23, .midnight, 60⟩, ⟨1991, 1991, 9, .on 7, .midnight, 0⟩,
   ⟨2006, 2006, 4, .on 30, .midnight, 60⟩, ⟨2006, 2006, 10, .on 1, .midnight, 0⟩]

/-- Summer time in Haiti, since 1983. -/
def haiti : List SavingRule :=
  [⟨1983, 1983, 5, .on 8, .midnight, 60⟩, ⟨1984, 1987, 4, .last .sunday, .midnight, 60⟩,
   ⟨1983, 1987, 10, .last .sunday, .midnight, 0⟩, ⟨1988, 1997, 4, .onOrAfter .sunday 1, .standard 1 0, 60⟩,
   ⟨1988, 1997, 10, .last .sunday, .standard 1 0, 0⟩, ⟨2005, 2006, 4, .onOrAfter .sunday 1, .midnight, 60⟩,
   ⟨2005, 2006, 10, .last .sunday, .midnight, 0⟩, ⟨2012, 2015, 3, .onOrAfter .sunday 8, .wall 2 0, 60⟩,
   ⟨2012, 2015, 11, .onOrAfter .sunday 1, .wall 2 0, 0⟩, ⟨2017, 2099, 3, .onOrAfter .sunday 8, .wall 2 0, 60⟩,
   ⟨2017, 2099, 11, .onOrAfter .sunday 1, .wall 2 0, 0⟩]

/-- Summer time in Honduras, from 1987 to 2006. -/
def honduras : List SavingRule :=
  [⟨1987, 1988, 5, .onOrAfter .sunday 1, .midnight, 60⟩, ⟨1987, 1988, 9, .last .sunday, .midnight, 0⟩,
   ⟨2006, 2006, 5, .onOrAfter .sunday 1, .midnight, 60⟩, ⟨2006, 2006, 8, .onOrAfter .monday 1, .midnight, 0⟩]

/-- Summer time in Nicaragua, from 1979 to 2006. -/
def nicaragua : List SavingRule :=
  [⟨1979, 1980, 3, .onOrAfter .sunday 16, .midnight, 60⟩, ⟨1979, 1980, 6, .onOrAfter .monday 23, .midnight, 0⟩,
   ⟨2005, 2005, 4, .on 10, .midnight, 60⟩, ⟨2005, 2005, 10, .onOrAfter .sunday 1, .midnight, 0⟩,
   ⟨2006, 2006, 4, .on 30, .wall 2 0, 60⟩, ⟨2006, 2006, 10, .onOrAfter .sunday 1, .wall 1 0, 0⟩]

end SecretRotation.SavingRules
