import SecretRotation.Zone.Saving

/-!
# Saving rules of South America

Summer time in the states of South America. Each rule has its first and last year, the month, the day and the time of
its switch, and the minutes that clocks are ahead from then on.
-/

namespace SecretRotation.SavingRules

/-- Summer time in Argentina, from 1930 to 2009. -/
def argentina : List SavingRule :=
  [⟨1930, 1930, 12, .on 1, .midnight, 60⟩, ⟨1931, 1931, 4, .on 1, .midnight, 0⟩,
   ⟨1931, 1931, 10, .on 15, .midnight, 60⟩, ⟨1932, 1940, 3, .on 1, .midnight, 0⟩,
   ⟨1932, 1939, 11, .on 1, .midnight, 60⟩, ⟨1940, 1940, 7, .on 1, .midnight, 60⟩,
   ⟨1941, 1941, 6, .on 15, .midnight, 0⟩, ⟨1941, 1941, 10, .on 15, .midnight, 60⟩,
   ⟨1943, 1943, 8, .on 1, .midnight, 0⟩, ⟨1943, 1943, 10, .on 15, .midnight, 60⟩, ⟨1946, 1946, 3, .on 1, .midnight, 0⟩,
   ⟨1946, 1946, 10, .on 1, .midnight, 60⟩, ⟨1963, 1963, 10, .on 1, .midnight, 0⟩,
   ⟨1963, 1963, 12, .on 15, .midnight, 60⟩, ⟨1964, 1966, 3, .on 1, .midnight, 0⟩,
   ⟨1964, 1966, 10, .on 15, .midnight, 60⟩, ⟨1967, 1967, 4, .on 2, .midnight, 0⟩,
   ⟨1967, 1968, 10, .onOrAfter .sunday 1, .midnight, 60⟩, ⟨1968, 1969, 4, .onOrAfter .sunday 1, .midnight, 0⟩,
   ⟨1974, 1974, 1, .on 23, .midnight, 60⟩, ⟨1974, 1974, 5, .on 1, .midnight, 0⟩,
   ⟨1988, 1988, 12, .on 1, .midnight, 60⟩, ⟨1989, 1993, 3, .onOrAfter .sunday 1, .midnight, 0⟩,
   ⟨1989, 1992, 10, .onOrAfter .sunday 15, .midnight, 60⟩, ⟨1999, 1999, 10, .onOrAfter .sunday 1, .midnight, 60⟩,
   ⟨2000, 2000, 3, .on 3, .midnight, 0⟩, ⟨2007, 2007, 12, .on 30, .midnight, 60⟩,
   ⟨2008, 2009, 3, .onOrAfter .sunday 15, .midnight, 0⟩, ⟨2008, 2008, 10, .onOrAfter .sunday 15, .midnight, 60⟩]

/-- Summer time in San Luis, from 2007 to 2009. -/
def sanLuis : List SavingRule :=
  [⟨2008, 2009, 3, .onOrAfter .sunday 8, .midnight, 0⟩, ⟨2007, 2008, 10, .onOrAfter .sunday 8, .midnight, 60⟩]

/-- Summer time in Brazil, from 1931 to 2019. -/
def brazil : List SavingRule :=
  [⟨1931, 1931, 10, .on 3, .wall 11 0, 60⟩, ⟨1932, 1933, 4, .on 1, .midnight, 0⟩,
   ⟨1932, 1932, 10, .on 3, .midnight, 60⟩, ⟨1949, 1952, 12, .on 1, .midnight, 60⟩,
   ⟨1950, 1950, 4, .on 16, .wall 1 0, 0⟩, ⟨1951, 1952, 4, .on 1, .midnight, 0⟩, ⟨1953, 1953, 3, .on 1, .midnight, 0⟩,
   ⟨1963, 1963, 12, .on 9, .midnight, 60⟩, ⟨1964, 1964, 3, .on 1, .midnight, 0⟩,
   ⟨1965, 1965, 1, .on 31, .midnight, 60⟩, ⟨1965, 1965, 3, .on 31, .midnight, 0⟩,
   ⟨1965, 1965, 12, .on 1, .midnight, 60⟩, ⟨1966, 1968, 3, .on 1, .midnight, 0⟩,
   ⟨1966, 1967, 11, .on 1, .midnight, 60⟩, ⟨1985, 1985, 11, .on 2, .midnight, 60⟩,
   ⟨1986, 1986, 3, .on 15, .midnight, 0⟩, ⟨1986, 1986, 10, .on 25, .midnight, 60⟩,
   ⟨1987, 1987, 2, .on 14, .midnight, 0⟩, ⟨1987, 1987, 10, .on 25, .midnight, 60⟩,
   ⟨1988, 1988, 2, .on 7, .midnight, 0⟩, ⟨1988, 1988, 10, .on 16, .midnight, 60⟩,
   ⟨1989, 1989, 1, .on 29, .midnight, 0⟩, ⟨1989, 1989, 10, .on 15, .midnight, 60⟩,
   ⟨1990, 1990, 2, .on 11, .midnight, 0⟩, ⟨1990, 1990, 10, .on 21, .midnight, 60⟩,
   ⟨1991, 1991, 2, .on 17, .midnight, 0⟩, ⟨1991, 1991, 10, .on 20, .midnight, 60⟩,
   ⟨1992, 1992, 2, .on 9, .midnight, 0⟩, ⟨1992, 1992, 10, .on 25, .midnight, 60⟩,
   ⟨1993, 1993, 1, .on 31, .midnight, 0⟩, ⟨1993, 1995, 10, .onOrAfter .sunday 11, .midnight, 60⟩,
   ⟨1994, 1995, 2, .onOrAfter .sunday 15, .midnight, 0⟩, ⟨1996, 1996, 2, .on 11, .midnight, 0⟩,
   ⟨1996, 1996, 10, .on 6, .midnight, 60⟩, ⟨1997, 1997, 2, .on 16, .midnight, 0⟩,
   ⟨1997, 1997, 10, .on 6, .midnight, 60⟩, ⟨1998, 1998, 3, .on 1, .midnight, 0⟩,
   ⟨1998, 1998, 10, .on 11, .midnight, 60⟩, ⟨1999, 1999, 2, .on 21, .midnight, 0⟩,
   ⟨1999, 1999, 10, .on 3, .midnight, 60⟩, ⟨2000, 2000, 2, .on 27, .midnight, 0⟩,
   ⟨2000, 2001, 10, .onOrAfter .sunday 8, .midnight, 60⟩, ⟨2001, 2006, 2, .onOrAfter .sunday 15, .midnight, 0⟩,
   ⟨2002, 2002, 11, .on 3, .midnight, 60⟩, ⟨2003, 2003, 10, .on 19, .midnight, 60⟩,
   ⟨2004, 2004, 11, .on 2, .midnight, 60⟩, ⟨2005, 2005, 10, .on 16, .midnight, 60⟩,
   ⟨2006, 2006, 11, .on 5, .midnight, 60⟩, ⟨2007, 2007, 2, .on 25, .midnight, 0⟩,
   ⟨2007, 2007, 10, .onOrAfter .sunday 8, .midnight, 60⟩, ⟨2008, 2017, 10, .onOrAfter .sunday 15, .midnight, 60⟩,
   ⟨2008, 2011, 2, .onOrAfter .sunday 15, .midnight, 0⟩, ⟨2012, 2012, 2, .onOrAfter .sunday 22, .midnight, 0⟩,
   ⟨2013, 2014, 2, .onOrAfter .sunday 15, .midnight, 0⟩, ⟨2015, 2015, 2, .onOrAfter .sunday 22, .midnight, 0⟩,
   ⟨2016, 2019, 2, .onOrAfter .sunday 15, .midnight, 0⟩, ⟨2018, 2018, 11, .onOrAfter .sunday 1, .midnight, 60⟩]

/-- Summer time in Chile, since 1927. -/
def chile : List SavingRule :=
  [⟨1927, 1931, 9, .on 1, .midnight, 60⟩, ⟨1928, 1932, 4, .on 1, .midnight, 0⟩,
   ⟨1968, 1968, 11, .on 3, .universal 4 0, 60⟩, ⟨1969, 1969, 3, .on 30, .universal 3 0, 0⟩,
   ⟨1969, 1969, 11, .on 23, .universal 4 0, 60⟩, ⟨1970, 1970, 3, .on 29, .universal 3 0, 0⟩,
   ⟨1971, 1971, 3, .on 14, .universal 3 0, 0⟩, ⟨1970, 1972, 10, .onOrAfter .sunday 9, .universal 4 0, 60⟩,
   ⟨1972, 1986, 3, .onOrAfter .sunday 9, .universal 3 0, 0⟩, ⟨1973, 1973, 9, .on 30, .universal 4 0, 60⟩,
   ⟨1974, 1987, 10, .onOrAfter .sunday 9, .universal 4 0, 60⟩, ⟨1987, 1987, 4, .on 12, .universal 3 0, 0⟩,
   ⟨1988, 1990, 3, .onOrAfter .sunday 9, .universal 3 0, 0⟩,
   ⟨1988, 1989, 10, .onOrAfter .sunday 9, .universal 4 0, 60⟩, ⟨1990, 1990, 9, .on 16, .universal 4 0, 60⟩,
   ⟨1991, 1996, 3, .onOrAfter .sunday 9, .universal 3 0, 0⟩,
   ⟨1991, 1997, 10, .onOrAfter .sunday 9, .universal 4 0, 60⟩, ⟨1997, 1997, 3, .on 30, .universal 3 0, 0⟩,
   ⟨1998, 1998, 3, .onOrAfter .sunday 9, .universal 3 0, 0⟩, ⟨1998, 1998, 9, .on 27, .universal 4 0, 60⟩,
   ⟨1999, 1999, 4, .on 4, .universal 3 0, 0⟩, ⟨1999, 2010, 10, .onOrAfter .sunday 9, .universal 4 0, 60⟩,
   ⟨2000, 2007, 3, .onOrAfter .sunday 9, .universal 3 0, 0⟩, ⟨2008, 2008, 3, .on 30, .universal 3 0, 0⟩,
   ⟨2009, 2009, 3, .onOrAfter .sunday 9, .universal 3 0, 0⟩, ⟨2010, 2010, 4, .onOrAfter .sunday 1, .universal 3 0, 0⟩,
   ⟨2011, 2011, 5, .onOrAfter .sunday 2, .universal 3 0, 0⟩,
   ⟨2011, 2011, 8, .onOrAfter .sunday 16, .universal 4 0, 60⟩,
   ⟨2012, 2014, 4, .onOrAfter .sunday 23, .universal 3 0, 0⟩,
   ⟨2012, 2014, 9, .onOrAfter .sunday 2, .universal 4 0, 60⟩, ⟨2016, 2018, 5, .onOrAfter .sunday 9, .universal 3 0, 0⟩,
   ⟨2016, 2018, 8, .onOrAfter .sunday 9, .universal 4 0, 60⟩, ⟨2019, 2099, 4, .onOrAfter .sunday 2, .universal 3 0, 0⟩,
   ⟨2019, 2021, 9, .onOrAfter .sunday 2, .universal 4 0, 60⟩,
   ⟨2022, 2022, 9, .onOrAfter .sunday 9, .universal 4 0, 60⟩,
   ⟨2023, 2099, 9, .onOrAfter .sunday 2, .universal 4 0, 60⟩]

/-- Summer time in Colombia, from 1992 to 1993. -/
def colombia : List SavingRule :=
  [⟨1992, 1992, 5, .on 3, .midnight, 60⟩, ⟨1993, 1993, 2, .on 6, .wall 24 0, 0⟩]

/-- Summer time in Ecuador, from 1992 to 1993. -/
def ecuador : List SavingRule :=
  [⟨1992, 1992, 11, .on 28, .midnight, 60⟩, ⟨1993, 1993, 2, .on 5, .midnight, 0⟩]

/-- Summer time in the Falkland Islands, from 1937 to 2010. -/
def falklands : List SavingRule :=
  [⟨1937, 1938, 9, .last .sunday, .midnight, 60⟩, ⟨1938, 1942, 3, .onOrAfter .sunday 19, .midnight, 0⟩,
   ⟨1939, 1939, 10, .on 1, .midnight, 60⟩, ⟨1940, 1942, 9, .last .sunday, .midnight, 60⟩,
   ⟨1943, 1943, 1, .on 1, .midnight, 0⟩, ⟨1983, 1983, 9, .last .sunday, .midnight, 60⟩,
   ⟨1984, 1985, 4, .last .sunday, .midnight, 0⟩, ⟨1984, 1984, 9, .on 16, .midnight, 60⟩,
   ⟨1985, 2000, 9, .onOrAfter .sunday 9, .midnight, 60⟩, ⟨1986, 2000, 4, .onOrAfter .sunday 16, .midnight, 0⟩,
   ⟨2001, 2010, 4, .onOrAfter .sunday 15, .wall 2 0, 0⟩, ⟨2001, 2010, 9, .onOrAfter .sunday 1, .wall 2 0, 60⟩]

/-- Summer time in Paraguay, from 1975 to 2024. -/
def paraguay : List SavingRule :=
  [⟨1975, 1988, 10, .on 1, .midnight, 60⟩, ⟨1975, 1978, 3, .on 1, .midnight, 0⟩, ⟨1979, 1991, 4, .on 1, .midnight, 0⟩,
   ⟨1989, 1989, 10, .on 22, .midnight, 60⟩, ⟨1990, 1990, 10, .on 1, .midnight, 60⟩,
   ⟨1991, 1991, 10, .on 6, .midnight, 60⟩, ⟨1992, 1992, 3, .on 1, .midnight, 0⟩,
   ⟨1992, 1992, 10, .on 5, .midnight, 60⟩, ⟨1993, 1993, 3, .on 31, .midnight, 0⟩,
   ⟨1993, 1995, 10, .on 1, .midnight, 60⟩, ⟨1994, 1995, 2, .last .sunday, .midnight, 0⟩,
   ⟨1996, 1996, 3, .on 1, .midnight, 0⟩, ⟨1996, 2001, 10, .onOrAfter .sunday 1, .midnight, 60⟩,
   ⟨1997, 1997, 2, .last .sunday, .midnight, 0⟩, ⟨1998, 2001, 3, .onOrAfter .sunday 1, .midnight, 0⟩,
   ⟨2002, 2004, 4, .onOrAfter .sunday 1, .midnight, 0⟩, ⟨2002, 2003, 9, .onOrAfter .sunday 1, .midnight, 60⟩,
   ⟨2004, 2009, 10, .onOrAfter .sunday 15, .midnight, 60⟩, ⟨2005, 2009, 3, .onOrAfter .sunday 8, .midnight, 0⟩,
   ⟨2010, 2024, 10, .onOrAfter .sunday 1, .midnight, 60⟩, ⟨2010, 2012, 4, .onOrAfter .sunday 8, .midnight, 0⟩,
   ⟨2013, 2024, 3, .onOrAfter .sunday 22, .midnight, 0⟩]

/-- Summer time in Peru, from 1938 to 1994. -/
def peru : List SavingRule :=
  [⟨1938, 1938, 1, .on 1, .midnight, 60⟩, ⟨1938, 1938, 4, .on 1, .midnight, 0⟩,
   ⟨1938, 1939, 9, .last .sunday, .midnight, 60⟩, ⟨1939, 1940, 3, .onOrAfter .sunday 24, .midnight, 0⟩,
   ⟨1986, 1987, 1, .on 1, .midnight, 60⟩, ⟨1986, 1987, 4, .on 1, .midnight, 0⟩, ⟨1990, 1990, 1, .on 1, .midnight, 60⟩,
   ⟨1990, 1990, 4, .on 1, .midnight, 0⟩, ⟨1994, 1994, 1, .on 1, .midnight, 60⟩, ⟨1994, 1994, 4, .on 1, .midnight, 0⟩]

/-- Summer time in Uruguay, from 1923 to 2015. -/
def uruguay : List SavingRule :=
  [⟨1923, 1925, 10, .on 1, .midnight, 30⟩, ⟨1924, 1926, 4, .on 1, .midnight, 0⟩,
   ⟨1933, 1938, 10, .last .sunday, .midnight, 30⟩, ⟨1934, 1941, 3, .last .saturday, .wall 24 0, 0⟩,
   ⟨1939, 1939, 10, .on 1, .midnight, 30⟩, ⟨1940, 1940, 10, .on 27, .midnight, 30⟩,
   ⟨1941, 1941, 8, .on 1, .midnight, 30⟩, ⟨1942, 1942, 12, .on 14, .midnight, 30⟩,
   ⟨1943, 1943, 3, .on 14, .midnight, 0⟩, ⟨1959, 1959, 5, .on 24, .midnight, 30⟩,
   ⟨1959, 1959, 11, .on 15, .midnight, 0⟩, ⟨1960, 1960, 1, .on 17, .midnight, 60⟩,
   ⟨1960, 1960, 3, .on 6, .midnight, 0⟩, ⟨1965, 1965, 4, .on 4, .midnight, 60⟩, ⟨1965, 1965, 9, .on 26, .midnight, 0⟩,
   ⟨1968, 1968, 5, .on 27, .midnight, 30⟩, ⟨1968, 1968, 12, .on 1, .midnight, 0⟩,
   ⟨1970, 1970, 4, .on 25, .midnight, 60⟩, ⟨1970, 1970, 6, .on 14, .midnight, 0⟩,
   ⟨1972, 1972, 4, .on 23, .midnight, 60⟩, ⟨1972, 1972, 7, .on 16, .midnight, 0⟩,
   ⟨1974, 1974, 1, .on 13, .midnight, 90⟩, ⟨1974, 1974, 3, .on 10, .midnight, 30⟩,
   ⟨1974, 1974, 9, .on 1, .midnight, 0⟩, ⟨1974, 1974, 12, .on 22, .midnight, 60⟩,
   ⟨1975, 1975, 3, .on 30, .midnight, 0⟩, ⟨1976, 1976, 12, .on 19, .midnight, 60⟩,
   ⟨1977, 1977, 3, .on 6, .midnight, 0⟩, ⟨1977, 1977, 12, .on 4, .midnight, 60⟩,
   ⟨1978, 1979, 3, .onOrAfter .sunday 1, .midnight, 0⟩, ⟨1978, 1978, 12, .on 17, .midnight, 60⟩,
   ⟨1979, 1979, 4, .on 29, .midnight, 60⟩, ⟨1980, 1980, 3, .on 16, .midnight, 0⟩,
   ⟨1987, 1987, 12, .on 14, .midnight, 60⟩, ⟨1988, 1988, 2, .on 28, .midnight, 0⟩,
   ⟨1988, 1988, 12, .on 11, .midnight, 60⟩, ⟨1989, 1989, 3, .on 5, .midnight, 0⟩,
   ⟨1989, 1989, 10, .on 29, .midnight, 60⟩, ⟨1990, 1990, 2, .on 25, .midnight, 0⟩,
   ⟨1990, 1991, 10, .onOrAfter .sunday 21, .midnight, 60⟩, ⟨1991, 1992, 3, .onOrAfter .sunday 1, .midnight, 0⟩,
   ⟨1992, 1992, 10, .on 18, .midnight, 60⟩, ⟨1993, 1993, 2, .on 28, .midnight, 0⟩,
   ⟨2004, 2004, 9, .on 19, .midnight, 60⟩, ⟨2005, 2005, 3, .on 27, .wall 2 0, 0⟩,
   ⟨2005, 2005, 10, .on 9, .wall 2 0, 60⟩, ⟨2006, 2015, 3, .onOrAfter .sunday 8, .wall 2 0, 0⟩,
   ⟨2006, 2014, 10, .onOrAfter .sunday 1, .wall 2 0, 60⟩]

end SecretRotation.SavingRules
