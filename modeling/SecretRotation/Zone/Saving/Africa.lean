import SecretRotation.Zone.Saving

/-!
# Saving rules of Africa

Summer time in the states of Africa. Each rule has its first and last year, the month, the day and the time of its
switch, and the minutes that clocks are ahead from then on.
-/

namespace SecretRotation.SavingRules

/-- Summer time in Algeria, from 1916 to 1980. -/
def algeria : List SavingRule :=
  [⟨1916, 1916, 6, .on 14, .standard 23 0, 60⟩, ⟨1916, 1919, 10, .onOrAfter .sunday 1, .standard 23 0, 0⟩,
   ⟨1917, 1917, 3, .on 24, .standard 23 0, 60⟩, ⟨1918, 1918, 3, .on 9, .standard 23 0, 60⟩,
   ⟨1919, 1919, 3, .on 1, .standard 23 0, 60⟩, ⟨1920, 1920, 2, .on 14, .standard 23 0, 60⟩,
   ⟨1920, 1920, 10, .on 23, .standard 23 0, 0⟩, ⟨1921, 1921, 3, .on 14, .standard 23 0, 60⟩,
   ⟨1921, 1921, 6, .on 21, .standard 23 0, 0⟩, ⟨1939, 1939, 9, .on 11, .standard 23 0, 60⟩,
   ⟨1939, 1939, 11, .on 19, .wall 1 0, 0⟩, ⟨1944, 1945, 4, .onOrAfter .monday 1, .wall 2 0, 60⟩,
   ⟨1944, 1944, 10, .on 8, .wall 2 0, 0⟩, ⟨1945, 1945, 9, .on 16, .wall 1 0, 0⟩,
   ⟨1971, 1971, 4, .on 25, .standard 23 0, 60⟩, ⟨1971, 1971, 9, .on 26, .standard 23 0, 0⟩,
   ⟨1977, 1977, 5, .on 6, .midnight, 60⟩, ⟨1977, 1977, 10, .on 21, .midnight, 0⟩,
   ⟨1978, 1978, 3, .on 24, .wall 1 0, 60⟩, ⟨1978, 1978, 9, .on 22, .wall 3 0, 0⟩,
   ⟨1980, 1980, 4, .on 25, .midnight, 60⟩, ⟨1980, 1980, 10, .on 31, .wall 2 0, 0⟩]

/-- Summer time in Egypt, since 1940. -/
def egypt : List SavingRule :=
  [⟨1940, 1940, 7, .on 15, .midnight, 60⟩, ⟨1940, 1940, 10, .on 1, .midnight, 0⟩,
   ⟨1941, 1941, 4, .on 15, .midnight, 60⟩, ⟨1941, 1941, 9, .on 16, .midnight, 0⟩,
   ⟨1942, 1944, 4, .on 1, .midnight, 60⟩, ⟨1942, 1942, 10, .on 27, .midnight, 0⟩,
   ⟨1943, 1945, 11, .on 1, .midnight, 0⟩, ⟨1945, 1945, 4, .on 16, .midnight, 60⟩,
   ⟨1957, 1957, 5, .on 10, .midnight, 60⟩, ⟨1957, 1958, 10, .on 1, .midnight, 0⟩,
   ⟨1958, 1958, 5, .on 1, .midnight, 60⟩, ⟨1959, 1981, 5, .on 1, .wall 1 0, 60⟩, ⟨1959, 1965, 9, .on 30, .wall 3 0, 0⟩,
   ⟨1966, 1994, 10, .on 1, .wall 3 0, 0⟩, ⟨1982, 1982, 7, .on 25, .wall 1 0, 60⟩,
   ⟨1983, 1983, 7, .on 12, .wall 1 0, 60⟩, ⟨1984, 1988, 5, .on 1, .wall 1 0, 60⟩,
   ⟨1989, 1989, 5, .on 6, .wall 1 0, 60⟩, ⟨1990, 1994, 5, .on 1, .wall 1 0, 60⟩,
   ⟨1995, 2010, 4, .last .friday, .standard 0 0, 60⟩, ⟨1995, 2005, 9, .last .thursday, .wall 24 0, 0⟩,
   ⟨2006, 2006, 9, .on 21, .wall 24 0, 0⟩, ⟨2007, 2007, 9, .onOrAfter .thursday 1, .wall 24 0, 0⟩,
   ⟨2008, 2008, 8, .last .thursday, .wall 24 0, 0⟩, ⟨2009, 2009, 8, .on 20, .wall 24 0, 0⟩,
   ⟨2010, 2010, 8, .on 10, .wall 24 0, 0⟩, ⟨2010, 2010, 9, .on 9, .wall 24 0, 60⟩,
   ⟨2010, 2010, 9, .last .thursday, .wall 24 0, 0⟩, ⟨2014, 2014, 5, .on 15, .wall 24 0, 60⟩,
   ⟨2014, 2014, 6, .on 26, .wall 24 0, 0⟩, ⟨2014, 2014, 7, .on 31, .wall 24 0, 60⟩,
   ⟨2014, 2014, 9, .last .thursday, .wall 24 0, 0⟩, ⟨2023, 2099, 4, .last .friday, .midnight, 60⟩,
   ⟨2023, 2099, 10, .last .thursday, .wall 24 0, 0⟩]

/-- Summer time in Libya, from 1951 to 2013. -/
def libya : List SavingRule :=
  [⟨1951, 1951, 10, .on 14, .wall 2 0, 60⟩, ⟨1952, 1952, 1, .on 1, .midnight, 0⟩,
   ⟨1953, 1953, 10, .on 9, .wall 2 0, 60⟩, ⟨1954, 1954, 1, .on 1, .midnight, 0⟩,
   ⟨1955, 1955, 9, .on 30, .midnight, 60⟩, ⟨1956, 1956, 1, .on 1, .midnight, 0⟩, ⟨1982, 1984, 4, .on 1, .midnight, 60⟩,
   ⟨1982, 1985, 10, .on 1, .midnight, 0⟩, ⟨1985, 1985, 4, .on 6, .midnight, 60⟩, ⟨1986, 1986, 4, .on 4, .midnight, 60⟩,
   ⟨1986, 1986, 10, .on 3, .midnight, 0⟩, ⟨1987, 1989, 4, .on 1, .midnight, 60⟩, ⟨1987, 1989, 10, .on 1, .midnight, 0⟩,
   ⟨1997, 1997, 4, .on 4, .midnight, 60⟩, ⟨1997, 1997, 10, .on 4, .midnight, 0⟩,
   ⟨2013, 2013, 3, .last .friday, .wall 1 0, 60⟩, ⟨2013, 2013, 10, .last .friday, .wall 2 0, 0⟩]

/-- Summer time in Mauritius, from 1982 to 2009. -/
def mauritius : List SavingRule :=
  [⟨1982, 1982, 10, .on 10, .midnight, 60⟩, ⟨1983, 1983, 3, .on 21, .midnight, 0⟩,
   ⟨2008, 2008, 10, .last .sunday, .wall 2 0, 60⟩, ⟨2009, 2009, 3, .last .sunday, .wall 2 0, 0⟩]

/-- Summer time in Morocco, from 1939 to 2087. -/
def morocco : List SavingRule :=
  [⟨1939, 1939, 9, .on 12, .midnight, 60⟩, ⟨1939, 1939, 11, .on 19, .midnight, 0⟩,
   ⟨1940, 1940, 2, .on 25, .midnight, 60⟩, ⟨1945, 1945, 11, .on 18, .midnight, 0⟩,
   ⟨1950, 1950, 6, .on 11, .midnight, 60⟩, ⟨1950, 1950, 10, .on 29, .midnight, 0⟩,
   ⟨1967, 1967, 6, .on 3, .wall 12 0, 60⟩, ⟨1967, 1967, 10, .on 1, .midnight, 0⟩,
   ⟨1974, 1974, 6, .on 24, .midnight, 60⟩, ⟨1974, 1974, 9, .on 1, .midnight, 0⟩, ⟨1976, 1977, 5, .on 1, .midnight, 60⟩,
   ⟨1976, 1976, 8, .on 1, .midnight, 0⟩, ⟨1977, 1977, 9, .on 28, .midnight, 0⟩, ⟨1978, 1978, 6, .on 1, .midnight, 60⟩,
   ⟨1978, 1978, 8, .on 4, .midnight, 0⟩, ⟨2008, 2008, 6, .on 1, .midnight, 60⟩, ⟨2008, 2008, 9, .on 1, .midnight, 0⟩,
   ⟨2009, 2009, 6, .on 1, .midnight, 60⟩, ⟨2009, 2009, 8, .on 21, .midnight, 0⟩, ⟨2010, 2010, 5, .on 2, .midnight, 60⟩,
   ⟨2010, 2010, 8, .on 8, .midnight, 0⟩, ⟨2011, 2011, 4, .on 3, .midnight, 60⟩, ⟨2011, 2011, 7, .on 31, .midnight, 0⟩,
   ⟨2012, 2013, 4, .last .sunday, .wall 2 0, 60⟩, ⟨2012, 2012, 7, .on 20, .wall 3 0, 0⟩,
   ⟨2012, 2012, 8, .on 20, .wall 2 0, 60⟩, ⟨2012, 2012, 9, .on 30, .wall 3 0, 0⟩, ⟨2013, 2013, 7, .on 7, .wall 3 0, 0⟩,
   ⟨2013, 2013, 8, .on 10, .wall 2 0, 60⟩, ⟨2013, 2017, 10, .last .sunday, .wall 3 0, 0⟩,
   ⟨2014, 2018, 3, .last .sunday, .wall 2 0, 60⟩, ⟨2014, 2014, 6, .on 28, .wall 3 0, 0⟩,
   ⟨2014, 2014, 8, .on 2, .wall 2 0, 60⟩, ⟨2015, 2015, 6, .on 14, .wall 3 0, 0⟩,
   ⟨2015, 2015, 7, .on 19, .wall 2 0, 60⟩, ⟨2016, 2016, 6, .on 5, .wall 3 0, 0⟩,
   ⟨2016, 2016, 7, .on 10, .wall 2 0, 60⟩, ⟨2017, 2017, 5, .on 21, .wall 3 0, 0⟩,
   ⟨2017, 2017, 7, .on 2, .wall 2 0, 60⟩, ⟨2018, 2018, 5, .on 13, .wall 3 0, 0⟩,
   ⟨2018, 2018, 6, .on 17, .wall 2 0, 60⟩, ⟨2019, 2019, 5, .on 5, .wall 3 0, 0⟩, ⟨2019, 2019, 6, .on 9, .wall 2 0, 60⟩,
   ⟨2020, 2020, 4, .on 19, .wall 3 0, 0⟩, ⟨2020, 2020, 5, .on 31, .wall 2 0, 60⟩,
   ⟨2021, 2021, 4, .on 11, .wall 3 0, 0⟩, ⟨2021, 2021, 5, .on 16, .wall 2 0, 60⟩,
   ⟨2022, 2022, 3, .on 27, .wall 3 0, 0⟩, ⟨2022, 2022, 5, .on 8, .wall 2 0, 60⟩, ⟨2023, 2023, 3, .on 19, .wall 3 0, 0⟩,
   ⟨2023, 2023, 4, .on 23, .wall 2 0, 60⟩, ⟨2024, 2024, 3, .on 10, .wall 3 0, 0⟩,
   ⟨2024, 2024, 4, .on 14, .wall 2 0, 60⟩, ⟨2025, 2025, 2, .on 23, .wall 3 0, 0⟩,
   ⟨2025, 2025, 4, .on 6, .wall 2 0, 60⟩, ⟨2026, 2026, 2, .on 15, .wall 3 0, 0⟩,
   ⟨2026, 2026, 3, .on 22, .wall 2 0, 60⟩, ⟨2027, 2027, 2, .on 7, .wall 3 0, 0⟩,
   ⟨2027, 2027, 3, .on 14, .wall 2 0, 60⟩, ⟨2028, 2028, 1, .on 23, .wall 3 0, 0⟩,
   ⟨2028, 2028, 3, .on 5, .wall 2 0, 60⟩, ⟨2029, 2029, 1, .on 14, .wall 3 0, 0⟩,
   ⟨2029, 2029, 2, .on 18, .wall 2 0, 60⟩, ⟨2029, 2029, 12, .on 30, .wall 3 0, 0⟩,
   ⟨2030, 2030, 2, .on 10, .wall 2 0, 60⟩, ⟨2030, 2030, 12, .on 22, .wall 3 0, 0⟩,
   ⟨2031, 2031, 1, .on 26, .wall 2 0, 60⟩, ⟨2031, 2031, 12, .on 14, .wall 3 0, 0⟩,
   ⟨2032, 2032, 1, .on 18, .wall 2 0, 60⟩, ⟨2032, 2032, 11, .on 28, .wall 3 0, 0⟩,
   ⟨2033, 2033, 1, .on 9, .wall 2 0, 60⟩, ⟨2033, 2033, 11, .on 20, .wall 3 0, 0⟩,
   ⟨2033, 2033, 12, .on 25, .wall 2 0, 60⟩, ⟨2034, 2034, 11, .on 5, .wall 3 0, 0⟩,
   ⟨2034, 2034, 12, .on 17, .wall 2 0, 60⟩, ⟨2035, 2035, 10, .on 28, .wall 3 0, 0⟩,
   ⟨2035, 2035, 12, .on 9, .wall 2 0, 60⟩, ⟨2036, 2036, 10, .on 19, .wall 3 0, 0⟩,
   ⟨2036, 2036, 11, .on 23, .wall 2 0, 60⟩, ⟨2037, 2037, 10, .on 4, .wall 3 0, 0⟩,
   ⟨2037, 2037, 11, .on 15, .wall 2 0, 60⟩, ⟨2038, 2038, 9, .on 26, .wall 3 0, 0⟩,
   ⟨2038, 2038, 10, .on 31, .wall 2 0, 60⟩, ⟨2039, 2039, 9, .on 18, .wall 3 0, 0⟩,
   ⟨2039, 2039, 10, .on 23, .wall 2 0, 60⟩, ⟨2040, 2040, 9, .on 2, .wall 3 0, 0⟩,
   ⟨2040, 2040, 10, .on 14, .wall 2 0, 60⟩, ⟨2041, 2041, 8, .on 25, .wall 3 0, 0⟩,
   ⟨2041, 2041, 9, .on 29, .wall 2 0, 60⟩, ⟨2042, 2042, 8, .on 10, .wall 3 0, 0⟩,
   ⟨2042, 2042, 9, .on 21, .wall 2 0, 60⟩, ⟨2043, 2043, 8, .on 2, .wall 3 0, 0⟩,
   ⟨2043, 2043, 9, .on 13, .wall 2 0, 60⟩, ⟨2044, 2044, 7, .on 24, .wall 3 0, 0⟩,
   ⟨2044, 2044, 8, .on 28, .wall 2 0, 60⟩, ⟨2045, 2045, 7, .on 9, .wall 3 0, 0⟩,
   ⟨2045, 2045, 8, .on 20, .wall 2 0, 60⟩, ⟨2046, 2046, 7, .on 1, .wall 3 0, 0⟩, ⟨2046, 2046, 8, .on 5, .wall 2 0, 60⟩,
   ⟨2047, 2047, 6, .on 23, .wall 3 0, 0⟩, ⟨2047, 2047, 7, .on 28, .wall 2 0, 60⟩, ⟨2048, 2048, 6, .on 7, .wall 3 0, 0⟩,
   ⟨2048, 2048, 7, .on 19, .wall 2 0, 60⟩, ⟨2049, 2049, 5, .on 30, .wall 3 0, 0⟩,
   ⟨2049, 2049, 7, .on 4, .wall 2 0, 60⟩, ⟨2050, 2050, 5, .on 15, .wall 3 0, 0⟩,
   ⟨2050, 2050, 6, .on 26, .wall 2 0, 60⟩, ⟨2051, 2051, 5, .on 7, .wall 3 0, 0⟩,
   ⟨2051, 2051, 6, .on 18, .wall 2 0, 60⟩, ⟨2052, 2052, 4, .on 28, .wall 3 0, 0⟩,
   ⟨2052, 2052, 6, .on 2, .wall 2 0, 60⟩, ⟨2053, 2053, 4, .on 13, .wall 3 0, 0⟩,
   ⟨2053, 2053, 5, .on 25, .wall 2 0, 60⟩, ⟨2054, 2054, 4, .on 5, .wall 3 0, 0⟩,
   ⟨2054, 2054, 5, .on 10, .wall 2 0, 60⟩, ⟨2055, 2055, 3, .on 28, .wall 3 0, 0⟩,
   ⟨2055, 2055, 5, .on 2, .wall 2 0, 60⟩, ⟨2056, 2056, 3, .on 12, .wall 3 0, 0⟩,
   ⟨2056, 2056, 4, .on 23, .wall 2 0, 60⟩, ⟨2057, 2057, 3, .on 4, .wall 3 0, 0⟩, ⟨2057, 2057, 4, .on 8, .wall 2 0, 60⟩,
   ⟨2058, 2058, 2, .on 17, .wall 3 0, 0⟩, ⟨2058, 2058, 3, .on 31, .wall 2 0, 60⟩, ⟨2059, 2059, 2, .on 9, .wall 3 0, 0⟩,
   ⟨2059, 2059, 3, .on 23, .wall 2 0, 60⟩, ⟨2060, 2060, 2, .on 1, .wall 3 0, 0⟩, ⟨2060, 2060, 3, .on 7, .wall 2 0, 60⟩,
   ⟨2061, 2061, 1, .on 16, .wall 3 0, 0⟩, ⟨2061, 2061, 2, .on 27, .wall 2 0, 60⟩, ⟨2062, 2062, 1, .on 8, .wall 3 0, 0⟩,
   ⟨2062, 2062, 2, .on 12, .wall 2 0, 60⟩, ⟨2062, 2062, 12, .on 31, .wall 3 0, 0⟩,
   ⟨2063, 2063, 2, .on 4, .wall 2 0, 60⟩, ⟨2063, 2063, 12, .on 16, .wall 3 0, 0⟩,
   ⟨2064, 2064, 1, .on 27, .wall 2 0, 60⟩, ⟨2064, 2064, 12, .on 7, .wall 3 0, 0⟩,
   ⟨2065, 2065, 1, .on 11, .wall 2 0, 60⟩, ⟨2065, 2065, 11, .on 22, .wall 3 0, 0⟩,
   ⟨2066, 2066, 1, .on 3, .wall 2 0, 60⟩, ⟨2066, 2066, 11, .on 14, .wall 3 0, 0⟩,
   ⟨2066, 2066, 12, .on 26, .wall 2 0, 60⟩, ⟨2067, 2067, 11, .on 6, .wall 3 0, 0⟩,
   ⟨2067, 2067, 12, .on 11, .wall 2 0, 60⟩, ⟨2068, 2068, 10, .on 21, .wall 3 0, 0⟩,
   ⟨2068, 2068, 12, .on 2, .wall 2 0, 60⟩, ⟨2069, 2069, 10, .on 13, .wall 3 0, 0⟩,
   ⟨2069, 2069, 11, .on 17, .wall 2 0, 60⟩, ⟨2070, 2070, 10, .on 5, .wall 3 0, 0⟩,
   ⟨2070, 2070, 11, .on 9, .wall 2 0, 60⟩, ⟨2071, 2071, 9, .on 20, .wall 3 0, 0⟩,
   ⟨2071, 2071, 11, .on 1, .wall 2 0, 60⟩, ⟨2072, 2072, 9, .on 11, .wall 3 0, 0⟩,
   ⟨2072, 2072, 10, .on 16, .wall 2 0, 60⟩, ⟨2073, 2073, 8, .on 27, .wall 3 0, 0⟩,
   ⟨2073, 2073, 10, .on 8, .wall 2 0, 60⟩, ⟨2074, 2074, 8, .on 19, .wall 3 0, 0⟩,
   ⟨2074, 2074, 9, .on 30, .wall 2 0, 60⟩, ⟨2075, 2075, 8, .on 11, .wall 3 0, 0⟩,
   ⟨2075, 2075, 9, .on 15, .wall 2 0, 60⟩, ⟨2076, 2076, 7, .on 26, .wall 3 0, 0⟩,
   ⟨2076, 2076, 9, .on 6, .wall 2 0, 60⟩, ⟨2077, 2077, 7, .on 18, .wall 3 0, 0⟩,
   ⟨2077, 2077, 8, .on 22, .wall 2 0, 60⟩, ⟨2078, 2078, 7, .on 10, .wall 3 0, 0⟩,
   ⟨2078, 2078, 8, .on 14, .wall 2 0, 60⟩, ⟨2079, 2079, 6, .on 25, .wall 3 0, 0⟩,
   ⟨2079, 2079, 8, .on 6, .wall 2 0, 60⟩, ⟨2080, 2080, 6, .on 16, .wall 3 0, 0⟩,
   ⟨2080, 2080, 7, .on 21, .wall 2 0, 60⟩, ⟨2081, 2081, 6, .on 1, .wall 3 0, 0⟩,
   ⟨2081, 2081, 7, .on 13, .wall 2 0, 60⟩, ⟨2082, 2082, 5, .on 24, .wall 3 0, 0⟩,
   ⟨2082, 2082, 6, .on 28, .wall 2 0, 60⟩, ⟨2083, 2083, 5, .on 16, .wall 3 0, 0⟩,
   ⟨2083, 2083, 6, .on 20, .wall 2 0, 60⟩, ⟨2084, 2084, 4, .on 30, .wall 3 0, 0⟩,
   ⟨2084, 2084, 6, .on 11, .wall 2 0, 60⟩, ⟨2085, 2085, 4, .on 22, .wall 3 0, 0⟩,
   ⟨2085, 2085, 5, .on 27, .wall 2 0, 60⟩, ⟨2086, 2086, 4, .on 14, .wall 3 0, 0⟩,
   ⟨2086, 2086, 5, .on 19, .wall 2 0, 60⟩, ⟨2087, 2087, 3, .on 30, .wall 3 0, 0⟩,
   ⟨2087, 2087, 5, .on 11, .wall 2 0, 60⟩]

/-- Summer time in Namibia, from 1994 to 2017. -/
def namibia : List SavingRule :=
  [⟨1994, 1994, 3, .on 21, .midnight, 0⟩, ⟨1994, 2017, 9, .onOrAfter .sunday 1, .wall 2 0, 60⟩,
   ⟨1995, 2017, 4, .onOrAfter .sunday 1, .wall 2 0, 0⟩]

/-- Summer time in South Africa, from 1942 to 1944. -/
def southAfrica : List SavingRule :=
  [⟨1942, 1943, 9, .onOrAfter .sunday 15, .wall 2 0, 60⟩, ⟨1943, 1944, 3, .onOrAfter .sunday 15, .wall 2 0, 0⟩]

/-- Summer time in the Sudan, from 1970 to 1985. -/
def sudan : List SavingRule :=
  [⟨1970, 1970, 5, .on 1, .midnight, 60⟩, ⟨1970, 1985, 10, .on 15, .midnight, 0⟩,
   ⟨1971, 1971, 4, .on 30, .midnight, 60⟩, ⟨1972, 1985, 4, .last .sunday, .midnight, 60⟩]

/-- Summer time in Tunisia, from 1939 to 2008. -/
def tunisia : List SavingRule :=
  [⟨1939, 1939, 4, .on 15, .standard 23 0, 60⟩, ⟨1939, 1939, 11, .on 18, .standard 23 0, 0⟩,
   ⟨1940, 1940, 2, .on 25, .standard 23 0, 60⟩, ⟨1941, 1941, 10, .on 6, .midnight, 0⟩,
   ⟨1942, 1942, 3, .on 9, .midnight, 60⟩, ⟨1942, 1942, 11, .on 2, .wall 3 0, 0⟩,
   ⟨1943, 1943, 3, .on 29, .wall 2 0, 60⟩, ⟨1943, 1943, 4, .on 17, .wall 2 0, 0⟩,
   ⟨1943, 1943, 4, .on 25, .wall 2 0, 60⟩, ⟨1943, 1943, 10, .on 4, .wall 2 0, 0⟩,
   ⟨1944, 1945, 4, .onOrAfter .monday 1, .wall 2 0, 60⟩, ⟨1944, 1944, 10, .on 8, .midnight, 0⟩,
   ⟨1945, 1945, 9, .on 16, .midnight, 0⟩, ⟨1977, 1977, 4, .on 30, .standard 0 0, 60⟩,
   ⟨1977, 1977, 9, .on 24, .standard 0 0, 0⟩, ⟨1978, 1978, 5, .on 1, .standard 0 0, 60⟩,
   ⟨1978, 1978, 10, .on 1, .standard 0 0, 0⟩, ⟨1988, 1988, 6, .on 1, .standard 0 0, 60⟩,
   ⟨1988, 1990, 9, .last .sunday, .standard 0 0, 0⟩, ⟨1989, 1989, 3, .on 26, .standard 0 0, 60⟩,
   ⟨1990, 1990, 5, .on 1, .standard 0 0, 60⟩, ⟨2005, 2005, 5, .on 1, .standard 0 0, 60⟩,
   ⟨2005, 2005, 9, .on 30, .standard 1 0, 0⟩, ⟨2006, 2008, 3, .last .sunday, .standard 2 0, 60⟩,
   ⟨2006, 2008, 10, .last .sunday, .standard 2 0, 0⟩]

end SecretRotation.SavingRules
