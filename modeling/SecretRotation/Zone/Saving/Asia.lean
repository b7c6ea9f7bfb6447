import SecretRotation.Zone.Saving

/-!
# Saving rules of Asia

Summer time in the states and towns of Asia. Each rule has its first and last year, the month, the day and the time of
its switch, and the minutes that clocks are ahead from then on.
-/

namespace SecretRotation.SavingRules

/-- Summer time in Armenia, in 2011. -/
def armenia : List SavingRule :=
  [⟨2011, 2011, 3, .last .sunday, .standard 2 0, 60⟩, ⟨2011, 2011, 10, .last .sunday, .standard 2 0, 0⟩]

/-- Summer time in Azerbaijan, from 1997 to 2015. -/
def azerbaijan : List SavingRule :=
  [⟨1997, 2015, 3, .last .sunday, .wall 4 0, 60⟩, ⟨1997, 2015, 10, .last .sunday, .wall 5 0, 0⟩]

/-- Summer time in Bangladesh, in 2009. -/
def bangladesh : List SavingRule :=
  [⟨2009, 2009, 6, .on 19, .wall 23 0, 60⟩, ⟨2009, 2009, 12, .on 31, .wall 24 0, 0⟩]

/-- Summer time in Shanghai, from 1919 to 1949. -/
def shanghai : List SavingRule :=
  [⟨1919, 1919, 4, .on 12, .wall 24 0, 60⟩, ⟨1919, 1919, 9, .on 30, .wall 24 0, 0⟩,
   ⟨1940, 1940, 6, .on 1, .midnight, 60⟩, ⟨1940, 1940, 10, .on 12, .wall 24 0, 0⟩,
   ⟨1941, 1941, 3, .on 15, .midnight, 60⟩, ⟨1941, 1941, 11, .on 1, .wall 24 0, 0⟩,
   ⟨1942, 1942, 1, .on 31, .midnight, 60⟩, ⟨1945, 1945, 9, .on 1, .wall 24 0, 0⟩,
   ⟨1946, 1946, 5, .on 15, .midnight, 60⟩, ⟨1946, 1946, 9, .on 30, .wall 24 0, 0⟩,
   ⟨1947, 1947, 4, .on 15, .midnight, 60⟩, ⟨1947, 1947, 10, .on 31, .wall 24 0, 0⟩,
   ⟨1948, 1949, 5, .on 1, .midnight, 60⟩, ⟨1948, 1949, 9, .on 30, .wall 24 0, 0⟩]

/-- Summer time in China, from 1986 to 1991. -/
def china : List SavingRule :=
  [⟨1986, 1986, 5, .on 4, .wall 2 0, 60⟩, ⟨1986, 1991, 9, .onOrAfter .sunday 11, .wall 2 0, 0⟩,
   ⟨1987, 1991, 4, .onOrAfter .sunday 11, .wall 2 0, 60⟩]

/-- Summer time in Hong Kong, from 1946 to 1979. -/
def hongKong : List SavingRule :=
  [⟨1946, 1946, 4, .on 21, .midnight, 60⟩, ⟨1946, 1946, 12, .on 1, .standard 3 30, 0⟩,
   ⟨1947, 1947, 4, .on 13, .standard 3 30, 60⟩, ⟨1947, 1947, 11, .on 30, .standard 3 30, 0⟩,
   ⟨1948, 1948, 5, .on 2, .standard 3 30, 60⟩, ⟨1948, 1952, 10, .onOrAfter .sunday 28, .standard 3 30, 0⟩,
   ⟨1949, 1953, 4, .onOrAfter .sunday 1, .wall 3 30, 60⟩, ⟨1953, 1964, 10, .onOrAfter .sunday 31, .wall 3 30, 0⟩,
   ⟨1954, 1964, 3, .onOrAfter .sunday 18, .wall 3 30, 60⟩, ⟨1965, 1976, 4, .onOrAfter .sunday 16, .wall 3 30, 60⟩,
   ⟨1965, 1976, 10, .onOrAfter .sunday 16, .wall 3 30, 0⟩, ⟨1973, 1973, 12, .on 30, .wall 3 30, 60⟩,
   ⟨1979, 1979, 5, .on 13, .wall 3 30, 60⟩, ⟨1979, 1979, 10, .on 21, .wall 3 30, 0⟩]

/-- Summer time in Taiwan, from 1946 to 1979. -/
def taiwan : List SavingRule :=
  [⟨1946, 1946, 5, .on 15, .midnight, 60⟩, ⟨1946, 1946, 10, .on 1, .midnight, 0⟩,
   ⟨1947, 1947, 4, .on 15, .midnight, 60⟩, ⟨1947, 1947, 11, .on 1, .midnight, 0⟩,
   ⟨1948, 1951, 5, .on 1, .midnight, 60⟩, ⟨1948, 1951, 10, .on 1, .midnight, 0⟩, ⟨1952, 1952, 3, .on 1, .midnight, 60⟩,
   ⟨1952, 1954, 11, .on 1, .midnight, 0⟩, ⟨1953, 1959, 4, .on 1, .midnight, 60⟩, ⟨1955, 1961, 10, .on 1, .midnight, 0⟩,
   ⟨1960, 1961, 6, .on 1, .midnight, 60⟩, ⟨1974, 1975, 4, .on 1, .midnight, 60⟩, ⟨1974, 1975, 10, .on 1, .midnight, 0⟩,
   ⟨1979, 1979, 7, .on 1, .midnight, 60⟩, ⟨1979, 1979, 10, .on 1, .midnight, 0⟩]

/-- Summer time in Macau, from 1942 to 1979. -/
def macau : List SavingRule :=
  [⟨1942, 1943, 4, .on 30, .wall 23 0, 60⟩, ⟨1942, 1942, 11, .on 17, .wall 23 0, 0⟩,
   ⟨1943, 1943, 9, .on 30, .wall 23 0, 0⟩, ⟨1946, 1946, 4, .on 30, .standard 23 0, 60⟩,
   ⟨1946, 1946, 9, .on 30, .standard 23 0, 0⟩, ⟨1947, 1947, 4, .on 19, .standard 23 0, 60⟩,
   ⟨1947, 1947, 11, .on 30, .standard 23 0, 0⟩, ⟨1948, 1948, 5, .on 2, .standard 23 0, 60⟩,
   ⟨1948, 1948, 10, .on 31, .standard 23 0, 0⟩, ⟨1949, 1950, 4, .onOrAfter .saturday 1, .standard 23 0, 60⟩,
   ⟨1949, 1950, 10, .last .saturday, .standard 23 0, 0⟩, ⟨1951, 1951, 3, .on 31, .standard 23 0, 60⟩,
   ⟨1951, 1951, 10, .on 28, .standard 23 0, 0⟩, ⟨1952, 1953, 4, .onOrAfter .saturday 1, .standard 23 0, 60⟩,
   ⟨1952, 1952, 11, .on 1, .standard 23 0, 0⟩, ⟨1953, 1954, 10, .last .saturday, .standard 23 0, 0⟩,
   ⟨1954, 1956, 3, .onOrAfter .saturday 17, .standard 23 0, 60⟩, ⟨1955, 1955, 11, .on 5, .standard 23 0, 0⟩,
   ⟨1956, 1964, 11, .onOrAfter .sunday 1, .wall 3 30, 0⟩, ⟨1957, 1964, 3, .onOrAfter .sunday 18, .wall 3 30, 60⟩,
   ⟨1965, 1973, 4, .onOrAfter .sunday 16, .wall 3 30, 60⟩, ⟨1965, 1966, 10, .onOrAfter .sunday 16, .wall 2 30, 0⟩,
   ⟨1967, 1976, 10, .onOrAfter .sunday 16, .wall 3 30, 0⟩, ⟨1973, 1973, 12, .on 30, .wall 3 30, 60⟩,
   ⟨1975, 1976, 4, .onOrAfter .sunday 16, .wall 3 30, 60⟩, ⟨1979, 1979, 5, .on 13, .wall 3 30, 60⟩,
   ⟨1979, 1979, 10, .onOrAfter .sunday 16, .wall 3 30, 0⟩]

/-- Summer time in Cyprus, from 1975 to 1998. -/
def cyprus : List SavingRule :=
  [⟨1975, 1975, 4, .on 13, .midnight, 60⟩, ⟨1975, 1975, 10, .on 12, .midnight, 0⟩,
   ⟨1976, 1976, 5, .on 15, .midnight, 60⟩, ⟨1976, 1976, 10, .on 11, .midnight, 0⟩,
   ⟨1977, 1980, 4, .onOrAfter .sunday 1, .midnight, 60⟩, ⟨1977, 1977, 9, .on 25, .midnight, 0⟩,
   ⟨1978, 1978, 10, .on 2, .midnight, 0⟩, ⟨1979, 1997, 9, .last .sunday, .midnight, 0⟩,
   ⟨1981, 1998, 3, .last .sunday, .midnight, 60⟩]

/-- Summer time in Iran, from 1910 to 2022. -/
def iran : List SavingRule :=
  [⟨1910, 1910, 1, .on 1, .midnight, 0⟩, ⟨1977, 1977, 3, .on 21, .wall 23 0, 60⟩,
   ⟨1977, 1977, 10, .on 20, .wall 24 0, 0⟩, ⟨1978, 1978, 3, .on 24, .wall 24 0, 60⟩,
   ⟨1978, 1978, 8, .on 5, .wall 1 0, 0⟩, ⟨1979, 1979, 5, .on 26, .wall 24 0, 60⟩,
   ⟨1979, 1979, 9, .on 18, .wall 24 0, 0⟩, ⟨1980, 1980, 3, .on 20, .wall 24 0, 60⟩,
   ⟨1980, 1980, 9, .on 22, .wall 24 0, 0⟩, ⟨1991, 1991, 5, .on 2, .wall 24 0, 60⟩,
   ⟨1992, 1995, 3, .on 21, .wall 24 0, 60⟩, ⟨1991, 1995, 9, .on 21, .wall 24 0, 0⟩,
   ⟨1996, 1996, 3, .on 20, .wall 24 0, 60⟩, ⟨1996, 1996, 9, .on 20, .wall 24 0, 0⟩,
   ⟨1997, 1999, 3, .on 21, .wall 24 0, 60⟩, ⟨1997, 1999, 9, .on 21, .wall 24 0, 0⟩,
   ⟨2000, 2000, 3, .on 20, .wall 24 0, 60⟩, ⟨2000, 2000, 9, .on 20, .wall 24 0, 0⟩,
   ⟨2001, 2003, 3, .on 21, .wall 24 0, 60⟩, ⟨2001, 2003, 9, .on 21, .wall 24 0, 0⟩,
   ⟨2004, 2004, 3, .on 20, .wall 24 0, 60⟩, ⟨2004, 2004, 9, .on 20, .wall 24 0, 0⟩,
   ⟨2005, 2005, 3, .on 21, .wall 24 0, 60⟩, ⟨2005, 2005, 9, .on 21, .wall 24 0, 0⟩,
   ⟨2008, 2008, 3, .on 20, .wall 24 0, 60⟩, ⟨2008, 2008, 9, .on 20, .wall 24 0, 0⟩,
   ⟨2009, 2011, 3, .on 21, .wall 24 0, 60⟩, ⟨2009, 2011, 9, .on 21, .wall 24 0, 0⟩,
   ⟨2012, 2012, 3, .on 20, .wall 24 0, 60⟩, ⟨2012, 2012, 9, .on 20, .wall 24 0, 0⟩,
   ⟨2013, 2015, 3, .on 21, .wall 24 0, 60⟩, ⟨2013, 2015, 9, .on 21, .wall 24 0, 0⟩,
   ⟨2016, 2016, 3, .on 20, .wall 24 0, 60⟩, ⟨2016, 2016, 9, .on 20, .wall 24 0, 0⟩,
   ⟨2017, 2019, 3, .on 21, .wall 24 0, 60⟩, ⟨2017, 2019, 9, .on 21, .wall 24 0, 0⟩,
   ⟨2020, 2020, 3, .on 20, .wall 24 0, 60⟩, ⟨2020, 2020, 9, .on 20, .wall 24 0, 0⟩,
   ⟨2021, 2022, 3, .on 21, .wall 24 0, 60⟩, ⟨2021, 2022, 9, .on 21, .wall 24 0, 0⟩]

/-- Summer time in Iraq, from 1982 to 2007. -/
def iraq : List SavingRule :=
  [⟨1982, 1982, 5, .on 1, .midnight, 60⟩, ⟨1982, 1984, 10, .on 1, .midnight, 0⟩,
   ⟨1983, 1983, 3, .on 31, .midnight, 60⟩, ⟨1984, 1985, 4, .on 1, .midnight, 60⟩,
   ⟨1985, 1990, 9, .last .sunday, .standard 1 0, 0⟩, ⟨1986, 1990, 3, .last .sunday, .standard 1 0, 60⟩,
   ⟨1991, 2007, 4, .on 1, .standard 3 0, 60⟩, ⟨1991, 2007, 10, .on 1, .standard 3 0, 0⟩]

/-- Summer time in Israel, since 1940. -/
def israel : List SavingRule :=
  [⟨1940, 1940, 5, .on 31, .universal 24 0, 60⟩, ⟨1940, 1940, 9, .on 30, .universal 24 0, 0⟩,
   ⟨1940, 1940, 11, .on 16, .universal 24 0, 60⟩, ⟨1942, 1946, 10, .on 31, .universal 24 0, 0⟩,
   ⟨1943, 1944, 3, .on 31, .universal 24 0, 60⟩, ⟨1945, 1946, 4, .on 15, .universal 24 0, 60⟩,
   ⟨1948, 1948, 5, .on 22, .universal 24 0, 120⟩, ⟨1948, 1948, 8, .on 31, .universal 24 0, 60⟩,
   ⟨1948, 1949, 10, .on 31, .universal 24 0, 0⟩, ⟨1949, 1949, 4, .on 30, .universal 24 0, 60⟩,
   ⟨1950, 1950, 4, .on 15, .universal 24 0, 60⟩, ⟨1950, 1950, 9, .on 14, .universal 24 0, 0⟩,
   ⟨1951, 1951, 3, .on 31, .universal 24 0, 60⟩, ⟨1951, 1951, 11, .on 10, .universal 24 0, 0⟩,
   ⟨1952, 1952, 4, .on 19, .universal 24 0, 60⟩, ⟨1952, 1952, 10, .on 18, .universal 24 0, 0⟩,
   ⟨1953, 1953, 4, .on 11, .universal 24 0, 60⟩, ⟨1953, 1953, 9, .on 12, .universal 24 0, 0⟩,
   ⟨1954, 1954, 6, .on 12, .universal 24 0, 60⟩, ⟨1954, 1954, 9, .on 11, .universal 24 0, 0⟩,
   ⟨1955, 1955, 6, .on 11, .universal 24 0, 60⟩, ⟨1955, 1955, 9, .on 10, .universal 24 0, 0⟩,
   ⟨1956, 1956, 6, .on 2, .universal 24 0, 60⟩, ⟨1956, 1956, 9, .on 29, .universal 24 0, 0⟩,
   ⟨1957, 1957, 4, .on 27, .universal 24 0, 60⟩, ⟨1957, 1957, 9, .on 21, .universal 24 0, 0⟩,
   ⟨1974, 1974, 7, .on 6, .wall 24 0, 60⟩, ⟨1974, 1974, 10, .on 12, .wall 24 0, 0⟩,
   ⟨1975, 1975, 4, .on 19, .wall 24 0, 60⟩, ⟨1975, 1975, 8, .on 30, .wall 24 0, 0⟩,
   ⟨1980, 1980, 8, .on 2, .standard 24 0, 60⟩, ⟨1980, 1980, 9, .on 13, .standard 24 0, 0⟩,
   ⟨1984, 1984, 5, .on 5, .standard 24 0, 60⟩, ⟨1984, 1984, 8, .on 25, .standard 24 0, 0⟩,
   ⟨1985, 1985, 4, .on 13, .wall 24 0, 60⟩, ⟨1985, 1985, 8, .on 31, .wall 24 0, 0⟩,
   ⟨1986, 1986, 5, .on 17, .wall 24 0, 60⟩, ⟨1986, 1986, 9, .on 6, .wall 24 0, 0⟩,
   ⟨1987, 1987, 4, .on 14, .wall 24 0, 60⟩, ⟨1987, 1987, 9, .on 12, .wall 24 0, 0⟩,
   ⟨1988, 1988, 4, .on 9, .wall 24 0, 60⟩, ⟨1988, 1988, 9, .on 3, .wall 24 0, 0⟩,
   ⟨1989, 1989, 4, .on 29, .wall 24 0, 60⟩, ⟨1989, 1989, 9, .on 2, .wall 24 0, 0⟩,
   ⟨1990, 1990, 3, .on 24, .wall 24 0, 60⟩, ⟨1990, 1990, 8, .on 25, .wall 24 0, 0⟩,
   ⟨1991, 1991, 3, .on 23, .wall 24 0, 60⟩, ⟨1991, 1991, 8, .on 31, .wall 24 0, 0⟩,
   ⟨1992, 1992, 3, .on 28, .wall 24 0, 60⟩, ⟨1992, 1992, 9, .on 5, .wall 24 0, 0⟩,
   ⟨1993, 1993, 4, .on 2, .midnight, 60⟩, ⟨1993, 1993, 9, .on 5, .midnight, 0⟩, ⟨1994, 1994, 4, .on 1, .midnight, 60⟩,
   ⟨1994, 1994, 8, .on 28, .midnight, 0⟩, ⟨1995, 1995, 3, .on 31, .midnight, 60⟩, ⟨1995, 1995, 9, .on 3, .midnight, 0⟩,
   ⟨1996, 1996, 3, .on 14, .wall 24 0, 60⟩, ⟨1996, 1996, 9, .on 15, .wall 24 0, 0⟩,
   ⟨1997, 1997, 3, .on 20, .wall 24 0, 60⟩, ⟨1997, 1997, 9, .on 13, .wall 24 0, 0⟩,
   ⟨1998, 1998, 3, .on 20, .midnight, 60⟩, ⟨1998, 1998, 9, .on 6, .midnight, 0⟩, ⟨1999, 1999, 4, .on 2, .wall 2 0, 60⟩,
   ⟨1999, 1999, 9, .on 3, .wall 2 0, 0⟩, ⟨2000, 2000, 4, .on 14, .wall 2 0, 60⟩, ⟨2000, 2000, 10, .on 6, .wall 1 0, 0⟩,
   ⟨2001, 2001, 4, .on 9, .wall 1 0, 60⟩, ⟨2001, 2001, 9, .on 24, .wall 1 0, 0⟩,
   ⟨2002, 2002, 3, .on 29, .wall 1 0, 60⟩, ⟨2002, 2002, 10, .on 7, .wall 1 0, 0⟩,
   ⟨2003, 2003, 3, .on 28, .wall 1 0, 60⟩, ⟨2003, 2003, 10, .on 3, .wall 1 0, 0⟩,
   ⟨2004, 2004, 4, .on 7, .wall 1 0, 60⟩, ⟨2004, 2004, 9, .on 22, .wall 1 0, 0⟩,
   ⟨2005, 2012, 4, .onOrBefore .friday 1, .wall 2 0, 60⟩, ⟨2005, 2005, 10, .on 9, .wall 2 0, 0⟩,
   ⟨2006, 2006, 10, .on 1, .wall 2 0, 0⟩, ⟨2007, 2007, 9, .on 16, .wall 2 0, 0⟩, ⟨2008, 2008, 10, .on 5, .wall 2 0, 0⟩,
   ⟨2009, 2009, 9, .on 27, .wall 2 0, 0⟩, ⟨2010, 2010, 9, .on 12, .wall 2 0, 0⟩, ⟨2011, 2011, 10, .on 2, .wall 2 0, 0⟩,
   ⟨2012, 2012, 9, .on 23, .wall 2 0, 0⟩, ⟨2013, 2099, 3, .onOrAfter .friday 23, .wall 2 0, 60⟩,
   ⟨2013, 2099, 10, .last .sunday, .wall 2 0, 0⟩]

/-- Summer time in Japan, from 1948 to 1951. -/
def japan : List SavingRule :=
  [⟨1948, 1948, 5, .onOrAfter .saturday 1, .wall 24 0, 60⟩, ⟨1948, 1951, 9, .onOrAfter .sunday 9, .wall 1 0, 0⟩,
   ⟨1949, 1949, 4, .onOrAfter .saturday 1, .wall 24 0, 60⟩, ⟨1950, 1951, 5, .onOrAfter .saturday 1, .wall 24 0, 60⟩]

/-- Summer time in Jordan, from 1973 to 2022. -/
def jordan : List SavingRule :=
  [⟨1973, 1973, 6, .on 6, .midnight, 60⟩, ⟨1973, 1975, 10, .on 1, .midnight, 0⟩, ⟨1974, 1977, 5, .on 1, .midnight, 60⟩,
   ⟨1976, 1976, 11, .on 1, .midnight, 0⟩, ⟨1977, 1977, 10, .on 1, .midnight, 0⟩,
   ⟨1978, 1978, 4, .on 30, .midnight, 60⟩, ⟨1978, 1978, 9, .on 30, .midnight, 0⟩,
   ⟨1985, 1985, 4, .on 1, .midnight, 60⟩, ⟨1985, 1985, 10, .on 1, .midnight, 0⟩,
   ⟨1986, 1988, 4, .onOrAfter .friday 1, .midnight, 60⟩, ⟨1986, 1990, 10, .onOrAfter .friday 1, .midnight, 0⟩,
   ⟨1989, 1989, 5, .on 8, .midnight, 60⟩, ⟨1990, 1990, 4, .on 27, .midnight, 60⟩,
   ⟨1991, 1991, 4, .on 17, .midnight, 60⟩, ⟨1991, 1991, 9, .on 27, .midnight, 0⟩,
   ⟨1992, 1992, 4, .on 10, .midnight, 60⟩, ⟨1992, 1993, 10, .onOrAfter .friday 1, .midnight, 0⟩,
   ⟨1993, 1998, 4, .onOrAfter .friday 1, .midnight, 60⟩, ⟨1994, 1994, 9, .onOrAfter .friday 15, .midnight, 0⟩,
   ⟨1995, 1998, 9, .onOrAfter .friday 15, .standard 0 0, 0⟩, ⟨1999, 1999, 7, .on 1, .standard 0 0, 60⟩,
   ⟨1999, 2002, 9, .last .friday, .standard 0 0, 0⟩, ⟨2000, 2001, 3, .last .thursday, .standard 0 0, 60⟩,
   ⟨2002, 2012, 3, .last .thursday, .wall 24 0, 60⟩, ⟨2003, 2003, 10, .on 24, .standard 0 0, 0⟩,
   ⟨2004, 2004, 10, .on 15, .standard 0 0, 0⟩, ⟨2005, 2005, 9, .last .friday, .standard 0 0, 0⟩,
   ⟨2006, 2011, 10, .last .friday, .standard 0 0, 0⟩, ⟨2013, 2013, 12, .on 20, .midnight, 0⟩,
   ⟨2014, 2021, 3, .last .thursday, .wall 24 0, 60⟩, ⟨2014, 2022, 10, .last .friday, .standard 0 0, 0⟩,
   ⟨2022, 2022, 2, .last .thursday, .wall 24 0, 60⟩]

/-- Summer time in Kyrgyzstan, from 1992 to 2005. -/
def kyrgyzstan : List SavingRule :=
  [⟨1992, 1996, 4, .onOrAfter .sunday 7, .standard 0 0, 60⟩, ⟨1992, 1996, 9, .last .sunday, .midnight, 0⟩,
   ⟨1997, 2005, 3, .last .sunday, .wall 2 30, 60⟩, ⟨1997, 2004, 10, .last .sunday, .wall 2 30, 0⟩]

/-- Summer time in Korea, from 1948 to 1988. -/
def korea : List SavingRule :=
  [⟨1948, 1948, 6, .on 1, .midnight, 60⟩, ⟨1948, 1948, 9, .on 12, .wall 24 0, 0⟩,
   ⟨1949, 1949, 4, .on 3, .midnight, 60⟩, ⟨1949, 1951, 9, .onOrAfter .saturday 7, .wall 24 0, 0⟩,
   ⟨1950, 1950, 4, .on 1, .midnight, 60⟩, ⟨1951, 1951, 5, .on 6, .midnight, 60⟩, ⟨1955, 1955, 5, .on 5, .midnight, 60⟩,
   ⟨1955, 1955, 9, .on 8, .wall 24 0, 0⟩, ⟨1956, 1956, 5, .on 20, .midnight, 60⟩,
   ⟨1956, 1956, 9, .on 29, .wall 24 0, 0⟩, ⟨1957, 1960, 5, .onOrAfter .sunday 1, .midnight, 60⟩,
   ⟨1957, 1960, 9, .onOrAfter .saturday 17, .wall 24 0, 0⟩, ⟨1987, 1988, 5, .onOrAfter .sunday 8, .wall 2 0, 60⟩,
   ⟨1987, 1988, 10, .onOrAfter .sunday 8, .wall 3 0, 0⟩]

/-- Summer time in Lebanon, since 1920. -/
def lebanon : List SavingRule :=
  [⟨1920, 1920, 3, .on 28, .midnight, 60⟩, ⟨1920, 1920, 10, .on 25, .midnight, 0⟩,
   ⟨1921, 1921, 4, .on 3, .midnight, 60⟩, ⟨1921, 1921, 10, .on 3, .midnight, 0⟩,
   ⟨1922, 1922, 3, .on 26, .midnight, 60⟩, ⟨1922, 1922, 10, .on 8, .midnight, 0⟩,
   ⟨1923, 1923, 4, .on 22, .midnight, 60⟩, ⟨1923, 1923, 9, .on 16, .midnight, 0⟩,
   ⟨1957, 1961, 5, .on 1, .midnight, 60⟩, ⟨1957, 1961, 10, .on 1, .midnight, 0⟩,
   ⟨1972, 1972, 6, .on 22, .midnight, 60⟩, ⟨1972, 1977, 10, .on 1, .midnight, 0⟩,
   ⟨1973, 1977, 5, .on 1, .midnight, 60⟩, ⟨1978, 1978, 4, .on 30, .midnight, 60⟩,
   ⟨1978, 1978, 9, .on 30, .midnight, 0⟩, ⟨1984, 1987, 5, .on 1, .midnight, 60⟩,
   ⟨1984, 1991, 10, .on 16, .midnight, 0⟩, ⟨1988, 1988, 6, .on 1, .midnight, 60⟩,
   ⟨1989, 1989, 5, .on 10, .midnight, 60⟩, ⟨1990, 1992, 5, .on 1, .midnight, 60⟩,
   ⟨1992, 1992, 10, .on 4, .midnight, 0⟩, ⟨1993, 2099, 3, .last .sunday, .midnight, 60⟩,
   ⟨1993, 1998, 9, .last .sunday, .midnight, 0⟩, ⟨1999, 2099, 10, .last .sunday, .midnight, 0⟩]

/-- Summer time in North Borneo, from 1935 to 1941. -/
def northBorneo : List SavingRule :=
  [⟨1935, 1941, 9, .on 14, .midnight, 20⟩, ⟨1935, 1941, 12, .on 14, .midnight, 0⟩]

/-- Summer time in Mongolia, from 1983 to 2016. -/
def mongolia : List SavingRule :=
  [⟨1983, 1984, 4, .on 1, .midnight, 60⟩, ⟨1983, 1983, 10, .on 1, .midnight, 0⟩,
   ⟨1985, 1998, 3, .last .sunday, .midnight, 60⟩, ⟨1984, 1998, 9, .last .sunday, .midnight, 0⟩,
   ⟨2001, 2001, 4, .last .saturday, .wall 2 0, 60⟩, ⟨2001, 2006, 9, .last .saturday, .wall 2 0, 0⟩,
   ⟨2002, 2006, 3, .last .saturday, .wall 2 0, 60⟩, ⟨2015, 2016, 3, .last .saturday, .wall 2 0, 60⟩,
   ⟨2015, 2016, 9, .last .saturday, .midnight, 0⟩]

/-- Summer time in Pakistan, from 2002 to 2009. -/
def pakistan : List SavingRule :=
  [⟨2002, 2002, 4, .onOrAfter .sunday 2, .midnight, 60⟩, ⟨2002, 2002, 10, .onOrAfter .sunday 2, .midnight, 0⟩,
   ⟨2008, 2008, 6, .on 1, .midnight, 60⟩, ⟨2008, 2009, 11, .on 1, .midnight, 0⟩,
   ⟨2009, 2009, 4, .on 15, .midnight, 60⟩]

/-- Summer time in Palestine, since 1999. -/
def palestine : List SavingRule :=
  [⟨1999, 2005, 4, .onOrAfter .friday 15, .midnight, 60⟩, ⟨1999, 2003, 10, .onOrAfter .friday 15, .midnight, 0⟩,
   ⟨2004, 2004, 10, .on 1, .wall 1 0, 0⟩, ⟨2005, 2005, 10, .on 4, .wall 2 0, 0⟩, ⟨2006, 2007, 4, .on 1, .midnight, 60⟩,
   ⟨2006, 2006, 9, .on 22, .midnight, 0⟩, ⟨2007, 2007, 9, .on 13, .wall 2 0, 0⟩,
   ⟨2008, 2009, 3, .last .friday, .midnight, 60⟩, ⟨2008, 2008, 9, .on 1, .midnight, 0⟩,
   ⟨2009, 2009, 9, .on 4, .wall 1 0, 0⟩, ⟨2010, 2010, 3, .on 26, .midnight, 60⟩, ⟨2010, 2010, 8, .on 11, .midnight, 0⟩,
   ⟨2011, 2011, 4, .on 1, .wall 0 1, 60⟩, ⟨2011, 2011, 8, .on 1, .midnight, 0⟩, ⟨2011, 2011, 8, .on 30, .midnight, 60⟩,
   ⟨2011, 2011, 9, .on 30, .midnight, 0⟩, ⟨2012, 2014, 3, .last .thursday, .wall 24 0, 60⟩,
   ⟨2012, 2012, 9, .on 21, .wall 1 0, 0⟩, ⟨2013, 2013, 9, .on 27, .midnight, 0⟩,
   ⟨2014, 2014, 10, .on 24, .midnight, 0⟩, ⟨2015, 2015, 3, .on 28, .midnight, 60⟩,
   ⟨2015, 2015, 10, .on 23, .wall 1 0, 0⟩, ⟨2016, 2018, 3, .onOrBefore .saturday 30, .wall 1 0, 60⟩,
   ⟨2016, 2018, 10, .onOrBefore .saturday 30, .wall 1 0, 0⟩, ⟨2019, 2019, 3, .on 29, .midnight, 60⟩,
   ⟨2019, 2019, 10, .onOrBefore .saturday 30, .midnight, 0⟩, ⟨2020, 2021, 3, .onOrBefore .saturday 30, .midnight, 60⟩,
   ⟨2020, 2020, 10, .on 24, .wall 1 0, 0⟩, ⟨2021, 2021, 10, .on 29, .wall 1 0, 0⟩,
   ⟨2022, 2022, 3, .on 27, .midnight, 60⟩, ⟨2022, 2035, 10, .onOrBefore .saturday 30, .wall 2 0, 0⟩,
   ⟨2023, 2023, 4, .on 29, .wall 2 0, 60⟩, ⟨2024, 2024, 4, .on 20, .wall 2 0, 60⟩,
   ⟨2025, 2025, 4, .on 12, .wall 2 0, 60⟩, ⟨2026, 2054, 3, .onOrBefore .saturday 30, .wall 2 0, 60⟩,
   ⟨2036, 2036, 10, .on 18, .wall 2 0, 0⟩, ⟨2037, 2037, 10, .on 10, .wall 2 0, 0⟩,
   ⟨2038, 2038, 9, .on 25, .wall 2 0, 0⟩, ⟨2039, 2039, 9, .on 17, .wall 2 0, 0⟩, ⟨2040, 2040, 9, .on 1, .wall 2 0, 0⟩,
   ⟨2040, 2040, 10, .on 20, .wall 2 0, 60⟩, ⟨2040, 2067, 10, .onOrBefore .saturday 30, .wall 2 0, 0⟩,
   ⟨2041, 2041, 8, .on 24, .wall 2 0, 0⟩, ⟨2041, 2041, 10, .on 5, .wall 2 0, 60⟩,
   ⟨2042, 2042, 8, .on 16, .wall 2 0, 0⟩, ⟨2042, 2042, 9, .on 27, .wall 2 0, 60⟩, ⟨2043, 2043, 8, .on 1, .wall 2 0, 0⟩,
   ⟨2043, 2043, 9, .on 19, .wall 2 0, 60⟩, ⟨2044, 2044, 7, .on 23, .wall 2 0, 0⟩,
   ⟨2044, 2044, 9, .on 3, .wall 2 0, 60⟩, ⟨2045, 2045, 7, .on 15, .wall 2 0, 0⟩,
   ⟨2045, 2045, 8, .on 26, .wall 2 0, 60⟩, ⟨2046, 2046, 6, .on 30, .wall 2 0, 0⟩,
   ⟨2046, 2046, 8, .on 18, .wall 2 0, 60⟩, ⟨2047, 2047, 6, .on 22, .wall 2 0, 0⟩,
   ⟨2047, 2047, 8, .on 3, .wall 2 0, 60⟩, ⟨2048, 2048, 6, .on 6, .wall 2 0, 0⟩, ⟨2048, 2048, 7, .on 25, .wall 2 0, 60⟩,
   ⟨2049, 2049, 5, .on 29, .wall 2 0, 0⟩, ⟨2049, 2049, 7, .on 10, .wall 2 0, 60⟩,
   ⟨2050, 2050, 5, .on 21, .wall 2 0, 0⟩, ⟨2050, 2050, 7, .on 2, .wall 2 0, 60⟩, ⟨2051, 2051, 5, .on 6, .wall 2 0, 0⟩,
   ⟨2051, 2051, 6, .on 24, .wall 2 0, 60⟩, ⟨2052, 2052, 4, .on 27, .wall 2 0, 0⟩,
   ⟨2052, 2052, 6, .on 8, .wall 2 0, 60⟩, ⟨2053, 2053, 4, .on 12, .wall 2 0, 0⟩,
   ⟨2053, 2053, 5, .on 31, .wall 2 0, 60⟩, ⟨2054, 2054, 4, .on 4, .wall 2 0, 0⟩,
   ⟨2054, 2054, 5, .on 23, .wall 2 0, 60⟩, ⟨2055, 2055, 5, .on 8, .wall 2 0, 60⟩,
   ⟨2056, 2056, 4, .on 29, .wall 2 0, 60⟩, ⟨2057, 2057, 4, .on 14, .wall 2 0, 60⟩,
   ⟨2058, 2058, 4, .on 6, .wall 2 0, 60⟩, ⟨2059, 2099, 3, .onOrBefore .saturday 30, .wall 2 0, 60⟩,
   ⟨2068, 2068, 10, .on 20, .wall 2 0, 0⟩, ⟨2069, 2069, 10, .on 12, .wall 2 0, 0⟩,
   ⟨2070, 2070, 10, .on 4, .wall 2 0, 0⟩, ⟨2071, 2071, 9, .on 19, .wall 2 0, 0⟩, ⟨2072, 2072, 9, .on 10, .wall 2 0, 0⟩,
   ⟨2072, 2072, 10, .on 22, .wall 2 0, 60⟩, ⟨2072, 2099, 10, .onOrBefore .saturday 30, .wall 2 0, 0⟩,
   ⟨2073, 2073, 9, .on 2, .wall 2 0, 0⟩, ⟨2073, 2073, 10, .on 14, .wall 2 0, 60⟩,
   ⟨2074, 2074, 8, .on 18, .wall 2 0, 0⟩, ⟨2074, 2074, 10, .on 6, .wall 2 0, 60⟩,
   ⟨2075, 2075, 8, .on 10, .wall 2 0, 0⟩, ⟨2075, 2075, 9, .on 21, .wall 2 0, 60⟩,
   ⟨2076, 2076, 7, .on 25, .wall 2 0, 0⟩, ⟨2076, 2076, 9, .on 12, .wall 2 0, 60⟩,
   ⟨2077, 2077, 7, .on 17, .wall 2 0, 0⟩, ⟨2077, 2077, 9, .on 4, .wall 2 0, 60⟩, ⟨2078, 2078, 7, .on 9, .wall 2 0, 0⟩,
   ⟨2078, 2078, 8, .on 20, .wall 2 0, 60⟩, ⟨2079, 2079, 6, .on 24, .wall 2 0, 0⟩,
   ⟨2079, 2079, 8, .on 12, .wall 2 0, 60⟩, ⟨2080, 2080, 6, .on 15, .wall 2 0, 0⟩,
   ⟨2080, 2080, 7, .on 27, .wall 2 0, 60⟩, ⟨2081, 2081, 6, .on 7, .wall 2 0, 0⟩,
   ⟨2081, 2081, 7, .on 19, .wall 2 0, 60⟩, ⟨2082, 2082, 5, .on 23, .wall 2 0, 0⟩,
   ⟨2082, 2082, 7, .on 11, .wall 2 0, 60⟩, ⟨2083, 2083, 5, .on 15, .wall 2 0, 0⟩,
   ⟨2083, 2083, 6, .on 26, .wall 2 0, 60⟩, ⟨2084, 2084, 4, .on 29, .wall 2 0, 0⟩,
   ⟨2084, 2084, 6, .on 17, .wall 2 0, 60⟩, ⟨2085, 2085, 4, .on 21, .wall 2 0, 0⟩,
   ⟨2085, 2085, 6, .on 9, .wall 2 0, 60⟩, ⟨2086, 2086, 4, .on 13, .wall 2 0, 0⟩,
   ⟨2086, 2086, 5, .on 25, .wall 2 0, 60⟩]

/-- Summer time in the Philippines, from 1936 to 1990. -/
def philippines : List SavingRule :=
  [⟨1936, 1936, 10, .on 31, .wall 24 0, 60⟩, ⟨1937, 1937, 1, .on 15, .wall 24 0, 0⟩,
   ⟨1941, 1941, 12, .on 15, .wall 24 0, 60⟩, ⟨1945, 1945, 11, .on 30, .wall 24 0, 0⟩,
   ⟨1954, 1954, 4, .on 11, .wall 24 0, 60⟩, ⟨1954, 1954, 6, .on 4, .wall 24 0, 0⟩,
   ⟨1977, 1977, 3, .on 27, .wall 24 0, 60⟩, ⟨1977, 1977, 9, .on 21, .wall 24 0, 0⟩,
   ⟨1990, 1990, 5, .on 21, .midnight, 60⟩, ⟨1990, 1990, 7, .on 28, .wall 24 0, 0⟩]

/-- Summer time in Syria, from 1920 to 2022. -/
def syria : List SavingRule :=
  [⟨1920, 1923, 4, .onOrAfter .sunday 15, .wall 2 0, 60⟩, ⟨1920, 1923, 10, .onOrAfter .sunday 1, .wall 2 0, 0⟩,
   ⟨1962, 1962, 4, .on 29, .wall 2 0, 60⟩, ⟨1962, 1962, 10, .on 1, .wall 2 0, 0⟩,
   ⟨1963, 1965, 5, .on 1, .wall 2 0, 60⟩, ⟨1963, 1963, 9, .on 30, .wall 2 0, 0⟩, ⟨1964, 1964, 10, .on 1, .wall 2 0, 0⟩,
   ⟨1965, 1965, 9, .on 30, .wall 2 0, 0⟩, ⟨1966, 1966, 4, .on 24, .wall 2 0, 60⟩,
   ⟨1966, 1976, 10, .on 1, .wall 2 0, 0⟩, ⟨1967, 1978, 5, .on 1, .wall 2 0, 60⟩, ⟨1977, 1978, 9, .on 1, .wall 2 0, 0⟩,
   ⟨1983, 1984, 4, .on 9, .wall 2 0, 60⟩, ⟨1983, 1984, 10, .on 1, .wall 2 0, 0⟩,
   ⟨1986, 1986, 2, .on 16, .wall 2 0, 60⟩, ⟨1986, 1986, 10, .on 9, .wall 2 0, 0⟩,
   ⟨1987, 1987, 3, .on 1, .wall 2 0, 60⟩, ⟨1987, 1988, 10, .on 31, .wall 2 0, 0⟩,
   ⟨1988, 1988, 3, .on 15, .wall 2 0, 60⟩, ⟨1989, 1989, 3, .on 31, .wall 2 0, 60⟩,
   ⟨1989, 1989, 10, .on 1, .wall 2 0, 0⟩, ⟨1990, 1990, 4, .on 1, .wall 2 0, 60⟩, ⟨1990, 1990, 9, .on 30, .wall 2 0, 0⟩,
   ⟨1991, 1991, 4, .on 1, .midnight, 60⟩, ⟨1991, 1992, 10, .on 1, .midnight, 0⟩, ⟨1992, 1992, 4, .on 8, .midnight, 60⟩,
   ⟨1993, 1993, 3, .on 26, .midnight, 60⟩, ⟨1993, 1993, 9, .on 25, .midnight, 0⟩,
   ⟨1994, 1996, 4, .on 1, .midnight, 60⟩, ⟨1994, 2005, 10, .on 1, .midnight, 0⟩,
   ⟨1997, 1998, 3, .last .monday, .midnight, 60⟩, ⟨1999, 2006, 4, .on 1, .midnight, 60⟩,
   ⟨2006, 2006, 9, .on 22, .midnight, 0⟩, ⟨2007, 2007, 3, .last .friday, .midnight, 60⟩,
   ⟨2007, 2007, 11, .onOrAfter .friday 1, .midnight, 0⟩, ⟨2008, 2008, 4, .onOrAfter .friday 1, .midnight, 60⟩,
   ⟨2008, 2008, 11, .on 1, .midnight, 0⟩, ⟨2009, 2009, 3, .last .friday, .midnight, 60⟩,
   ⟨2010, 2011, 4, .onOrAfter .friday 1, .midnight, 60⟩, ⟨2012, 2022, 3, .last .friday, .midnight, 60⟩,
   ⟨2009, 2022, 10, .last .friday, .midnight, 0⟩]

end SecretRotation.SavingRules
