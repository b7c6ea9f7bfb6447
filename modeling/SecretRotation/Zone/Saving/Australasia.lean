import SecretRotation.Zone.Saving

/-!
# Saving rules of Australasia

Summer time in Australia and its states, in New Zealand, on the islands of the Pacific and at a station in Antarctica.
Each rule has its first and last year, the month, the day and the time of its switch, and the minutes that clocks are
ahead from then on.
-/

namespace SecretRotation.SavingRules

/-- Summer time in the Troll station, since 2004. -/
def troll : List SavingRule :=
  [⟨2005, 2099, 3, .last .sunday, .universal 1 0, 120⟩, ⟨2004, 2099, 10, .last .sunday, .universal 1 0, 0⟩]

/-- Summer time in all of Australia, from 1917 to 1944. -/
def allAustralia : List SavingRule :=
  [⟨1917, 1917, 1, .on 1, .standard 2 0, 60⟩, ⟨1917, 1917, 3, .last .sunday, .standard 2 0, 0⟩,
   ⟨1942, 1942, 1, .on 1, .standard 2 0, 60⟩, ⟨1942, 1942, 3, .last .sunday, .standard 2 0, 0⟩,
   ⟨1942, 1942, 9, .on 27, .standard 2 0, 60⟩, ⟨1943, 1944, 3, .last .sunday, .standard 2 0, 0⟩,
   ⟨1943, 1943, 10, .on 3, .standard 2 0, 60⟩]

/-- Summer time in Western Australia, from 1974 to 2009. -/
def westernAustralia : List SavingRule :=
  [⟨1974, 1974, 10, .last .sunday, .standard 2 0, 60⟩, ⟨1975, 1975, 3, .onOrAfter .sunday 1, .standard 2 0, 0⟩,
   ⟨1983, 1983, 10, .last .sunday, .standard 2 0, 60⟩, ⟨1984, 1984, 3, .onOrAfter .sunday 1, .standard 2 0, 0⟩,
   ⟨1991, 1991, 11, .on 17, .standard 2 0, 60⟩, ⟨1992, 1992, 3, .onOrAfter .sunday 1, .standard 2 0, 0⟩,
   ⟨2006, 2006, 12, .on 3, .standard 2 0, 60⟩, ⟨2007, 2009, 3, .last .sunday, .standard 2 0, 0⟩,
   ⟨2007, 2008, 10, .last .sunday, .standard 2 0, 60⟩]

/-- Summer time in Queensland, from 1971 to 1992. -/
def queensland : List SavingRule :=
  [⟨1971, 1971, 10, .last .sunday, .standard 2 0, 60⟩, ⟨1972, 1972, 2, .last .sunday, .standard 2 0, 0⟩,
   ⟨1989, 1991, 10, .last .sunday, .standard 2 0, 60⟩, ⟨1990, 1992, 3, .onOrAfter .sunday 1, .standard 2 0, 0⟩]

/-- Summer time in the Whitsunday Islands, from 1992 to 1994. -/
def whitsundays : List SavingRule :=
  [⟨1992, 1993, 10, .last .sunday, .standard 2 0, 60⟩, ⟨1993, 1994, 3, .onOrAfter .sunday 1, .standard 2 0, 0⟩]

/-- Summer time in South Australia, since 1971. -/
def southAustralia : List SavingRule :=
  [⟨1971, 1985, 10, .last .sunday, .standard 2 0, 60⟩, ⟨1986, 1986, 10, .on 19, .standard 2 0, 60⟩,
   ⟨1987, 2007, 10, .last .sunday, .standard 2 0, 60⟩, ⟨1972, 1972, 2, .on 27, .standard 2 0, 0⟩,
   ⟨1973, 1985, 3, .onOrAfter .sunday 1, .standard 2 0, 0⟩, ⟨1986, 1990, 3, .onOrAfter .sunday 15, .standard 2 0, 0⟩,
   ⟨1991, 1991, 3, .on 3, .standard 2 0, 0⟩, ⟨1992, 1992, 3, .on 22, .standard 2 0, 0⟩,
   ⟨1993, 1993, 3, .on 7, .standard 2 0, 0⟩, ⟨1994, 1994, 3, .on 20, .standard 2 0, 0⟩,
   ⟨1995, 2005, 3, .last .sunday, .standard 2 0, 0⟩, ⟨2006, 2006, 4, .on 2, .standard 2 0, 0⟩,
   ⟨2007, 2007, 3, .last .sunday, .standard 2 0, 0⟩, ⟨2008, 2099, 4, .onOrAfter .sunday 1, .standard 2 0, 0⟩,
   ⟨2008, 2099, 10, .onOrAfter .sunday 1, .standard 2 0, 60⟩]

/-- Summer time in Tasmania, since 1916. -/
def tasmania : List SavingRule :=
  [⟨1916, 1916, 10, .onOrAfter .sunday 1, .standard 2 0, 60⟩, ⟨1917, 1917, 3, .last .sunday, .standard 2 0, 0⟩,
   ⟨1917, 1918, 10, .onOrAfter .sunday 22, .standard 2 0, 60⟩, ⟨1918, 1919, 3, .onOrAfter .sunday 1, .standard 2 0, 0⟩,
   ⟨1967, 1967, 10, .onOrAfter .sunday 1, .standard 2 0, 60⟩, ⟨1968, 1968, 3, .onOrAfter .sunday 29, .standard 2 0, 0⟩,
   ⟨1968, 1985, 10, .last .sunday, .standard 2 0, 60⟩, ⟨1969, 1971, 3, .onOrAfter .sunday 8, .standard 2 0, 0⟩,
   ⟨1972, 1972, 2, .last .sunday, .standard 2 0, 0⟩, ⟨1973, 1981, 3, .onOrAfter .sunday 1, .standard 2 0, 0⟩,
   ⟨1982, 1983, 3, .last .sunday, .standard 2 0, 0⟩, ⟨1984, 1986, 3, .onOrAfter .sunday 1, .standard 2 0, 0⟩,
   ⟨1986, 1986, 10, .onOrAfter .sunday 15, .standard 2 0, 60⟩,
   ⟨1987, 1990, 3, .onOrAfter .sunday 15, .standard 2 0, 0⟩,
   ⟨1987, 1987, 10, .onOrAfter .sunday 22, .standard 2 0, 60⟩, ⟨1988, 1990, 10, .last .sunday, .standard 2 0, 60⟩,
   ⟨1991, 1999, 10, .onOrAfter .sunday 1, .standard 2 0, 60⟩, ⟨1991, 2005, 3, .last .sunday, .standard 2 0, 0⟩,
   ⟨2000, 2000, 8, .last .sunday, .standard 2 0, 60⟩, ⟨2001, 2099, 10, .onOrAfter .sunday 1, .standard 2 0, 60⟩,
   ⟨2006, 2006, 4, .onOrAfter .sunday 1, .standard 2 0, 0⟩, ⟨2007, 2007, 3, .last .sunday, .standard 2 0, 0⟩,
   ⟨2008, 2099, 4, .onOrAfter .sunday 1, .standard 2 0, 0⟩]

/-- Summer time in Victoria, since 1971. -/
def victoria : List SavingRule :=
  [⟨1971, 1985, 10, .last .sunday, .standard 2 0, 60⟩, ⟨1972, 1972, 2, .last .sunday, .standard 2 0, 0⟩,
   ⟨1973, 1985, 3, .onOrAfter .sunday 1, .standard 2 0, 0⟩, ⟨1986, 1990, 3, .onOrAfter .sunday 15, .standard 2 0, 0⟩,
   ⟨1986, 1987, 10, .onOrAfter .sunday 15, .standard 2 0, 60⟩, ⟨1988, 1999, 10, .last .sunday, .standard 2 0, 60⟩,
   ⟨1991, 1994, 3, .onOrAfter .sunday 1, .standard 2 0, 0⟩, ⟨1995, 2005, 3, .last .sunday, .standard 2 0, 0⟩,
   ⟨2000, 2000, 8, .last .sunday, .standard 2 0, 60⟩, ⟨2001, 2007, 10, .last .sunday, .standard 2 0, 60⟩,
   ⟨2006, 2006, 4, .onOrAfter .sunday 1, .standard 2 0, 0⟩, ⟨2007, 2007, 3, .last .sunday, .standard 2 0, 0⟩,
   ⟨2008, 2099, 4, .onOrAfter .sunday 1, .standard 2 0, 0⟩, ⟨2008, 2099, 10, .onOrAfter .sunday 1, .standard 2 0, 60⟩]

/-- Summer time in New South Wales, since 1971. -/
def newSouthWales : List SavingRule :=
  [⟨1971, 1985, 10, .last .sunday, .standard 2 0, 60⟩, ⟨1972, 1972, 2, .on 27, .standard 2 0, 0⟩,
   ⟨1973, 1981, 3, .onOrAfter .sunday 1, .standard 2 0, 0⟩, ⟨1982, 1982, 4, .onOrAfter .sunday 1, .standard 2 0, 0⟩,
   ⟨1983, 1985, 3, .onOrAfter .sunday 1, .standard 2 0, 0⟩, ⟨1986, 1989, 3, .onOrAfter .sunday 15, .standard 2 0, 0⟩,
   ⟨1986, 1986, 10, .on 19, .standard 2 0, 60⟩, ⟨1987, 1999, 10, .last .sunday, .standard 2 0, 60⟩,
   ⟨1990, 1995, 3, .onOrAfter .sunday 1, .standard 2 0, 0⟩, ⟨1996, 2005, 3, .last .sunday, .standard 2 0, 0⟩,
   ⟨2000, 2000, 8, .last .sunday, .standard 2 0, 60⟩, ⟨2001, 2007, 10, .last .sunday, .standard 2 0, 60⟩,
   ⟨2006, 2006, 4, .onOrAfter .sunday 1, .standard 2 0, 0⟩, ⟨2007, 2007, 3, .last .sunday, .standard 2 0, 0⟩,
   ⟨2008, 2099, 4, .onOrAfter .sunday 1, .standard 2 0, 0⟩, ⟨2008, 2099, 10, .onOrAfter .sunday 1, .standard 2 0, 60⟩]

/-- Summer time in Lord Howe Island, since 1981. -/
def lordHowe : List SavingRule :=
  [⟨1981, 1984, 10, .last .sunday, .wall 2 0, 60⟩, ⟨1982, 1985, 3, .onOrAfter .sunday 1, .wall 2 0, 0⟩,
   ⟨1985, 1985, 10, .last .sunday, .wall 2 0, 30⟩, ⟨1986, 1989, 3, .onOrAfter .sunday 15, .wall 2 0, 0⟩,
   ⟨1986, 1986, 10, .on 19, .wall 2 0, 30⟩, ⟨1987, 1999, 10, .last .sunday, .wall 2 0, 30⟩,
   ⟨1990, 1995, 3, .onOrAfter .sunday 1, .wall 2 0, 0⟩, ⟨1996, 2005, 3, .last .sunday, .wall 2 0, 0⟩,
   ⟨2000, 2000, 8, .last .sunday, .wall 2 0, 30⟩, ⟨2001, 2007, 10, .last .sunday, .wall 2 0, 30⟩,
   ⟨2006, 2006, 4, .onOrAfter .sunday 1, .wall 2 0, 0⟩, ⟨2007, 2007, 3, .last .sunday, .wall 2 0, 0⟩,
   ⟨2008, 2099, 4, .onOrAfter .sunday 1, .wall 2 0, 0⟩, ⟨2008, 2099, 10, .onOrAfter .sunday 1, .wall 2 0, 30⟩]

/-- Summer time in Fiji, from 1998 to 2021. -/
def fiji : List SavingRule :=
  [⟨1998, 1999, 11, .onOrAfter .sunday 1, .wall 2 0, 60⟩, ⟨1999, 2000, 2, .last .sunday, .wall 3 0, 0⟩,
   ⟨2009, 2009, 11, .on 29, .wall 2 0, 60⟩, ⟨2010, 2010, 3, .last .sunday, .wall 3 0, 0⟩,
   ⟨2010, 2013, 10, .onOrAfter .sunday 21, .wall 2 0, 60⟩, ⟨2011, 2011, 3, .onOrAfter .sunday 1, .wall 3 0, 0⟩,
   ⟨2012, 2013, 1, .onOrAfter .sunday 18, .wall 3 0, 0⟩, ⟨2014, 2014, 1, .onOrAfter .sunday 18, .wall 2 0, 0⟩,
   ⟨2014, 2018, 11, .onOrAfter .sunday 1, .wall 2 0, 60⟩, ⟨2015, 2021, 1, .onOrAfter .sunday 12, .wall 3 0, 0⟩,
   ⟨2019, 2019, 11, .onOrAfter .sunday 8, .wall 2 0, 60⟩, ⟨2020, 2020, 12, .on 20, .wall 2 0, 60⟩]

/-- Summer time in Guam, from 1959 to 1977. -/
def guam : List SavingRule :=
  [⟨1959, 1959, 6, .on 27, .wall 2 0, 60⟩, ⟨1961, 1961, 1, .on 29, .wall 2 0, 0⟩,
   ⟨1967, 1967, 9, .on 1, .wall 2 0, 60⟩, ⟨1969, 1969, 1, .on 26, .wall 0 1, 0⟩,
   ⟨1969, 1969, 6, .on 22, .wall 2 0, 60⟩, ⟨1969, 1969, 8, .on 31, .wall 2 0, 0⟩,
   ⟨1970, 1971, 4, .last .sunday, .wall 2 0, 60⟩, ⟨1970, 1971, 9, .onOrAfter .sunday 1, .wall 2 0, 0⟩,
   ⟨1973, 1973, 12, .on 16, .wall 2 0, 60⟩, ⟨1974, 1974, 2, .on 24, .wall 2 0, 0⟩,
   ⟨1976, 1976, 5, .on 26, .wall 2 0, 60⟩, ⟨1976, 1976, 8, .on 22, .wall 2 1, 0⟩,
   ⟨1977, 1977, 4, .on 24, .wall 2 0, 60⟩, ⟨1977, 1977, 8, .on 28, .wall 2 0, 0⟩]

/-- Summer time in New Caledonia, from 1977 to 1997. -/
def newCaledonia : List SavingRule :=
  [⟨1977, 1978, 12, .onOrAfter .sunday 1, .midnight, 60⟩, ⟨1978, 1979, 2, .on 27, .midnight, 0⟩,
   ⟨1996, 1996, 12, .on 1, .standard 2 0, 60⟩, ⟨1997, 1997, 3, .on 2, .standard 2 0, 0⟩]

/-- Summer time in New Zealand, since 1927. -/
def newZealand : List SavingRule :=
  [⟨1927, 1927, 11, .on 6, .wall 2 0, 60⟩, ⟨1928, 1928, 3, .on 4, .wall 2 0, 0⟩,
   ⟨1928, 1933, 10, .onOrAfter .sunday 8, .wall 2 0, 30⟩, ⟨1929, 1933, 3, .onOrAfter .sunday 15, .wall 2 0, 0⟩,
   ⟨1934, 1940, 4, .last .sunday, .wall 2 0, 0⟩, ⟨1934, 1940, 9, .last .sunday, .wall 2 0, 30⟩,
   ⟨1946, 1946, 1, .on 1, .midnight, 0⟩, ⟨1974, 1974, 11, .onOrAfter .sunday 1, .standard 2 0, 60⟩,
   ⟨1975, 1975, 2, .last .sunday, .standard 2 0, 0⟩, ⟨1975, 1988, 10, .last .sunday, .standard 2 0, 60⟩,
   ⟨1976, 1989, 3, .onOrAfter .sunday 1, .standard 2 0, 0⟩, ⟨1989, 1989, 10, .onOrAfter .sunday 8, .standard 2 0, 60⟩,
   ⟨1990, 2006, 10, .onOrAfter .sunday 1, .standard 2 0, 60⟩, ⟨1990, 2007, 3, .onOrAfter .sunday 15, .standard 2 0, 0⟩,
   ⟨2007, 2099, 9, .last .sunday, .standard 2 0, 60⟩, ⟨2008, 2099, 4, .onOrAfter .sunday 1, .standard 2 0, 0⟩]

/-- Summer time in the Chatham Islands, since 1974. -/
def chatham : List SavingRule :=
  [⟨1974, 1974, 11, .onOrAfter .sunday 1, .standard 2 45, 60⟩, ⟨1975, 1975, 2, .last .sunday, .standard 2 45, 0⟩,
   ⟨1975, 1988, 10, .last .sunday, .standard 2 45, 60⟩, ⟨1976, 1989, 3, .onOrAfter .sunday 1, .standard 2 45, 0⟩,
   ⟨1989, 1989, 10, .onOrAfter .sunday 8, .standard 2 45, 60⟩,
   ⟨1990, 2006, 10, .onOrAfter .sunday 1, .standard 2 45, 60⟩,
   ⟨1990, 2007, 3, .onOrAfter .sunday 15, .standard 2 45, 0⟩, ⟨2007, 2099, 9, .last .sunday, .standard 2 45, 60⟩,
   ⟨2008, 2099, 4, .onOrAfter .sunday 1, .standard 2 45, 0⟩]

/-- Summer time in the Cook Islands, from 1978 to 1991. -/
def cookIslands : List SavingRule :=
  [⟨1978, 1978, 11, .on 12, .midnight, 30⟩, ⟨1979, 1991, 3, .onOrAfter .sunday 1, .midnight, 0⟩,
   ⟨1979, 1990, 10, .last .sunday, .midnight, 30⟩]

/-- Summer time in Samoa, from 2010 to 2021. -/
def samoa : List SavingRule :=
  [⟨2010, 2010, 9, .last .sunday, .midnight, 60⟩, ⟨2011, 2011, 4, .onOrAfter .saturday 1, .wall 4 0, 0⟩,
   ⟨2011, 2011, 9, .last .saturday, .wall 3 0, 60⟩, ⟨2012, 2021, 4, .onOrAfter .sunday 1, .wall 4 0, 0⟩,
   ⟨2012, 2020, 9, .last .sunday, .wall 3 0, 60⟩]

/-- Summer time in Tonga, from 1999 to 2017. -/
def tonga : List SavingRule :=
  [⟨1999, 1999, 10, .on 7, .standard 2 0, 60⟩, ⟨2000, 2000, 3, .on 19, .standard 2 0, 0⟩,
   ⟨2000, 2001, 11, .onOrAfter .sunday 1, .wall 2 0, 60⟩, ⟨2001, 2002, 1, .last .sunday, .wall 2 0, 0⟩,
   ⟨2016, 2016, 11, .onOrAfter .sunday 1, .wall 2 0, 60⟩, ⟨2017, 2017, 1, .onOrAfter .sunday 15, .wall 3 0, 0⟩]

/-- Summer time in Vanuatu, from 1973 to 1993. -/
def vanuatu : List SavingRule :=
  [⟨1973, 1973, 12, .on 22, .universal 12 0, 60⟩, ⟨1974, 1974, 3, .on 30, .universal 12 0, 0⟩,
   ⟨1983, 1991, 9, .onOrAfter .saturday 22, .wall 24 0, 60⟩, ⟨1984, 1991, 3, .onOrAfter .saturday 22, .wall 24 0, 0⟩,
   ⟨1992, 1993, 1, .onOrAfter .saturday 22, .wall 24 0, 0⟩, ⟨1992, 1992, 10, .onOrAfter .saturday 22, .wall 24 0, 60⟩]

end SecretRotation.SavingRules
