import SecretRotation.Zone.Saving

/-!
# Saving rules of North America

Summer time in the United States, in Canada and in those of their cities, counties and provinces that went their own
ways. Each rule has its first and last year, the month, the day and the time of its switch, and the minutes that clocks
are ahead from then on.
-/

namespace SecretRotation.SavingRules

/-- Summer time in the United States, since 1918. -/
def unitedStates : List SavingRule :=
  [⟨1918, 1919, 3, .last .sunday, .wall 2 0, 60⟩, ⟨1918, 1919, 10, .last .sunday, .wall 2 0, 0⟩,
   ⟨1942, 1942, 2, .on 9, .wall 2 0, 60⟩, ⟨1945, 1945, 8, .on 14, .universal 23 0, 60⟩,
   ⟨1945, 1945, 9, .on 30, .wall 2 0, 0⟩, ⟨1967, 2006, 10, .last .sunday, .wall 2 0, 0⟩,
   ⟨1967, 1973, 4, .last .sunday, .wall 2 0, 60⟩, ⟨1974, 1974, 1, .on 6, .wall 2 0, 60⟩,
   ⟨1975, 1975, 2, .last .sunday, .wall 2 0, 60⟩, ⟨1976, 1986, 4, .last .sunday, .wall 2 0, 60⟩,
   ⟨1987, 2006, 4, .onOrAfter .sunday 1, .wall 2 0, 60⟩, ⟨2007, 2099, 3, .onOrAfter .sunday 8, .wall 2 0, 60⟩,
   ⟨2007, 2099, 11, .onOrAfter .sunday 1, .wall 2 0, 0⟩]

/-- Summer time in New York, from 1920 to 1966. -/
def newYork : List SavingRule :=
  [⟨1920, 1920, 3, .last .sunday, .wall 2 0, 60⟩, ⟨1920, 1920, 10, .last .sunday, .wall 2 0, 0⟩,
   ⟨1921, 1966, 4, .last .sunday, .wall 2 0, 60⟩, ⟨1921, 1954, 9, .last .sunday, .wall 2 0, 0⟩,
   ⟨1955, 1966, 10, .last .sunday, .wall 2 0, 0⟩]

/-- Summer time in Chicago, from 1920 to 1966. -/
def chicago : List SavingRule :=
  [⟨1920, 1920, 6, .on 13, .wall 2 0, 60⟩, ⟨1920, 1921, 10, .last .sunday, .wall 2 0, 0⟩,
   ⟨1921, 1921, 3, .last .sunday, .wall 2 0, 60⟩, ⟨1922, 1966, 4, .last .sunday, .wall 2 0, 60⟩,
   ⟨1922, 1954, 9, .last .sunday, .wall 2 0, 0⟩, ⟨1955, 1966, 10, .last .sunday, .wall 2 0, 0⟩]

/-- Summer time in Denver, from 1920 to 1966. -/
def denver : List SavingRule :=
  [⟨1920, 1921, 3, .last .sunday, .wall 2 0, 60⟩, ⟨1920, 1920, 10, .last .sunday, .wall 2 0, 0⟩,
   ⟨1921, 1921, 5, .on 22, .wall 2 0, 0⟩, ⟨1965, 1966, 4, .last .sunday, .wall 2 0, 60⟩,
   ⟨1965, 1966, 10, .last .sunday, .wall 2 0, 0⟩]

/-- Summer time in California, from 1948 to 1966. -/
def california : List SavingRule :=
  [⟨1948, 1948, 3, .on 14, .wall 2 1, 60⟩, ⟨1949, 1949, 1, .on 1, .wall 2 0, 0⟩,
   ⟨1950, 1966, 4, .last .sunday, .wall 1 0, 60⟩, ⟨1950, 1961, 9, .last .sunday, .wall 2 0, 0⟩,
   ⟨1962, 1966, 10, .last .sunday, .wall 2 0, 0⟩]

/-- Summer time in Indianapolis, from 1941 to 1954. -/
def indianapolis : List SavingRule :=
  [⟨1941, 1941, 6, .on 22, .wall 2 0, 60⟩, ⟨1941, 1954, 9, .last .sunday, .wall 2 0, 0⟩,
   ⟨1946, 1954, 4, .last .sunday, .wall 2 0, 60⟩]

/-- Summer time in Marengo, Indiana, from 1951 to 1960. -/
def marengo : List SavingRule :=
  [⟨1951, 1951, 4, .last .sunday, .wall 2 0, 60⟩, ⟨1951, 1951, 9, .last .sunday, .wall 2 0, 0⟩,
   ⟨1954, 1960, 4, .last .sunday, .wall 2 0, 60⟩, ⟨1954, 1960, 9, .last .sunday, .wall 2 0, 0⟩]

/-- Summer time in Vincennes, Indiana, from 1946 to 1963. -/
def vincennes : List SavingRule :=
  [⟨1946, 1946, 4, .last .sunday, .wall 2 0, 60⟩, ⟨1946, 1946, 9, .last .sunday, .wall 2 0, 0⟩,
   ⟨1953, 1954, 4, .last .sunday, .wall 2 0, 60⟩, ⟨1953, 1959, 9, .last .sunday, .wall 2 0, 0⟩,
   ⟨1955, 1955, 5, .on 1, .midnight, 60⟩, ⟨1956, 1963, 4, .last .sunday, .wall 2 0, 60⟩,
   ⟨1960, 1960, 10, .last .sunday, .wall 2 0, 0⟩, ⟨1961, 1961, 9, .last .sunday, .wall 2 0, 0⟩,
   ⟨1962, 1963, 10, .last .sunday, .wall 2 0, 0⟩]

/-- Summer time in Perry County, Indiana, from 1955 to 1963. -/
def perryCounty : List SavingRule :=
  [⟨1955, 1955, 5, .on 1, .midnight, 60⟩, ⟨1955, 1960, 9, .last .sunday, .wall 2 0, 0⟩,
   ⟨1956, 1963, 4, .last .sunday, .wall 2 0, 60⟩, ⟨1961, 1963, 10, .last .sunday, .wall 2 0, 0⟩]

/-- Summer time in Pike County, Indiana, from 1955 to 1964. -/
def pikeCounty : List SavingRule :=
  [⟨1955, 1955, 5, .on 1, .midnight, 60⟩, ⟨1955, 1960, 9, .last .sunday, .wall 2 0, 0⟩,
   ⟨1956, 1964, 4, .last .sunday, .wall 2 0, 60⟩, ⟨1961, 1964, 10, .last .sunday, .wall 2 0, 0⟩]

/-- Summer time in Starke County, Indiana, from 1947 to 1961. -/
def starkeCounty : List SavingRule :=
  [⟨1947, 1961, 4, .last .sunday, .wall 2 0, 60⟩, ⟨1947, 1954, 9, .last .sunday, .wall 2 0, 0⟩,
   ⟨1955, 1956, 10, .last .sunday, .wall 2 0, 0⟩, ⟨1957, 1958, 9, .last .sunday, .wall 2 0, 0⟩,
   ⟨1959, 1961, 10, .last .sunday, .wall 2 0, 0⟩]

/-- Summer time in Pulaski County, Indiana, from 1946 to 1960. -/
def pulaskiCounty : List SavingRule :=
  [⟨1946, 1960, 4, .last .sunday, .wall 2 0, 60⟩, ⟨1946, 1954, 9, .last .sunday, .wall 2 0, 0⟩,
   ⟨1955, 1956, 10, .last .sunday, .wall 2 0, 0⟩, ⟨1957, 1960, 9, .last .sunday, .wall 2 0, 0⟩]

/-- Summer time in Louisville, from 1921 to 1961. -/
def louisville : List SavingRule :=
  [⟨1921, 1921, 5, .on 1, .wall 2 0, 60⟩, ⟨1921, 1921, 9, .on 1, .wall 2 0, 0⟩,
   ⟨1941, 1941, 4, .last .sunday, .wall 2 0, 60⟩, ⟨1941, 1941, 9, .last .sunday, .wall 2 0, 0⟩,
   ⟨1946, 1946, 4, .last .sunday, .wall 0 1, 60⟩, ⟨1946, 1946, 6, .on 2, .wall 2 0, 0⟩,
   ⟨1950, 1961, 4, .last .sunday, .wall 2 0, 60⟩, ⟨1950, 1955, 9, .last .sunday, .wall 2 0, 0⟩,
   ⟨1956, 1961, 10, .last .sunday, .wall 2 0, 0⟩]

/-- Summer time in Detroit, in 1948. -/
def detroit : List SavingRule :=
  [⟨1948, 1948, 4, .last .sunday, .wall 2 0, 60⟩, ⟨1948, 1948, 9, .last .sunday, .wall 2 0, 0⟩]

/-- Summer time in Menominee, from 1946 to 1966. -/
def menominee : List SavingRule :=
  [⟨1946, 1946, 4, .last .sunday, .wall 2 0, 60⟩, ⟨1946, 1946, 9, .last .sunday, .wall 2 0, 0⟩,
   ⟨1966, 1966, 4, .last .sunday, .wall 2 0, 60⟩, ⟨1966, 1966, 10, .last .sunday, .wall 2 0, 0⟩]

/-- Summer time in Canada, since 1918. -/
def canada : List SavingRule :=
  [⟨1918, 1918, 4, .on 14, .wall 2 0, 60⟩, ⟨1918, 1918, 10, .on 27, .wall 2 0, 0⟩,
   ⟨1942, 1942, 2, .on 9, .wall 2 0, 60⟩, ⟨1945, 1945, 8, .on 14, .universal 23 0, 60⟩,
   ⟨1945, 1945, 9, .on 30, .wall 2 0, 0⟩, ⟨1974, 1986, 4, .last .sunday, .wall 2 0, 60⟩,
   ⟨1974, 2006, 10, .last .sunday, .wall 2 0, 0⟩, ⟨1987, 2006, 4, .onOrAfter .sunday 1, .wall 2 0, 60⟩,
   ⟨2007, 2099, 3, .onOrAfter .sunday 8, .wall 2 0, 60⟩, ⟨2007, 2099, 11, .onOrAfter .sunday 1, .wall 2 0, 0⟩]

/-- Summer time in Newfoundland, from 1917 to 2011. -/
def newfoundland : List SavingRule :=
  [⟨1917, 1917, 4, .on 8, .wall 2 0, 60⟩, ⟨1917, 1917, 9, .on 17, .wall 2 0, 0⟩,
   ⟨1919, 1919, 5, .on 5, .wall 23 0, 60⟩, ⟨1919, 1919, 8, .on 12, .wall 23 0, 0⟩,
   ⟨1920, 1935, 5, .onOrAfter .sunday 1, .wall 23 0, 60⟩, ⟨1920, 1935, 10, .last .sunday, .wall 23 0, 0⟩,
   ⟨1936, 1941, 5, .onOrAfter .monday 9, .midnight, 60⟩, ⟨1936, 1941, 10, .onOrAfter .monday 2, .midnight, 0⟩,
   ⟨1946, 1950, 5, .onOrAfter .sunday 8, .wall 2 0, 60⟩, ⟨1946, 1950, 10, .onOrAfter .sunday 2, .wall 2 0, 0⟩,
   ⟨1951, 1986, 4, .last .sunday, .wall 2 0, 60⟩, ⟨1951, 1959, 9, .last .sunday, .wall 2 0, 0⟩,
   ⟨1960, 1986, 10, .last .sunday, .wall 2 0, 0⟩, ⟨1987, 1987, 4, .onOrAfter .sunday 1, .wall 0 1, 60⟩,
   ⟨1987, 2006, 10, .last .sunday, .wall 0 1, 0⟩, ⟨1988, 1988, 4, .onOrAfter .sunday 1, .wall 0 1, 120⟩,
   ⟨1989, 2006, 4, .onOrAfter .sunday 1, .wall 0 1, 60⟩, ⟨2007, 2011, 3, .onOrAfter .sunday 8, .wall 0 1, 60⟩,
   ⟨2007, 2010, 11, .onOrAfter .sunday 1, .wall 0 1, 0⟩]

/-- Summer time in Halifax, from 1916 to 1973. -/
def halifax : List SavingRule :=
  [⟨1916, 1916, 4, .on 1, .midnight, 60⟩, ⟨1916, 1916, 10, .on 1, .midnight, 0⟩, ⟨1920, 1920, 5, .on 9, .midnight, 60⟩,
   ⟨1920, 1920, 8, .on 29, .midnight, 0⟩, ⟨1921, 1921, 5, .on 6, .midnight, 60⟩, ⟨1921, 1922, 9, .on 5, .midnight, 0⟩,
   ⟨1922, 1922, 4, .on 30, .midnight, 60⟩, ⟨1923, 1925, 5, .onOrAfter .sunday 1, .midnight, 60⟩,
   ⟨1923, 1923, 9, .on 4, .midnight, 0⟩, ⟨1924, 1924, 9, .on 15, .midnight, 0⟩, ⟨1925, 1925, 9, .on 28, .midnight, 0⟩,
   ⟨1926, 1926, 5, .on 16, .midnight, 60⟩, ⟨1926, 1926, 9, .on 13, .midnight, 0⟩,
   ⟨1927, 1927, 5, .on 1, .midnight, 60⟩, ⟨1927, 1927, 9, .on 26, .midnight, 0⟩,
   ⟨1928, 1931, 5, .onOrAfter .sunday 8, .midnight, 60⟩, ⟨1928, 1928, 9, .on 9, .midnight, 0⟩,
   ⟨1929, 1929, 9, .on 3, .midnight, 0⟩, ⟨1930, 1930, 9, .on 15, .midnight, 0⟩,
   ⟨1931, 1932, 9, .onOrAfter .monday 24, .midnight, 0⟩, ⟨1932, 1932, 5, .on 1, .midnight, 60⟩,
   ⟨1933, 1933, 4, .on 30, .midnight, 60⟩, ⟨1933, 1933, 10, .on 2, .midnight, 0⟩,
   ⟨1934, 1934, 5, .on 20, .midnight, 60⟩, ⟨1934, 1934, 9, .on 16, .midnight, 0⟩,
   ⟨1935, 1935, 6, .on 2, .midnight, 60⟩, ⟨1935, 1935, 9, .on 30, .midnight, 0⟩, ⟨1936, 1936, 6, .on 1, .midnight, 60⟩,
   ⟨1936, 1936, 9, .on 14, .midnight, 0⟩, ⟨1937, 1938, 5, .onOrAfter .sunday 1, .midnight, 60⟩,
   ⟨1937, 1941, 9, .onOrAfter .monday 24, .midnight, 0⟩, ⟨1939, 1939, 5, .on 28, .midnight, 60⟩,
   ⟨1940, 1941, 5, .onOrAfter .sunday 1, .midnight, 60⟩, ⟨1946, 1949, 4, .last .sunday, .wall 2 0, 60⟩,
   ⟨1946, 1949, 9, .last .sunday, .wall 2 0, 0⟩, ⟨1951, 1954, 4, .last .sunday, .wall 2 0, 60⟩,
   ⟨1951, 1954, 9, .last .sunday, .wall 2 0, 0⟩, ⟨1956, 1959, 4, .last .sunday, .wall 2 0, 60⟩,
   ⟨1956, 1959, 9, .last .sunday, .wall 2 0, 0⟩, ⟨1962, 1973, 4, .last .sunday, .wall 2 0, 60⟩,
   ⟨1962, 1973, 10, .last .sunday, .wall 2 0, 0⟩]

/-- Summer time in Moncton, from 1933 to 2006. -/
def moncton : List SavingRule :=
  [⟨1933, 1935, 6, .onOrAfter .sunday 8, .wall 1 0, 60⟩, ⟨1933, 1935, 9, .onOrAfter .sunday 8, .wall 1 0, 0⟩,
   ⟨1936, 1938, 6, .onOrAfter .sunday 1, .wall 1 0, 60⟩, ⟨1936, 1938, 9, .onOrAfter .sunday 1, .wall 1 0, 0⟩,
   ⟨1939, 1939, 5, .on 27, .wall 1 0, 60⟩, ⟨1939, 1941, 9, .onOrAfter .saturday 21, .wall 1 0, 0⟩,
   ⟨1940, 1940, 5, .on 19, .wall 1 0, 60⟩, ⟨1941, 1941, 5, .on 4, .wall 1 0, 60⟩,
   ⟨1946, 1972, 4, .last .sunday, .wall 2 0, 60⟩, ⟨1946, 1956, 9, .last .sunday, .wall 2 0, 0⟩,
   ⟨1957, 1972, 10, .last .sunday, .wall 2 0, 0⟩, ⟨1993, 2006, 4, .onOrAfter .sunday 1, .wall 0 1, 60⟩,
   ⟨1993, 2006, 10, .last .sunday, .wall 0 1, 0⟩]

/-- Summer time in Toronto, from 1919 to 1973. -/
def toronto : List SavingRule :=
  [⟨1919, 1919, 3, .on 30, .wall 23 30, 60⟩, ⟨1919, 1919, 10, .on 26, .midnight, 0⟩,
   ⟨1920, 1920, 5, .on 2, .wall 2 0, 60⟩, ⟨1920, 1920, 9, .on 26, .midnight, 0⟩,
   ⟨1921, 1921, 5, .on 15, .wall 2 0, 60⟩, ⟨1921, 1921, 9, .on 15, .wall 2 0, 0⟩,
   ⟨1922, 1923, 5, .onOrAfter .sunday 8, .wall 2 0, 60⟩, ⟨1922, 1926, 9, .onOrAfter .sunday 15, .wall 2 0, 0⟩,
   ⟨1924, 1927, 5, .onOrAfter .sunday 1, .wall 2 0, 60⟩, ⟨1927, 1937, 9, .onOrAfter .sunday 25, .wall 2 0, 0⟩,
   ⟨1928, 1937, 4, .onOrAfter .sunday 25, .wall 2 0, 60⟩, ⟨1938, 1940, 4, .last .sunday, .wall 2 0, 60⟩,
   ⟨1938, 1939, 9, .last .sunday, .wall 2 0, 0⟩, ⟨1945, 1948, 9, .last .sunday, .wall 2 0, 0⟩,
   ⟨1946, 1973, 4, .last .sunday, .wall 2 0, 60⟩, ⟨1949, 1950, 11, .last .sunday, .wall 2 0, 0⟩,
   ⟨1951, 1956, 9, .last .sunday, .wall 2 0, 0⟩, ⟨1957, 1973, 10, .last .sunday, .wall 2 0, 0⟩]

/-- Summer time in Winnipeg, from 1916 to 2005. -/
def winnipeg : List SavingRule :=
  [⟨1916, 1916, 4, .on 23, .midnight, 60⟩, ⟨1916, 1916, 9, .on 17, .midnight, 0⟩,
   ⟨1918, 1918, 4, .on 14, .wall 2 0, 60⟩, ⟨1918, 1918, 10, .on 27, .wall 2 0, 0⟩,
   ⟨1937, 1937, 5, .on 16, .wall 2 0, 60⟩, ⟨1937, 1937, 9, .on 26, .wall 2 0, 0⟩,
   ⟨1942, 1942, 2, .on 9, .wall 2 0, 60⟩, ⟨1945, 1945, 8, .on 14, .universal 23 0, 60⟩,
   ⟨1945, 1945, 9, .last .sunday, .wall 2 0, 0⟩, ⟨1946, 1946, 5, .on 12, .wall 2 0, 60⟩,
   ⟨1946, 1946, 10, .on 13, .wall 2 0, 0⟩, ⟨1947, 1949, 4, .last .sunday, .wall 2 0, 60⟩,
   ⟨1947, 1949, 9, .last .sunday, .wall 2 0, 0⟩, ⟨1950, 1950, 5, .on 1, .wall 2 0, 60⟩,
   ⟨1950, 1950, 9, .on 30, .wall 2 0, 0⟩, ⟨1951, 1960, 4, .last .sunday, .wall 2 0, 60⟩,
   ⟨1951, 1958, 9, .last .sunday, .wall 2 0, 0⟩, ⟨1959, 1959, 10, .last .sunday, .wall 2 0, 0⟩,
   ⟨1960, 1960, 9, .last .sunday, .wall 2 0, 0⟩, ⟨1963, 1963, 4, .last .sunday, .wall 2 0, 60⟩,
   ⟨1963, 1963, 9, .on 22, .wall 2 0, 0⟩, ⟨1966, 1986, 4, .last .sunday, .standard 2 0, 60⟩,
   ⟨1966, 2005, 10, .last .sunday, .standard 2 0, 0⟩, ⟨1987, 2005, 4, .onOrAfter .sunday 1, .standard 2 0, 60⟩]

/-- Summer time in Regina, from 1918 to 1959. -/
def regina : List SavingRule :=
  [⟨1918, 1918, 4, .on 14, .wall 2 0, 60⟩, ⟨1918, 1918, 10, .on 27, .wall 2 0, 0⟩,
   ⟨1930, 1934, 5, .onOrAfter .sunday 1, .midnight, 60⟩, ⟨1930, 1934, 10, .onOrAfter .sunday 1, .midnight, 0⟩,
   ⟨1937, 1941, 4, .onOrAfter .sunday 8, .midnight, 60⟩, ⟨1937, 1937, 10, .onOrAfter .sunday 8, .midnight, 0⟩,
   ⟨1938, 1938, 10, .onOrAfter .sunday 1, .midnight, 0⟩, ⟨1939, 1941, 10, .onOrAfter .sunday 8, .midnight, 0⟩,
   ⟨1942, 1942, 2, .on 9, .wall 2 0, 60⟩, ⟨1945, 1945, 8, .on 14, .universal 23 0, 60⟩,
   ⟨1945, 1945, 9, .last .sunday, .wall 2 0, 0⟩, ⟨1946, 1946, 4, .onOrAfter .sunday 8, .wall 2 0, 60⟩,
   ⟨1946, 1946, 10, .onOrAfter .sunday 8, .wall 2 0, 0⟩, ⟨1947, 1957, 4, .last .sunday, .wall 2 0, 60⟩,
   ⟨1947, 1957, 9, .last .sunday, .wall 2 0, 0⟩, ⟨1959, 1959, 4, .last .sunday, .wall 2 0, 60⟩,
   ⟨1959, 1959, 10, .last .sunday, .wall 2 0, 0⟩]

/-- Summer time in Swift Current, from 1957 to 1961. -/
def swiftCurrent : List SavingRule :=
  [⟨1957, 1957, 4, .last .sunday, .wall 2 0, 60⟩, ⟨1957, 1957, 10, .last .sunday, .wall 2 0, 0⟩,
   ⟨1959, 1961, 4, .last .sunday, .wall 2 0, 60⟩, ⟨1959, 1959, 10, .last .sunday, .wall 2 0, 0⟩,
   ⟨1960, 1961, 9, .last .sunday, .wall 2 0, 0⟩]

/-- Summer time in Edmonton, from 1918 to 2006. -/
def edmonton : List SavingRule :=
  [⟨1918, 1919, 4, .onOrAfter .sunday 8, .wall 2 0, 60⟩, ⟨1918, 1918, 10, .on 27, .wall 2 0, 0⟩,
   ⟨1919, 1919, 5, .on 27, .wall 2 0, 0⟩, ⟨1920, 1923, 4, .last .sunday, .wall 2 0, 60⟩,
   ⟨1920, 1920, 10, .last .sunday, .wall 2 0, 0⟩, ⟨1921, 1923, 9, .last .sunday, .wall 2 0, 0⟩,
   ⟨1942, 1942, 2, .on 9, .wall 2 0, 60⟩, ⟨1945, 1945, 8, .on 14, .universal 23 0, 60⟩,
   ⟨1945, 1945, 9, .last .sunday, .wall 2 0, 0⟩, ⟨1947, 1947, 4, .last .sunday, .wall 2 0, 60⟩,
   ⟨1947, 1947, 9, .last .sunday, .wall 2 0, 0⟩, ⟨1972, 1986, 4, .last .sunday, .wall 2 0, 60⟩,
   ⟨1972, 2006, 10, .last .sunday, .wall 2 0, 0⟩]

/-- Summer time in Vancouver, from 1918 to 2006. -/
def vancouver : List SavingRule :=
  [⟨1918, 1918, 4, .on 14, .wall 2 0, 60⟩, ⟨1918, 1918, 10, .on 27, .wall 2 0, 0⟩,
   ⟨1942, 1942, 2, .on 9, .wall 2 0, 60⟩, ⟨1945, 1945, 8, .on 14, .universal 23 0, 60⟩,
   ⟨1945, 1945, 9, .on 30, .wall 2 0, 0⟩, ⟨1946, 1986, 4, .last .sunday, .wall 2 0, 60⟩,
   ⟨1946, 1946, 9, .on 29, .wall 2 0, 0⟩, ⟨1947, 1961, 9, .last .sunday, .wall 2 0, 0⟩,
   ⟨1962, 2006, 10, .last .sunday, .wall 2 0, 0⟩]

/-- Summer time in the Northwest Territories and Yukon, from 1918 to 2006. -/
def northwestTerritories : List SavingRule :=
  [⟨1918, 1918, 4, .on 14, .wall 2 0, 60⟩, ⟨1918, 1918, 10, .on 27, .wall 2 0, 0⟩,
   ⟨1919, 1919, 5, .on 25, .wall 2 0, 60⟩, ⟨1919, 1919, 11, .on 1, .midnight, 0⟩,
   ⟨1942, 1942, 2, .on 9, .wall 2 0, 60⟩, ⟨1945, 1945, 8, .on 14, .universal 23 0, 60⟩,
   ⟨1945, 1945, 9, .on 30, .wall 2 0, 0⟩, ⟨1972, 1986, 4, .last .sunday, .wall 2 0, 60⟩,
   ⟨1972, 2006, 10, .last .sunday, .wall 2 0, 0⟩, ⟨1987, 2006, 4, .onOrAfter .sunday 1, .wall 2 0, 60⟩]

/-- Summer time in Yukon, in 1965. -/
def yukon : List SavingRule :=
  [⟨1965, 1965, 4, .last .sunday, .midnight, 120⟩, ⟨1965, 1965, 10, .last .sunday, .wall 2 0, 0⟩]

/-- Summer time in Thule, since 1991. -/
def thule : List SavingRule :=
  [⟨1991, 1992, 3, .last .sunday, .wall 2 0, 60⟩, ⟨1991, 1992, 9, .last .sunday, .wall 2 0, 0⟩,
   ⟨1993, 2006, 4, .onOrAfter .sunday 1, .wall 2 0, 60⟩, ⟨1993, 2006, 10, .last .sunday, .wall 2 0, 0⟩,
   ⟨2007, 2099, 3, .onOrAfter .sunday 8, .wall 2 0, 60⟩, ⟨2007, 2099, 11, .onOrAfter .sunday 1, .wall 2 0, 0⟩]

end SecretRotation.SavingRules
