import SecretRotation.Zone.Saving

/-!
# Saving rules of Europe

Summer time in the states of Europe and in the unions that they formed. Each rule has its first and last year, the
month, the day and the time of its switch, and the minutes that clocks are ahead from then on.
-/

namespace SecretRotation.SavingRules

/-- Summer time in the British Isles, from 1916 to 1995. -/
def britain : List SavingRule :=
  [⟨1916, 1916, 5, .on 21, .standard 2 0, 60⟩, ⟨1916, 1916, 10, .on 1, .standard 2 0, 0⟩,
   ⟨1917, 1917, 4, .on 8, .standard 2 0, 60⟩, ⟨1917, 1917, 9, .on 17, .standard 2 0, 0⟩,
   ⟨1918, 1918, 3, .on 24, .standard 2 0, 60⟩, ⟨1918, 1918, 9, .on 30, .standard 2 0, 0⟩,
   ⟨1919, 1919, 3, .on 30, .standard 2 0, 60⟩, ⟨1919, 1919, 9, .on 29, .standard 2 0, 0⟩,
   ⟨1920, 1920, 3, .on 28, .standard 2 0, 60⟩, ⟨1920, 1920, 10, .on 25, .standard 2 0, 0⟩,
   ⟨1921, 1921, 4, .on 3, .standard 2 0, 60⟩, ⟨1921, 1921, 10, .on 3, .standard 2 0, 0⟩,
   ⟨1922, 1922, 3, .on 26, .standard 2 0, 60⟩, ⟨1922, 1922, 10, .on 8, .standard 2 0, 0⟩,
   ⟨1923, 1923, 4, .onOrAfter .sunday 16, .standard 2 0, 60⟩, ⟨1923, 1924, 9, .onOrAfter .sunday 16, .standard 2 0, 0⟩,
   ⟨1924, 1924, 4, .onOrAfter .sunday 9, .standard 2 0, 60⟩, ⟨1925, 1926, 4, .onOrAfter .sunday 16, .standard 2 0, 60⟩,
   ⟨1925, 1938, 10, .onOrAfter .sunday 2, .standard 2 0, 0⟩, ⟨1927, 1927, 4, .onOrAfter .sunday 9, .standard 2 0, 60⟩,
   ⟨1928, 1929, 4, .onOrAfter .sunday 16, .standard 2 0, 60⟩, ⟨1930, 1930, 4, .onOrAfter .sunday 9, .standard 2 0, 60⟩,
   ⟨1931, 1932, 4, .onOrAfter .sunday 16, .standard 2 0, 60⟩, ⟨1933, 1933, 4, .onOrAfter .sunday 9, .standard 2 0, 60⟩,
   ⟨1934, 1934, 4, .onOrAfter .sunday 16, .standard 2 0, 60⟩, ⟨1935, 1935, 4, .onOrAfter .sunday 9, .standard 2 0, 60⟩,
   ⟨1936, 1937, 4, .onOrAfter .sunday 16, .standard 2 0, 60⟩, ⟨1938, 1938, 4, .onOrAfter .sunday 9, .standard 2 0, 60⟩,
   ⟨1939, 1939, 4, .onOrAfter .sunday 16, .standard 2 0, 60⟩,
   ⟨1939, 1939, 11, .onOrAfter .sunday 16, .standard 2 0, 0⟩,
   ⟨1940, 1940, 2, .onOrAfter .sunday 23, .standard 2 0, 60⟩,
   ⟨1941, 1941, 5, .onOrAfter .sunday 2, .standard 1 0, 120⟩, ⟨1941, 1943, 8, .onOrAfter .sunday 9, .standard 1 0, 60⟩,
   ⟨1942, 1944, 4, .onOrAfter .sunday 2, .standard 1 0, 120⟩,
   ⟨1944, 1944, 9, .onOrAfter .sunday 16, .standard 1 0, 60⟩,
   ⟨1945, 1945, 4, .onOrAfter .monday 2, .standard 1 0, 120⟩, ⟨1945, 1945, 7, .onOrAfter .sunday 9, .standard 1 0, 60⟩,
   ⟨1945, 1946, 10, .onOrAfter .sunday 2, .standard 2 0, 0⟩, ⟨1946, 1946, 4, .onOrAfter .sunday 9, .standard 2 0, 60⟩,
   ⟨1947, 1947, 3, .on 16, .standard 2 0, 60⟩, ⟨1947, 1947, 4, .on 13, .standard 1 0, 120⟩,
   ⟨1947, 1947, 8, .on 10, .standard 1 0, 60⟩, ⟨1947, 1947, 11, .on 2, .standard 2 0, 0⟩,
   ⟨1948, 1948, 3, .on 14, .standard 2 0, 60⟩, ⟨1948, 1948, 10, .on 31, .standard 2 0, 0⟩,
   ⟨1949, 1949, 4, .on 3, .standard 2 0, 60⟩, ⟨1949, 1949, 10, .on 30, .standard 2 0, 0⟩,
   ⟨1950, 1952, 4, .onOrAfter .sunday 14, .standard 2 0, 60⟩,
   ⟨1950, 1952, 10, .onOrAfter .sunday 21, .standard 2 0, 0⟩,
   ⟨1953, 1953, 4, .onOrAfter .sunday 16, .standard 2 0, 60⟩, ⟨1953, 1960, 10, .onOrAfter .sunday 2, .standard 2 0, 0⟩,
   ⟨1954, 1954, 4, .onOrAfter .sunday 9, .standard 2 0, 60⟩, ⟨1955, 1956, 4, .onOrAfter .sunday 16, .standard 2 0, 60⟩,
   ⟨1957, 1957, 4, .onOrAfter .sunday 9, .standard 2 0, 60⟩, ⟨1958, 1959, 4, .onOrAfter .sunday 16, .standard 2 0, 60⟩,
   ⟨1960, 1960, 4, .onOrAfter .sunday 9, .standard 2 0, 60⟩, ⟨1961, 1963, 3, .last .sunday, .standard 2 0, 60⟩,
   ⟨1961, 1968, 10, .onOrAfter .sunday 23, .standard 2 0, 0⟩,
   ⟨1964, 1967, 3, .onOrAfter .sunday 19, .standard 2 0, 60⟩, ⟨1968, 1968, 2, .on 18, .standard 2 0, 60⟩,
   ⟨1972, 1980, 3, .onOrAfter .sunday 16, .standard 2 0, 60⟩,
   ⟨1972, 1980, 10, .onOrAfter .sunday 23, .standard 2 0, 0⟩, ⟨1981, 1995, 3, .last .sunday, .universal 1 0, 60⟩,
   ⟨1981, 1989, 10, .onOrAfter .sunday 23, .universal 1 0, 0⟩,
   ⟨1990, 1995, 10, .onOrAfter .sunday 22, .universal 1 0, 0⟩]

/-- Summer time in the European Union, since 1977. -/
def europeanUnion : List SavingRule :=
  [⟨1977, 1980, 4, .onOrAfter .sunday 1, .universal 1 0, 60⟩, ⟨1977, 1977, 9, .last .sunday, .universal 1 0, 0⟩,
   ⟨1978, 1978, 10, .on 1, .universal 1 0, 0⟩, ⟨1979, 1995, 9, .last .sunday, .universal 1 0, 0⟩,
   ⟨1981, 2099, 3, .last .sunday, .universal 1 0, 60⟩, ⟨1996, 2099, 10, .last .sunday, .universal 1 0, 0⟩]

/-- Summer time in Western Europe, since 1977. -/
def westernEurope : List SavingRule :=
  [⟨1977, 1980, 4, .onOrAfter .sunday 1, .standard 1 0, 60⟩, ⟨1977, 1977, 9, .last .sunday, .standard 1 0, 0⟩,
   ⟨1978, 1978, 10, .on 1, .standard 1 0, 0⟩, ⟨1979, 1995, 9, .last .sunday, .standard 1 0, 0⟩,
   ⟨1981, 2099, 3, .last .sunday, .standard 1 0, 60⟩, ⟨1996, 2099, 10, .last .sunday, .standard 1 0, 0⟩]

/-- Summer time in Central Europe, since 1916. -/
def centralEurope : List SavingRule :=
  [⟨1916, 1916, 4, .on 30, .wall 23 0, 60⟩, ⟨1916, 1916, 10, .on 1, .wall 1 0, 0⟩,
   ⟨1917, 1918, 4, .onOrAfter .monday 15, .standard 2 0, 60⟩, ⟨1917, 1918, 9, .onOrAfter .monday 15, .standard 2 0, 0⟩,
   ⟨1940, 1940, 4, .on 1, .standard 2 0, 60⟩, ⟨1942, 1942, 11, .on 2, .standard 2 0, 0⟩,
   ⟨1943, 1943, 3, .on 29, .standard 2 0, 60⟩, ⟨1943, 1943, 10, .on 4, .standard 2 0, 0⟩,
   ⟨1944, 1945, 4, .onOrAfter .monday 1, .standard 2 0, 60⟩, ⟨1944, 1944, 10, .on 2, .standard 2 0, 0⟩,
   ⟨1945, 1945, 9, .on 16, .standard 2 0, 0⟩, ⟨1977, 1980, 4, .onOrAfter .sunday 1, .standard 2 0, 60⟩,
   ⟨1977, 1977, 9, .last .sunday, .standard 2 0, 0⟩, ⟨1978, 1978, 10, .on 1, .standard 2 0, 0⟩,
   ⟨1979, 1995, 9, .last .sunday, .standard 2 0, 0⟩, ⟨1981, 2099, 3, .last .sunday, .standard 2 0, 60⟩,
   ⟨1996, 2099, 10, .last .sunday, .standard 2 0, 0⟩]

/-- Summer time in Eastern Europe, since 1977. -/
def easternEurope : List SavingRule :=
  [⟨1977, 1980, 4, .onOrAfter .sunday 1, .midnight, 60⟩, ⟨1977, 1977, 9, .last .sunday, .midnight, 0⟩,
   ⟨1978, 1978, 10, .on 1, .midnight, 0⟩, ⟨1979, 1995, 9, .last .sunday, .midnight, 0⟩,
   ⟨1981, 2099, 3, .last .sunday, .midnight, 60⟩, ⟨1996, 2099, 10, .last .sunday, .midnight, 0⟩]

/-- Summer time in Russia and the Soviet Union, from 1917 to 2010. -/
def russia : List SavingRule :=
  [⟨1917, 1917, 7, .on 1, .wall 23 0, 60⟩, ⟨1917, 1917, 12, .on 28, .midnight, 0⟩,
   ⟨1918, 1918, 5, .on 31, .wall 22 0, 120⟩, ⟨1918, 1918, 9, .on 16, .wall 1 0, 60⟩,
   ⟨1919, 1919, 5, .on 31, .wall 23 0, 120⟩, ⟨1919, 1919, 7, .on 1, .universal 0 0, 60⟩,
   ⟨1919, 1919, 8, .on 16, .midnight, 0⟩, ⟨1921, 1921, 2, .on 14, .wall 23 0, 60⟩,
   ⟨1921, 1921, 3, .on 20, .wall 23 0, 120⟩, ⟨1921, 1921, 9, .on 1, .midnight, 60⟩,
   ⟨1921, 1921, 10, .on 1, .midnight, 0⟩, ⟨1981, 1984, 4, .on 1, .midnight, 60⟩, ⟨1981, 1983, 10, .on 1, .midnight, 0⟩,
   ⟨1984, 1995, 9, .last .sunday, .standard 2 0, 0⟩, ⟨1985, 2010, 3, .last .sunday, .standard 2 0, 60⟩,
   ⟨1996, 2010, 10, .last .sunday, .standard 2 0, 0⟩]

/-- Summer time in Albania, from 1940 to 1984. -/
def albania : List SavingRule :=
  [⟨1940, 1940, 6, .on 16, .midnight, 60⟩, ⟨1942, 1942, 11, .on 2, .wall 3 0, 0⟩,
   ⟨1943, 1943, 3, .on 29, .wall 2 0, 60⟩, ⟨1943, 1943, 4, .on 10, .wall 3 0, 0⟩,
   ⟨1974, 1974, 5, .on 4, .midnight, 60⟩, ⟨1974, 1974, 10, .on 2, .midnight, 0⟩, ⟨1975, 1975, 5, .on 1, .midnight, 60⟩,
   ⟨1975, 1975, 10, .on 2, .midnight, 0⟩, ⟨1976, 1976, 5, .on 2, .midnight, 60⟩, ⟨1976, 1976, 10, .on 3, .midnight, 0⟩,
   ⟨1977, 1977, 5, .on 8, .midnight, 60⟩, ⟨1977, 1977, 10, .on 2, .midnight, 0⟩, ⟨1978, 1978, 5, .on 6, .midnight, 60⟩,
   ⟨1978, 1978, 10, .on 1, .midnight, 0⟩, ⟨1979, 1979, 5, .on 5, .midnight, 60⟩, ⟨1979, 1979, 9, .on 30, .midnight, 0⟩,
   ⟨1980, 1980, 5, .on 3, .midnight, 60⟩, ⟨1980, 1980, 10, .on 4, .midnight, 0⟩,
   ⟨1981, 1981, 4, .on 26, .midnight, 60⟩, ⟨1981, 1981, 9, .on 27, .midnight, 0⟩,
   ⟨1982, 1982, 5, .on 2, .midnight, 60⟩, ⟨1982, 1982, 10, .on 3, .midnight, 0⟩,
   ⟨1983, 1983, 4, .on 18, .midnight, 60⟩, ⟨1983, 1983, 10, .on 1, .midnight, 0⟩,
   ⟨1984, 1984, 4, .on 1, .midnight, 60⟩]

/-- Summer time in Austria, from 1920 to 1980. -/
def austria : List SavingRule :=
  [⟨1920, 1920, 4, .on 5, .standard 2 0, 60⟩, ⟨1920, 1920, 9, .on 13, .standard 2 0, 0⟩,
   ⟨1946, 1946, 4, .on 14, .standard 2 0, 60⟩, ⟨1946, 1946, 10, .on 7, .standard 2 0, 0⟩,
   ⟨1947, 1948, 10, .onOrAfter .sunday 1, .standard 2 0, 0⟩, ⟨1947, 1947, 4, .on 6, .standard 2 0, 60⟩,
   ⟨1948, 1948, 4, .on 18, .standard 2 0, 60⟩, ⟨1980, 1980, 4, .on 6, .midnight, 60⟩,
   ⟨1980, 1980, 9, .on 28, .midnight, 0⟩]

/-- Summer time in Belgium, from 1918 to 1946. -/
def belgium : List SavingRule :=
  [⟨1918, 1918, 3, .on 9, .standard 0 0, 60⟩, ⟨1918, 1919, 10, .onOrAfter .saturday 1, .standard 23 0, 0⟩,
   ⟨1919, 1919, 3, .on 1, .standard 23 0, 60⟩, ⟨1920, 1920, 2, .on 14, .standard 23 0, 60⟩,
   ⟨1920, 1920, 10, .on 23, .standard 23 0, 0⟩, ⟨1921, 1921, 3, .on 14, .standard 23 0, 60⟩,
   ⟨1921, 1921, 10, .on 25, .standard 23 0, 0⟩, ⟨1922, 1922, 3, .on 25, .standard 23 0, 60⟩,
   ⟨1922, 1927, 10, .onOrAfter .saturday 1, .standard 23 0, 0⟩, ⟨1923, 1923, 4, .on 21, .standard 23 0, 60⟩,
   ⟨1924, 1924, 3, .on 29, .standard 23 0, 60⟩, ⟨1925, 1925, 4, .on 4, .standard 23 0, 60⟩,
   ⟨1926, 1926, 4, .on 17, .standard 23 0, 60⟩, ⟨1927, 1927, 4, .on 9, .standard 23 0, 60⟩,
   ⟨1928, 1928, 4, .on 14, .standard 23 0, 60⟩, ⟨1928, 1938, 10, .onOrAfter .sunday 2, .standard 2 0, 0⟩,
   ⟨1929, 1929, 4, .on 21, .standard 2 0, 60⟩, ⟨1930, 1930, 4, .on 13, .standard 2 0, 60⟩,
   ⟨1931, 1931, 4, .on 19, .standard 2 0, 60⟩, ⟨1932, 1932, 4, .on 3, .standard 2 0, 60⟩,
   ⟨1933, 1933, 3, .on 26, .standard 2 0, 60⟩, ⟨1934, 1934, 4, .on 8, .standard 2 0, 60⟩,
   ⟨1935, 1935, 3, .on 31, .standard 2 0, 60⟩, ⟨1936, 1936, 4, .on 19, .standard 2 0, 60⟩,
   ⟨1937, 1937, 4, .on 4, .standard 2 0, 60⟩, ⟨1938, 1938, 3, .on 27, .standard 2 0, 60⟩,
   ⟨1939, 1939, 4, .on 16, .standard 2 0, 60⟩, ⟨1939, 1939, 11, .on 19, .standard 2 0, 0⟩,
   ⟨1940, 1940, 2, .on 25, .standard 2 0, 60⟩, ⟨1944, 1944, 9, .on 17, .standard 2 0, 0⟩,
   ⟨1945, 1945, 4, .on 2, .standard 2 0, 60⟩, ⟨1945, 1945, 9, .on 16, .standard 2 0, 0⟩,
   ⟨1946, 1946, 5, .on 19, .standard 2 0, 60⟩, ⟨1946, 1946, 10, .on 7, .standard 2 0, 0⟩]

/-- Summer time in Bulgaria, from 1979 to 1982. -/
def bulgaria : List SavingRule :=
  [⟨1979, 1979, 3, .on 31, .wall 23 0, 60⟩, ⟨1979, 1979, 10, .on 1, .wall 1 0, 0⟩,
   ⟨1980, 1982, 4, .onOrAfter .saturday 1, .wall 23 0, 60⟩, ⟨1980, 1980, 9, .on 29, .wall 1 0, 0⟩,
   ⟨1981, 1981, 9, .on 27, .wall 2 0, 0⟩]

/-- Summer time in Czechia, from 1945 to 1949. -/
def czechia : List SavingRule :=
  [⟨1945, 1945, 4, .onOrAfter .monday 1, .standard 2 0, 60⟩, ⟨1945, 1945, 10, .on 1, .standard 2 0, 0⟩,
   ⟨1946, 1946, 5, .on 6, .standard 2 0, 60⟩, ⟨1946, 1949, 10, .onOrAfter .sunday 1, .standard 2 0, 0⟩,
   ⟨1947, 1948, 4, .onOrAfter .sunday 15, .standard 2 0, 60⟩, ⟨1949, 1949, 4, .on 9, .standard 2 0, 60⟩]

/-- Summer time in Finland, from 1942 to 1982. -/
def finland : List SavingRule :=
  [⟨1942, 1942, 4, .on 2, .wall 24 0, 60⟩, ⟨1942, 1942, 10, .on 4, .wall 1 0, 0⟩,
   ⟨1981, 1982, 3, .last .sunday, .wall 2 0, 60⟩, ⟨1981, 1982, 9, .last .sunday, .wall 3 0, 0⟩]

/-- Summer time in France, from 1916 to 1976. -/
def france : List SavingRule :=
  [⟨1916, 1916, 6, .on 14, .standard 23 0, 60⟩, ⟨1916, 1919, 10, .onOrAfter .sunday 1, .standard 23 0, 0⟩,
   ⟨1917, 1917, 3, .on 24, .standard 23 0, 60⟩, ⟨1918, 1918, 3, .on 9, .standard 23 0, 60⟩,
   ⟨1919, 1919, 3, .on 1, .standard 23 0, 60⟩, ⟨1920, 1920, 2, .on 14, .standard 23 0, 60⟩,
   ⟨1920, 1920, 10, .on 23, .standard 23 0, 0⟩, ⟨1921, 1921, 3, .on 14, .standard 23 0, 60⟩,
   ⟨1921, 1921, 10, .on 25, .standard 23 0, 0⟩, ⟨1922, 1922, 3, .on 25, .standard 23 0, 60⟩,
   ⟨1922, 1938, 10, .onOrAfter .saturday 1, .standard 23 0, 0⟩, ⟨1923, 1923, 5, .on 26, .standard 23 0, 60⟩,
   ⟨1924, 1924, 3, .on 29, .standard 23 0, 60⟩, ⟨1925, 1925, 4, .on 4, .standard 23 0, 60⟩,
   ⟨1926, 1926, 4, .on 17, .standard 23 0, 60⟩, ⟨1927, 1927, 4, .on 9, .standard 23 0, 60⟩,
   ⟨1928, 1928, 4, .on 14, .standard 23 0, 60⟩, ⟨1929, 1929, 4, .on 20, .standard 23 0, 60⟩,
   ⟨1930, 1930, 4, .on 12, .standard 23 0, 60⟩, ⟨1931, 1931, 4, .on 18, .standard 23 0, 60⟩,
   ⟨1932, 1932, 4, .on 2, .standard 23 0, 60⟩, ⟨1933, 1933, 3, .on 25, .standard 23 0, 60⟩,
   ⟨1934, 1934, 4, .on 7, .standard 23 0, 60⟩, ⟨1935, 1935, 3, .on 30, .standard 23 0, 60⟩,
   ⟨1936, 1936, 4, .on 18, .standard 23 0, 60⟩, ⟨1937, 1937, 4, .on 3, .standard 23 0, 60⟩,
   ⟨1938, 1938, 3, .on 26, .standard 23 0, 60⟩, ⟨1939, 1939, 4, .on 15, .standard 23 0, 60⟩,
   ⟨1939, 1939, 11, .on 18, .standard 23 0, 0⟩, ⟨1940, 1940, 2, .on 25, .wall 2 0, 60⟩,
   ⟨1941, 1941, 5, .on 5, .midnight, 120⟩, ⟨1941, 1941, 10, .on 6, .midnight, 60⟩,
   ⟨1942, 1942, 3, .on 9, .midnight, 120⟩, ⟨1942, 1942, 11, .on 2, .wall 3 0, 60⟩,
   ⟨1943, 1943, 3, .on 29, .wall 2 0, 120⟩, ⟨1943, 1943, 10, .on 4, .wall 3 0, 60⟩,
   ⟨1944, 1944, 4, .on 3, .wall 2 0, 120⟩, ⟨1944, 1944, 10, .on 8, .wall 1 0, 60⟩,
   ⟨1945, 1945, 4, .on 2, .wall 2 0, 120⟩, ⟨1945, 1945, 9, .on 16, .wall 3 0, 0⟩,
   ⟨1976, 1976, 3, .on 28, .wall 1 0, 60⟩, ⟨1976, 1976, 9, .on 26, .wall 1 0, 0⟩]

/-- Summer time in Germany, from 1946 to 1949. -/
def germany : List SavingRule :=
  [⟨1946, 1946, 4, .on 14, .standard 2 0, 60⟩, ⟨1946, 1946, 10, .on 7, .standard 2 0, 0⟩,
   ⟨1947, 1949, 10, .onOrAfter .sunday 1, .standard 2 0, 0⟩, ⟨1947, 1947, 4, .on 6, .standard 3 0, 60⟩,
   ⟨1947, 1947, 5, .on 11, .standard 2 0, 120⟩, ⟨1947, 1947, 6, .on 29, .wall 3 0, 60⟩,
   ⟨1948, 1948, 4, .on 18, .standard 2 0, 60⟩, ⟨1949, 1949, 4, .on 10, .standard 2 0, 60⟩]

/-- Summer time in the Soviet zone of Germany, in 1945. -/
def sovietZone : List SavingRule :=
  [⟨1945, 1945, 5, .on 24, .wall 2 0, 120⟩, ⟨1945, 1945, 9, .on 24, .wall 3 0, 60⟩,
   ⟨1945, 1945, 11, .on 18, .standard 2 0, 0⟩]

/-- Summer time in Greece, from 1932 to 1980. -/
def greece : List SavingRule :=
  [⟨1932, 1932, 7, .on 7, .midnight, 60⟩, ⟨1932, 1932, 9, .on 1, .midnight, 0⟩, ⟨1941, 1941, 4, .on 7, .midnight, 60⟩,
   ⟨1942, 1942, 11, .on 2, .wall 3 0, 0⟩, ⟨1943, 1943, 3, .on 30, .midnight, 60⟩,
   ⟨1943, 1943, 10, .on 4, .midnight, 0⟩, ⟨1952, 1952, 7, .on 1, .midnight, 60⟩, ⟨1952, 1952, 11, .on 2, .midnight, 0⟩,
   ⟨1975, 1975, 4, .on 12, .standard 0 0, 60⟩, ⟨1975, 1975, 11, .on 26, .standard 0 0, 0⟩,
   ⟨1976, 1976, 4, .on 11, .standard 2 0, 60⟩, ⟨1976, 1976, 10, .on 10, .standard 2 0, 0⟩,
   ⟨1977, 1978, 4, .onOrAfter .sunday 1, .standard 2 0, 60⟩, ⟨1977, 1977, 9, .on 26, .standard 2 0, 0⟩,
   ⟨1978, 1978, 9, .on 24, .wall 4 0, 0⟩, ⟨1979, 1979, 4, .on 1, .wall 9 0, 60⟩, ⟨1979, 1979, 9, .on 29, .wall 2 0, 0⟩,
   ⟨1980, 1980, 4, .on 1, .midnight, 60⟩, ⟨1980, 1980, 9, .on 28, .midnight, 0⟩]

/-- Summer time in Hungary, from 1918 to 1983. -/
def hungary : List SavingRule :=
  [⟨1918, 1919, 4, .on 15, .wall 2 0, 60⟩, ⟨1918, 1920, 9, .onOrAfter .monday 15, .wall 3 0, 0⟩,
   ⟨1920, 1920, 4, .on 5, .wall 2 0, 60⟩, ⟨1945, 1945, 5, .on 1, .wall 23 0, 60⟩,
   ⟨1945, 1945, 11, .on 1, .wall 1 0, 0⟩, ⟨1946, 1946, 3, .on 31, .standard 2 0, 60⟩,
   ⟨1946, 1946, 10, .on 7, .wall 2 0, 0⟩, ⟨1947, 1949, 4, .onOrAfter .sunday 4, .standard 2 0, 60⟩,
   ⟨1947, 1949, 10, .onOrAfter .sunday 1, .standard 2 0, 0⟩, ⟨1954, 1954, 5, .on 23, .midnight, 60⟩,
   ⟨1954, 1954, 10, .on 3, .midnight, 0⟩, ⟨1955, 1955, 5, .on 22, .wall 2 0, 60⟩,
   ⟨1955, 1955, 10, .on 2, .wall 3 0, 0⟩, ⟨1956, 1957, 6, .onOrAfter .sunday 1, .wall 2 0, 60⟩,
   ⟨1956, 1957, 9, .last .sunday, .wall 3 0, 0⟩, ⟨1980, 1980, 4, .on 6, .midnight, 60⟩,
   ⟨1980, 1980, 9, .on 28, .wall 1 0, 0⟩, ⟨1981, 1983, 3, .last .sunday, .midnight, 60⟩,
   ⟨1981, 1983, 9, .last .sunday, .wall 1 0, 0⟩]

/-- Summer time in Italy, from 1916 to 1979. -/
def italy : List SavingRule :=
  [⟨1916, 1916, 6, .on 3, .wall 24 0, 60⟩, ⟨1916, 1917, 9, .on 30, .wall 24 0, 0⟩,
   ⟨1917, 1917, 3, .on 31, .wall 24 0, 60⟩, ⟨1918, 1918, 3, .on 9, .wall 24 0, 60⟩,
   ⟨1918, 1918, 10, .on 6, .wall 24 0, 0⟩, ⟨1919, 1919, 3, .on 1, .wall 24 0, 60⟩,
   ⟨1919, 1919, 10, .on 4, .wall 24 0, 0⟩, ⟨1920, 1920, 3, .on 20, .wall 24 0, 60⟩,
   ⟨1920, 1920, 9, .on 18, .wall 24 0, 0⟩, ⟨1940, 1940, 6, .on 14, .wall 24 0, 60⟩,
   ⟨1942, 1942, 11, .on 2, .standard 2 0, 0⟩, ⟨1943, 1943, 3, .on 29, .standard 2 0, 60⟩,
   ⟨1943, 1943, 10, .on 4, .standard 2 0, 0⟩, ⟨1944, 1944, 4, .on 2, .standard 2 0, 60⟩,
   ⟨1944, 1944, 9, .on 17, .standard 2 0, 0⟩, ⟨1945, 1945, 4, .on 2, .wall 2 0, 60⟩,
   ⟨1945, 1945, 9, .on 15, .wall 1 0, 0⟩, ⟨1946, 1946, 3, .on 17, .standard 2 0, 60⟩,
   ⟨1946, 1946, 10, .on 6, .standard 2 0, 0⟩, ⟨1947, 1947, 3, .on 16, .standard 0 0, 60⟩,
   ⟨1947, 1947, 10, .on 5, .standard 0 0, 0⟩, ⟨1948, 1948, 2, .on 29, .standard 2 0, 60⟩,
   ⟨1948, 1948, 10, .on 3, .standard 2 0, 0⟩, ⟨1966, 1968, 5, .onOrAfter .sunday 22, .standard 0 0, 60⟩,
   ⟨1966, 1966, 9, .on 24, .wall 24 0, 0⟩, ⟨1967, 1969, 9, .onOrAfter .sunday 22, .standard 0 0, 0⟩,
   ⟨1969, 1969, 6, .on 1, .standard 0 0, 60⟩, ⟨1970, 1970, 5, .on 31, .standard 0 0, 60⟩,
   ⟨1970, 1970, 9, .last .sunday, .standard 0 0, 0⟩, ⟨1971, 1972, 5, .onOrAfter .sunday 22, .standard 0 0, 60⟩,
   ⟨1971, 1971, 9, .last .sunday, .standard 0 0, 0⟩, ⟨1972, 1972, 10, .on 1, .standard 0 0, 0⟩,
   ⟨1973, 1973, 6, .on 3, .standard 0 0, 60⟩, ⟨1973, 1974, 9, .last .sunday, .standard 0 0, 0⟩,
   ⟨1974, 1974, 5, .on 26, .standard 0 0, 60⟩, ⟨1975, 1975, 6, .on 1, .standard 0 0, 60⟩,
   ⟨1975, 1977, 9, .last .sunday, .standard 0 0, 0⟩, ⟨1976, 1976, 5, .on 30, .standard 0 0, 60⟩,
   ⟨1977, 1979, 5, .onOrAfter .sunday 22, .standard 0 0, 60⟩, ⟨1978, 1978, 10, .on 1, .standard 0 0, 0⟩,
   ⟨1979, 1979, 9, .on 30, .standard 0 0, 0⟩]

/-- Summer time in Latvia, from 1989 to 1996. -/
def latvia : List SavingRule :=
  [⟨1989, 1996, 3, .last .sunday, .standard 2 0, 60⟩, ⟨1989, 1996, 9, .last .sunday, .standard 2 0, 0⟩]

/-- Summer time in Malta, from 1973 to 1980. -/
def malta : List SavingRule :=
  [⟨1973, 1973, 3, .on 31, .standard 0 0, 60⟩, ⟨1973, 1973, 9, .on 29, .standard 0 0, 0⟩,
   ⟨1974, 1974, 4, .on 21, .standard 0 0, 60⟩, ⟨1974, 1974, 9, .on 16, .standard 0 0, 0⟩,
   ⟨1975, 1979, 4, .onOrAfter .sunday 15, .wall 2 0, 60⟩, ⟨1975, 1980, 9, .onOrAfter .sunday 15, .wall 2 0, 0⟩,
   ⟨1980, 1980, 3, .on 31, .wall 2 0, 60⟩]

/-- Summer time in Moldova, since 1997. -/
def moldova : List SavingRule :=
  [⟨1997, 2099, 3, .last .sunday, .wall 2 0, 60⟩, ⟨1997, 2099, 10, .last .sunday, .wall 3 0, 0⟩]

/-- Summer time in Poland, from 1918 to 1964. -/
def poland : List SavingRule :=
  [⟨1918, 1919, 9, .on 16, .standard 2 0, 0⟩, ⟨1919, 1919, 4, .on 15, .standard 2 0, 60⟩,
   ⟨1944, 1944, 4, .on 3, .standard 2 0, 60⟩, ⟨1944, 1944, 10, .on 4, .wall 2 0, 0⟩,
   ⟨1945, 1945, 4, .on 29, .midnight, 60⟩, ⟨1945, 1945, 11, .on 1, .midnight, 0⟩,
   ⟨1946, 1946, 4, .on 14, .standard 0 0, 60⟩, ⟨1946, 1946, 10, .on 7, .standard 2 0, 0⟩,
   ⟨1947, 1947, 5, .on 4, .standard 2 0, 60⟩, ⟨1947, 1949, 10, .onOrAfter .sunday 1, .standard 2 0, 0⟩,
   ⟨1948, 1948, 4, .on 18, .standard 2 0, 60⟩, ⟨1949, 1949, 4, .on 10, .standard 2 0, 60⟩,
   ⟨1957, 1957, 6, .on 2, .standard 1 0, 60⟩, ⟨1957, 1958, 9, .last .sunday, .standard 1 0, 0⟩,
   ⟨1958, 1958, 3, .on 30, .standard 1 0, 60⟩, ⟨1959, 1959, 5, .on 31, .standard 1 0, 60⟩,
   ⟨1959, 1961, 10, .onOrAfter .sunday 1, .standard 1 0, 0⟩, ⟨1960, 1960, 4, .on 3, .standard 1 0, 60⟩,
   ⟨1961, 1964, 5, .last .sunday, .standard 1 0, 60⟩, ⟨1962, 1964, 9, .last .sunday, .standard 1 0, 0⟩]

/-- Summer time in Portugal, from 1916 to 1986. -/
def portugal : List SavingRule :=
  [⟨1916, 1916, 6, .on 17, .wall 23 0, 60⟩, ⟨1916, 1916, 11, .on 1, .wall 1 0, 0⟩,
   ⟨1917, 1921, 3, .on 1, .midnight, 60⟩, ⟨1917, 1921, 10, .on 14, .wall 24 0, 0⟩,
   ⟨1924, 1924, 4, .on 16, .standard 23 0, 60⟩, ⟨1924, 1924, 10, .on 4, .standard 23 0, 0⟩,
   ⟨1926, 1926, 4, .on 17, .standard 23 0, 60⟩, ⟨1926, 1929, 10, .onOrAfter .saturday 1, .standard 23 0, 0⟩,
   ⟨1927, 1927, 4, .on 9, .standard 23 0, 60⟩, ⟨1928, 1928, 4, .on 14, .standard 23 0, 60⟩,
   ⟨1929, 1929, 4, .on 20, .standard 23 0, 60⟩, ⟨1931, 1931, 4, .on 18, .standard 23 0, 60⟩,
   ⟨1931, 1932, 10, .onOrAfter .saturday 1, .standard 23 0, 0⟩, ⟨1932, 1932, 4, .on 2, .standard 23 0, 60⟩,
   ⟨1934, 1934, 4, .on 7, .standard 23 0, 60⟩, ⟨1934, 1938, 10, .onOrAfter .saturday 1, .standard 23 0, 0⟩,
   ⟨1935, 1935, 3, .on 30, .standard 23 0, 60⟩, ⟨1936, 1936, 4, .on 18, .standard 23 0, 60⟩,
   ⟨1937, 1937, 4, .on 3, .standard 23 0, 60⟩, ⟨1938, 1938, 3, .on 26, .standard 23 0, 60⟩,
   ⟨1939, 1939, 4, .on 15, .standard 23 0, 60⟩, ⟨1939, 1939, 11, .on 18, .standard 23 0, 0⟩,
   ⟨1940, 1940, 2, .on 24, .standard 23 0, 60⟩, ⟨1940, 1940, 10, .on 7, .standard 23 0, 0⟩,
   ⟨1941, 1941, 4, .on 5, .standard 23 0, 60⟩, ⟨1941, 1941, 10, .on 5, .standard 23 0, 0⟩,
   ⟨1942, 1945, 3, .onOrAfter .saturday 8, .standard 23 0, 60⟩, ⟨1942, 1942, 4, .on 25, .standard 22 0, 120⟩,
   ⟨1942, 1942, 8, .on 15, .standard 22 0, 60⟩, ⟨1942, 1945, 10, .onOrAfter .saturday 24, .standard 23 0, 0⟩,
   ⟨1943, 1943, 4, .on 17, .standard 22 0, 120⟩, ⟨1943, 1945, 8, .onOrAfter .saturday 25, .standard 22 0, 60⟩,
   ⟨1944, 1945, 4, .onOrAfter .saturday 21, .standard 22 0, 120⟩,
   ⟨1946, 1946, 4, .onOrAfter .saturday 1, .standard 23 0, 60⟩,
   ⟨1946, 1946, 10, .onOrAfter .saturday 1, .standard 23 0, 0⟩,
   ⟨1947, 1966, 4, .onOrAfter .sunday 1, .standard 2 0, 60⟩, ⟨1947, 1965, 10, .onOrAfter .sunday 1, .standard 2 0, 0⟩,
   ⟨1976, 1976, 9, .last .sunday, .wall 1 0, 0⟩, ⟨1977, 1977, 3, .last .sunday, .standard 0 0, 60⟩,
   ⟨1977, 1977, 9, .last .sunday, .standard 0 0, 0⟩, ⟨1978, 1980, 4, .onOrAfter .sunday 1, .standard 1 0, 60⟩,
   ⟨1978, 1978, 10, .on 1, .standard 1 0, 0⟩, ⟨1979, 1980, 9, .last .sunday, .standard 1 0, 0⟩,
   ⟨1981, 1986, 3, .last .sunday, .standard 0 0, 60⟩, ⟨1981, 1985, 9, .last .sunday, .standard 0 0, 0⟩]

/-- Summer time in Romania, from 1932 to 1993. -/
def romania : List SavingRule :=
  [⟨1932, 1932, 5, .on 21, .standard 0 0, 60⟩, ⟨1932, 1939, 10, .onOrAfter .sunday 1, .standard 0 0, 0⟩,
   ⟨1933, 1939, 4, .onOrAfter .sunday 2, .standard 0 0, 60⟩, ⟨1979, 1979, 5, .on 27, .midnight, 60⟩,
   ⟨1979, 1979, 9, .last .sunday, .midnight, 0⟩, ⟨1980, 1980, 4, .on 5, .wall 23 0, 60⟩,
   ⟨1980, 1980, 9, .last .sunday, .wall 1 0, 0⟩, ⟨1991, 1993, 3, .last .sunday, .standard 0 0, 60⟩,
   ⟨1991, 1993, 9, .last .sunday, .standard 0 0, 0⟩]

/-- Summer time in Spain, from 1918 to 1978. -/
def spain : List SavingRule :=
  [⟨1918, 1918, 4, .on 15, .wall 23 0, 60⟩, ⟨1918, 1919, 10, .on 6, .standard 24 0, 0⟩,
   ⟨1919, 1919, 4, .on 6, .wall 23 0, 60⟩, ⟨1924, 1924, 4, .on 16, .wall 23 0, 60⟩,
   ⟨1924, 1924, 10, .on 4, .standard 24 0, 0⟩, ⟨1926, 1926, 4, .on 17, .wall 23 0, 60⟩,
   ⟨1926, 1929, 10, .onOrAfter .saturday 1, .standard 24 0, 0⟩, ⟨1927, 1927, 4, .on 9, .wall 23 0, 60⟩,
   ⟨1928, 1928, 4, .on 15, .midnight, 60⟩, ⟨1929, 1929, 4, .on 20, .wall 23 0, 60⟩,
   ⟨1937, 1937, 6, .on 16, .wall 23 0, 60⟩, ⟨1937, 1937, 10, .on 2, .standard 24 0, 0⟩,
   ⟨1938, 1938, 4, .on 2, .wall 23 0, 60⟩, ⟨1938, 1938, 4, .on 30, .wall 23 0, 120⟩,
   ⟨1938, 1938, 10, .on 2, .wall 24 0, 60⟩, ⟨1939, 1939, 10, .on 7, .standard 24 0, 0⟩,
   ⟨1942, 1942, 5, .on 2, .wall 23 0, 60⟩, ⟨1942, 1942, 9, .on 1, .wall 1 0, 0⟩,
   ⟨1943, 1946, 4, .onOrAfter .saturday 13, .wall 23 0, 60⟩, ⟨1943, 1944, 10, .onOrAfter .sunday 1, .wall 1 0, 0⟩,
   ⟨1945, 1946, 9, .last .sunday, .wall 1 0, 0⟩, ⟨1949, 1949, 4, .on 30, .wall 23 0, 60⟩,
   ⟨1949, 1949, 10, .on 2, .wall 1 0, 0⟩, ⟨1974, 1975, 4, .onOrAfter .saturday 12, .wall 23 0, 60⟩,
   ⟨1974, 1975, 10, .onOrAfter .sunday 1, .wall 1 0, 0⟩, ⟨1976, 1976, 3, .on 27, .wall 23 0, 60⟩,
   ⟨1976, 1977, 9, .last .sunday, .wall 1 0, 0⟩, ⟨1977, 1977, 4, .on 2, .wall 23 0, 60⟩,
   ⟨1978, 1978, 4, .on 2, .standard 2 0, 60⟩, ⟨1978, 1978, 10, .on 1, .standard 2 0, 0⟩]

/-- Summer time in Spanish Africa, from 1967 to 1978. -/
def spanishAfrica : List SavingRule :=
  [⟨1967, 1967, 6, .on 3, .wall 12 0, 60⟩, ⟨1967, 1967, 10, .on 1, .midnight, 0⟩,
   ⟨1974, 1974, 6, .on 24, .midnight, 60⟩, ⟨1974, 1974, 9, .on 1, .midnight, 0⟩, ⟨1976, 1977, 5, .on 1, .midnight, 60⟩,
   ⟨1976, 1976, 8, .on 1, .midnight, 0⟩, ⟨1977, 1977, 9, .on 28, .midnight, 0⟩, ⟨1978, 1978, 6, .on 1, .midnight, 60⟩,
   ⟨1978, 1978, 8, .on 4, .midnight, 0⟩]

/-- Summer time in Switzerland, from 1941 to 1942. -/
def switzerland : List SavingRule :=
  [⟨1941, 1942, 5, .onOrAfter .monday 1, .wall 1 0, 60⟩, ⟨1941, 1942, 10, .onOrAfter .monday 1, .wall 2 0, 0⟩]

/-- Summer time in Turkey, from 1916 to 2006. -/
def turkey : List SavingRule :=
  [⟨1916, 1916, 5, .on 1, .midnight, 60⟩, ⟨1916, 1916, 10, .on 1, .midnight, 0⟩,
   ⟨1920, 1920, 3, .on 28, .midnight, 60⟩, ⟨1920, 1920, 10, .on 25, .midnight, 0⟩,
   ⟨1921, 1921, 4, .on 3, .midnight, 60⟩, ⟨1921, 1921, 10, .on 3, .midnight, 0⟩,
   ⟨1922, 1922, 3, .on 26, .midnight, 60⟩, ⟨1922, 1922, 10, .on 8, .midnight, 0⟩,
   ⟨1924, 1924, 5, .on 13, .midnight, 60⟩, ⟨1924, 1925, 10, .on 1, .midnight, 0⟩,
   ⟨1925, 1925, 5, .on 1, .midnight, 60⟩, ⟨1940, 1940, 7, .on 1, .midnight, 60⟩, ⟨1940, 1940, 10, .on 6, .midnight, 0⟩,
   ⟨1940, 1940, 12, .on 1, .midnight, 60⟩, ⟨1941, 1941, 9, .on 21, .midnight, 0⟩,
   ⟨1942, 1942, 4, .on 1, .midnight, 60⟩, ⟨1945, 1945, 10, .on 8, .midnight, 0⟩, ⟨1946, 1946, 6, .on 1, .midnight, 60⟩,
   ⟨1946, 1946, 10, .on 1, .midnight, 0⟩, ⟨1947, 1948, 4, .onOrAfter .sunday 16, .midnight, 60⟩,
   ⟨1947, 1951, 10, .onOrAfter .sunday 2, .midnight, 0⟩, ⟨1949, 1949, 4, .on 10, .midnight, 60⟩,
   ⟨1950, 1950, 4, .on 16, .midnight, 60⟩, ⟨1951, 1951, 4, .on 22, .midnight, 60⟩,
   ⟨1962, 1962, 7, .on 15, .midnight, 60⟩, ⟨1963, 1963, 10, .on 30, .midnight, 0⟩,
   ⟨1964, 1964, 5, .on 15, .midnight, 60⟩, ⟨1964, 1964, 10, .on 1, .midnight, 0⟩,
   ⟨1973, 1973, 6, .on 3, .wall 1 0, 60⟩, ⟨1973, 1976, 10, .onOrAfter .sunday 31, .wall 2 0, 0⟩,
   ⟨1974, 1974, 3, .on 31, .wall 2 0, 60⟩, ⟨1975, 1975, 3, .on 22, .wall 2 0, 60⟩,
   ⟨1976, 1976, 3, .on 21, .wall 2 0, 60⟩, ⟨1977, 1978, 4, .onOrAfter .sunday 1, .wall 2 0, 60⟩,
   ⟨1977, 1978, 10, .onOrAfter .sunday 15, .wall 2 0, 0⟩, ⟨1978, 1978, 6, .on 29, .midnight, 0⟩,
   ⟨1983, 1983, 7, .on 31, .wall 2 0, 60⟩, ⟨1983, 1983, 10, .on 2, .wall 2 0, 0⟩,
   ⟨1985, 1985, 4, .on 20, .standard 1 0, 60⟩, ⟨1985, 1985, 9, .on 28, .standard 1 0, 0⟩,
   ⟨1986, 1993, 3, .last .sunday, .standard 1 0, 60⟩, ⟨1986, 1995, 9, .last .sunday, .standard 1 0, 0⟩,
   ⟨1994, 1994, 3, .on 20, .standard 1 0, 60⟩, ⟨1995, 2006, 3, .last .sunday, .standard 1 0, 60⟩,
   ⟨1996, 2006, 10, .last .sunday, .standard 1 0, 0⟩]

end SecretRotation.SavingRules
