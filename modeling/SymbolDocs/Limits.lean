namespace SymbolDocs.Limits

def redirects : Nat := 5

/-- Characters of the longest section that is cut out by headings. -/
def sectionChars : Nat := 2000

/-- A section with fewer characters is replaced by paragraphs, if there are any. -/
def leastSectionChars : Nat := 40

def paragraphCount : Nat := 3

/-- Elements looked at while paragraphs are collected in place of a short section. -/
def fallbackElements : Nat := 60

/-- A paragraph counts when it has more characters than this. -/
def paragraphChars : Nat := 20

/-- The same for a paragraph picked from anywhere on a page. -/
def pageParagraphChars : Nat := 50

def memoryEntries : Nat := 256

def timeoutMs : Nat := 5000

def inventoryAgeSecs : Nat := 7 * 24 * 60 * 60

def pageAgeSecs : Nat := 24 * 60 * 60

def registryAgeSecs : Nat := 24 * 60 * 60

/-- The greatest number of 64 bits. -/
def word : Nat := 0xFFFFFFFFFFFFFFFF

end SymbolDocs.Limits
