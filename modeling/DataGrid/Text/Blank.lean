/-!
Blank characters, trimming and words. A text is its words with blanks between and around them:
`words` keeps the characters that are not blank, in order, and no word is empty.
-/

namespace DataGrid.Text

def isSeparator (c : Char) : Bool := 0x1C ≤ c.toNat && c.toNat ≤ 0x1F

/-- The blank characters: the Unicode white space class and the information separators. -/
def isBlank (c : Char) : Bool :=
  let n := c.toNat
  (0x9 ≤ n && n ≤ 0xD) || isSeparator c || n == 0x20 || n == 0x85 || n == 0xA0 || n == 0x1680 ||
    (0x2000 ≤ n && n ≤ 0x200A) || n == 0x2028 || n == 0x2029 || n == 0x202F || n == 0x205F || n == 0x3000

def trimLeft (chars : List Char) : List Char := chars.dropWhile isBlank

def trimRight (chars : List Char) : List Char := (chars.reverse.dropWhile isBlank).reverse

def trim (chars : List Char) : List Char := trimRight (trimLeft chars)

/-- The words of a text, with the characters of the word under way in `current`. -/
def wordsFrom (current : List Char) : List Char → List (List Char)
  | [] => if current.isEmpty then [] else [current.reverse]
  | c :: rest =>
    if isBlank c then
      if current.isEmpty then wordsFrom [] rest else current.reverse :: wordsFrom [] rest
    else wordsFrom (c :: current) rest

def words (chars : List Char) : List (List Char) := wordsFrom [] chars

theorem wordsFrom_flatten (chars current : List Char) :
    (wordsFrom current chars).flatten = current.reverse ++ chars.filter (fun c => !isBlank c) := by
  induction chars generalizing current with
  | nil => cases current <;> simp [wordsFrom]
  | cons c rest ih => cases h : isBlank c <;> cases current <;> simp [wordsFrom, h, ih]

theorem words_flatten (chars : List Char) : (words chars).flatten = chars.filter (fun c => !isBlank c) := by
  simp [words, wordsFrom_flatten]

theorem wordsFrom_ne_nil (chars current : List Char) : ∀ word ∈ wordsFrom current chars, word ≠ [] := by
  induction chars generalizing current with
  | nil => cases current <;> simp [wordsFrom]
  | cons c rest ih =>
    cases blank : isBlank c
    · simpa [wordsFrom, blank] using ih (c :: current)
    · cases current <;> simpa [wordsFrom, blank] using ih []

end DataGrid.Text
