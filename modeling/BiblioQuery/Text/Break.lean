import BiblioQuery.Text.Property

/-!
# Where texts may be divided

Three properties tell what a character does to the divisions of a text into what readers see as one
character, into words, and into sentences.  Their values follow from categories, scripts and other
properties but for some exceptions, as the standard defines them.  Characters without a value of
their own cannot be asked for.

## Main definitions

* `Text.graphemeBreakRanges?` : the characters with a value for visible characters.
* `Text.wordBreakRanges?` : the characters with a value for words.
* `Text.sentenceBreakRanges?` : the characters with a value for sentences.
-/

namespace BiblioQuery.Text

/-- The characters with the property of a name. -/
def property (name : String) : List (Nat × Nat) := (propertyRanges? name).getD []

/-- The characters of the script with a name. -/
def script (name : String) : List (Nat × Nat) := (scriptRanges? name).getD []

/-- The carriage return. -/
def carriageReturn : List (Nat × Nat) := [(0x0D, 0x0D)]

/-- The line feed. -/
def lineFeed : List (Nat × Nat) := [(0x0A, 0x0A)]

/-- The character that joins what is before and after it. -/
def joiner : List (Nat × Nat) := [(0x200D, 0x200D)]

/-- The characters that change the one before them. -/
def modifyingRanges : Unit → List (Nat × Nat) := fun _ =>
  CodeRange.union (property "graphemeextend") (property "emojimodifier")

/-! ### Visible characters -/

/-- Characters that go with what follows them, besides signs that go before numbers. -/
def otherPrepend : List String :=
  ["D4E 111C2-111C3 113D1 1193F 11941 11A3A 11A84-11A89 11D46 11F02"]

/-- Marks that take up space and are written apart from what is before them. -/
def exceptSpacing : List String :=
  ["102B-102C 1038 1062-1064 1067-106D 1083 1087-108C 108F 109A-109C 1A61 1A63-1A64 AA7B AA7D",
   "11720-11721"]

/-- The Hangul syllables that end in a vowel: every twenty-eighth one, from the first on. -/
def openSyllables : List (Nat × Nat) :=
  (List.range 399).map fun i => (0xAC00 + 28 * i, 0xAC00 + 28 * i)

/-- The characters with a value that tells where visible characters end. -/
def graphemeBreakRanges? (name : String) : Option (List (Nat × Nat)) :=
  match name with
  | "cr" => some carriageReturn
  | "lf" => some lineFeed
  | "control" | "cn" =>
    some (CodeRange.diff
      (CodeRange.union (categories ["cc", "cf", "zl", "zp"])
        (CodeRange.inter (category "cn") (property "di")))
      ([lineFeed, joiner, property "pcm", property "graphemeextend"].foldl CodeRange.union
        carriageReturn))
  | "extend" | "ex" => some (modifyingRanges ())
  | "zwj" => some joiner
  | "regionalindicator" | "ri" => some (property "ri")
  | "prepend" | "pp" => some (CodeRange.union (property "pcm") (listedRanges otherPrepend))
  | "spacingmark" | "sm" =>
    some (CodeRange.diff (CodeRange.union [(0xE33, 0xE33), (0xEB3, 0xEB3)] (category "mc"))
      (CodeRange.union (listedRanges exceptSpacing) (property "graphemeextend")))
  | "l" => some [(0x1100, 0x115F), (0xA960, 0xA97C)]
  | "v" => some (listedRanges ["1160-11A7 D7B0-D7C6 16D63 16D67-16D6A"])
  | "t" => some [(0x11A8, 0x11FF), (0xD7CB, 0xD7FB)]
  | "lv" => some openSyllables
  | "lvt" => some (CodeRange.diff [(0xAC00, 0xD7A3)] openSyllables)
  | _ => none

/-! ### Words -/

/-- Signs of other scripts that are written with Katakana. -/
def otherKatakana : List String :=
  ["3031-3035 309B-309C 30A0 30FC FF70"]

/-- Characters of other kinds that words are made of. -/
def otherWordLetter : List String :=
  ["2C2-2C5 2D2-2D7 2DE-2DF 2E5-2EB 2ED 2EF-2FF 55A-55C 55E 58A 5F3 70F A708-A716 A720-A721",
   "A789-A78A AB5B"]

/-- Letters of scripts that are written without blanks between words. -/
def exceptWordLetter : List String :=
  ["E01-E30 E32-E33 E40-E46 E81-E82 E84 E86-E8A E8C-EA3 EA5 EA7-EB0 EB2-EB3 EBD EC0-EC4 EC6",
   "EDC-EDF 1000-102A 103F 1050-1055 105A-105D 1061 1065-1066 106E-1070 1075-1081 108E 1780-17B3",
   "17D7 17DC 1950-196D 1970-1974 1980-19AB 19B0-19C9 1A20-1A54 1AA7 A9E0-A9E4 A9E6-A9EF",
   "A9FA-A9FE AA60-AA76 AA7A AA7E-AAAF AAB1 AAB5-AAB6 AAB9-AABD AAC0 AAC2 AADB-AADD 11700-1171A",
   "11740-11746"]

/-- Characters of other categories that go with digits. -/
def otherNumeric : List String :=
  ["600-605 66B 6DD 890-891 8E2 19DA 110BD 110CD"]

/-- Format characters that do not go with the word before them. -/
def exceptWordFormat : List String :=
  ["600-605 6DD 70F 890-891 8E2 200B-200D 110BD 110CD E0020-E007F"]

/-- The Katakana letters, with the signs that are written with them. -/
def katakanaRanges : Unit → List (Nat × Nat) := fun _ =>
  CodeRange.union (listedRanges otherKatakana) (script "katakana")

/-- The Hebrew letters. -/
def hebrewLetterRanges : Unit → List (Nat × Nat) := fun _ =>
  CodeRange.inter (script "hebrew") (category "lo")

/-- The characters that go with the one before them in a word. -/
def wordExtendRanges : Unit → List (Nat × Nat) := fun _ =>
  CodeRange.union (category "mc") (modifyingRanges ())

/-- The letters of scripts with blanks between words, and what else words are made of. -/
def wordLetterRanges : Unit → List (Nat × Nat) := fun _ =>
  CodeRange.union (listedRanges otherWordLetter)
    (CodeRange.diff (property "alphabetic")
      ([script "hiragana", katakanaRanges (), hebrewLetterRanges (), wordExtendRanges (),
        listedRanges exceptWordLetter].foldl CodeRange.union (property "ideographic")))

/-- The digits and what goes with them. -/
def numericPartRanges : Unit → List (Nat × Nat) := fun _ =>
  CodeRange.union (listedRanges otherNumeric) (category "nd")

/-- The characters with a value that tells where words end. -/
def wordBreakRanges? (name : String) : Option (List (Nat × Nat)) :=
  match name with
  | "cr" => some carriageReturn
  | "lf" => some lineFeed
  | "newline" | "nl" => some (listedRanges ["B-C 85 2028-2029"])
  | "extend" => some (wordExtendRanges ())
  | "zwj" => some joiner
  | "format" | "fo" => some (CodeRange.diff (category "cf") (listedRanges exceptWordFormat))
  | "regionalindicator" | "ri" => some (property "ri")
  | "katakana" | "ka" => some (katakanaRanges ())
  | "hebrewletter" | "hl" => some (hebrewLetterRanges ())
  | "aletter" | "le" => some (wordLetterRanges ())
  | "singlequote" | "sq" => some [(0x27, 0x27)]
  | "doublequote" | "dq" => some [(0x22, 0x22)]
  | "midletter" | "ml" => some (listedRanges ["3A B7 387 55F 5F4 2027 FE13 FE55 FF1A"])
  | "midnum" | "mn" =>
    some (listedRanges ["2C 3B 37E 589 60C-60D 66C 7F8 2044 FE50 FE54 FF0C FF1B"])
  | "midnumlet" | "mb" => some (listedRanges ["2E 2018-2019 2024 FE52 FF07 FF0E"])
  | "numeric" | "nu" => some (numericPartRanges ())
  | "extendnumlet" | "ex" => some (CodeRange.union [(0x202F, 0x202F)] (category "pc"))
  | "wsegspace" => some (CodeRange.diff (category "zs") (listedRanges ["A0 2007 202F"]))
  | _ => none

/-! ### Sentences -/

/-- Format characters that do not go with the sentence before them. -/
def exceptSentenceFormat : List String :=
  ["600-605 6DD 890-891 8E2 200C-200D 110BD 110CD E0020-E007F"]

/-- Signs after which a sentence goes on. -/
def sentenceContinue : List String :=
  ["2C-2D 3A-3B 37E 55D 60C-60D 7F8 1802 1808 2013-2014 3001 FE10-FE11 FE13-FE14 FE31-FE32",
   "FE50-FE51 FE54-FE55 FE58 FE63 FF0C-FF0D FF1A-FF1B FF64"]

/-- Signs of other categories that enclose parts of sentences. -/
def otherClose : List String :=
  ["22 27 275B-2760 2E00-2E01 2E06-2E08 2E0B 1F676-1F678"]

/-- The characters that end a paragraph, besides carriage return and line feed. -/
def paragraphEnd : List (Nat × Nat) := [(0x85, 0x85), (0x2028, 0x2029)]

/-- The full stops that may stand for something else. -/
def fullStops : Unit → List (Nat × Nat) := fun _ => listedRanges ["2E 2024 FE52 FF0E"]

/-- The characters that go with the one before them in a sentence. -/
def sentenceExtendRanges : Unit → List (Nat × Nat) := fun _ =>
  [category "mc", property "graphemeextend"].foldl CodeRange.union joiner

/-- The lowercase letters of scripts that tell them apart from uppercase letters in sentences. -/
def sentenceLowerRanges : Unit → List (Nat × Nat) := fun _ =>
  CodeRange.diff (property "lowercase") (listedRanges ["345 10D0-10FA 10FD-10FF"])

/-- The uppercase and titlecase letters of such scripts. -/
def sentenceUpperRanges : Unit → List (Nat × Nat) := fun _ =>
  CodeRange.diff (CodeRange.union (category "lt") (property "uppercase"))
    [(0x1C90, 0x1CBA), (0x1CBD, 0x1CBF)]

/-- The characters with a value that tells where sentences end. -/
def sentenceBreakRanges? (name : String) : Option (List (Nat × Nat)) :=
  match name with
  | "cr" => some carriageReturn
  | "lf" => some lineFeed
  | "sep" | "se" => some paragraphEnd
  | "extend" | "ex" => some (sentenceExtendRanges ())
  | "format" | "fo" => some (CodeRange.diff (category "cf") (listedRanges exceptSentenceFormat))
  | "sp" =>
    some (CodeRange.diff (property "whitespace")
      ([lineFeed, paragraphEnd].foldl CodeRange.union carriageReturn))
  | "lower" | "lo" => some (sentenceLowerRanges ())
  | "upper" | "up" => some (sentenceUpperRanges ())
  | "oletter" | "le" =>
    some (CodeRange.union [(0x5F3, 0x5F3)]
      (CodeRange.diff (property "alphabetic")
        ([sentenceLowerRanges (), sentenceUpperRanges ()].foldl CodeRange.union
          (sentenceExtendRanges ()))))
  | "numeric" | "nu" => some (CodeRange.union [(0x66C, 0x66C)] (numericPartRanges ()))
  | "aterm" | "at" => some (fullStops ())
  | "sterm" | "st" => some (CodeRange.diff (property "sentenceterminal") (fullStops ()))
  | "scontinue" | "sc" => some (listedRanges sentenceContinue)
  | "close" | "cl" =>
    some (CodeRange.union (listedRanges otherClose) (categories ["ps", "pe", "pi", "pf"]))
  | _ => none

end BiblioQuery.Text
