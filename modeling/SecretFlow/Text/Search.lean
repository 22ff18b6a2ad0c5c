set_option autoImplicit false
set_option relaxedAutoImplicit false

/-!
Texts inside texts, texts in place of characters, texts without certain characters at their ends,
and lower case, as far as it can lead to words of the Latin alphabet.
-/

namespace SecretFlow.Text

def occurs (needle : List Char) : List Char → Bool
  | [] => needle.isEmpty
  | s@(_ :: rest) => needle.isPrefixOf s || occurs needle rest

def replaceChar (c : Char) (text s : List Char) : List Char :=
  s.flatMap fun d => if d = c then text else [d]

def dropAround (p : Char → Bool) (s : List Char) : List Char :=
  ((s.dropWhile p).reverse.dropWhile p).reverse

def dropRepeatedEnd (c : Char) (s : List Char) : List Char :=
  (s.reverse.dropWhile (· = c)).reverse

def isQuote (c : Char) : Bool :=
  c = '\x22' || c = '\x27'

def endsWith (s suffix : String) : Bool :=
  suffix.toList.isSuffixOf s.toList

/-- The lower-case form of a letter where that form is a basic Latin letter: besides the basic
capitals only the Kelvin sign has one. -/
def toLatinLower (c : Char) : Char :=
  if c = 'K' then 'k' else c.toLower

def lowerWord (s : String) : String :=
  String.ofList (s.toList.map toLatinLower)

end SecretFlow.Text
