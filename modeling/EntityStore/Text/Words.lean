import EntityStore.Text.Cluster
import EntityStore.Text.Letter

/-! The words of names.
A name is cut into words at separators, which are left out, and where its letters and digits change
their kind. Names in another style put the words together again.
-/

namespace EntityStore.Text

/-- The cluster has a case and is its own upper case. -/
def isUpper (cluster : Cluster) : Bool :=
  upperAll cluster ≠ lowerAll cluster ∧ cluster = upperAll cluster

/-- The cluster has a case and is its own lower case. -/
def isLower (cluster : Cluster) : Bool :=
  upperAll cluster ≠ lowerAll cluster ∧ cluster = lowerAll cluster

/-- The cluster is a decimal digit. -/
def isNumber (cluster : Cluster) : Bool :=
  cluster.all Char.isDigit

/-- The cluster separates words. -/
def isSeparator (cluster : Cluster) : Bool :=
  cluster = ['_'] ∨ cluster = ['-'] ∨ cluster = [' ']

/-- A word ends after the first of the clusters although no separator follows: where a capital
follows a small letter, where letters and digits meet, and before the last capital of several that
a small letter follows. -/
def endsWord : List Cluster → Bool
  | first :: second :: rest =>
      isLower first && (isUpper second || isNumber second)
        || isUpper first && isNumber second
        || isNumber first && (isLower second || isUpper second)
        || isUpper first && isUpper second && (rest.head?.map isLower).getD false
  | _ => false

/-- The words of clusters. Separators next to each other have an empty word between them. -/
def wordsOf : List Cluster → List (List Cluster)
  | [] => [[]]
  | first :: rest =>
      if isSeparator first then [] :: wordsOf rest
      else if endsWord (first :: rest) then [first] :: wordsOf rest
      else
        match wordsOf rest with
        | [] => [[first]]
        | word :: words => (first :: word) :: words

/-- The words of a name. -/
def words (name : String) : List (List Cluster) :=
  if name.isEmpty then [] else wordsOf (clusters name.toList)

/-- A word with a capital in front of small letters. -/
def capitalized : List Cluster → List Char
  | [] => []
  | first :: rest => upperAll first ++ lowerAll rest.flatten

/-- The name with a capital at the start of each word. -/
def pascalCase (name : String) : String :=
  String.ofList ((words name).flatMap capitalized)

/-- The name in small letters with underscores between words. -/
def snakeCase (name : String) : String :=
  "_".intercalate ((words name).map fun word => String.ofList (lowerAll word.flatten))

end EntityStore.Text
