/-!
# Identifiers of the index database

An identifier stands between double quotes, and a double quote inside it is
written twice.
-/

namespace DocLedger.Index

def identifierMark : Char := Char.ofNat 34

/-- The characters of an identifier with its quotes doubled. -/
def doubledMarks : List Char → List Char
  | [] => []
  | c :: rest =>
    if c == identifierMark then c :: c :: doubledMarks rest else c :: doubledMarks rest

def quoteIdentifier (name : String) : String :=
  String.ofList (identifierMark :: doubledMarks name.toList ++ [identifierMark])

end DocLedger.Index
