import AlertRouter.Url.Percent

/-! # Query strings

A query is a list of names with values, separated by `&`.  In both, `+` stands for a space and other
characters may be percent-encoded; bytes that are no text are replaced. -/

namespace AlertRouter.Http.Query

/-- The parts of a list between the occurrences of `sep`. -/
def splitOn (sep : Char) : List Char → List (List Char)
  | [] => [[]]
  | c :: cs => match splitOn sep cs with
    | [] => [[c]]
    | part :: parts => if c = sep then [] :: part :: parts else (c :: part) :: parts

/-- A name or a value without its encoding. -/
def decode (cs : List Char) : String :=
  String.ofList (Utf8.decodeLossy (Percent.decode (cs.map fun c => if c = '+' then ' ' else c)))

/-- The name and the value in one part of a query. -/
def pair (cs : List Char) : String × String :=
  (decode (cs.takeWhile (· != '=')), decode ((cs.dropWhile (· != '=')).drop 1))

/-- The names and values of a query; empty parts are passed over. -/
def pairs (query : String) : List (String × String) :=
  ((splitOn '&' query.toList).filter (!·.isEmpty)).map pair

/-- The first of the known names that occurs for the second time, given the names before. -/
def repeated? (known : List String) (seen : List String) : List (String × String) → Option String
  | [] => none
  | (name, _) :: rest =>
    if name ∈ seen then some name
    else repeated? known (if name ∈ known then name :: seen else seen) rest

end AlertRouter.Http.Query
