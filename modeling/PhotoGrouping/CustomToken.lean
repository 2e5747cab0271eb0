import PhotoGrouping.Token

namespace PhotoGrouping

open Text

/-- An operator's token type for known example values. -/
structure CustomToken where
  name : String
  description : String := ""
  type : TokenType
  examples : List String := []
  deriving Repr, DecidableEq

/-- An example or a value as it is compared. -/
def CustomToken.key (s : String) : String :=
  lowercase (trim s)

/-- Custom tokens in the order of their registration, and the types of their examples. -/
structure TokenRegistry where
  tokens : List CustomToken := []
  byExample : List (String × TokenType) := []
  deriving Repr, DecidableEq

namespace TokenRegistry

/-- The types of examples with that of a further one, unless it is blank or has one already. -/
def addExample (type : TokenType) (known : List (String × TokenType)) (text : String) :
    List (String × TokenType) :=
  let key := CustomToken.key text
  if key = "" || (known.lookup key).isSome then known else known ++ [(key, type)]

def register (r : TokenRegistry) (t : CustomToken) : TokenRegistry :=
  { tokens := r.tokens ++ [t], byExample := t.examples.foldl (addExample t.type) r.byExample }

/-- The registry of tokens that are registered one after the other. -/
def ofTokens (tokens : List CustomToken) : TokenRegistry :=
  tokens.foldl register {}

def lookup (r : TokenRegistry) (value : String) : Option TokenType :=
  r.byExample.lookup (CustomToken.key value)

end TokenRegistry

/-- The type that custom tokens, registered in their order, give to a value. -/
def CustomToken.typeOf? (tokens : List CustomToken) (value : String) : Option TokenType :=
  (TokenRegistry.ofTokens tokens).lookup value

end PhotoGrouping
